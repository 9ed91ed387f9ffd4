import Mathlib.Data.List.Basic

/-!
# Splitting lists

A run of items ends before the first one that does not belong to it. The pieces between delimiters
hold no delimiter, the first piece is what stands before the first delimiter, and what was joined
with delimiters splits into the pieces of its parts.
-/
namespace BuildLedger

theorem run_cut {Item : Type} {belongs : Item → Bool} {run rest : List Item}
    (inside : ∀ item ∈ run, belongs item = true)
    (stops : ∀ item ∈ rest.head?, belongs item = false) :
    (run ++ rest).takeWhile belongs = run ∧ (run ++ rest).dropWhile belongs = rest := by
  rw [List.takeWhile_append_of_pos inside, List.dropWhile_append_of_pos inside]
  cases rest with
  | nil => simp
  | cons first others =>
      have outside := stops first rfl
      simp [outside]

variable {Item : Type} [BEq Item] [LawfulBEq Item]

/-- The pieces between delimiters hold no delimiter, and nothing that was not there. -/
theorem mem_split_on {delimiter : Item} {items piece : List Item}
    (member : piece ∈ items.splitOn delimiter) :
    ∀ item ∈ piece, item ≠ delimiter ∧ item ∈ items := by
  induction items generalizing piece with
  | nil =>
      rw [List.splitOn_nil, List.mem_singleton] at member
      simp [member]
  | cons first rest ih =>
      rw [List.splitOn_cons_eq_if_modifyHead] at member
      have later : ∀ piece ∈ rest.splitOn delimiter, ∀ item ∈ piece,
          item ≠ delimiter ∧ item ∈ first :: rest := by
        intro piece member item inside
        exact ⟨(ih member item inside).1, List.mem_cons_of_mem _ (ih member item inside).2⟩
      split at member
      · rcases List.mem_cons.mp member with rfl | tail
        · simp
        · exact later piece tail
      · next other =>
        rcases split : rest.splitOn delimiter with _ | ⟨head, others⟩
        · exact absurd split (List.splitOn_ne_nil delimiter rest)
        · rw [split] at member later
          rw [List.modifyHead_cons] at member
          rcases List.mem_cons.mp member with rfl | tail
          · intro item inside
            rcases List.mem_cons.mp inside with rfl | tail
            · exact ⟨by simpa using other, List.mem_cons_self⟩
            · exact later head List.mem_cons_self item tail
          · exact later piece (List.mem_cons_of_mem _ tail)

theorem split_on_head (delimiter : Item) (items : List Item) :
    ∃ rest, items.splitOn delimiter = items.takeWhile (· != delimiter) :: rest := by
  induction items with
  | nil => exact ⟨[], by simp⟩
  | cons first rest ih =>
      obtain ⟨others, split⟩ := ih
      rw [List.splitOn_cons_eq_if_modifyHead, split]
      by_cases same : (first == delimiter) = true
      · exact ⟨_, by rw [if_pos same, List.takeWhile_cons_of_neg (by simpa using same)]⟩
      · exact ⟨others, by rw [if_neg same, List.modifyHead_cons,
          List.takeWhile_cons_of_pos (by simpa using same)]⟩

theorem split_on_joined (delimiter : Item) {parts : List (List Item)} (present : parts ≠ []) :
    ([delimiter].intercalate parts).splitOn delimiter =
      parts.flatMap (List.splitOn delimiter) := by
  induction parts with
  | nil => exact absurd rfl present
  | cons first rest ih =>
      cases rest with
      | nil => simp
      | cons second others =>
          have later := ih (List.cons_ne_nil second others)
          rw [List.intercalate_cons_cons, List.append_assoc, List.singleton_append,
            List.splitOn_append_cons_self, later]
          rfl

end BuildLedger
