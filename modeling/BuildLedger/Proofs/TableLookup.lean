import BuildLedger.Keyed

/-!
# Look-ups in tables

What a table holds is said by its look-ups. Putting a value in changes the look-up of one key, and
putting one table over another answers from the upper table first. A table that is filled from its
own entries is the same table again.
-/
namespace BuildLedger

namespace Keyed

variable {Value : Type}

theorem find_place (key other : String) (value : Value) (entries : List (String × Value)) :
    find other (place key value entries) =
      if key = other then some value else find other entries := by
  induction entries with
  | nil => simp only [place, find]
  | cons head rest ih =>
      obtain ⟨name, held⟩ := head
      unfold place
      by_cases before : key < name
      · rw [if_pos before]
        simp only [find]
      · rw [if_neg before]
        by_cases same : key = name
        · subst same
          simp only [if_true, find]
          split <;> rfl
        · rw [if_neg same]
          simp only [find, ih]
          by_cases here : name = other
          · have apart : key ≠ other := by
              rw [← here]
              exact same
            simp only [if_pos here, if_neg apart]
          · simp only [if_neg here]

theorem get_insert (table : Keyed Value) (key other : String) (value : Value) :
    (table.insert key value).get? other = if key = other then some value else table.get? other :=
  find_place key other value table.entries

/-- Above all keys of a list there is nothing to find. -/
theorem find_none {key : String} {entries : List (String × Value)}
    (others : ∀ entry ∈ entries, entry.1 ≠ key) : find key entries = none := by
  induction entries with
  | nil => rfl
  | cons head rest ih =>
      have first := others head List.mem_cons_self
      have tail := ih fun entry member => others entry (List.mem_cons_of_mem _ member)
      simp only [find, if_neg first, tail]

theorem keys_distinct {entries : List (String × Value)} (rising : KeysRise entries) :
    (entries.map Prod.fst).Nodup := by
  rw [List.Nodup, List.pairwise_map]
  refine List.Pairwise.imp ?_ rising
  intro earlier later less same
  rw [same] at less
  exact String.lt_irrefl _ less

/-- Entries that are put in one after the other answer before the table does. -/
theorem get_insert_all {entries : List (String × Value)}
    (distinct : (entries.map Prod.fst).Nodup) (table : Keyed Value) (key : String) :
    (table.insertAll entries).get? key = (find key entries).or (table.get? key) := by
  induction entries generalizing table with
  | nil => rfl
  | cons head rest ih =>
      obtain ⟨name, value⟩ := head
      obtain ⟨fresh, tail⟩ := List.nodup_cons.mp distinct
      simp only [insertAll, ih tail, get_insert, find]
      by_cases here : name = key
      · have absent : find key rest = none := by
          apply find_none
          intro entry member same
          exact fresh (List.mem_map.mpr ⟨entry, member, same.trans here.symm⟩)
        simp only [if_pos here, absent, Option.none_or, Option.some_or]
      · simp only [if_neg here]

theorem get_override (base upper : Keyed Value) (key : String) :
    (base.override upper).get? key = (upper.get? key).or (base.get? key) :=
  get_insert_all (keys_distinct upper.rising) base key

theorem find_filter (key other : String) (entries : List (String × Value)) :
    find other (entries.filter fun entry => entry.1 != key) =
      if key = other then none else find other entries := by
  induction entries with
  | nil => simp only [List.filter_nil, find, ite_self]
  | cons head rest ih =>
      obtain ⟨name, held⟩ := head
      by_cases erased : name = key
      · rw [List.filter_cons_of_neg (by simp [erased]), ih]
        by_cases same : key = other
        · simp only [if_pos same]
        · have apart : name ≠ other := by
            rw [erased]
            exact same
          simp only [find, if_neg same, if_neg apart]
      · rw [List.filter_cons_of_pos (by simpa using erased)]
        simp only [find, ih]
        by_cases here : name = other
        · have apart : key ≠ other := by
            rw [← here]
            exact fun same => erased same.symm
          simp only [if_pos here, if_neg apart]
        · simp only [if_neg here]

theorem get_erase (table : Keyed Value) (key other : String) :
    (table.erase key).get? other = if key = other then none else table.get? other :=
  find_filter key other table.entries

/-- A key above all others goes to the end. -/
theorem place_above {key : String} {entries : List (String × Value)} (value : Value)
    (above : ∀ entry ∈ entries, entry.1 < key) :
    place key value entries = entries ++ [(key, value)] := by
  induction entries with
  | nil => rfl
  | cons head rest ih =>
      obtain ⟨name, held⟩ := head
      have smaller : name < key := above (name, held) List.mem_cons_self
      have tail := ih fun entry member => above entry (List.mem_cons_of_mem _ member)
      have notBefore : ¬key < name := fun larger => String.lt_asymm smaller larger
      have different : key ≠ name := by
        intro same
        rw [same] at smaller
        exact String.lt_irrefl _ smaller
      simp only [place, if_neg notBefore, if_neg different, tail, List.cons_append]

theorem insert_all_rising {table : Keyed Value} {later : List (String × Value)}
    (rising : KeysRise (table.entries ++ later)) :
    (table.insertAll later).entries = table.entries ++ later := by
  induction later generalizing table with
  | nil => rw [List.append_nil]; rfl
  | cons head rest ih =>
      obtain ⟨key, value⟩ := head
      have above : ∀ entry ∈ table.entries, entry.1 < key := by
        intro entry member
        exact (List.pairwise_append.mp rising).2.2 entry member (key, value) List.mem_cons_self
      have placed : (table.insert key value).entries = table.entries ++ [(key, value)] :=
        place_above value above
      simp only [insertAll]
      rw [ih (by rw [placed, List.append_assoc]; exact rising), placed, List.append_assoc]
      rfl

theorem of_list_entries (table : Keyed Value) : ofList table.entries = table := by
  have same : (ofList table.entries).entries = table.entries :=
    @insert_all_rising Value empty table.entries table.rising
  cases table
  cases filled : ofList _
  rw [filled] at same
  cases same
  rfl

/-! ## Equal tables -/

/-- Where no key stands twice, the entry that is found is the only one of its key. -/
theorem find_some_iff {entries : List (String × Value)}
    (distinct : (entries.map Prod.fst).Nodup) {key : String} {value : Value} :
    find key entries = some value ↔ (key, value) ∈ entries := by
  induction entries with
  | nil => simp [find]
  | cons head rest ih =>
      obtain ⟨name, held⟩ := head
      obtain ⟨fresh, tail⟩ := List.nodup_cons.mp distinct
      by_cases here : name = key
      · subst here
        have once : (name, value) ∉ rest := fun member =>
          fresh (List.mem_map.mpr ⟨_, member, rfl⟩)
        simp [find, once, eq_comm]
      · have other : key ≠ name := fun same => here same.symm
        simp [find, here, other, ih tail]

/-- A table is its look-ups. -/
theorem get_ext {left right : Keyed Value} (same : ∀ key, left.get? key = right.get? key) :
    left = right := by
  have distinct : ∀ table : Keyed Value, table.entries.Nodup := fun table =>
    List.Pairwise.of_map Prod.fst (fun _ _ apart same => apart (congrArg _ same))
      (keys_distinct table.rising)
  have perm : left.entries.Perm right.entries := by
    apply (List.perm_ext_iff_of_nodup (distinct left) (distinct right)).mpr
    rintro ⟨key, value⟩
    rw [← find_some_iff (keys_distinct left.rising), ← find_some_iff (keys_distinct right.rising)]
    exact iff_of_eq (congrArg (· = some value) (same key))
  have entries : left.entries = right.entries := by
    apply List.Perm.eq_of_pairwise _ left.rising right.rising perm
    intro earlier later _ _ less more
    exact absurd more (String.lt_asymm less)
  cases left
  cases right
  cases entries
  rfl

/-- The order in which a table is filled from its entries does not matter. -/
theorem of_list_perm {table : Keyed Value} {entries : List (String × Value)}
    (perm : entries.Perm table.entries) : ofList entries = table := by
  have held := keys_distinct table.rising
  have distinct : (entries.map Prod.fst).Nodup := (perm.map Prod.fst).nodup_iff.mpr held
  apply get_ext
  intro key
  rw [ofList, get_insert_all distinct]
  have same : find key entries = find key table.entries := by
    apply Option.ext
    intro value
    rw [find_some_iff distinct, find_some_iff held, perm.mem_iff]
  rw [same]
  exact Option.or_none

theorem erase_insert {table : Keyed Value} {key : String} (absent : table.get? key = none)
    (value : Value) : (table.insert key value).erase key = table := by
  apply get_ext
  intro other
  rw [get_erase, get_insert]
  by_cases same : key = other
  · rw [if_pos same, ← same, absent]
  · rw [if_neg same, if_neg same]

theorem insert_insert (table : Keyed Value) (key : String) (first second : Value) :
    (table.insert key first).insert key second = table.insert key second := by
  apply get_ext
  intro other
  simp only [get_insert]
  split <;> rfl

end Keyed

end BuildLedger
