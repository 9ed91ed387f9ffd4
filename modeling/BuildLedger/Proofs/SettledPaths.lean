import BuildLedger.Proofs.PercentCodec
import BuildLedger.Proofs.Splitting
import BuildLedger.Url.Reader

/-!
# Paths that stay as they are read

The segments of an address that was read hold nothing that would have to be encoded and no
separator, and none of them is made of dots. So the text of such a path, read as a path once more,
gives the same segments.
-/
namespace BuildLedger.Url

open Bytes

variable {special : Bool}

/-- What a segment may consist of. -/
def Stands (special : Bool) (character : Char) : Prop :=
  character.toNat < 128 ∧ standsInPath character = true ∧ character ≠ '/' ∧
    (special = true → character ≠ '\\')

instance (special : Bool) (character : Char) : Decidable (Stands special character) :=
  inferInstanceAs (Decidable (_ ∧ _ ∧ _ ∧ _))

structure Settled (special : Bool) (segment : String) : Prop where
  stands : ∀ character ∈ segment.toList, Stands special character
  single : isSingleDot segment = false
  double : isDoubleDot segment = false

def AllSettled (special : Bool) (path : List String) : Prop :=
  ∀ segment ∈ path, Settled special segment

/-- A common scheme has a path that is not empty. -/
structure SettledPath (special : Bool) (path : List String) : Prop where
  segments : AllSettled special path
  begun : special = true → path ≠ []

/-- The spellings of one dot, and of two. -/
def singleDots : List String := [".", "%2e", "%2E"]

def doubleDots : List String :=
  ["..", ".%2e", ".%2E", "%2e.", "%2E.", "%2e%2e", "%2e%2E", "%2E%2e", "%2E%2E"]

theorem single_dot_iff {segment : String} : isSingleDot segment = true ↔ segment ∈ singleDots :=
  List.contains_iff_mem

theorem double_dot_iff {segment : String} : isDoubleDot segment = true ↔ segment ∈ doubleDots :=
  List.contains_iff_mem

theorem empty_settled (special : Bool) : Settled special "" := ⟨by simp, by decide, by decide⟩

/-! ## Encoded segments -/

theorem digit_stands {character : Char} (digit : IsUpperDigit character) :
    Stands true character := by
  -- A quantifier over characters would be decided over all characters there are.
  have checked :
      ("0123456789ABCDEF".toList.all fun digit => decide (Stands true digit)) = true := by
    decide
  exact of_decide_eq_true (List.all_eq_true.mp checked character digit)

/-- What is encoded holds a separator only where the text has one that is kept. -/
theorem encoded_stands {kept : Char → Bool}
    (narrow : ∀ character : Char, character.toNat < 128 → kept character = true →
      standsInPath character = true)
    {text : String} (slash : kept '/' = true → '/' ∉ text.toList)
    (backslash : special = true → kept '\\' = true → '\\' ∉ text.toList) :
    ∀ character ∈ (encodeText kept text).toList, Stands special character := by
  intro character member
  have spelled := mem_encoded (encoded_text kept text) member
  refine ⟨?_, ?_, ?_, ?_⟩
  · rcases spelled with ⟨ascii, _⟩ | rfl | digit
    · exact ascii
    · decide
    · exact (digit_stands digit).1
  · rcases spelled with ⟨ascii, stands⟩ | rfl | digit
    · exact narrow character ascii stands
    · decide
    · exact (digit_stands digit).2.1
  · rintro rfl
    have inside := mem_encode_text (by decide) (by decide) member
    exact slash inside.2 inside.1
  · rintro common rfl
    have inside := mem_encode_text (by decide) (by decide) member
    exact backslash common inside.2 inside.1

theorem encoded_path_stands {piece : List Char} (slash : '/' ∉ piece)
    (backslash : special = true → '\\' ∉ piece) :
    ∀ character ∈ (encodedPath piece).toList, Stands special character := by
  apply encoded_stands fun _ _ stands => stands
  · intro _
    rwa [String.toList_ofList]
  · intro common _
    rw [String.toList_ofList]
    exact backslash common

theorem encode_segment_stands (special : Bool) (segment : String) :
    ∀ character ∈ (encodeSegment special segment).toList, Stands special character := by
  apply encoded_stands
  · intro character _ stands
    exact (Bool.and_eq_true_iff.mp stands).1
  · intro slash
    simp [standsInSegment] at slash
  · intro common backslash
    simp [standsInSegment, common] at backslash

theorem encoded_path_settled {segment : String} (settled : Settled special segment) :
    encodedPath segment.toList = segment := by
  unfold encodedPath
  rw [String.ofList_toList]
  apply encode_kept_text
  intro character member
  have stands := settled.stands character member
  exact ⟨stands.1, stands.2.1⟩

/-! ## Steps on a path -/

section Steps

variable {path : List String} {segment : String} (settled : AllSettled special path)
  (stands : ∀ character ∈ segment.toList, Stands special character)

include settled

theorem drop_last_settled : AllSettled special path.dropLast :=
  fun segment member => settled segment (List.dropLast_subset path member)

theorem snoc_settled (last : Settled special segment) : AllSettled special (path ++ [segment]) := by
  intro other member
  rcases List.mem_append.mp member with early | late
  · exact settled other early
  · rw [List.mem_singleton.mp late]
    exact last

include stands

theorem enter_settled : AllSettled special (enter path segment) := by
  unfold enter
  split
  · exact drop_last_settled settled
  · split
    · exact settled
    · next double single =>
      exact snoc_settled settled ⟨stands, by simpa using single, by simpa using double⟩

theorem close_settled : AllSettled special (close path segment) := by
  unfold close
  split
  · exact snoc_settled (drop_last_settled settled) (empty_settled special)
  · split
    · exact snoc_settled settled (empty_settled special)
    · next double single =>
      exact snoc_settled settled ⟨stands, by simpa using single, by simpa using double⟩

end Steps

theorem close_begun (path : List String) (segment : String) : close path segment ≠ [] := by
  unfold close
  split
  · simp
  · split <;> simp

theorem resolve_settled {path pieces : List String}
    (settled : AllSettled special path)
    (stands : ∀ piece ∈ pieces, ∀ character ∈ piece.toList, Stands special character) :
    AllSettled special (resolve path pieces) := by
  induction path, pieces using resolve.induct with
  | case1 path => exact settled
  | case2 path last =>
      rw [resolve]
      exact close_settled settled (stands last (List.mem_singleton_self last))
  | case3 path segment rest more ih =>
      rw [resolve]
      · apply ih
        · exact enter_settled settled (stands segment List.mem_cons_self)
        · intro piece member
          exact stands piece (List.mem_cons_of_mem _ member)
      · exact more

theorem resolve_begun (path : List String) {pieces : List String} (some : pieces ≠ []) :
    resolve path pieces ≠ [] := by
  induction path, pieces using resolve.induct with
  | case1 path => exact absurd rfl some
  | case2 path last => exact close_begun path last
  | case3 path segment rest more ih =>
      rw [resolve]
      · apply ih
        rintro rfl
        exact more rfl
      · exact more

/-- No step is taken back where no segment is made of dots. -/
theorem resolve_of_settled {path pieces : List String}
    (settled : AllSettled special pieces) : resolve path pieces = path ++ pieces := by
  induction path, pieces using resolve.induct with
  | case1 path => simp [resolve]
  | case2 path last =>
      have plain := settled last (List.mem_singleton_self last)
      simp [resolve, close, plain.single, plain.double]
  | case3 path segment rest more ih =>
      have plain := settled segment List.mem_cons_self
      have entered : enter path segment = path ++ [segment] := by
        simp [enter, plain.single, plain.double]
      rw [resolve]
      · rw [ih fun piece member => settled piece (List.mem_cons_of_mem _ member), entered,
          List.append_assoc, List.singleton_append]
      · exact more

/-! ## Reading -/

theorem segments_settled (special : Bool) (text : List Char) :
    SettledPath special (segments special text) := by
  have pieces : ∀ characters : List Char, (special = true → '\\' ∉ characters) →
      SettledPath special (resolve [] ((characters.splitOn '/').map encodedPath)) := by
    intro characters backslash
    constructor
    · apply resolve_settled
      · exact fun segment member => absurd member List.not_mem_nil
      · intro segment member
        obtain ⟨piece, inside, rfl⟩ := List.mem_map.mp member
        apply encoded_path_stands
        · intro slash
          exact (mem_split_on inside '/' slash).1 rfl
        · intro common absent
          exact backslash common (mem_split_on inside '\\' absent).2
    · intro _
      apply resolve_begun
      simp [List.splitOn_ne_nil]
  unfold segments
  generalize same : (if special = true then
    text.map fun character => if character == '\\' then '/' else character else text) = path
  have backslash : special = true → '\\' ∉ path := by
    rintro rfl member
    rw [← same] at member
    obtain ⟨character, _, turned⟩ := List.mem_map.mp member
    split at turned
    · exact absurd turned (by decide)
    · next other => exact other (by simp [turned])
  simp only
  split
  · cases special with
    | false => exact ⟨fun segment member => absurd member List.not_mem_nil, by simp⟩
    | true =>
        have none : AllSettled true [] := fun segment member => absurd member List.not_mem_nil
        exact ⟨snoc_settled none (empty_settled true), by simp⟩
  · next rest =>
    apply pieces
    intro common member
    exact backslash common (List.mem_cons_of_mem _ member)
  · exact pieces path backslash

theorem without_empty_start_settled {path : List String} (settled : SettledPath special path) :
    SettledPath special (withoutEmptyStart path) := by
  induction path using withoutEmptyStart.induct with
  | case1 next rest ih =>
      rw [withoutEmptyStart]
      apply ih
      constructor
      · intro segment member
        exact settled.segments segment (List.mem_cons_of_mem _ member)
      · simp
  | case2 path more =>
      rw [withoutEmptyStart]
      · exact settled
      · exact more

theorem finish_settled (front : Url) (text : List Char) :
    SettledPath (finish front text).isSpecial (finish front text).path := by
  have read := segments_settled front.isSpecial (pathPart text).1
  have same : (finish front text).isSpecial = front.isSpecial := rfl
  rw [same]
  simp only [finish]
  split
  · exact without_empty_start_settled read
  · exact read

theorem ok_of_bind {First Second : Type} {step : Except Fault First}
    {next : First → Except Fault Second} {result : Second} (done : step >>= next = .ok result) :
    ∃ middle, next middle = .ok result := by
  cases step with
  | error fault => cases done
  | ok middle => exact ⟨middle, done⟩

theorem after_slashes_finish {scheme : String} {text : List Char} {url : Url}
    (read : afterSlashes scheme text = .ok url) : ∃ front rest, url = finish front rest := by
  unfold afterSlashes at read
  simp only at read
  split at read
  · obtain ⟨_, done⟩ := ok_of_bind read
    cases done
    exact ⟨_, _, rfl⟩
  · split at read
    · cases read
    · obtain ⟨_, done⟩ := ok_of_bind read
      split at done
      · cases done
      · cases done
        exact ⟨_, _, rfl⟩

theorem after_file_scheme_finish {scheme : String} {text : List Char} {url : Url}
    (read : afterFileScheme scheme text = .ok url) : ∃ front rest, url = finish front rest := by
  unfold afterFileScheme at read
  simp only at read
  split at read
  · cases read
    exact ⟨_, _, rfl⟩
  · split at read
    · cases read
      exact ⟨_, _, rfl⟩
    · obtain ⟨_, done⟩ := ok_of_bind read
      cases done
      exact ⟨_, _, rfl⟩

/-- Whatever stands before the path, the path is read last. -/
theorem of_text_finish {text : String} {url : Url} (read : ofText text = .ok url) :
    ∃ front rest, url = finish front rest := by
  unfold ofText at read
  split at read
  · cases read
  · split at read
    · exact after_file_scheme_finish read
    · split at read
      · exact after_slashes_finish read
      · split at read
        · exact after_slashes_finish read
        · cases read
          exact ⟨_, _, rfl⟩
        · cases read

/-- The path of every address that can be read is settled. -/
theorem of_text_settled {text : String} {url : Url} (read : ofText text = .ok url) :
    SettledPath url.isSpecial url.path := by
  obtain ⟨front, rest, rfl⟩ := of_text_finish read
  exact finish_settled front rest

/-! ## The text of a path -/

/-- The characters of a path's text. -/
def pathCharacters (path : List String) : List Char :=
  path.flatMap fun segment => '/' :: segment.toList

theorem path_text_characters (url : Url) : url.pathText.toList = pathCharacters url.path := by
  unfold pathText pathCharacters
  induction url.path with
  | nil => rfl
  | cons segment rest ih => simp [String.join_cons, ih]

theorem path_characters_pieces {path : List String} (some : path ≠ []) :
    pathCharacters path = '/' :: ['/'].intercalate (path.map String.toList) := by
  induction path with
  | nil => exact absurd rfl some
  | cons segment rest ih =>
      cases rest with
      | nil => simp [pathCharacters, List.intercalate]
      | cons next others =>
          have later := ih (by simp)
          unfold pathCharacters at later ⊢
          rw [List.flatMap_cons, later]
          simp [List.intercalate]

theorem slash_free {path : List String} (settled : AllSettled special path) :
    ∀ segment ∈ path, '/' ∉ segment.toList :=
  fun segment member slash => ((settled segment member).stands '/' slash).2.2.1 rfl

/-- Behind the first slash the text is split into the segments again. -/
theorem path_characters_split {path : List String} (some : path ≠ [])
    (slashes : ∀ segment ∈ path, '/' ∉ segment.toList) :
    ∃ rest, pathCharacters path = '/' :: rest ∧ rest.splitOn '/' = path.map String.toList := by
  refine ⟨_, path_characters_pieces some, List.splitOn_intercalate '/' ?_ (by simpa using some)⟩
  intro piece member
  obtain ⟨segment, inside, rfl⟩ := List.mem_map.mp member
  exact slashes segment inside

theorem path_characters_stand {path : List String} (settled : AllSettled special path)
    (common : special = true) : '\\' ∉ pathCharacters path := by
  intro member
  obtain ⟨segment, inside, member⟩ := List.mem_flatMap.mp member
  rcases List.mem_cons.mp member with slash | member
  · exact absurd slash (by decide)
  · exact ((settled segment inside).stands '\\' member).2.2.2 common rfl

/-- The text of a settled path is read as that path. -/
theorem segments_of_path_characters {path : List String} (settled : SettledPath special path) :
    segments special (pathCharacters path) = path := by
  have turned : (if special = true then (pathCharacters path).map fun character =>
      if character == '\\' then '/' else character else pathCharacters path) =
      pathCharacters path := by
    split
    · next common =>
      refine (List.map_congr_left ?_).trans (List.map_id _)
      intro character member
      have other : character ≠ '\\' := by
        rintro rfl
        exact path_characters_stand settled.segments common member
      simp only [beq_iff_eq, other, if_false, id]
    · rfl
  unfold segments
  rw [turned]
  by_cases some : path = []
  · subst some
    cases special with
    | false => rfl
    | true => exact absurd rfl (settled.begun rfl)
  · obtain ⟨rest, text, split⟩ := path_characters_split some (slash_free settled.segments)
    have encoded : (path.map String.toList).map encodedPath = path := by
      rw [List.map_map]
      refine (List.map_congr_left ?_).trans (List.map_id _)
      exact fun segment inside => encoded_path_settled (settled.segments segment inside)
    rw [text]
    simp only
    rw [split, encoded, resolve_of_settled settled.segments, List.nil_append]

end BuildLedger.Url
