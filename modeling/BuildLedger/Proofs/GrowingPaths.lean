import BuildLedger.Proofs.SettledPaths

/-!
# Paths that segments are put behind

A segment of one or two dots is left out. But a segment is encoded without its tabs and line ends,
and only then it shows whether dots are left: two of them climb, one of them becomes an empty
segment. Every other segment makes the path longer by one, except behind a lone slash.
-/
namespace BuildLedger.Url

variable {special : Bool}

/-! ## Segments -/

/-- Whether a segment is put behind the path at all. -/
def isPut (segment : String) : Bool := segment != "." && segment != ".."

/-- Characters that a segment keeps. -/
def Counts (character : Char) : Prop := character ≠ '\t' ∧ character ≠ '\n' ∧ character ≠ '\r'

instance (character : Char) : Decidable (Counts character) :=
  inferInstanceAs (Decidable (_ ∧ _ ∧ _))

theorem mem_counted_text {segment : String} {character : Char} :
    character ∈ (countedText segment).toList ↔ character ∈ segment.toList ∧ Counts character := by
  unfold countedText Counts
  rw [String.toList_ofList, List.mem_filter]
  simp only [Bool.not_eq_true', Bool.or_eq_false_iff, beq_eq_false_iff_ne, and_assoc]

theorem counted_text_of_counts {segment : String}
    (counts : ∀ character ∈ segment.toList, Counts character) : countedText segment = segment := by
  unfold countedText
  rw [List.filter_eq_self.mpr, String.ofList_toList]
  intro character member
  have kept := counts character member
  simp [kept.1, kept.2.1, kept.2.2]

theorem decode_encode_segment (special : Bool) (segment : String) :
    decodeText? (encodeSegment special segment) = some (countedText segment) :=
  decode_encode (by simp [standsInSegment]) (countedText segment)

theorem counted_of_encoded_empty {segment : String} (empty : encodeSegment special segment = "") :
    countedText segment = "" := by
  have decoded := decode_encode_segment special segment
  have nothing : decodeText? "" = some "" := by decide +kernel
  rw [empty, nothing] at decoded
  exact (Option.some.inj decoded).symm

theorem single_dot_encoded {segment : String}
    (dot : isSingleDot (encodeSegment special segment) = true) : countedText segment = "." := by
  have decoded := decode_encode_segment special segment
  have spelled : ∀ text ∈ singleDots, decodeText? text = some "." := by decide +kernel
  rw [spelled _ (single_dot_iff.mp dot)] at decoded
  exact (Option.some.inj decoded).symm

theorem double_dot_encoded_iff (special : Bool) (segment : String) :
    isDoubleDot (encodeSegment special segment) = true ↔ countedText segment = ".." := by
  constructor
  · intro dots
    have decoded := decode_encode_segment special segment
    have spelled : ∀ text ∈ doubleDots, decodeText? text = some ".." := by decide +kernel
    rw [spelled _ (double_dot_iff.mp dots)] at decoded
    exact (Option.some.inj decoded).symm
  · intro dots
    unfold encodeSegment
    rw [dots]
    cases special <;> decide +kernel

/-- What stands for a segment that does not climb. -/
def placed (special : Bool) (segment : String) : String :=
  if isSingleDot (encodeSegment special segment) then "" else encodeSegment special segment

theorem placed_of_counted {segment : String} (counted : countedText segment = segment)
    (put : isPut segment = true) : placed special segment = encodeSegment special segment := by
  unfold placed
  split
  · next dot =>
    rw [← counted, single_dot_encoded dot] at put
    exact absurd put (by decide)
  · rfl

theorem placed_empty (special : Bool) : placed special "" = "" := by
  have counted : countedText "" = "" := counted_text_of_counts (by simp)
  have encoded : encodeSegment special "" = "" := by
    unfold encodeSegment
    rw [counted]
    exact encode_kept_text (by simp)
  unfold placed
  rw [encoded]
  exact ite_self ""

/-! ## One segment -/

/-- What the next segment is put behind: a lone slash counts for nothing. -/
def opened (path : List String) : List String := if path == [""] then [] else path

/-- The path with one more segment. -/
def extend (special : Bool) (path : List String) (segment : String) : List String :=
  if isPut segment then close (opened path) (encodeSegment special segment) else path

theorem snoc_lone_iff (front : List String) (last : String) :
    front ++ [last] = [""] ↔ front = [] ∧ last = "" := by
  simp [List.append_eq_singleton_iff]

theorem opened_length_le (path : List String) : (opened path).length ≤ path.length := by
  unfold opened
  split <;> simp

theorem opened_of_length {path : List String} (long : (opened path).length = path.length) :
    opened path = path := by
  unfold opened at long ⊢
  split
  · next lone =>
    rw [if_pos lone, eq_of_beq lone] at long
    simp at long
  · rfl

theorem opened_not_lone (path : List String) : opened path ≠ [""] := by
  unfold opened
  split
  · simp
  · next other => simpa using other

/-- Only a lone slash is opened to nothing. -/
theorem eq_of_opened {path other : List String} (same : opened path = other) (some : other ≠ []) :
    path = other := by
  unfold opened at same
  split at same
  · exact absurd same.symm some
  · exact same

theorem push_extends (url : Url) (segment : String) :
    url.push segment = { url with path := extend url.isSpecial url.path segment } := by
  have put : isPut segment = !(segment == "." || segment == "..") := by simp [isPut, bne]
  unfold push extend
  rw [put]
  by_cases dots : (segment == "." || segment == "..") = true
  · rw [if_pos dots, dots, Bool.not_true, if_neg Bool.false_ne_true]
  · rw [if_neg dots, Bool.eq_false_iff.mpr dots, Bool.not_false, if_pos rfl, opened]

theorem append_extends (url : Url) (segments : List String) :
    url.append segments = { url with
      path := segments.foldl (extend url.isSpecial) url.withoutFinalSlash.path } := by
  have pushes : ∀ start : Url, segments.foldl push start =
      { start with path := segments.foldl (extend start.isSpecial) start.path } := by
    induction segments with
    | nil => intro start; rfl
    | cons segment rest ih =>
        intro start
        rw [List.foldl_cons, ih, push_extends]
        rfl
  have same : url.withoutFinalSlash = { url with path := url.withoutFinalSlash.path } := by
    unfold withoutFinalSlash
    split <;> rfl
  unfold append
  rw [pushes, same]
  rfl

theorem append_path (url : Url) (segments : List String) : (url.append segments).path =
    segments.foldl (extend url.isSpecial) url.withoutFinalSlash.path := by
  rw [append_extends]

theorem append_special (url : Url) (segments : List String) :
    (url.append segments).isSpecial = url.isSpecial := by
  rw [append_extends, isSpecial, isSpecial]

theorem append_query (url : Url) (segments : List String) :
    (url.append segments).query = url.query := by
  rw [append_extends]

theorem extend_of_put {segment : String} (put : isPut segment = true) (path : List String) :
    extend special path segment =
      if countedText segment = ".." then (opened path).dropLast ++ [""]
      else opened path ++ [placed special segment] := by
  have dots := double_dot_encoded_iff special segment
  unfold extend close placed
  rw [if_pos put]
  by_cases climbs : countedText segment = ".."
  · rw [if_pos (dots.mpr climbs), if_pos climbs]
  · rw [if_neg (fun double => climbs (dots.mp double)), if_neg climbs]
    split <;> rfl

theorem extend_of_skipped {segment : String} (skipped : ¬isPut segment = true)
    (path : List String) : extend special path segment = path :=
  if_neg skipped

theorem extend_settled {path : List String} (settled : SettledPath special path)
    (segment : String) : SettledPath special (extend special path segment) := by
  have start : AllSettled special (opened path) := by
    unfold opened
    split
    · exact fun segment member => absurd member List.not_mem_nil
    · exact settled.segments
  unfold extend
  split
  · exact ⟨close_settled start (encode_segment_stands special segment),
      fun _ => close_begun _ _⟩
  · exact settled

theorem append_settled {url : Url} (settled : SettledPath url.isSpecial url.path)
    (segments : List String) : SettledPath url.isSpecial (url.append segments).path := by
  have start : SettledPath url.isSpecial url.withoutFinalSlash.path := by
    unfold withoutFinalSlash
    split
    · next long =>
      refine ⟨drop_last_settled settled.segments, fun _ none => ?_⟩
      have length := congrArg List.length none
      simp only [Bool.and_eq_true, decide_eq_true_eq] at long
      rw [List.length_dropLast, List.length_nil] at length
      omega
    · exact settled
  rw [append_path]
  generalize url.withoutFinalSlash.path = path at start
  induction segments generalizing path with
  | nil => exact start
  | cons segment rest ih => exact ih _ (extend_settled start segment)

/-! ## Staying behind a front -/

/-- The first segment that is put does not climb. -/
def StaysBehind (segments : List String) : Prop :=
  ∀ segment, segments.find? isPut = some segment → countedText segment ≠ ".."

instance (segments : List String) : Decidable (StaysBehind segments) :=
  match found : segments.find? isPut with
  | none => isTrue fun segment some => by rw [found] at some; cases some
  | some first =>
      if climbs : countedText first = ".." then
        isFalse fun stays => stays first found climbs
      else isTrue fun segment same => by rw [found] at same; cases same; exact climbs

/-- Climbing takes away the last segment only, and leaves an empty one in its place. -/
theorem extend_behind {front rest : List String} (begun : front ≠ []) (more : rest ≠ [])
    (segment : String) :
    ∃ others, others ≠ [] ∧ extend special (front ++ rest) segment = front ++ others := by
  have long : opened (front ++ rest) = front ++ rest := by
    unfold opened
    split
    · next lone =>
      have length := congrArg List.length (eq_of_beq lone)
      have first := List.length_pos_iff.mpr begun
      have second := List.length_pos_iff.mpr more
      simp only [List.length_append, List.length_cons, List.length_nil] at length
      omega
    · rfl
  by_cases put : isPut segment = true
  · rw [extend_of_put put, long]
    split
    · refine ⟨rest.dropLast ++ [""], by simp, ?_⟩
      rw [List.dropLast_append_of_ne_nil more, List.append_assoc]
    · exact ⟨rest ++ [placed special segment], by simp, List.append_assoc ..⟩
  · exact ⟨rest, more, extend_of_skipped put _⟩

theorem extend_all_behind {front rest : List String} (begun : front ≠ []) (more : rest ≠ [])
    (segments : List String) :
    ∃ others, segments.foldl (extend special) (front ++ rest) = front ++ others := by
  induction segments generalizing rest with
  | nil => exact ⟨rest, rfl⟩
  | cons segment later ih =>
      obtain ⟨others, some, step⟩ := @extend_behind special front rest begun more segment
      rw [List.foldl_cons, step]
      exact ih some

theorem stays_behind {front : List String} (begun : front ≠ []) (lone : front ≠ [""])
    {segments : List String} (stays : StaysBehind segments) :
    ∃ others, segments.foldl (extend special) front = front ++ others := by
  have same : opened front = front := if_neg (by simpa using lone)
  induction segments with
  | nil => exact ⟨[], (List.append_nil front).symm⟩
  | cons segment rest ih =>
      rw [List.foldl_cons]
      by_cases put : isPut segment = true
      · have first : countedText segment ≠ ".." := stays segment (List.find?_cons_of_pos put)
        rw [extend_of_put put, if_neg first, same]
        exact extend_all_behind begun (by simp) rest
      · rw [extend_of_skipped put]
        apply ih
        intro first found
        exact stays first ((List.find?_cons_of_neg put).trans found)

/-! ## Growing by every segment -/

/-- The path grows at most by one segment, and if it does, at its end. -/
theorem extend_growth (special : Bool) (path : List String) (segment : String) :
    (opened (extend special path segment)).length ≤ (opened path).length + 1 ∧
      ((opened (extend special path segment)).length = (opened path).length + 1 →
        isPut segment = true ∧ countedText segment ≠ ".." ∧
          opened (extend special path segment) = opened path ++ [placed special segment]) := by
  by_cases put : isPut segment = true
  · rw [extend_of_put put]
    split
    · next climbs =>
      rcases nothing : opened path with _ | ⟨first, rest⟩
      · simp [opened]
      · have bound := opened_length_le ((first :: rest).dropLast ++ [""])
        simp only [List.length_append, List.length_dropLast, List.length_cons, List.length_nil,
          Nat.add_sub_cancel] at bound ⊢
        exact ⟨by omega, fun grown => absurd grown (by omega)⟩
    · next climbs =>
      have bound := opened_length_le (opened path ++ [placed special segment])
      rw [List.length_append, List.length_singleton] at bound
      refine ⟨bound, fun grown => ⟨put, climbs, opened_of_length ?_⟩⟩
      rw [grown, List.length_append, List.length_singleton]
  · rw [extend_of_skipped put]
    exact ⟨by omega, fun grown => absurd grown (by omega)⟩

/-- A path that grows by as much as it can has grown by every segment. -/
theorem all_growth (special : Bool) (path segments : List String) :
    (opened (segments.foldl (extend special) path)).length ≤
        (opened path).length + segments.length ∧
      ((opened (segments.foldl (extend special) path)).length =
          (opened path).length + segments.length →
        (∀ segment ∈ segments, isPut segment = true ∧ countedText segment ≠ "..") ∧
          (opened path ≠ [] ∨ ∀ first, segments.head? = some first → placed special first ≠ "") ∧
          opened (segments.foldl (extend special) path) =
            opened path ++ segments.map (placed special)) := by
  induction segments generalizing path with
  | nil => simp
  | cons segment rest ih =>
      obtain ⟨step, grows⟩ := extend_growth special path segment
      obtain ⟨others, further⟩ := ih (extend special path segment)
      rw [List.foldl_cons, List.length_cons]
      refine ⟨by omega, fun grown => ?_⟩
      obtain ⟨put, climbs, first⟩ := grows (by omega)
      obtain ⟨puts, _, all⟩ := further (by omega)
      refine ⟨?_, ?_, ?_⟩
      · intro other member
        rcases List.mem_cons.mp member with rfl | later
        · exact ⟨put, climbs⟩
        · exact puts other later
      · rw [Decidable.or_iff_not_imp_left]
        rintro nothing _ head empty
        cases head
        rw [Decidable.not_not.mp nothing, empty] at first
        exact opened_not_lone _ first
      · rw [all, first, List.append_assoc, List.map_cons, List.singleton_append]

/-- A path grows by every segment that is put and does not climb, if it does not begin with an empty
one. -/
theorem all_put (special : Bool) {path segments : List String}
    (puts : ∀ segment ∈ segments, isPut segment = true ∧ countedText segment ≠ "..")
    (rooted : opened path ≠ [] ∨ ∀ first, segments.head? = some first → placed special first ≠ "") :
    opened (segments.foldl (extend special) path) =
      opened path ++ segments.map (placed special) := by
  induction segments generalizing path with
  | nil => simp
  | cons segment rest ih =>
      obtain ⟨put, climbs⟩ := puts segment List.mem_cons_self
      have step : extend special path segment = opened path ++ [placed special segment] := by
        rw [extend_of_put put, if_neg climbs]
      have same : opened (extend special path segment) =
          opened path ++ [placed special segment] := by
        rw [step]
        apply if_neg
        rw [beq_iff_eq]
        intro lone
        have both := (snoc_lone_iff _ _).mp lone
        rcases rooted with begun | first
        · exact begun both.1
        · exact first segment rfl both.2
      rw [List.foldl_cons, ih (fun other member => puts other (List.mem_cons_of_mem _ member)),
        same, List.append_assoc, List.map_cons, List.singleton_append]
      exact .inl (by rw [same]; simp)

/-! ## The path of the base -/

/-- The path without one slash at its end. -/
def stem (path : List String) : List String :=
  if path.getLast? = some "" then path.dropLast else path

/-- The text of the base path without one slash at its end. -/
def baseText (url : Url) : List Char :=
  if url.pathText.toList.getLast? = some '/' then url.pathText.toList.dropLast
  else url.pathText.toList

theorem path_cases (path : List String) : path = [] ∨ ∃ front last, path = front ++ [last] := by
  rcases List.eq_nil_or_concat path with nothing | ⟨front, last, spelled⟩
  · exact .inl nothing
  · exact .inr ⟨front, last, by simpa using spelled⟩

theorem path_characters_append (front rest : List String) :
    pathCharacters (front ++ rest) = pathCharacters front ++ pathCharacters rest :=
  List.flatMap_append

theorem base_text_of_settled {url : Url} (settled : AllSettled special url.path) :
    baseText url = pathCharacters (stem url.path) := by
  unfold baseText stem
  rw [path_text_characters]
  rcases path_cases url.path with nothing | ⟨front, last, spelled⟩
  · simp [nothing, pathCharacters]
  · have text : pathCharacters url.path = pathCharacters front ++ '/' :: last.toList := by
      rw [spelled, path_characters_append]
      simp [pathCharacters]
    rw [text, spelled, List.getLast?_concat, List.dropLast_concat]
    rcases List.eq_nil_or_concat last.toList with none | ⟨before, character, some⟩
    · have empty : last = "" := String.toList_eq_nil_iff.mp none
      simp [empty]
    · have stands := (settled last (by simp [spelled])).stands character (by simp [some])
      have other : last ≠ "" := by
        rintro rfl
        simp at some
      have ending :
          (pathCharacters front ++ '/' :: last.toList).getLast? = Option.some character := by
        rw [some, List.concat_eq_append, ← List.cons_append, ← List.append_assoc,
          List.getLast?_concat]
      have differ : ¬Option.some character = Option.some '/' := by simpa using stands.2.2.1
      have filled : ¬Option.some last = Option.some "" := by simpa using other
      rw [ending, if_neg differ, if_neg filled, ← text, spelled]

theorem without_final_slash_path (url : Url) : url.withoutFinalSlash.path =
    if 1 < url.path.length ∧ url.path.getLast? = some "" then url.path.dropLast else url.path := by
  unfold withoutFinalSlash
  simp only [Bool.and_eq_true, decide_eq_true_eq, beq_iff_eq]
  split <;> rfl

/-- Segments are put behind the stem of the base path, unless the base is two slashes. -/
theorem opened_start (url : Url) :
    (url.path ≠ ["", ""] → opened url.withoutFinalSlash.path = stem url.path) ∧
      (url.path = ["", ""] → opened url.withoutFinalSlash.path = []) := by
  constructor
  · intro plain
    rw [without_final_slash_path]
    unfold stem opened
    rcases path_cases url.path with nothing | ⟨front, last, spelled⟩
    · simp [nothing]
    · rw [spelled, List.getLast?_concat, List.dropLast_concat, List.length_append,
        List.length_singleton]
      rw [spelled] at plain
      by_cases empty : last = ""
      · subst empty
        have other : ¬front = [""] := by
          rintro rfl
          exact plain rfl
        by_cases none : front = []
        · simp [none]
        · simp [List.length_pos_iff.mpr none, other]
      · have other : ¬front ++ [last] = [""] := by
          intro lone
          exact empty ((snoc_lone_iff front last).mp lone).2
        simp [empty, other]
  · intro slashes
    rw [without_final_slash_path, slashes]
    decide

end BuildLedger.Url
