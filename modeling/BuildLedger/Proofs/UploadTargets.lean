import BuildLedger.Proofs.MatrixParameters
import BuildLedger.Proofs.UploadLocations

/-!
# What an address tells of an upload

A reader of an upload's address takes the base path away, splits the rest at slashes, cuts the
parameters off each segment and decodes what is left. The reader finds the repository, the path and
the properties of the upload if every segment is plain: no dots alone, no tab or line end, no
semicolon. Otherwise something else is read. The segments of a path are encoded as segments are, and
a semicolon stands in a segment as it is.
-/
namespace BuildLedger

namespace Url

/-! ## Reading a path -/

/-- Segments without their parameters, and the parameters of all of them. -/
def readSegments : List (List Char) → Option (List String × List (String × String))
  | [] => some ([], [])
  | text :: rest =>
      match readSegment text, readSegments rest with
      | some (segment, own), some (segments, others) => some (segment :: segments, own ++ others)
      | _, _ => none

def readPath (text : List Char) : Option (List String × List (String × String)) :=
  match text with
  | '/' :: rest => readSegments (rest.splitOn '/')
  | _ => none

/-- What is read of a path behind its front. -/
def readBehind (front text : List Char) : Option (List String × List (String × String)) :=
  if front.isPrefixOf text then readPath (text.drop front.length) else none

theorem read_segments_cons_iff {text : List Char} {rest : List (List Char)}
    {segments : List String} {properties : List (String × String)} :
    readSegments (text :: rest) = some (segments, properties) ↔
      ∃ segment own others left, readSegment text = some (segment, own) ∧
        readSegments rest = some (others, left) ∧ segments = segment :: others ∧
        properties = own ++ left := by
  rw [readSegments]
  constructor
  · intro read
    split at read
    · next segment own others left first later =>
      cases read
      exact ⟨segment, own, others, left, first, later, rfl, rfl⟩
    · cases read
  · rintro ⟨segment, own, others, left, first, later, rfl, rfl⟩
    rw [first, later]

theorem read_segments_length {texts : List (List Char)} {segments : List String}
    {properties : List (String × String)}
    (read : readSegments texts = some (segments, properties)) :
    segments.length = texts.length := by
  induction texts generalizing segments properties with
  | nil =>
      cases read
      rfl
  | cons text rest ih =>
      obtain ⟨segment, own, others, left, _, later, rfl, rfl⟩ := read_segments_cons_iff.mp read
      rw [List.length_cons, List.length_cons, ih later]

/-- Segments without slashes are read one by one. -/
theorem read_path_characters {path : List String} (some : path ≠ [])
    (slashes : ∀ segment ∈ path, '/' ∉ segment.toList) :
    readPath (pathCharacters path) = readSegments (path.map String.toList) := by
  obtain ⟨rest, text, split⟩ := path_characters_split some slashes
  rw [text]
  unfold readPath
  simp only [split]

/-- A path that can be read is the text of its segments. -/
theorem path_characters_of_read {text : List Char} {segments : List String}
    {properties : List (String × String)} (read : readPath text = some (segments, properties)) :
    ∃ path : List String, text = pathCharacters path ∧ path.length = segments.length ∧
      (∀ segment ∈ path, '/' ∉ segment.toList) ∧
      readSegments (path.map String.toList) = some (segments, properties) := by
  unfold readPath at read
  split at read
  · next rest =>
    have back : ((rest.splitOn '/').map String.ofList).map String.toList = rest.splitOn '/' := by
      rw [List.map_map]
      exact (List.map_congr_left fun piece _ => String.toList_ofList).trans (List.map_id _)
    refine ⟨(rest.splitOn '/').map String.ofList, ?_, ?_, ?_, ?_⟩
    · rw [path_characters_pieces (by simp [List.splitOn_ne_nil]), back, List.intercalate_splitOn]
    · rw [List.length_map, read_segments_length read]
    · intro segment member slash
      obtain ⟨piece, inside, rfl⟩ := List.mem_map.mp member
      rw [String.toList_ofList] at slash
      exact (mem_split_on inside '/' slash).1 rfl
    · rw [back]
      exact read
  · cases read

theorem path_characters_injective {first second : List String}
    (slashes : ∀ segment ∈ first, '/' ∉ segment.toList)
    (others : ∀ segment ∈ second, '/' ∉ segment.toList)
    (same : pathCharacters first = pathCharacters second) : first = second := by
  have empty : ∀ {path : List String}, pathCharacters path = [] → path = [] := by
    intro path nothing
    rcases path with _ | ⟨segment, rest⟩
    · rfl
    · simp [pathCharacters] at nothing
  by_cases none : first = []
  · subst none
    exact (empty same.symm).symm
  · have some : second ≠ [] := by
      rintro rfl
      exact none (empty same)
    obtain ⟨rest, text, split⟩ := path_characters_split none slashes
    obtain ⟨more, otherText, otherSplit⟩ := path_characters_split some others
    rw [text, otherText] at same
    rw [List.tail_eq_of_cons_eq same, otherSplit] at split
    exact (List.map_injective_iff.mpr (fun _ _ equal => String.toList_inj.mp equal) split).symm

/-! ## Plain segments -/

/-- A segment that is put and has nothing that gets lost or starts a parameter. -/
def IsPlain (segment : String) : Prop :=
  isPut segment = true ∧ ∀ character ∈ segment.toList, Counts character ∧ character ≠ ';'

instance (segment : String) : Decidable (IsPlain segment) :=
  @instDecidableAnd _ _ _ (List.decidableBAll _ _)

section Plain

variable {segment : String} (plain : IsPlain segment)

include plain

theorem counted_of_plain : countedText segment = segment :=
  counted_text_of_counts fun character member => (plain.2 character member).1

theorem plain_does_not_climb : countedText segment ≠ ".." := by
  rw [counted_of_plain plain]
  rintro rfl
  exact absurd plain.1 (by decide)

theorem placed_of_plain (special : Bool) :
    placed special segment = encodeSegment special segment :=
  placed_of_counted (counted_of_plain plain) plain.1

theorem read_plain_segment (special : Bool) (properties : Properties) :
    readSegment ((placed special segment).toList ++
      (Http.parametersText properties).toList) = some (segment, properties.entries) := by
  have free : ';' ∉ (encodeSegment special segment).toList := by
    intro member
    have inside := (mem_encode_text (by decide) (by decide) member).1
    rw [counted_of_plain plain] at inside
    exact (plain.2 ';' inside).2 rfl
  rw [placed_of_plain plain, Http.read_segment_with_parameters free, String.ofList_toList,
    decode_encode_segment, counted_of_plain plain]
  rfl

end Plain

/-- What stands before the first semicolon of an encoded text is encoded by itself. -/
theorem encoded_before_semicolon {kept : Char → Bool} (stands : kept ';' = true) (text : String) :
    (encodeText kept text).toList.takeWhile (· != ';') =
      (encodeText kept (String.ofList (text.toList.takeWhile (· != ';')))).toList := by
  have free : ∀ text : String, ';' ∉ text.toList →
      ∀ character ∈ (encodeText kept text).toList, (character != ';') = true := by
    intro text absent character member
    rw [bne_iff_ne]
    rintro rfl
    exact absent (mem_encode_text (by decide) (by decide) member).1
  by_cases member : ';' ∈ text.toList
  · obtain ⟨before, after, spelled, absent⟩ := List.eq_append_cons_of_mem member
    have plain : ∀ character ∈ before, (character != ';') = true := by
      intro character inside
      rw [bne_iff_ne]
      rintro rfl
      exact absent inside
    rw [encode_text_cut (by decide) stands spelled, List.takeWhile_append_of_pos
      (free _ (by simpa using absent)), spelled, List.takeWhile_append_of_pos plain]
    simp
  · have plain : ∀ character ∈ text.toList, (character != ';') = true := by
      intro character inside
      rw [bne_iff_ne]
      rintro rfl
      exact member inside
    rw [List.takeWhile_eq_self_iff.mpr plain, String.ofList_toList,
      List.takeWhile_eq_self_iff.mpr (free text member)]

/-- A segment that is read as itself is plain. -/
theorem plain_of_read {special : Bool} {segment : String} {own : List (String × String)}
    (put : isPut segment = true) (properties : Properties)
    (read : readSegment ((placed special segment).toList ++
      (Http.parametersText properties).toList) = some (segment, own)) : IsPlain segment := by
  have name : ∀ text : List Char, (text ++ (Http.parametersText properties).toList).takeWhile
      (· != ';') = text.takeWhile (· != ';') := by
    intro text
    rcases Http.parameters_begin properties with none | ⟨rest, spelled⟩
    · simp [none]
    · rw [spelled, List.takeWhile_append, List.takeWhile_cons_of_neg (by simp), List.append_nil]
      split
      · next whole => exact ((List.takeWhile_prefix _).eq_of_length whole).symm
      · rfl
  obtain ⟨rest, split⟩ := split_on_head ';'
    ((placed special segment).toList ++ (Http.parametersText properties).toList)
  unfold readSegment at read
  rw [split, name] at read
  simp only at read
  have decoded : decodeText? (String.ofList ((placed special segment).toList.takeWhile
      (· != ';'))) = some segment := by
    split at read
    · next found _ decoded _ =>
      cases read
      exact decoded
    · cases read
  by_cases dot : isSingleDot (encodeSegment special segment) = true
  · have nothing : decodeText? (String.ofList []) = some "" := by decide +kernel
    have single := single_dot_encoded dot
    unfold placed at decoded
    rw [if_pos dot] at decoded
    simp only [String.toList_empty, List.takeWhile_nil, nothing, Option.some.injEq] at decoded
    rw [← decoded] at single
    exact absurd single (by decide)
  · unfold placed at decoded
    rw [if_neg dot, encodeSegment, encoded_before_semicolon (by cases special <;> decide),
      String.ofList_toList, decode_encode (by simp [standsInSegment]), Option.some.injEq] at decoded
    refine ⟨put, fun character member => ?_⟩
    rw [← decoded, String.toList_ofList] at member
    have counted := (List.takeWhile_prefix _).subset member
    exact ⟨(mem_counted_text.mp counted).2, by simpa using List.mem_takeWhile_imp member⟩

theorem no_parameters (text : List Char) :
    text ++ (Http.parametersText .empty).toList = text := by
  have none : (Http.parametersText .empty).toList = [] := rfl
  rw [none, List.append_nil]

/-- The segments of a path as they are put, with parameters behind the last one. -/
def placedTexts (special : Bool) (front : List String) (last : String) (properties : Properties) :
    List (List Char) :=
  front.map (fun segment => (placed special segment).toList) ++
    [(placed special last).toList ++ (Http.parametersText properties).toList]

theorem read_plain_segments {front : List String} {last : String}
    (plain : ∀ segment ∈ front ++ [last], IsPlain segment) (special : Bool)
    (properties : Properties) :
    readSegments (placedTexts special front last properties) =
      some (front ++ [last], properties.entries) := by
  induction front with
  | nil =>
      have read := read_plain_segment (plain last (by simp)) special properties
      exact read_segments_cons_iff.mpr
        ⟨last, properties.entries, [], [], read, rfl, rfl, (List.append_nil _).symm⟩
  | cons segment rest ih =>
      have read := read_plain_segment (plain segment (by simp)) special .empty
      rw [no_parameters] at read
      have later := ih fun other member => plain other (List.mem_cons_of_mem _ member)
      exact read_segments_cons_iff.mpr ⟨segment, [], _, _, read, later, rfl, rfl⟩

theorem plain_of_read_segments {special : Bool} {front : List String} {last : String}
    (puts : ∀ segment ∈ front ++ [last], isPut segment = true) {properties : Properties}
    {own : List (String × String)}
    (read : readSegments (placedTexts special front last properties) =
      some (front ++ [last], own)) : ∀ segment ∈ front ++ [last], IsPlain segment := by
  induction front generalizing own with
  | nil =>
      obtain ⟨segment, _, _, _, first, _, same, _⟩ := read_segments_cons_iff.mp read
      cases same
      intro segment member
      rw [List.mem_singleton.mp member]
      exact plain_of_read (puts last (by simp)) properties first
  | cons head rest ih =>
      obtain ⟨segment, _, _, _, first, later, same, _⟩ := read_segments_cons_iff.mp read
      cases same
      intro segment member
      rcases List.mem_cons.mp member with rfl | inside
      · have alone : readSegment ((placed special segment).toList ++
            (Http.parametersText .empty).toList) = _ :=
          (congrArg readSegment (no_parameters _)).trans first
        exact plain_of_read (puts segment (by simp)) .empty alone
      · have puts := fun other member => puts other (List.mem_cons_of_mem _ member)
        exact ih puts later segment inside

theorem stem_settled {special : Bool} {path : List String} (settled : AllSettled special path) :
    AllSettled special (stem path) := by
  unfold stem
  split
  · exact drop_last_settled settled
  · exact settled

end Url

namespace Http.Client

open Url

/-! ## Reading an upload back -/

/-- Repository and path as the segments that are put behind the base. -/
def segmentsOf (upload : Upload) : List String :=
  upload.repository :: Path.pieces (Text.dropLeading '/' upload.path)

/-- Every segment of the upload is plain, and the first one is not empty where nothing stands before
it. -/
structure Addresses (client : Client) (upload : Upload) : Prop where
  base : client.base.pathText ≠ "//"
  rooted : baseText client.base ≠ [] ∨ upload.repository ≠ ""
  plain : ∀ segment ∈ segmentsOf upload, IsPlain segment

theorem upload_query (client : Client) (upload : Upload) :
    (client.uploadUrl upload).query = client.base.query := by
  rw [upload_url_parts, with_suffix_query]
  exact append_query client.base (segmentsOf upload)

theorem upload_path_of_target {client : Client} {first second : Upload}
    (same : (client.uploadUrl first).target = (client.uploadUrl second).target) :
    (client.uploadUrl first).pathText = (client.uploadUrl second).pathText := by
  unfold target at same
  rw [upload_query, upload_query] at same
  have characters := congrArg String.toList same
  rw [String.toList_append, String.toList_append] at characters
  exact String.toList_inj.mp (List.append_cancel_right characters)

/-- The segments tell the repository and the path without its slashes. -/
theorem location_of_segments {first second : Upload}
    (same : segmentsOf first = segmentsOf second) : first.location = second.location := by
  obtain ⟨repository, pieces⟩ := List.cons.inj same
  have lists : (Text.dropLeading '/' first.path).toList.splitOn '/' =
      (Text.dropLeading '/' second.path).toList.splitOn '/' :=
    List.map_injective_iff.mpr (fun _ _ equal => String.ofList_injective equal) pieces
  have texts : (Text.dropLeading '/' first.path).toList =
      (Text.dropLeading '/' second.path).toList := by
    have joined := congrArg (['/'].intercalate ·) lists
    simpa only [List.intercalate_splitOn] using joined
  unfold Text.dropLeading at texts
  rw [String.toList_ofList, String.toList_ofList] at texts
  exact Prod.ext repository texts

theorem properties_of_entries {left right : Properties} (same : left.entries = right.entries) :
    left = right := by
  cases left
  cases right
  cases same
  rfl

theorem plain_url_path (client : Client) (upload : Upload) :
    (client.plainUrl upload).path = (segmentsOf upload).foldl (extend client.base.isSpecial)
      client.base.withoutFinalSlash.path :=
  append_path client.base (segmentsOf upload)

theorem two_segments (upload : Upload) : 2 ≤ (segmentsOf upload).length := by
  have some := List.length_pos_iff.mpr
    (List.splitOn_ne_nil '/' (Text.dropLeading '/' upload.path).toList)
  unfold segmentsOf Path.pieces
  rw [List.length_cons, List.length_map]
  omega

section Path

variable {client : Client} {upload : Upload}

/-- The path has all the segments, where each of them is put and none climbs. -/
theorem plain_url_path_of_puts (base : client.base.path ≠ ["", ""])
    (puts : ∀ segment ∈ segmentsOf upload, isPut segment = true ∧ countedText segment ≠ "..")
    (rooted : stem client.base.path ≠ [] ∨ placed client.base.isSpecial upload.repository ≠ "") :
    (client.plainUrl upload).path =
      stem client.base.path ++ (segmentsOf upload).map (placed client.base.isSpecial) := by
  have start := (opened_start client.base).1 base
  have first : opened client.base.withoutFinalSlash.path ≠ [] ∨ ∀ first,
      (segmentsOf upload).head? = some first → placed client.base.isSpecial first ≠ "" := by
    rw [start]
    apply rooted.imp_right
    intro filled first same
    cases same
    exact filled
  have grown := all_put client.base.isSpecial puts first
  rw [start, ← plain_url_path] at grown
  exact eq_of_opened grown (by simp [segmentsOf])

/-- A path that is as long as all the segments has them all. -/
theorem puts_of_plain_url_length (long : (client.plainUrl upload).path.length =
      (stem client.base.path).length + (segmentsOf upload).length) :
    client.base.path ≠ ["", ""] ∧
      (stem client.base.path ≠ [] ∨ placed client.base.isSpecial upload.repository ≠ "") ∧
      (∀ segment ∈ segmentsOf upload, isPut segment = true) ∧
      (client.plainUrl upload).path =
        stem client.base.path ++ (segmentsOf upload).map (placed client.base.isSpecial) := by
  have two := two_segments upload
  have whole : opened (client.plainUrl upload).path = (client.plainUrl upload).path := by
    apply if_neg
    rw [beq_iff_eq]
    intro lone
    rw [lone, List.length_singleton] at long
    omega
  have growth := all_growth client.base.isSpecial client.base.withoutFinalSlash.path
    (segmentsOf upload)
  rw [← plain_url_path, whole, long] at growth
  have base : client.base.path ≠ ["", ""] := by
    intro slashes
    have nothing := (opened_start client.base).2 slashes
    have one : (stem client.base.path).length = 1 := by rw [slashes]; decide
    have bound := growth.1
    rw [nothing, one, List.length_nil] at bound
    omega
  rw [(opened_start client.base).1 base] at growth
  obtain ⟨puts, rooted, path⟩ := growth.2 rfl
  exact ⟨base, rooted.imp_right fun first => first upload.repository rfl,
    fun segment member => (puts segment member).1, path⟩

/-- Parameters alone make one segment at most, so a longer path is as long without them. -/
theorem plain_url_length {count : Nat} (two : 2 ≤ count)
    (long : (client.uploadUrl upload).path.length = count) :
    (client.plainUrl upload).path.length = count := by
  rw [upload_url_parts] at long
  rcases path_cases (client.plainUrl upload).path with none | ⟨front, last, path⟩
  · rw [with_suffix_of_empty none] at long
    split at long <;> simp at long <;> omega
  · rw [with_suffix_snoc path, List.length_append, List.length_singleton] at long
    rw [path, List.length_append, List.length_singleton, long]

/-- What stands behind the stem of the base path, where nothing was lost. -/
theorem upload_url_path {front : List String} {last : String}
    (segments : segmentsOf upload = front ++ [last])
    (path : (client.plainUrl upload).path =
      stem client.base.path ++ (segmentsOf upload).map (placed client.base.isSpecial)) :
    ∃ sent, (client.uploadUrl upload).path = stem client.base.path ++ sent ∧ sent ≠ [] ∧
      sent.map String.toList =
        placedTexts client.base.isSpecial front last upload.properties := by
  rw [segments, List.map_append, List.map_singleton, ← List.append_assoc] at path
  have sent := with_suffix_snoc path (parametersText upload.properties)
  rw [← upload_url_parts, List.append_assoc] at sent
  exact ⟨_, sent, by simp, by simp [placedTexts]⟩

end Path

section Reading

variable {client : Client} (settled : SettledPath client.base.isSpecial client.base.path)

include settled

theorem base_path_iff : client.base.path = ["", ""] ↔ client.base.pathText = "//" := by
  constructor
  · intro both
    unfold pathText
    rw [both]
    decide
  · intro slashes
    have text : pathCharacters client.base.path = pathCharacters ["", ""] := by
      rw [← path_text_characters, slashes]
      decide
    exact path_characters_injective (slash_free settled.segments) (by decide) text

theorem base_text_nil_iff : baseText client.base = [] ↔ stem client.base.path = [] := by
  rw [base_text_of_settled settled.segments]
  rcases stem client.base.path with _ | ⟨segment, rest⟩ <;> simp [pathCharacters]

theorem upload_url_slash_free (upload : Upload) :
    ∀ segment ∈ (client.uploadUrl upload).path, '/' ∉ segment.toList := by
  by_cases none : (client.plainUrl upload).path = []
  · intro segment member slash
    rw [upload_url_parts, with_suffix_of_empty none] at member
    split at member
    · cases member
    · rw [List.mem_singleton.mp member] at slash
      exact (parameters_stand false upload.properties '/' slash).2.2.1 rfl
  · exact slash_free
      (with_suffix_settled (plain_url_settled settled upload) none upload.properties).segments

theorem read_back_of_addresses {upload : Upload} (addresses : client.Addresses upload) :
    readBehind (baseText client.base) (client.uploadUrl upload).pathText.toList =
      some (segmentsOf upload, upload.properties.entries) := by
  have base : client.base.path ≠ ["", ""] :=
    fun slashes => addresses.base ((base_path_iff settled).mp slashes)
  have repository : upload.repository ∈ segmentsOf upload := List.mem_cons_self
  have rooted : stem client.base.path ≠ [] ∨
      placed client.base.isSpecial upload.repository ≠ "" := by
    rcases addresses.rooted with front | named
    · exact .inl fun none => front ((base_text_nil_iff settled).mpr none)
    · right
      have plain := addresses.plain upload.repository repository
      rw [placed_of_plain plain]
      intro empty
      exact named ((counted_of_plain plain).symm.trans (counted_of_encoded_empty empty))
  have path := plain_url_path_of_puts base
    (fun segment member => ⟨(addresses.plain segment member).1,
      plain_does_not_climb (addresses.plain segment member)⟩) rooted
  rcases path_cases (segmentsOf upload) with none | ⟨front, last, segments⟩
  · exact absurd (none ▸ repository) List.not_mem_nil
  · obtain ⟨sent, whole, some, texts⟩ := upload_url_path segments path
    have free := upload_url_slash_free settled upload
    rw [whole] at free
    have plain := addresses.plain
    rw [segments] at plain
    rw [path_text_characters, whole, path_characters_append, base_text_of_settled settled.segments]
    unfold readBehind
    rw [if_pos (List.isPrefixOf_iff_prefix.mpr (List.prefix_append _ _)), List.drop_left,
      read_path_characters some fun segment member => free segment (List.mem_append_right _ member),
      texts, segments]
    exact read_plain_segments plain client.base.isSpecial upload.properties

theorem addresses_of_read_back {upload : Upload}
    (read : readBehind (baseText client.base) (client.uploadUrl upload).pathText.toList =
      some (segmentsOf upload, upload.properties.entries)) : client.Addresses upload := by
  have two := two_segments upload
  unfold readBehind at read
  split at read
  · next behind =>
    obtain ⟨rest, spelled⟩ := List.isPrefixOf_iff_prefix.mp behind
    rw [← spelled, List.drop_left] at read
    obtain ⟨path, text, length, free, parts⟩ := path_characters_of_read read
    rw [path_text_characters, text, base_text_of_settled settled.segments,
      ← path_characters_append] at spelled
    have sent : stem client.base.path ++ path = (client.uploadUrl upload).path := by
      apply path_characters_injective _ (upload_url_slash_free settled upload) spelled
      intro segment member
      rcases List.mem_append.mp member with early | late
      · exact slash_free (stem_settled settled.segments) segment early
      · exact free segment late
    have total : (client.uploadUrl upload).path.length =
        (stem client.base.path).length + (segmentsOf upload).length := by
      rw [← sent, List.length_append, length]
    obtain ⟨base, rooted, puts, whole⟩ :=
      puts_of_plain_url_length (plain_url_length (by omega) total)
    rcases path_cases (segmentsOf upload) with none | ⟨front, last, segments⟩
    · rw [none, List.length_nil] at two
      omega
    · obtain ⟨placed, spelled, _, texts⟩ := upload_url_path segments whole
      rw [← sent] at spelled
      rw [List.append_cancel_left spelled, texts, segments] at parts
      rw [segments] at puts
      constructor
      · exact fun slashes => base ((base_path_iff settled).mpr slashes)
      · apply rooted.imp
        · exact fun some none => some ((base_text_nil_iff settled).mp none)
        · rintro filled named
          rw [named] at filled
          exact filled (placed_empty client.base.isSpecial)
      · rw [segments]
        exact plain_of_read_segments puts parts
  · cases read

end Reading

/-- An address is read back as its upload exactly where every segment is plain. Then no two uploads
share an address, but for slashes at the start of their paths. -/
theorem plain_segments_identify (endpoint : Endpoint) (settings : Settings) (client : Client)
    (made : ofSettings endpoint settings = .ok client) :
    (∀ upload, readBehind (baseText client.base) (client.uploadUrl upload).pathText.toList =
        some (segmentsOf upload, upload.properties.entries) ↔ client.Addresses upload) ∧
    ∀ first second, client.Addresses first → client.Addresses second →
      ((client.uploadUrl first).target = (client.uploadUrl second).target ↔
        first.location = second.location ∧ first.properties = second.properties) := by
  have settled := of_text_settled (of_settings_parts made).1
  have reads : ∀ upload, readBehind (baseText client.base)
      (client.uploadUrl upload).pathText.toList =
        some (segmentsOf upload, upload.properties.entries) ↔ client.Addresses upload :=
    fun upload => ⟨addresses_of_read_back settled, read_back_of_addresses settled⟩
  refine ⟨reads, fun first second one other => ⟨fun same => ?_, ?_⟩⟩
  · have paths := upload_path_of_target same
    have read := (reads first).mpr one
    rw [paths, (reads second).mpr other, Option.some.injEq, Prod.mk.injEq] at read
    exact ⟨location_of_segments read.1.symm, properties_of_entries read.2.symm⟩
  · rintro ⟨location, properties⟩
    rw [upload_url_of_location location properties]

/-- Blanks, signs and escapes in a path and in properties are told apart. -/
theorem odd_segments_identify :
    let endpoint : Endpoint := ⟨"http://repo.local/artifactory/", "", ""⟩
    let upload := fun path : String =>
      ({ path, repository := "libs release", file := "a.jar"
         properties := .ofList [("vcs;rev", "a=b")] } : Upload)
    ∃ client, ofSettings endpoint {} = .ok client ∧
      readBehind (baseText client.base)
          (client.uploadUrl (upload "/my app/c=1#.jar")).pathText.toList =
        some (["libs release", "my app", "c=1#.jar"], [("vcs;rev", "a=b")]) ∧
      (client.uploadUrl (upload "/my app/c=1#.jar")).target ≠
        (client.uploadUrl (upload "/my%20app/c=1#.jar")).target := by
  intro endpoint upload
  let client : Client :=
    { base := { scheme := "http", host := some (.domain "repo.local"), path := ["artifactory", ""] }
      username := "", password := "", retries := 3, relay := none }
  have made : ofSettings endpoint {} = .ok client := of_settings_without_proxy (by decide +kernel)
  obtain ⟨reads, identify⟩ := plain_segments_identify endpoint {} client made
  have blank : client.Addresses (upload "/my app/c=1#.jar") :=
    ⟨by decide, .inl (by decide +kernel), by decide +kernel⟩
  have escaped : client.Addresses (upload "/my%20app/c=1#.jar") :=
    ⟨by decide, .inl (by decide +kernel), by decide +kernel⟩
  have segments : segmentsOf (upload "/my app/c=1#.jar") =
      ["libs release", "my app", "c=1#.jar"] := by decide +kernel
  have read := (reads _).mpr blank
  rw [segments] at read
  refine ⟨client, made, read, fun same => ?_⟩
  have location := ((identify _ _ blank escaped).mp same).1
  exact absurd location (by decide +kernel)

/-- A path with a semicolon has the address of another path with a property. -/
theorem semicolon_in_path_adds_property :
    let endpoint : Endpoint := ⟨"http://repo.local/artifactory", "", ""⟩
    let plain : Upload :=
      { path := "a.jar", repository := "libs", file := "a.jar"
        properties := .ofList [("build.name", "x")] }
    let sly : Upload := { path := "a.jar;build.name=x", repository := "libs", file := "a.jar" }
    ∃ client, ofSettings endpoint {} = .ok client ∧
      client.uploadUrl sly = client.uploadUrl plain ∧ sly.path ≠ plain.path ∧
      sly.properties ≠ plain.properties ∧
      readBehind (baseText client.base) (client.uploadUrl sly).pathText.toList =
        some (["libs", "a.jar"], [("build.name", "x")]) ∧
      segmentsOf sly = ["libs", "a.jar;build.name=x"] ∧ sly.properties.entries = [] :=
  ⟨{ base := { scheme := "http", host := some (.domain "repo.local"), path := ["artifactory"] }
     username := "", password := "", retries := 3, relay := none },
    of_settings_without_proxy (by decide +kernel), by decide +kernel⟩

end Http.Client

end BuildLedger
