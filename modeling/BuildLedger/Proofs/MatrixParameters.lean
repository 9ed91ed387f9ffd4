import BuildLedger.Http.Client
import BuildLedger.Proofs.GrowingPaths

/-!
# Matrix parameters and where they stand

The properties of an upload stand behind the last segment of its path, each behind a semicolon. They
are encoded so that a reader who cuts at semicolons and equals signs finds the properties again. The
segments before them stay behind the base path and the repository, unless a segment that seems to be
no dots turns into dots when its tabs and line ends are dropped.
-/
namespace BuildLedger

namespace Url

/-! ## Reading parameters -/

/-- The part before the first equals sign, and the part behind it. -/
def readParameter (text : List Char) : Option (String × String) :=
  match decodeText? (String.ofList (text.takeWhile (· != '='))),
    decodeText? (String.ofList ((text.dropWhile (· != '=')).drop 1)) with
  | some key, some value => some (key, value)
  | _, _ => none

def readParameters : List (List Char) → Option (List (String × String))
  | [] => some []
  | text :: rest =>
      match readParameter text, readParameters rest with
      | some parameter, some others => some (parameter :: others)
      | _, _ => none

/-- A segment without its parameters, and the parameters. -/
def readSegment (text : List Char) : Option (String × List (String × String)) :=
  match text.splitOn ';' with
  | [] => none
  | name :: parameters =>
      match decodeText? (String.ofList name), readParameters parameters with
      | some segment, some properties => some (segment, properties)
      | _, _ => none

theorem unreserved_percent : isUnreserved '%' = false := by decide

/-- Unreserved characters may stand anywhere. -/
theorem unreserved_stands (character : Char) (ascii : character.toNat < 128)
    (unreserved : isUnreserved character = true) : standsInPath character = true := by
  have checked : ∀ code < 128, isUnreserved (Char.ofNat code) = true →
      standsInPath (Char.ofNat code) = true := by decide +kernel
  have found := checked character.toNat ascii
  rw [Char.ofNat_toNat] at found
  exact found unreserved

end Url

open Url

namespace Http

/-- What stands for a property behind its semicolon. -/
def parameterBody (property : String × String) : List Char :=
  (encodeText isUnreserved property.1).toList ++ '=' :: (encodeText isUnreserved property.2).toList

def parameterCharacters (properties : List (String × String)) : List Char :=
  properties.flatMap fun property => ';' :: parameterBody property

theorem parameters_text_characters (properties : Properties) :
    (parametersText properties).toList = parameterCharacters properties.entries := by
  unfold parametersText parameterCharacters
  induction properties.entries with
  | nil => rfl
  | cons property rest ih => simp [String.join_cons, parameterText, parameterBody, ih]

theorem semicolon_free (property : String × String) : ';' ∉ parameterBody property := by
  intro member
  rcases List.mem_append.mp member with key | value
  · exact absurd (mem_encode_text (by decide) (by decide) key).2 (by decide)
  · rcases List.mem_cons.mp value with sign | value
    · exact absurd sign (by decide)
    · exact absurd (mem_encode_text (by decide) (by decide) value).2 (by decide)

theorem read_parameter_body (property : String × String) :
    readParameter (parameterBody property) = some property := by
  have key : ∀ character ∈ (encodeText isUnreserved property.1).toList,
      (character != '=') = true := by
    intro character member
    rw [bne_iff_ne]
    rintro rfl
    exact absurd (mem_encode_text (by decide) (by decide) member).2 (by decide)
  unfold readParameter parameterBody
  rw [List.takeWhile_append_of_pos key, List.dropWhile_append_of_pos key]
  simp [decode_encode unreserved_percent]

theorem read_parameter_bodies (properties : List (String × String)) :
    readParameters (properties.map parameterBody) = some properties := by
  induction properties with
  | nil => rfl
  | cons property rest ih =>
      rw [List.map_cons, readParameters, read_parameter_body, ih]

theorem split_parameters {name : List Char} (plain : ';' ∉ name)
    (properties : List (String × String)) :
    (name ++ parameterCharacters properties).splitOn ';' =
      name :: properties.map parameterBody := by
  induction properties generalizing name with
  | nil => simp [parameterCharacters, List.splitOn_eq_singleton plain]
  | cons property rest ih =>
      have spelled : parameterCharacters (property :: rest) =
          ';' :: (parameterBody property ++ parameterCharacters rest) := by
        simp [parameterCharacters]
      rw [spelled, List.splitOn_append_cons_self_of_not_mem plain, ih (semicolon_free property)]
      rfl

/-- The parameters behind a name without a semicolon are the properties. -/
theorem read_segment_with_parameters {name : List Char} (plain : ';' ∉ name)
    (properties : Properties) :
    readSegment (name ++ (parametersText properties).toList) =
      (decodeText? (String.ofList name)).map fun segment => (segment, properties.entries) := by
  unfold readSegment
  rw [parameters_text_characters, split_parameters plain]
  simp only [read_parameter_bodies]
  cases decodeText? (String.ofList name) <;> rfl

/-! ## Parameters behind a path -/

theorem parameters_stand (special : Bool) (properties : Properties) :
    ∀ character ∈ (parametersText properties).toList, Stands special character := by
  have encoded : ∀ text : String, ∀ character ∈ (encodeText isUnreserved text).toList,
      Stands special character := by
    intro text
    exact encoded_stands unreserved_stands (fun slash => absurd slash (by decide))
      (fun _ backslash => absurd backslash (by decide))
  have signs : Stands special ';' ∧ Stands special '=' := by cases special <;> decide
  intro character member
  rw [parameters_text_characters] at member
  obtain ⟨property, _, member⟩ := List.mem_flatMap.mp member
  rcases List.mem_cons.mp member with rfl | member
  · exact signs.1
  · rcases List.mem_append.mp member with key | value
    · exact encoded _ character key
    · rcases List.mem_cons.mp value with rfl | value
      · exact signs.2
      · exact encoded _ character value

/-- Parameters are nothing, or begin with a semicolon. -/
theorem parameters_begin (properties : Properties) :
    parametersText properties = "" ∨ ∃ rest, (parametersText properties).toList = ';' :: rest := by
  have spelled := parameters_text_characters properties
  rcases held : properties.entries with _ | ⟨property, rest⟩
  · rw [held] at spelled
    exact .inl (String.toList_eq_nil_iff.mp spelled)
  · rw [held] at spelled
    exact .inr ⟨_, by rw [spelled, parameterCharacters, List.flatMap_cons, List.cons_append]⟩

/-- No segment with parameters is made of dots. -/
theorem with_parameters_settled {special : Bool} {segment : String}
    (settled : Settled special segment) (properties : Properties) :
    Settled special (segment ++ parametersText properties) := by
  rcases parameters_begin properties with none | ⟨rest, spelled⟩
  · rw [none, String.append_empty]
    exact settled
  · have semicolon : ';' ∈ (segment ++ parametersText properties).toList := by
      simp [spelled]
    refine ⟨?_, ?_, ?_⟩
    · intro character member
      rw [String.toList_append] at member
      rcases List.mem_append.mp member with front | back
      · exact settled.stands character front
      · exact parameters_stand special properties character back
    · rw [Bool.eq_false_iff]
      intro dot
      have free : ∀ text ∈ singleDots, ';' ∉ text.toList := by decide
      exact free _ (single_dot_iff.mp dot) semicolon
    · rw [Bool.eq_false_iff]
      intro dots
      have free : ∀ text ∈ doubleDots, ';' ∉ text.toList := by decide
      exact free _ (double_dot_iff.mp dots) semicolon

theorem with_suffix_snoc {url : Url} {front : List String} {last : String}
    (path : url.path = front ++ [last]) (suffix : String) :
    (url.withSuffix suffix).path = front ++ [last ++ suffix] := by
  unfold withSuffix
  rw [path, List.getLast?_concat]
  simp

theorem with_suffix_of_empty {url : Url} (none : url.path = []) (suffix : String) :
    (url.withSuffix suffix).path = if suffix.isEmpty then [] else [suffix] := by
  unfold withSuffix
  rw [none]
  simp only [List.getLast?_nil]
  split <;> simp [none]

theorem with_suffix_query (url : Url) (suffix : String) :
    (url.withSuffix suffix).query = url.query := by
  unfold withSuffix
  split
  · rfl
  · split <;> rfl

/-- Behind a path there is room for a suffix without a change to the path. -/
theorem with_suffix_characters {url : Url} (some : url.path ≠ []) (suffix : String) :
    (url.withSuffix suffix).pathText.toList = url.pathText.toList ++ suffix.toList := by
  rcases path_cases url.path with none | ⟨front, last, path⟩
  · exact absurd none some
  · rw [path_text_characters, path_text_characters, with_suffix_snoc path, path,
      path_characters_append, path_characters_append]
    simp [pathCharacters]

theorem with_suffix_settled {url : Url} (settled : SettledPath url.isSpecial url.path)
    (some : url.path ≠ []) (properties : Properties) :
    SettledPath url.isSpecial (url.withSuffix (parametersText properties)).path := by
  rcases path_cases url.path with none | ⟨front, last, path⟩
  · exact absurd none some
  · have fronts : AllSettled url.isSpecial front := by
      intro segment member
      exact settled.segments segment (by simp [path, member])
    have ending := settled.segments last (by simp [path])
    rw [with_suffix_snoc path]
    exact ⟨snoc_settled fronts (with_parameters_settled ending properties), by simp⟩

/-- The text of a settled path with parameters behind it, read as a path, keeps all segments and
has the parameters in the last one. -/
theorem segments_with_parameters {url : Url} (settled : SettledPath url.isSpecial url.path)
    (properties : Properties) :
    segments url.isSpecial (url.pathText ++ parametersText properties).toList =
      (url.withSuffix (parametersText properties)).path := by
  rcases path_cases url.path with none | ⟨front, last, path⟩
  · have rare : url.isSpecial = false := by
      rw [Bool.eq_false_iff]
      exact fun common => settled.begun common none
    have text : (url.pathText ++ parametersText properties).toList =
        (parametersText properties).toList := by
      rw [String.toList_append, path_text_characters, none]
      rfl
    rw [text, rare]
    rcases parameters_begin properties with nothing | ⟨rest, spelled⟩
    · simp [withSuffix, none, nothing, segments]
    · have filled : parametersText properties ≠ "" := by
        intro nothing
        simp [nothing] at spelled
      have alone := with_parameters_settled (empty_settled false) properties
      rw [String.empty_append] at alone
      have slash : '/' ∉ (parametersText properties).toList := by
        intro slash
        exact (parameters_stand false properties '/' slash).2.2.1 rfl
      have encoded := encoded_path_settled alone
      have read : segments false (parametersText properties).toList =
          resolve [] (((parametersText properties).toList.splitOn '/').map encodedPath) := by
        unfold segments
        rw [spelled]
        simp
      rw [read, List.splitOn_eq_singleton slash, List.map_singleton, encoded]
      simp [resolve, close, alone.single, alone.double, withSuffix, none, filled]
  · have filled : url.path ≠ [] := by simp [path]
    have text : (url.pathText ++ parametersText properties).toList =
        pathCharacters (url.withSuffix (parametersText properties)).path := by
      rw [← path_text_characters, with_suffix_characters filled, String.toList_append]
    rw [text]
    exact segments_of_path_characters (with_suffix_settled settled filled properties)

/-! ## Uploads -/

namespace Client

/-- The address of an upload before its properties are put behind it. -/
def plainUrl (client : Client) (upload : Upload) : Url :=
  client.base.append (upload.repository :: Path.pieces (Text.dropLeading '/' upload.path))

theorem upload_url_parts (client : Client) (upload : Upload) :
    client.uploadUrl upload =
      (client.plainUrl upload).withSuffix (parametersText upload.properties) := rfl

theorem plain_url_settled {client : Client}
    (settled : SettledPath client.base.isSpecial client.base.path) (upload : Upload) :
    SettledPath (client.plainUrl upload).isSpecial (client.plainUrl upload).path := by
  unfold plainUrl
  rw [append_special]
  exact append_settled settled _

/-- Whatever the path says, the segments stay behind the base and the repository. -/
theorem plain_url_in_repository {client : Client} {upload : Upload} (named : upload.repository ≠ "")
    (put : isPut upload.repository = true)
    (counts : ∀ character ∈ upload.repository.toList, Counts character)
    (base : client.base.path ≠ ["", ""])
    (stays : StaysBehind (Path.pieces (Text.dropLeading '/' upload.path))) :
    ∃ rest, (client.plainUrl upload).path =
      stem client.base.path ++ [encodeSegment client.base.isSpecial upload.repository] ++ rest := by
  have counted := counted_text_of_counts counts
  have climbs : countedText upload.repository ≠ ".." := by
    rw [counted]
    intro dots
    rw [dots] at put
    exact absurd put (by decide)
  have filled : encodeSegment client.base.isSpecial upload.repository ≠ "" := by
    intro empty
    exact named (counted.symm.trans (counted_of_encoded_empty empty))
  have first : extend client.base.isSpecial client.base.withoutFinalSlash.path upload.repository =
      stem client.base.path ++ [encodeSegment client.base.isSpecial upload.repository] := by
    rw [extend_of_put put, if_neg climbs, (opened_start client.base).1 base,
      placed_of_counted counted put]
  have lone : stem client.base.path ++ [encodeSegment client.base.isSpecial upload.repository] ≠
      [""] := by
    intro lone
    exact filled ((snoc_lone_iff _ _).mp lone).2
  obtain ⟨rest, spelled⟩ :=
    @stays_behind client.base.isSpecial _ (by simp) lone _ stays
  refine ⟨rest, ?_⟩
  unfold plainUrl
  rw [append_path, List.foldl_cons, first, spelled]

/-- Properties are read back from the parameters that are put behind the path, and the path in front
of them keeps its segments. It stays in the repository unless the name of the repository or the
first segment that is put loses tabs or line ends, or the base path is two slashes. -/
theorem uploads_stay_in_repository (endpoint : Endpoint) (settings : Settings) (client : Client)
    (made : ofSettings endpoint settings = .ok client) (upload : Upload) :
    let pieces := Path.pieces (Text.dropLeading '/' upload.path)
    let before := client.plainUrl upload
    let suffix := parametersText upload.properties
    let sent := client.uploadUrl upload
    (∀ text, decodeText? (encodeText isUnreserved text) = some text ∧
      Encoded isUnreserved (encodeText isUnreserved text).toList) ∧
    (readSegment suffix.toList = some ("", upload.properties.entries) ∧
      suffix.toList = parameterCharacters upload.properties.entries ∧
      KeysRise upload.properties.entries) ∧
    (before.path ≠ [] → sent.pathText = before.pathText ++ suffix) ∧
    segments before.isSpecial (before.pathText ++ suffix).toList = sent.path ∧
    (upload.repository ≠ "" → isPut upload.repository = true →
      (∀ character ∈ upload.repository.toList, Counts character) →
      client.base.pathText ≠ "//" → StaysBehind pieces →
      ∃ segment rest, sent.pathText.toList = baseText client.base ++ '/' :: (segment ++ rest) ∧
        decodeText? (String.ofList segment) = some upload.repository ∧ '/' ∉ segment ∧
        (rest = suffix.toList ∨ ∃ more, rest = '/' :: more)) := by
  intro pieces before suffix sent
  have settled := of_text_settled (of_settings_parts made).1
  have behind : before.path ≠ [] → sent.pathText.toList = before.pathText.toList ++ suffix.toList :=
    fun some => with_suffix_characters some suffix
  refine ⟨?_, ⟨?_, parameters_text_characters _, upload.properties.rising⟩, ?_, ?_, ?_⟩
  · exact fun text => ⟨decode_encode unreserved_percent text, encoded_text isUnreserved text⟩
  · have plain : ';' ∉ ([] : List Char) := List.not_mem_nil
    have read := read_segment_with_parameters plain upload.properties
    have nothing : decodeText? (String.ofList []) = some "" := by decide +kernel
    rw [nothing] at read
    exact read
  · intro some
    apply String.toList_inj.mp
    rw [behind some, String.toList_append]
  · exact segments_with_parameters (plain_url_settled settled upload) upload.properties
  · intro named put counts slashes stays
    have base : client.base.path ≠ ["", ""] := by
      intro both
      exact slashes (by unfold pathText; rw [both]; decide)
    obtain ⟨rest, path⟩ := plain_url_in_repository named put counts base stays
    refine ⟨(encodeSegment client.base.isSpecial upload.repository).toList,
      pathCharacters rest ++ suffix.toList, ?_, ?_, ?_, ?_⟩
    · have some : before.path ≠ [] := by simp [before, path]
      rw [behind some, path_text_characters, path, base_text_of_settled settled.segments,
        path_characters_append, path_characters_append]
      simp [pathCharacters]
    · rw [String.ofList_toList, decode_encode_segment, counted_text_of_counts counts]
    · intro slash
      exact (encode_segment_stands client.base.isSpecial _ '/' slash).2.2.1 rfl
    · rcases rest with _ | ⟨next, others⟩
      · exact .inl rfl
      · exact .inr ⟨_, by rw [pathCharacters, List.flatMap_cons, List.cons_append,
          List.cons_append]⟩

/-- A path with dots, a fragment, a query and an escape stays in its repository. -/
theorem odd_path_stays_in_repository :
    let endpoint : Endpoint := ⟨"http://repo.local/artifactory/", "", ""⟩
    let upload : Upload :=
      { path := "/../a#1?%2e%2e.jar", repository := "libs release", file := "a.jar"
        properties := .ofList [("vcs;rev", "a=b")] }
    ∃ client, ofSettings endpoint {} = .ok client ∧
      (client.uploadUrl upload).pathText =
        "/artifactory/libs%20release/a%231%3F%252e%252e.jar;vcs%3Brev=a%3Db" ∧
      ∃ segment rest, (client.uploadUrl upload).pathText.toList =
          baseText client.base ++ '/' :: (segment ++ rest) ∧
        decodeText? (String.ofList segment) = some "libs release" := by
  intro endpoint upload
  let client : Client :=
    { base := { scheme := "http", host := some (.domain "repo.local"), path := ["artifactory", ""] }
      username := "", password := "", retries := 3, relay := none }
  have made : ofSettings endpoint {} = .ok client := of_settings_without_proxy (by decide +kernel)
  obtain ⟨_, _, _, _, stays⟩ := uploads_stay_in_repository endpoint {} client made upload
  have counts :
      (upload.repository.toList.all fun character => decide (Counts character)) = true := by
    decide
  obtain ⟨segment, rest, spelled, decoded, _, _⟩ := stays (by decide) (by decide)
    (fun character member => of_decide_eq_true (List.all_eq_true.mp counts character member))
    (by decide) (by decide +kernel)
  exact ⟨client, made, by decide +kernel, segment, rest, spelled, decoded⟩

/-- A segment with a tab between two dots leads out of the repository. -/
theorem tab_between_dots_leaves_repository :
    let endpoint : Endpoint := ⟨"http://repo.local/artifactory", "", ""⟩
    let upload : Upload := { path := ".\t./secret/a.jar", repository := "libs", file := "a.jar" }
    ∃ client, ofSettings endpoint {} = .ok client ∧ upload.repository ≠ "" ∧
      isPut upload.repository = true ∧ client.base.path = ["artifactory"] ∧
      (client.uploadUrl upload).path = ["artifactory", "", "secret", "a.jar"] ∧
      ∀ segment ∈ (client.uploadUrl upload).path, decodeText? segment ≠ some upload.repository :=
  ⟨{ base := { scheme := "http", host := some (.domain "repo.local"), path := ["artifactory"] }
     username := "", password := "", retries := 3, relay := none },
    of_settings_without_proxy (by decide +kernel), by decide +kernel⟩

end Client

end Http

end BuildLedger
