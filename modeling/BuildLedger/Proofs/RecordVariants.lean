import BuildLedger.Proofs.RecordRoundTrip
import BuildLedger.Proofs.TolerantCodecs

/-!
# Build records in other layouts

What may stand for a build record in JSON, field by field for each of its parts. Members come in any
order and with extensions among them, fields that hold their defaults may be left out, and those
without a value may be null. Every text of such a value is read as the record.
-/
namespace BuildLedger

open Codec Json

/-! ## Parts of a record -/

def Artifact.slots : List (Slot Artifact) := [
  .mandatory "name" Variants.text (·.name),
  .optional "type" Variants.text (·.kind),
  .optional "sha1" Variants.text (·.sha1),
  .optional "sha256" Variants.text (·.sha256),
  .optional "md5" Variants.text (·.md5),
  .optional "path" Variants.text (·.path)
]

def Dependency.slots : List (Slot Dependency) := [
  .mandatory "id" Variants.text (·.id),
  .optional "type" Variants.text (·.kind),
  .defaulted "scopes" (.list Variants.text) [] (·.scopes),
  .optional "sha1" Variants.text (·.sha1),
  .optional "sha256" Variants.text (·.sha256),
  .optional "md5" Variants.text (·.md5),
  .defaulted "requiredBy" (.list (.list Variants.text)) [] (·.requiredBy)
]

def Module.slots : List (Slot Module) := [
  .mandatory "id" Variants.text (·.id),
  .defaulted "properties" (.keyed Variants.text) ∅ (·.properties),
  .defaulted "dependencies" (.list (.record Dependency.slots)) [] (·.dependencies),
  .defaulted "artifacts" (.list (.record Artifact.slots)) [] (·.artifacts)
]

def Agent.slots : List (Slot Agent) := [
  .mandatory "name" Variants.text (·.name),
  .mandatory "version" Variants.text (·.version)
]

def Record.slots : List (Slot Record) := [
  .defaulted "version" Variants.text "1.0.1" (·.version),
  .mandatory "name" Variants.text (·.name),
  .mandatory "number" Variants.text (·.number),
  .mandatory "started" Variants.text (·.started),
  .defaulted "durationMillis" Variants.word64 0 (·.durationMillis),
  .optional "agent" (.record Agent.slots) (·.agent),
  .optional "url" Variants.text (·.url),
  .optional "principal" Variants.text (·.principal),
  .defaulted "properties" (.keyed Variants.text) ∅ (·.properties),
  .optional "vcsRevision" Variants.text (·.vcsRevision),
  .optional "vcsUrl" Variants.text (·.vcsUrl),
  .defaulted "incremental" Variants.flag false (·.incremental),
  .defaulted "modules" (.list (.record Module.slots)) [] (·.modules)
]

theorem named_tolerant : Tolerant named (.keyed Variants.text) := keyed_tolerant text_tolerant

theorem artifact_tolerant : Tolerant Artifact.codec (.record Artifact.slots) := by
  refine record_tolerant (.cons (mandatory_suits text_tolerant) <|
    .cons (optional_suits text_tolerant) <| .cons (optional_suits text_tolerant) <|
    .cons (optional_suits text_tolerant) <| .cons (optional_suits text_tolerant) <|
    .cons (optional_suits text_tolerant) .nil) (by decide) ?_
  rintro artifact entries ⟨name, kind, sha1, sha256, md5, path, -⟩
  rw [name, kind, sha1, sha256, md5, path]
  rfl

theorem dependency_tolerant : Tolerant Dependency.codec (.record Dependency.slots) := by
  have texts := list_tolerant text_tolerant
  have chains := list_tolerant texts
  refine record_tolerant (.cons (mandatory_suits text_tolerant) <|
    .cons (optional_suits text_tolerant) <|
    .cons (unless_suits texts fun _ => List.isEmpty_iff.mp) <|
    .cons (optional_suits text_tolerant) <| .cons (optional_suits text_tolerant) <|
    .cons (optional_suits text_tolerant) <|
    .cons (unless_suits chains fun _ => List.isEmpty_iff.mp) .nil) (by decide) ?_
  rintro dependency entries ⟨id, kind, scopes, sha1, sha256, md5, requiredBy, -⟩
  rw [id, kind, scopes, sha1, sha256, md5, requiredBy]
  rfl

theorem module_tolerant : Tolerant Module.codec (.record Module.slots) := by
  refine record_tolerant (.cons (mandatory_suits text_tolerant) <|
    .cons (unless_suits named_tolerant empty_of_is_empty) <|
    .cons (defaulted_suits (list_tolerant dependency_tolerant)) <|
    .cons (defaulted_suits (list_tolerant artifact_tolerant)) .nil) (by decide) ?_
  rintro part entries ⟨id, properties, dependencies, artifacts, -⟩
  rw [id, properties, dependencies, artifacts]
  rfl

theorem agent_tolerant : Tolerant Agent.codec (.record Agent.slots) := by
  refine record_tolerant (.cons (mandatory_suits text_tolerant) <|
    .cons (mandatory_suits text_tolerant) .nil) (by decide) ?_
  rintro agent entries ⟨name, version, -⟩
  rw [name, version]
  rfl

namespace Record

theorem codec_tolerant : Tolerant codec (.record slots) := by
  refine record_tolerant (.cons (defaulted_suits text_tolerant) <|
    .cons (mandatory_suits text_tolerant) <| .cons (mandatory_suits text_tolerant) <|
    .cons (mandatory_suits text_tolerant) <| .cons (defaulted_suits word64_tolerant) <|
    .cons (optional_suits agent_tolerant) <| .cons (optional_suits text_tolerant) <|
    .cons (optional_suits text_tolerant) <| .cons (defaulted_suits named_tolerant) <|
    .cons (optional_suits text_tolerant) <| .cons (optional_suits text_tolerant) <|
    .cons (unless_suits flag_tolerant fun _ => by simp) <|
    .cons (defaulted_suits (list_tolerant module_tolerant)) .nil) (by decide) ?_
  rintro record entries ⟨version, name, number, started, duration, agent, url, principal,
    properties, vcsRevision, vcsUrl, incremental, modules, -⟩
  rw [formatVersion, version, name, number, started, duration, agent, url, principal, properties,
    vcsRevision, vcsUrl, incremental, modules]
  rfl

/-- A record is read from its own text and from every other text of a value that stands for it; a
text in which any part of a record has one of its fields twice is not read at all. -/
theorem read_from_any_layout (record : Record) :
    (∃ characters, record.text = String.ofList characters ∧
      Spells (.value (ofTree (codec.encode record))) characters) ∧
    Variants.record slots record (ofTree (codec.encode record)) ∧
    ∀ json characters space, Spells (.value json) characters → Space space →
      (Variants.record slots record json →
        parse codec (String.ofList (characters ++ space)) = .ok record) ∧
      (Repeats codec.shape json →
        ∃ problem, parse codec (String.ofList (characters ++ space)) = .error problem) := by
  refine ⟨⟨_, rfl, ?_⟩, codec_tolerant.written record, ?_⟩
  · exact write_spelled .indented 0 (codec.encode record) [] no_space
  · intro json characters space spelled blank
    exact ⟨fun variant => codec_tolerant.parse variant spelled blank,
      fun repeated => parse_repeated codec repeated spelled blank⟩

/-- Fields out of order, an agent that is null, defaults left out, a member that no record has and
space all around; beside it an agent with two names. -/
theorem swapped_fields_are_read :
    let swapped := " \x7b\"number\":\"7\",\"name\":\"app\",\"started\":\"now\"," ++
      "\"agent\":null,\"x\":[\x7b\x7d]\x7d\n"
    let doubled := "\x7b\"name\":\"app\",\"agent\":" ++
      "\x7b\"name\":\"a\",\"version\":\"1\",\"name\":\"a\"\x7d\x7d"
    parse codec swapped = .ok { name := "app", number := "7", started := "now" } ∧
      ∃ problem, parse codec doubled = .error problem := by
  intro swappedText doubledText
  let record : Record := { name := "app", number := "7", started := "now" }
  let swapped : Tree := .table [("number", .text "7"), ("name", .text "app"),
    ("started", .text "now"), ("agent", .null), ("x", .list [.table []])]
  let agent : Tree := .table [("name", .text "a"), ("version", .text "1"), ("name", .text "a")]
  let doubled : Tree := .table [("name", .text "app"), ("agent", agent)]
  have blank : Space [' '] := by simp [Space, isSpace]
  have ending : Space ['\n'] := by simp [Space, isSpace]
  have layouts := (read_from_any_layout record).2.2
  have extended : Extension slots (.ok "x", ofTree (.list [.table []])) :=
    ⟨⟨"x", rfl, by decide⟩, _, write_spelled .compact 0 (.list [.table []]) [] no_space⟩
  have variant : Variants.record slots record (ofTree swapped) := by
    refine ⟨_, [(.ok "name", .text "app"), (.ok "number", .text "7"), (.ok "started", .text "now"),
      (.ok "agent", .null)], [_], rfl, .swap _ _ _, ?_, List.forall_mem_singleton.mpr extended⟩
    exact .omitted rfl <| .given rfl <| .given rfl <| .given rfl <| .omitted rfl <| .given rfl <|
      .omitted rfl <| .omitted rfl <| .omitted rfl <| .omitted rfl <| .omitted rfl <|
      .omitted rfl <| .omitted rfl .nil
  have inside : Repeats Agent.codec.shape (ofTree agent) :=
    .twice (show (Fields.find? "name" _).isSome from rfl)
      (show 1 < (valuesAt "name" _).length by decide)
  have repeated : Repeats codec.shape (ofTree doubled) :=
    .field (show Fields.find? "agent" _ = some _ from rfl)
      (List.mem_cons_of_mem _ List.mem_cons_self) (.given inside)
  have read := (layouts _ _ _ (write_spelled .compact 0 swapped [' '] blank) ending).1 variant
  have failed := (layouts _ _ _ (write_spelled .compact 0 doubled [] no_space) no_space).2 repeated
  exact ⟨read, failed⟩

end Record

end BuildLedger
