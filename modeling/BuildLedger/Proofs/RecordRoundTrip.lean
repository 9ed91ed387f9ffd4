import BuildLedger.Proofs.SavedFiles

/-!
# Build records through text and files

Each part of a record has a lawful codec: what is left out of the text is what the reader puts in
its place. So a record comes back from its text as it was, with every list in its order, and from
any file that it was saved to.
-/
namespace BuildLedger

open Codec

/-! ## Parts of a record -/

theorem empty_of_is_empty {Value : Type} (table : Keyed Value) (empty : table.isEmpty = true) :
    table = ∅ := by
  obtain ⟨entries, rising⟩ := table
  cases entries with
  | nil => rfl
  | cons entry entries => cases empty

theorem named_lawful : named.Lawful := keyed_lawful text_lawful

theorem artifact_lawful : Artifact.codec.Lawful := by
  apply record_lawful
  · decide
  · simp only [List.forall_mem_cons]
    exact ⟨mandatory_sound text_lawful, optional_sound text_lawful, optional_sound text_lawful,
      optional_sound text_lawful, optional_sound text_lawful, optional_sound text_lawful, nofun⟩
  · intro artifact entries written
    simp only [List.forall_mem_cons, mandatory_name, optional_name] at written
    obtain ⟨name, kind, sha1, sha256, md5, path, _⟩ := written
    rw [require_written text_lawful name, maybe_written text_lawful kind,
      maybe_written text_lawful sha1, maybe_written text_lawful sha256,
      maybe_written text_lawful md5, maybe_written text_lawful path]
    rfl

theorem dependency_lawful : Dependency.codec.Lawful := by
  have texts := list_lawful text_lawful
  have chains := list_lawful texts
  apply record_lawful
  · decide
  · simp only [List.forall_mem_cons]
    exact ⟨mandatory_sound text_lawful, optional_sound text_lawful, written_unless_sound texts,
      optional_sound text_lawful, optional_sound text_lawful, optional_sound text_lawful,
      written_unless_sound chains, nofun⟩
  · intro dependency entries written
    simp only [List.forall_mem_cons, mandatory_name, optional_name, written_unless_name] at written
    obtain ⟨id, kind, scopes, sha1, sha256, md5, requiredBy, _⟩ := written
    rw [require_written text_lawful id, maybe_written text_lawful kind,
      fallback_unless texts (fun _ => List.isEmpty_iff.mp) scopes,
      maybe_written text_lawful sha1, maybe_written text_lawful sha256,
      maybe_written text_lawful md5,
      fallback_unless chains (fun _ => List.isEmpty_iff.mp) requiredBy]
    rfl

theorem module_lawful : Module.codec.Lawful := by
  have dependencyList := list_lawful dependency_lawful
  have artifactList := list_lawful artifact_lawful
  apply record_lawful
  · decide
  · simp only [List.forall_mem_cons]
    exact ⟨mandatory_sound text_lawful, written_unless_sound named_lawful,
      defaulted_sound dependencyList, defaulted_sound artifactList, nofun⟩
  · intro part entries written
    simp only [List.forall_mem_cons, mandatory_name, written_unless_name, defaulted_name] at written
    obtain ⟨id, properties, dependencies, artifacts, _⟩ := written
    rw [require_written text_lawful id,
      fallback_unless named_lawful empty_of_is_empty properties,
      fallback_written dependencyList dependencies, fallback_written artifactList artifacts]
    rfl

theorem agent_lawful : Agent.codec.Lawful := by
  apply record_lawful
  · decide
  · simp only [List.forall_mem_cons]
    exact ⟨mandatory_sound text_lawful, mandatory_sound text_lawful, nofun⟩
  · intro agent entries written
    simp only [List.forall_mem_cons, mandatory_name] at written
    obtain ⟨name, version, _⟩ := written
    rw [require_written text_lawful name, require_written text_lawful version]
    rfl

namespace Record

theorem codec_lawful : codec.Lawful := by
  have moduleList := list_lawful module_lawful
  apply record_lawful
  · decide
  · simp only [List.forall_mem_cons]
    exact ⟨defaulted_sound text_lawful, mandatory_sound text_lawful, mandatory_sound text_lawful,
      mandatory_sound text_lawful, defaulted_sound word64_lawful, optional_sound agent_lawful,
      optional_sound text_lawful, optional_sound text_lawful, defaulted_sound named_lawful,
      optional_sound text_lawful, optional_sound text_lawful, written_unless_sound flag_lawful,
      defaulted_sound moduleList, nofun⟩
  · intro record entries written
    simp only [List.forall_mem_cons, defaulted_name, mandatory_name, optional_name,
      written_unless_name] at written
    obtain ⟨version, name, number, started, duration, agent, url, principal, properties,
      vcsRevision, vcsUrl, incremental, modules, _⟩ := written
    rw [fallback_written text_lawful version, require_written text_lawful name,
      require_written text_lawful number, require_written text_lawful started,
      fallback_written word64_lawful duration, maybe_written agent_lawful agent,
      maybe_written text_lawful url, maybe_written text_lawful principal,
      fallback_written named_lawful properties, maybe_written text_lawful vcsRevision,
      maybe_written text_lawful vcsUrl,
      fallback_unless flag_lawful (fun _ => by simp) incremental,
      fallback_written moduleList modules]
    rfl

/-- A record comes back from its text and from its file, and its text with it. -/
theorem record_round_trip (record : Record) :
    Json.parse codec record.text = .ok record ∧
      (∀ again, Json.parse codec record.text = .ok again → again.text = record.text) ∧
      ∀ path disk later, record.save path disk = (.ok (), later) →
        later.textAt path = .ok record.text ∧ load path later = .ok record := by
  have parsed : Json.parse codec record.text = .ok record :=
    Json.parse_written codec_lawful .indented record
  refine ⟨parsed, ?_, ?_⟩
  · intro again read
    rw [parsed] at read
    rw [Except.ok.inj read]
  · intro path disk later done
    exact ⟨Disk.written_text (Disk.save_done done), Disk.load_saved codec_lawful done⟩

/-- Escaped characters and the longest duration, saved beside nothing else. -/
theorem escaped_record_is_loaded :
    let record : Record := {
      name := "a \"quoted\" \\ name\n\x01é"
      number := "7"
      started := "2024-01-01T00:00:00.000+0000"
      durationMillis := 18446744073709551615
      modules := [{ id := "m", dependencies := [{ id := "d", requiredBy := [["p", "q"], []] }] }] }
    ∃ later, record.save "build.json" (Disk.blank ["work"]) = (.ok (), later) ∧
      load "build.json" later = .ok record := by
  intro record
  have saved : record.save "build.json" (Disk.blank ["work"]) = (.ok (), _) := rfl
  exact ⟨_, saved, ((record_round_trip record).2.2 _ _ _ saved).2⟩

end Record

end BuildLedger
