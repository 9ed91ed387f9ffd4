import BuildLedger.Proofs.AtomicWrite
import BuildLedger.Proofs.CarriedTrees
import BuildLedger.Proofs.RecordRoundTrip
import BuildLedger.Settings.File

/-!
# Settings through field trees and files

Each section of the settings has a lawful codec: a field is left out only with the value that the
reader puts in its place. So a list that is empty stays apart from a list that is missing, a switch
that was turned off stays off, and a section whose fields all have their defaults is still there.
About the YAML text only one thing is assumed where it is mentioned: that the text written for some
settings reads as a document with the tree it was written from.
-/
namespace BuildLedger

open Codec

theorem publisher_lawful : Publisher.codec.Lawful := by
  have texts := list_lawful text_lawful
  apply record_lawful
  · decide
  · simp only [List.forall_mem_cons]
    exact ⟨optional_sound text_lawful, optional_sound text_lawful, optional_sound text_lawful,
      optional_sound text_lawful, defaulted_sound texts, defaulted_sound texts,
      defaulted_sound flag_lawful, defaulted_sound flag_lawful, written_unless_sound named_lawful,
      nofun⟩
  · intro publisher entries written
    simp only [List.forall_mem_cons, optional_name, defaulted_name, written_unless_name] at written
    obtain ⟨contextUrl, username, password, repoKey, includePatterns, excludePatterns,
      publishArtifacts, publishBuildInfo, properties, _⟩ := written
    rw [maybe_written text_lawful contextUrl, maybe_written text_lawful username,
      maybe_written text_lawful password, maybe_written text_lawful repoKey,
      fallback_written texts includePatterns, fallback_written texts excludePatterns,
      fallback_written flag_lawful publishArtifacts, fallback_written flag_lawful publishBuildInfo,
      fallback_unless named_lawful empty_of_is_empty properties]
    rfl

theorem proxy_lawful : Proxy.codec.Lawful := by
  apply record_lawful
  · decide
  · simp only [List.forall_mem_cons]
    exact ⟨optional_sound text_lawful, optional_sound word16_lawful, optional_sound text_lawful,
      optional_sound text_lawful, nofun⟩
  · intro proxy entries written
    simp only [List.forall_mem_cons, optional_name] at written
    obtain ⟨host, port, username, password, _⟩ := written
    rw [maybe_written text_lawful host, maybe_written word16_lawful port,
      maybe_written text_lawful username, maybe_written text_lawful password]
    rfl

theorem retention_lawful : Retention.codec.Lawful := by
  have texts := list_lawful text_lawful
  apply record_lawful
  · decide
  · simp only [List.forall_mem_cons]
    exact ⟨optional_sound word32_lawful, optional_sound word32_lawful, defaulted_sound flag_lawful,
      written_unless_sound texts, defaulted_sound flag_lawful, nofun⟩
  · intro retention entries written
    simp only [List.forall_mem_cons, optional_name, defaulted_name, written_unless_name] at written
    obtain ⟨maxBuilds, maxDays, deleteBuildArtifacts, excludeBuilds, inBackground, _⟩ := written
    rw [maybe_written word32_lawful maxBuilds, maybe_written word32_lawful maxDays,
      fallback_written flag_lawful deleteBuildArtifacts,
      fallback_unless texts (fun _ => List.isEmpty_iff.mp) excludeBuilds,
      fallback_written flag_lawful inBackground]
    rfl

theorem build_settings_lawful : BuildSettings.codec.Lawful := by
  apply record_lawful
  · decide
  · simp only [List.forall_mem_cons]
    exact ⟨optional_sound text_lawful, optional_sound text_lawful, optional_sound agent_lawful,
      optional_sound text_lawful, optional_sound text_lawful, optional_sound text_lawful,
      optional_sound text_lawful, defaulted_sound flag_lawful, optional_sound path_lawful,
      optional_sound path_lawful, optional_sound path_lawful, optional_sound retention_lawful,
      nofun⟩
  · intro build entries written
    simp only [List.forall_mem_cons, optional_name, defaulted_name] at written
    obtain ⟨name, number, agent, url, principal, vcsRevision, vcsUrl, incremental, exportFile,
      buildInfoOutput, deployManifestOutput, retention, _⟩ := written
    rw [maybe_written text_lawful name, maybe_written text_lawful number,
      maybe_written agent_lawful agent, maybe_written text_lawful url,
      maybe_written text_lawful principal, maybe_written text_lawful vcsRevision,
      maybe_written text_lawful vcsUrl, fallback_written flag_lawful incremental,
      maybe_written path_lawful exportFile, maybe_written path_lawful buildInfoOutput,
      maybe_written path_lawful deployManifestOutput, maybe_written retention_lawful retention]
    rfl

/-- An empty list of patterns is written, so it is not taken for a missing one. -/
theorem unit_settings_lawful : UnitSettings.codec.Lawful := by
  have texts := list_lawful text_lawful
  apply record_lawful
  · decide
  · simp only [List.forall_mem_cons]
    exact ⟨optional_sound texts, optional_sound texts, optional_sound flag_lawful,
      written_unless_sound named_lawful, nofun⟩
  · intro own entries written
    simp only [List.forall_mem_cons, optional_name, written_unless_name] at written
    obtain ⟨includePatterns, excludePatterns, publishArtifacts, properties, _⟩ := written
    rw [maybe_written texts includePatterns, maybe_written texts excludePatterns,
      maybe_written flag_lawful publishArtifacts,
      fallback_unless named_lawful empty_of_is_empty properties]
    rfl

theorem failure_policy_lawful : FailurePolicy.codec.Lawful where
  admitted policy := .choice (by cases policy <;> decide)
  decoded policy := by cases policy <;> rfl
  present _ := Tree.noConfusion

namespace Settings

theorem settings_lawful : codec.Lawful := by
  have overrides := keyed_lawful unit_settings_lawful
  apply record_lawful
  · decide
  · simp only [List.forall_mem_cons]
    exact ⟨defaulted_sound publisher_lawful, defaulted_sound proxy_lawful,
      optional_sound word64_lawful, optional_sound word32_lawful,
      defaulted_sound build_settings_lawful, written_unless_sound overrides,
      defaulted_sound failure_policy_lawful, optional_sound path_lawful, nofun⟩
  · intro settings entries written
    simp only [List.forall_mem_cons, defaulted_name, optional_name, written_unless_name] at written
    obtain ⟨publisher, proxy, timeoutSeconds, connectionRetries, build, modules, failurePolicy,
      propsFile, _⟩ := written
    rw [fallback_written publisher_lawful publisher, fallback_written proxy_lawful proxy,
      maybe_written word64_lawful timeoutSeconds, maybe_written word32_lawful connectionRetries,
      fallback_written build_settings_lawful build,
      fallback_unless overrides empty_of_is_empty modules,
      fallback_written failure_policy_lawful failurePolicy, maybe_written path_lawful propsFile]
    rfl

/-- The text of some settings reads as one document with the tree it was written from. -/
structure ReadsAsWritten (settings : Settings) : Prop where
  carried : Yaml.carries (Yaml.Document.ofText settings.text).root (codec.encode settings) = true
  sound : (Yaml.Document.ofText settings.text).fault = none

theorem of_text_written {settings : Settings} (reads : ReadsAsWritten settings) :
    ofText settings.text = .ok settings := by
  have fitted := Yaml.fit_carried (Yaml.Document.ofText settings.text).anchored?
    (settings_lawful.admitted settings) reads.carried "" ""
  have tree : Yaml.parseTree codec.shape settings.text = .ok (codec.encode settings) := by
    simp only [Yaml.parseTree, fitted, reads.sound]
  simp only [ofText, Yaml.parse, tree, settings_lawful.decoded]

theorem saved_text {settings : Settings} {path : Path} {disk later : Disk}
    (done : settings.save path disk = (.ok (), later)) :
    later.textAt path = .ok settings.text := by
  unfold save at done
  split at done
  · next written =>
    cases done
    exact Disk.written_text written
  · cases done

/-- The tree that is written for any settings has the shape that is read, and these settings come
back from it; and so they do from their file, if its text reads as that tree. -/
theorem settings_round_trip (settings : Settings) :
    codec.shape.Admits (codec.encode settings) ∧
      codec.decode (codec.encode settings) = some settings ∧
      ∀ path disk later, settings.save path disk = (.ok (), later) →
        ReadsAsWritten settings → load path later = .ok settings := by
  refine ⟨settings_lawful.admitted settings, settings_lawful.decoded settings, ?_⟩
  intro path disk later done reads
  rw [load, saved_text done]
  exact of_text_written reads

/-- Switches that are off, a section with nothing but defaults, and an override of a unit whose name
is spelled like a missing value: one of its lists is empty, and one is missing. -/
theorem switched_off_settings_are_loaded :
    let settings : Settings := {
      publisher := { publishArtifacts := false, publishBuildInfo := false }
      build := { retention := some {} }
      modules := Keyed.ofList [("null", { includePatterns := some [] })]
      failurePolicy := .carryOn }
    ReadsAsWritten settings ∧
      ∃ later, settings.save "publish.yaml" (Disk.blank ["work"]) = (.ok (), later) ∧
        load "publish.yaml" later = .ok settings := by
  intro settings
  have read : Yaml.carries (Yaml.Document.ofText settings.text).root (codec.encode settings) =
        true ∧ (Yaml.Document.ofText settings.text).fault = none := by
    decide +kernel
  have reads : ReadsAsWritten settings := ⟨read.1, read.2⟩
  have saved : settings.save "publish.yaml" (Disk.blank ["work"]) = (.ok (), _) := rfl
  exact ⟨reads, _, saved, (settings_round_trip settings).2.2 _ _ _ saved reads⟩

end Settings

end BuildLedger
