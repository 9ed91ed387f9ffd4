import BuildLedger.Proofs.RecordRoundTrip

/-!
# Manifests through text and files

An upload is written with all of its fields; of its checksums those that are missing are left out
and read back as missing. Nothing in an upload can keep its manifest from being saved, and nothing
is collapsed: the same path may come twice.
-/
namespace BuildLedger

open Codec

theorem checksums_lawful : Checksums.codec.Lawful := by
  apply record_lawful
  · decide
  · simp only [List.forall_mem_cons]
    exact ⟨optional_sound text_lawful, optional_sound text_lawful, optional_sound text_lawful, nofun⟩
  · intro checksums entries written
    simp only [List.forall_mem_cons, optional_name] at written
    obtain ⟨sha1, md5, sha256, _⟩ := written
    rw [maybe_written text_lawful sha1, maybe_written text_lawful md5,
      maybe_written text_lawful sha256]
    rfl

theorem upload_lawful : Upload.codec.Lawful := by
  apply record_lawful
  · decide
  · simp only [List.forall_mem_cons]
    exact ⟨mandatory_sound text_lawful, mandatory_sound text_lawful,
      defaulted_sound checksums_lawful, defaulted_sound named_lawful,
      mandatory_sound path_lawful, nofun⟩
  · intro upload entries written
    simp only [List.forall_mem_cons, mandatory_name, defaulted_name] at written
    obtain ⟨path, repository, checksums, properties, file, _⟩ := written
    rw [require_written text_lawful path, require_written text_lawful repository,
      fallback_written checksums_lawful checksums, fallback_written named_lawful properties,
      require_written path_lawful file]
    rfl

namespace Manifest

theorem uploads_lawful : codec.Lawful := list_lawful upload_lawful

/-- Where a file can be written any manifest is saved and loaded as it was, and where none can be
written the reason is told. -/
theorem manifest_round_trip (manifest : Manifest) (path : Path) (disk : Disk) :
    Json.parse codec (Json.indented (codec.encode manifest)) = .ok manifest ∧
      (disk.Takes path → ∃ later,
        manifest.save path disk = (.ok (), later) ∧ load path later = .ok manifest) ∧
      (¬disk.Takes path → ∃ cause, (manifest.save path disk).1 = .error (.writing path cause)) := by
  constructor
  · exact Json.parse_written uploads_lawful .indented manifest
  constructor
  · intro takes
    have saved : (manifest.save path disk).1 = .ok () :=
      (Disk.save_succeeds_iff codec manifest path disk).mpr takes
    have done : disk.save codec manifest path = (.ok (), (manifest.save path disk).2) :=
      Prod.ext saved rfl
    exact ⟨_, done, Disk.load_saved uploads_lawful done⟩
  · intro refused
    have result := Disk.save_result codec manifest path disk
    unfold Disk.Takes at refused
    cases written : (disk.writeAtomically path ByteArray.empty).1 with
    | ok value => exact absurd written refused
    | error cause =>
        rw [written] at result
        exact ⟨cause, result⟩

/-- Two copies of one path and every kind of checksum, in a directory that is made first. -/
theorem repeated_paths_are_loaded :
    let manifest : Manifest := [
      { path := "a/\"x\".jar", repository := "libs", file := "out/é\n.jar"
        checksums := { sha1 := some "", sha256 := some "f\\f" } },
      { path := "", repository := "\x01", file := "/"
        checksums := { md5 := some "0" }
        properties := Keyed.ofList [("k;=", "v\t"), ("", "日")] },
      { path := "a/\"x\".jar", repository := "libs", file := "other" }]
    (Disk.blank ["work"]).Takes "out/uploads.json" ∧
      ∃ later, manifest.save "out/uploads.json" (Disk.blank ["work"]) = (.ok (), later) ∧
        load "out/uploads.json" later = .ok manifest := by
  intro manifest
  have takes : (Disk.blank ["work"]).Takes "out/uploads.json" := rfl
  exact ⟨takes, (manifest_round_trip manifest _ _).2.1 takes⟩

end Manifest

end BuildLedger
