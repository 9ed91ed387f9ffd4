import BuildLedger.Proofs.UntouchedFiles

/-!
# Writes and removals as updates of a table

To whoever looks at the files, a write is one insertion into a table and a removal is one erasure,
whatever happens to the operations that they are made of. A step that fails is no update at all. For
a write this takes that its scratch file can be discarded when it came to nothing. Where that is
refused too, the scratch file is all that is left.
-/
namespace BuildLedger

/-- What can be asked of a disk. -/
inductive FileStep where
  | write (path : Path) (content : ByteArray)
  | remove (path : Path)

namespace Disk

/-! ## Steps -/

/-- Take a step, and say whether it changed the file of its path. -/
def perform (step : FileStep) (disk : Disk) : Except DiskError Bool × Disk :=
  match step with
  | .write path content =>
      let (result, later) := disk.writeAtomically path content
      (result.map fun _ => true, later)
  | .remove path => disk.removeIfPresent path

/-- Take steps one after the other, each on the disk that the one before it left. -/
def performAll : List FileStep → Disk → List (Except DiskError Bool) × Disk
  | [], disk => ([], disk)
  | step :: rest, disk =>
      let (answer, later) := disk.perform step
      let (answers, last) := performAll rest later
      (answer :: answers, last)

/-- The update of a table of files that a step stands for. -/
def update (disk : Disk) (files : Keyed ByteArray) : FileStep → Keyed ByteArray
  | .write path content => files.insert (disk.goal path).key content
  | .remove path => files.erase (disk.goal path).key

/-- The update of a step that has an answer: none unless the step took effect. -/
def effect (disk : Disk) (files : Keyed ByteArray) :
    FileStep × Except DiskError Bool → Keyed ByteArray
  | (step, .ok true) => disk.update files step
  | _ => files

/-- A write that comes to nothing drops its scratch file, and the device removes a dropped one. That
removal is none of the operations that a write or a removal asks for itself, which are to make the
directories, to make the scratch file, to fill it, to rename it and to remove a file. It happens on
its own, and nobody learns how it ended. -/
def tidies (disk : Disk) : FileStep → Bool
  | .write path content =>
      match disk.draft path content with
      | ((_, none), _) => true
      | ((_, some pending), drafted) => (discard pending drafted).1.toBool
  | .remove _ => true

/-- Every step of a run tidies up on the disk that it finds. -/
def alwaysTidies : List FileStep → Disk → Bool
  | [], _ => true
  | step :: rest, disk => disk.tidies step && alwaysTidies rest (disk.perform step).2

theorem tidy_unstranded {disk later : Disk} {path : Path} {content : ByteArray}
    (tidy : disk.tidies (.write path content) = true) : ¬disk.Stranded path content later := by
  rintro ⟨_, pending, drafted, _, drafts, refused, _⟩
  simp only [tidies, drafts] at tidy
  cases discards : (discard pending drafted).1 with
  | ok => exact refused discards
  | error problem =>
      rw [discards] at tidy
      cases tidy

theorem effect_kept {disk later : Disk} (current : later.current = disk.current) :
    later.effect = disk.effect := by
  have updates : later.update = disk.update := by
    funext files step
    cases step <;> simp only [update, goal, current]
  funext files answered
  simp only [effect, updates]

theorem perform_effect {step : FileStep} {disk later : Disk} {answer : Except DiskError Bool}
    (done : disk.perform step = (answer, later)) (tidy : disk.tidies step = true) :
    later.current = disk.current ∧ later.files = disk.effect disk.files (step, answer) := by
  cases step with
  | write path content =>
      rcases writes : disk.writeAtomically path content with ⟨result, after⟩
      obtain ⟨current, outcome⟩ := write_cases writes
      simp only [perform, writes, Prod.mk.injEq] at done
      obtain ⟨rfl, rfl⟩ := done
      refine ⟨current, ?_⟩
      rcases outcome with ⟨rfl, files⟩ | ⟨⟨problem, rfl⟩, files | stranded⟩
      · exact files
      · exact files
      · exact absurd stranded (tidy_unstranded tidy)
  | remove path =>
      obtain ⟨current, _, ⟨rfl, _, files⟩ | ⟨kept, files, _⟩⟩ := remove_cases done
      · exact ⟨current, files⟩
      · refine ⟨current, ?_⟩
        unfold effect
        split
        · next same =>
          cases same
          exact absurd rfl kept
        · exact files

/-- The files after a run are those from before with the updates of the steps that took effect. -/
theorem run_effects (steps : List FileStep) (disk : Disk)
    (tidy : alwaysTidies steps disk = true) :
    (performAll steps disk).2.files =
      (steps.zip (performAll steps disk).1).foldl disk.effect disk.files := by
  induction steps generalizing disk with
  | nil => rfl
  | cons step rest ih =>
      rcases done : disk.perform step with ⟨answer, later⟩
      simp only [alwaysTidies, done, Bool.and_eq_true] at tidy
      obtain ⟨current, files⟩ := perform_effect done tidy.1
      simp only [performAll, done, List.zip_cons_cons, List.foldl_cons]
      -- No step moves the current directory, so the later steps update the same keys.
      rw [ih later tidy.2, effect_kept current, files]

/-! ## Single steps -/

theorem removed_iff (path : Path) (disk : Disk) :
    (disk.removeIfPresent path).1 = .ok true ↔
      (disk.fileAt path).isSome = true ∧ (disk.removeIfPresent path).2.fileAt path = none := by
  rcases done : disk.removeIfPresent path with ⟨result, later⟩
  obtain ⟨current, _, outcome⟩ := remove_cases done
  have leads : later.goal path = disk.goal path := by
    simp only [goal, current]
  simp only [fileAt, file?, leads] at outcome ⊢
  rcases outcome with ⟨rfl, there, files⟩ | ⟨kept, files, _⟩
  · have gone : later.files.get? (disk.goal path).key = none := by
      rw [files, Keyed.get_erase, if_pos rfl]
    simpa [gone] using there
  · constructor
    · exact fun removed => absurd removed kept
    · rintro ⟨there, gone⟩
      rw [files] at gone
      simp [gone] at there

/-- A write that succeeds puts its content at its path and changes no other file, and one that fails
changes no file unless its scratch file is stranded. A removal says that it removed a file exactly
when it did, and then no other file is changed. It says that nothing was there only where nothing
is, or where the device says so, and then nothing is changed, nor where it fails. So a run of such
steps is the run of the updates of those that took effect, if every step tidies up: a stranded
scratch file is in the table though no step put it there, and the steps after it would find it. -/
theorem file_steps_update_a_table (disk : Disk) :
    (∀ path content,
      let done := disk.writeAtomically path content
      (done.1 = .ok () → done.2.contentAt path = .ok content ∧
        done.2.files = disk.files.insert (disk.goal path).key content) ∧
      (done.1 ≠ .ok () → disk.tidies (.write path content) = true → done.2.files = disk.files) ∧
      (done.1 ≠ .ok () → done.2.files = disk.files ∨ disk.Stranded path content done.2)) ∧
    (∀ path,
      let done := disk.removeIfPresent path
      (done.1 = .ok true ↔ (disk.fileAt path).isSome = true ∧ done.2.fileAt path = none) ∧
      (done.1 = .ok true → done.2.files = disk.files.erase (disk.goal path).key) ∧
      (done.1 = .ok false → disk.disturbed.1 = some .notFound ∨ ¬disk.Holds path) ∧
      (done.1 ≠ .ok true → done.2.files = disk.files) ∧
      done.2.directories = disk.directories ∧ done.2.current = disk.current) ∧
    ∀ steps, alwaysTidies steps disk = true →
      (performAll steps disk).2.files =
        (steps.zip (performAll steps disk).1).foldl disk.effect disk.files := by
  refine ⟨?writes, ?removals, fun steps tidy => run_effects steps disk tidy⟩
  case writes =>
    intro path content done
    obtain ⟨_, ⟨success, files⟩ | ⟨⟨problem, failed⟩, outcome⟩⟩ := write_cases (Prod.eta done).symm
    · have held : done.2.contentAt path = .ok content := written_content (Prod.ext success rfl)
      exact ⟨fun _ => ⟨held, files⟩, fun failed => absurd success failed,
        fun failed => absurd success failed⟩
    · refine ⟨?_, ?_, fun _ => outcome⟩
      · intro success
        cases failed.symm.trans success
      · intro _ tidy
        exact outcome.resolve_right (tidy_unstranded tidy)
  case removals =>
    intro path done
    obtain ⟨current, directories, ⟨removed, _, files⟩ | ⟨kept, files, missing⟩⟩ :=
      remove_cases (Prod.eta done).symm
    · refine ⟨removed_iff path disk, fun _ => files, ?_, fun kept => absurd removed kept,
        directories, current⟩
      intro missing
      cases removed.symm.trans missing
    · exact ⟨removed_iff path disk, fun removed => absurd removed kept, missing, fun _ => files,
        directories, current⟩

/-- A rename that fails is no update, nor is the removal of a file that is missing. The run goes on
from the old files. -/
theorem failed_rename_is_no_update :
    let before : Keyed ByteArray := (∅ : Keyed ByteArray).insert "/kept" "old".toUTF8
    let disk : Disk := ⟨before, [], [], [none, none, some .busy]⟩
    let steps : List FileStep := [.write "kept" "new".toUTF8, .remove "missing",
      .write "deep/fresh" "text".toUTF8, .remove "kept"]
    alwaysTidies steps disk = true ∧
      (performAll steps disk).1.map (·.toOption) = [none, some false, some true, some true] ∧
      (performAll steps disk).2.files =
        (before.insert "/deep/fresh" "text".toUTF8).erase "/kept" := by
  intro before disk steps
  have tidy : alwaysTidies steps disk = true := by decide +kernel
  refine ⟨tidy, by decide +kernel, ?_⟩
  rw [(file_steps_update_a_table disk).2.2 steps tidy]
  decide +kernel

end Disk

end BuildLedger
