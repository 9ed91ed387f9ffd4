import BuildLedger.Disk
import BuildLedger.Proofs.TableLookup
import Mathlib.Tactic.SplitIfs

/-!
# What an atomic write leaves to be read

Where a path leads is decided by the directories alone. Moving the finished file into place changes
no directory, so after a write the path still leads to the place that was written.
-/
namespace BuildLedger.Disk

/-- A step that succeeds was not disturbed, and its action did what it says. -/
theorem step_done {Value : Type} {action : Disk → Except DiskError (Value × Disk)}
    {disk later : Disk} {value : Value} (done : step action disk = (.ok value, later)) :
    action disk.disturbed.2 = .ok (value, later) := by
  unfold step at done
  rcases disturbance : disk.disturbed with ⟨problem, calm⟩
  rw [disturbance] at done
  cases problem with
  | some problem => cases done
  | none =>
      cases result : action calm with
      | error problem => simp [result] at done
      | ok pair => simpa [result, Prod.ext_iff] using done

@[simp] theorem disturbed_files (disk : Disk) : disk.disturbed.2.files = disk.files := by
  unfold disturbed
  split <;> rfl

/-! ## Places -/

section Places

variable {disk later : Disk} (directories : later.directories = disk.directories)

include directories

theorem has_directory_kept (place : Place) :
    later.hasDirectory place = disk.hasDirectory place := by
  simp only [hasDirectory, directories]

/-- Files only decide why a walk fails. -/
theorem walk_kept {pieces : List String} {place : Place} {target : Target}
    (found : disk.walk place pieces = .ok target) : later.walk place pieces = .ok target := by
  induction pieces generalizing place with
  | nil => exact found
  | cons piece rest ih =>
      unfold walk at found ⊢
      dsimp only at found ⊢
      rw [has_directory_kept directories]
      -- Only branches that go on or have arrived are left: the others contradict `found`.
      split_ifs at found ⊢
      all_goals first | exact ih found | exact found

theorem locate_kept (current : later.current = disk.current) {path : Path} {target : Target}
    (found : disk.locate path = .ok target) : later.locate path = .ok target := by
  unfold locate at found ⊢
  rw [current]
  split_ifs at found ⊢
  all_goals exact walk_kept directories found

end Places

/-! ## Writing -/

theorem fill_done {place : Place} {content : ByteArray} {disk later : Disk}
    (done : fill place content disk = (.ok (), later)) : later.file? place = some content := by
  have result := step_done done
  simp only [Except.ok.injEq, Prod.mk.injEq, true_and] at result
  rw [← result, file?, Keyed.get_insert, if_pos rfl]

/-- The pending file has taken the path's name in its directory. -/
theorem settle_done {pending : Place} {path : Path} {disk later : Disk}
    (done : settle pending path disk = (.ok (), later)) :
    ∃ parent name content, disk.file? pending = some content ∧
      later.locate path = .ok (.entry parent name false) ∧
      later.hasDirectory (parent ++ [name]) = false ∧
      later.file? (parent ++ [name]) = some content := by
  have result := step_done done
  cases found : disk.disturbed.2.locate path with
  | error problem => simp [found] at result
  | ok target =>
      cases target with
      | directory place => simp [found] at result
      | entry parent name slash =>
          simp only [found] at result
          split_ifs at result with ending taken missing
          cases held : disk.disturbed.2.file? pending with
          | none => simp [held] at result
          | some content =>
              simp only [held, Except.ok.injEq, Prod.mk.injEq, true_and] at result
              have unslashed : slash = false := Bool.eq_false_iff.mpr ending
              have directories : later.directories = disk.disturbed.2.directories := by
                rw [← result]
              have current : later.current = disk.disturbed.2.current := by
                rw [← result]
              refine ⟨parent, name, content, ?_, ?_, ?_, ?_⟩
              · simpa [file?] using held
              · rw [← unslashed]
                exact locate_kept directories current found
              · rw [has_directory_kept directories]
                exact Bool.eq_false_iff.mpr taken
              · rw [← result, file?, Keyed.get_insert, if_pos rfl]

/-- After a write that succeeds, the path has the content that was written. -/
theorem written_content {path : Path} {content : ByteArray} {disk later : Disk}
    (done : disk.writeAtomically path content = (.ok (), later)) :
    later.contentAt path = .ok content := by
  unfold writeAtomically at done
  split at done
  · cases done
  split at done
  · cases done
  split at done
  · cases done
  · next pending started _ _ filled fillDone =>
    split at done
    · cases done
    · next settled settleDone =>
      cases done
      obtain ⟨parent, name, held, pendingHeld, located, notDirectory, placed⟩ :=
        settle_done settleDone
      have same : held = content := by
        rw [fill_done fillDone] at pendingHeld
        exact (Option.some.inj pendingHeld).symm
      simp [contentAt, located, Target.place, notDirectory, placed, same]

/-- A text is read back from its bytes. -/
theorem written_text {path : Path} {text : String} {disk later : Disk}
    (done : disk.writeAtomically path text.toUTF8 = (.ok (), later)) :
    later.textAt path = .ok text := by
  have decoded : String.fromUTF8? text.toUTF8 = some text := dif_pos text.isValidUTF8
  simp only [textAt, written_content done, decoded]

end BuildLedger.Disk
