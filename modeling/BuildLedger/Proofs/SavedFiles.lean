import BuildLedger.Export
import BuildLedger.Proofs.AtomicWrite
import BuildLedger.Proofs.JsonRoundTrip

/-!
# Values in files

Whether a file can be written is decided by the disk and the path, and not by what is written. Every
value has a text, so saving adds no failure of its own: what keeps a value from being saved keeps
any file from being written there. A value of a lawful codec is loaded as it was saved.
-/
namespace BuildLedger.Disk

/-- A file can be written at a path. -/
def Takes (disk : Disk) (path : Path) : Prop :=
  (disk.writeAtomically path ByteArray.empty).1 = .ok ()

theorem step_result {Value : Type} (action : Disk → Except DiskError (Value × Disk))
    (disk : Disk) :
    (step action disk).1 = match disk.disturbed.1 with
      | some problem => .error problem
      | none => (action disk.disturbed.2).map Prod.fst := by
  unfold step
  rcases disk.disturbed with ⟨problem, calm⟩
  cases problem with
  | some problem => rfl
  | none => cases acted : action calm <;> simp [acted, Except.map]

/-- Two disks that differ in the content of files alone. -/
structure SameNames (left right : Disk) : Prop where
  directories : right.directories = left.directories
  current : right.current = left.current
  disturbances : right.disturbances = left.disturbances
  present : ∀ place, right.hasFile place = left.hasFile place

section SameNames

variable {left right : Disk} (same : SameNames left right)

include same

theorem walk_same_names (place : Place) (pieces : List String) :
    right.walk place pieces = left.walk place pieces := by
  induction pieces generalizing place with
  | nil => rfl
  | cons piece rest ih =>
      simp only [walk, ih, has_directory_kept same.directories, same.present]

theorem locate_same_names (path : Path) : right.locate path = left.locate path := by
  simp only [locate, same.current, walk_same_names same]

theorem disturbed_same_names :
    right.disturbed.1 = left.disturbed.1 ∧ SameNames left.disturbed.2 right.disturbed.2 := by
  unfold disturbed
  rw [same.disturbances]
  cases queue : left.disturbances with
  | nil => exact ⟨rfl, same⟩
  | cons next rest =>
      constructor
      · rfl
      · constructor
        · exact same.directories
        · exact same.current
        · rfl
        · exact same.present

theorem step_same_names {Value : Type} {action : Disk → Except DiskError (Value × Disk)}
    (agrees : ∀ {left right : Disk}, SameNames left right →
      (action right).map Prod.fst = (action left).map Prod.fst) :
    (step action right).1 = (step action left).1 := by
  obtain ⟨problem, calm⟩ := disturbed_same_names same
  rw [step_result, step_result, problem, agrees calm]

theorem settle_same_names (pending : Place) (path : Path) :
    (settle pending path right).1 = (settle pending path left).1 := by
  apply step_same_names same
  intro left right same
  rw [locate_same_names same]
  cases left.locate path with
  | error problem => rfl
  | ok target =>
      cases target with
      | directory place => rfl
      | entry parent name slash =>
          have held := same.present pending
          unfold hasFile at held
          simp only [has_directory_kept same.directories]
          split_ifs
          · rfl
          · rfl
          · rfl
          · -- Both disks hold the pending file, or neither does.
            cases leftFile : left.file? pending <;> cases rightFile : right.file? pending <;>
              simp_all [Except.map]

end SameNames

/-- A scratch file is filled or not, whatever goes into it. -/
theorem fill_same_names (pending : Place) (first second : ByteArray) (disk : Disk) :
    (fill pending second disk).1 = (fill pending first disk).1 ∧
      SameNames (fill pending first disk).2 (fill pending second disk).2 := by
  unfold fill step
  rcases disk.disturbed with ⟨problem, calm⟩
  cases problem with
  | some problem => exact ⟨rfl, rfl, rfl, rfl, fun _ => rfl⟩
  | none =>
      refine ⟨rfl, rfl, rfl, rfl, ?_⟩
      intro place
      simp only [hasFile, file?, Keyed.get_insert]
      split_ifs <;> rfl

/-- A write ends in the same way, whatever is written. -/
theorem write_result (path : Path) (first second : ByteArray) (disk : Disk) :
    (disk.writeAtomically path second).1 = (disk.writeAtomically path first).1 := by
  unfold writeAtomically
  split
  · rfl
  split
  · rfl
  · next pending started _ =>
    obtain ⟨filling, same⟩ := fill_same_names pending first second started
    have settling := settle_same_names same pending path
    generalize fill pending first started = firstFilled at filling settling ⊢
    generalize fill pending second started = secondFilled at filling settling ⊢
    obtain ⟨firstResult, firstDisk⟩ := firstFilled
    obtain ⟨secondResult, secondDisk⟩ := secondFilled
    dsimp only at filling settling ⊢
    subst filling
    cases secondResult with
    | error problem => rfl
    | ok value =>
        dsimp only
        generalize settle pending path firstDisk = firstSettled at settling ⊢
        generalize settle pending path secondDisk = secondSettled at settling ⊢
        obtain ⟨firstEnd, _⟩ := firstSettled
        obtain ⟨secondEnd, _⟩ := secondSettled
        dsimp only at settling ⊢
        subst settling
        cases secondEnd <;> rfl

/-! ## Saving and loading -/

section Saved

variable {Value : Type} {codec : Codec Value}

theorem save_done {value : Value} {path : Path} {disk later : Disk}
    (done : disk.save codec value path = (.ok (), later)) :
    disk.writeAtomically path (Json.indented (codec.encode value)).toUTF8 = (.ok (), later) := by
  unfold save at done
  split at done
  · next written =>
    cases done
    exact written
  · cases done

theorem load_written (lawful : codec.Lawful) {value : Value} {path : Path} {disk later : Disk}
    (done : disk.writeAtomically path (Json.indented (codec.encode value)).toUTF8 =
      (.ok (), later)) : later.load codec path = .ok value := by
  have parsed := Json.parse_written lawful .indented value
  have text := written_text done
  simp only [load, text, Json.indented, parsed]

/-- A value of a lawful codec is loaded from the file it was saved to. -/
theorem load_saved (lawful : codec.Lawful) {value : Value} {path : Path} {disk later : Disk}
    (done : disk.save codec value path = (.ok (), later)) :
    later.load codec path = .ok value :=
  load_written lawful (save_done done)

/-- What is loaded is decided by the content at the path. -/
theorem load_kept {value : Value} {path : Path} {disk later : Disk}
    (kept : ∀ content, disk.contentAt path = .ok content → later.contentAt path = .ok content)
    (loaded : disk.load codec path = .ok value) : later.load codec path = .ok value := by
  unfold load textAt at loaded ⊢
  cases read : disk.contentAt path with
  | error problem =>
      rw [read] at loaded
      cases loaded
  | ok content =>
      rw [read] at loaded
      rw [kept content read]
      exact loaded

theorem save_result (codec : Codec Value) (value : Value) (path : Path) (disk : Disk) :
    (disk.save codec value path).1 =
      (disk.writeAtomically path ByteArray.empty).1.mapError (.writing path) := by
  rw [write_result path (Json.indented (codec.encode value)).toUTF8 ByteArray.empty disk]
  unfold save
  generalize disk.writeAtomically path (Json.indented (codec.encode value)).toUTF8 = written
  obtain ⟨result, later⟩ := written
  cases result <;> rfl

/-- Any value can be saved where any file can be written. -/
theorem save_succeeds_iff (codec : Codec Value) (value : Value) (path : Path) (disk : Disk) :
    (disk.save codec value path).1 = .ok () ↔ disk.Takes path := by
  rw [save_result, Takes]
  cases (disk.writeAtomically path ByteArray.empty).1 <;> simp [Except.mapError]

end Saved

end BuildLedger.Disk
