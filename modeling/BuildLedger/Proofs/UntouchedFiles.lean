import BuildLedger.Proofs.AtomicWrite

/-!
# What a write leaves alone

A path leads to a place that is decided by the current directory and the names in the path alone,
whichever directories are there. A write changes the file of its own path and no other one: it works
on a scratch file of a name that is free, and a free name is always found, since more names are
tried than there are files and directories. A write that fails changes no file that was there; it
may leave its scratch file behind when that cannot be discarded either.
-/
namespace BuildLedger.Disk

/-! ## Where paths lead -/

/-- Follow names from a place, whether or not anything is there. -/
def follow (place : Place) : List String → Place
  | [] => place
  | piece :: rest =>
      if piece == "" then follow place rest
      else if piece == "." then follow place rest
      else if piece == ".." then follow place.dropLast rest
      else follow (place ++ [piece]) rest

/-- The place that a path leads to. -/
def goal (disk : Disk) (path : Path) : Place :=
  follow (if path.isAbsolute then [] else disk.current) path.pieces

/-- The file at the place that a path leads to. -/
def fileAt (disk : Disk) (path : Path) : Option ByteArray := disk.file? (disk.goal path)

/-- Two paths lead to different files. -/
def Apart (disk : Disk) (left right : Path) : Prop :=
  (disk.goal left).key ≠ (disk.goal right).key

instance (disk : Disk) (left right : Path) : Decidable (disk.Apart left right) :=
  inferInstanceAs (Decidable (_ ≠ _))

/-- The name of a scratch file, in any directory. -/
def ScratchKey (key : String) : Prop :=
  ∃ (directory : Place) (number : Nat),
    key = Place.key (directory ++ [".pending-" ++ toString number])

theorem follow_blanks {place : Place} {pieces : List String}
    (blank : pieces.all (· == "") = true) : follow place pieces = place := by
  induction pieces with
  | nil => rfl
  | cons piece rest ih =>
      simp only [List.all_cons, Bool.and_eq_true] at blank
      simp only [follow, blank.1, if_true]
      exact ih blank.2

/-- A walk that arrives arrives where the names lead. -/
theorem walk_follows {disk : Disk} {pieces : List String} {place : Place} {target : Target}
    (found : disk.walk place pieces = .ok target) : target.place = follow place pieces := by
  induction pieces generalizing place with
  | nil =>
      cases found
      rfl
  | cons piece rest ih =>
      unfold walk at found
      unfold follow
      dsimp only at found
      by_cases empty : piece == ""
      · rw [if_pos empty] at found ⊢
        exact ih found
      · rw [if_neg empty] at found ⊢
        by_cases dot : piece == "."
        · simp only [dot, Bool.true_or, if_true] at found ⊢
          split at found
          · next last =>
            cases found
            exact (follow_blanks last).symm
          · exact ih found
        · by_cases dots : piece == ".."
          · simp only [dot, dots, Bool.or_true, if_true, Bool.false_eq_true, if_false] at found ⊢
            split at found
            · next last =>
              cases found
              exact (follow_blanks last).symm
            · exact ih found
          · simp only [dot, dots, Bool.or_false, Bool.false_eq_true, if_false] at found ⊢
            split_ifs at found with long last inside blocked
            · cases found
              exact (follow_blanks last).symm
            · exact ih found

theorem locate_goal {disk : Disk} {path : Path} {target : Target}
    (found : disk.locate path = .ok target) : target.place = disk.goal path := by
  unfold locate at found
  split_ifs at found <;>
  · unfold goal
    simp only [*, if_true, if_false, Bool.false_eq_true]
    exact walk_follows found

/-- A file is read as before where neither it nor any directory has changed. -/
theorem content_kept {disk later : Disk} {path : Path} {content : ByteArray}
    (directories : later.directories = disk.directories) (current : later.current = disk.current)
    (file : later.fileAt path = disk.fileAt path) (read : disk.contentAt path = .ok content) :
    later.contentAt path = .ok content := by
  unfold contentAt at read ⊢
  cases located : disk.locate path with
  | error problem => simp [located] at read
  | ok target =>
      have same : later.file? target.place = disk.file? target.place := by
        rw [locate_goal located]
        simpa only [fileAt, goal, current] using file
      rw [locate_kept directories current located]
      rw [located] at read
      simp only [has_directory_kept directories, same] at read ⊢
      exact read

/-! ## Free names -/

theorem key_snoc (directory : Place) (name : String) :
    Place.key (directory ++ [name]) = directory.key ++ ("/" ++ name) := by
  simp [Place.key]

theorem scratch_names_differ {directory : Place} {first second : Nat}
    (same : Place.key (directory ++ [".pending-" ++ toString first]) =
      Place.key (directory ++ [".pending-" ++ toString second])) : first = second := by
  have texts := congrArg String.toList same
  simp only [key_snoc, String.toList_append, List.append_cancel_left_eq] at texts
  have digits := congrArg (fun digits => Nat.ofDigitChars 10 digits 0) texts
  simpa [Nat.toString_eq_ofList_toDigits] using digits

/-- Every try that fails uses up one of the keys that are taken. -/
theorem free_name_found {disk : Disk} {directory : Place} {tries number : Nat}
    {taken : List String}
    (covered : ∀ later : Nat, number ≤ later →
      disk.hasFile (directory ++ [".pending-" ++ toString later]) = true ∨
        disk.hasDirectory (directory ++ [".pending-" ++ toString later]) = true →
      Place.key (directory ++ [".pending-" ++ toString later]) ∈ taken)
    (fewer : taken.length < tries) :
    ∃ found : Nat, disk.freeName directory tries number = ".pending-" ++ toString found ∧
      disk.hasFile (directory ++ [".pending-" ++ toString found]) = false := by
  induction tries generalizing number taken with
  | zero => exact absurd fewer (Nat.not_lt_zero _)
  | succ tries ih =>
      unfold freeName
      dsimp only
      split
      · next occupied =>
        have member := covered number (Nat.le_refl _) (by simpa using occupied)
        have shorter : (taken.erase
            (Place.key (directory ++ [".pending-" ++ toString number]))).length < tries := by
          have nonempty := List.length_pos_of_mem member
          rw [List.length_erase_of_mem member]
          omega
        refine ih ?_ shorter
        intro later after there
        have different : Place.key (directory ++ [".pending-" ++ toString later]) ≠
            Place.key (directory ++ [".pending-" ++ toString number]) := by
          intro same
          have equal := scratch_names_differ same
          omega
        exact (List.mem_erase_of_ne different).mpr (covered later (by omega) there)
      · next vacant =>
        refine ⟨number, rfl, ?_⟩
        simp only [Bool.or_eq_true, not_or, Bool.not_eq_true] at vacant
        exact vacant.1

theorem taken_keys {disk : Disk} {place : Place} (inside : place ≠ [])
    (there : disk.hasFile place = true ∨ disk.hasDirectory place = true) :
    place.key ∈ disk.files.keys ++ disk.directories.map Place.key := by
  rw [List.mem_append]
  rcases there with file | directory
  · left
    by_cases member : place.key ∈ disk.files.keys
    · exact member
    · have absent : disk.file? place = none := by
        apply Keyed.find_none
        intro entry inside same
        exact member (List.mem_map.mpr ⟨entry, inside, same⟩)
      simp [hasFile, absent] at file
  · right
    simp only [hasDirectory, Bool.or_eq_true, List.isEmpty_iff, List.contains_iff_mem] at directory
    rcases directory with root | member
    · exact absurd root inside
    · exact List.mem_map.mpr ⟨place, member, rfl⟩

/-! ## Single operations -/

theorem step_cases {Value : Type} {action : Disk → Except DiskError (Value × Disk)}
    {disk later : Disk} {result : Except DiskError Value}
    (done : step action disk = (result, later)) :
    (∃ problem, result = .error problem ∧ later = disk.disturbed.2) ∨
    ∃ value, result = .ok value ∧ action disk.disturbed.2 = .ok (value, later) := by
  cases result with
  | ok value => exact Or.inr ⟨value, rfl, step_done done⟩
  | error problem =>
      left
      refine ⟨problem, rfl, ?_⟩
      unfold step at done
      split at done
      · next disturbed =>
        cases done
        rw [disturbed]
      · next disturbed =>
        split at done
        · cases done
        · cases done
          rw [disturbed]

/-- A step that fails was disturbed, or its action failed. -/
theorem step_failed {Value : Type} {action : Disk → Except DiskError (Value × Disk)}
    {disk later : Disk} {problem : DiskError}
    (done : step action disk = (.error problem, later)) :
    disk.disturbed.1 = some problem ∨ action disk.disturbed.2 = .error problem := by
  unfold step at done
  split at done
  · next disturbed =>
    cases done
    exact Or.inl (by rw [disturbed])
  · next disturbed =>
    split at done
    · cases done
    · next acted =>
      cases done
      rw [disturbed]
      exact Or.inr acted

@[simp] theorem disturbed_current (disk : Disk) : disk.disturbed.2.current = disk.current := by
  unfold disturbed
  split <;> rfl

theorem disturbed_directories (disk : Disk) :
    disk.disturbed.2.directories = disk.directories := by
  unfold disturbed
  split <;> rfl

@[simp] theorem disturbed_goal (disk : Disk) (path : Path) :
    disk.disturbed.2.goal path = disk.goal path := by
  simp only [goal, disturbed_current]

/-- No file changes, and paths lead where they led. -/
structure SameFiles (before after : Disk) : Prop where
  files : after.files = before.files
  current : after.current = before.current

theorem same_files_trans {first middle last : Disk} (before : SameFiles first middle)
    (after : SameFiles middle last) : SameFiles first last :=
  ⟨after.files.trans before.files, after.current.trans before.current⟩

theorem disturbed_same_files (disk : Disk) : SameFiles disk disk.disturbed.2 :=
  ⟨disturbed_files disk, disturbed_current disk⟩

theorem make_directory_same_files {path : Path} {disk later : Disk}
    {result : Except DiskError Unit} (done : makeDirectory path disk = (result, later)) :
    SameFiles disk later := by
  have calm := disturbed_same_files disk
  rcases step_cases done with ⟨problem, _, rfl⟩ | ⟨value, _, made⟩
  · exact calm
  · split at made
    · cases made
    · cases made
    · dsimp only at made
      split_ifs at made
      cases made
      exact ⟨calm.files, calm.current⟩

theorem make_missing_same_files {paths : List Path} {disk later : Disk}
    {result : Except DiskError Unit} (done : disk.makeMissing paths = (result, later)) :
    SameFiles disk later := by
  induction paths generalizing disk with
  | nil =>
      cases done
      exact ⟨rfl, rfl⟩
  | cons path rest ih =>
      unfold makeMissing at done
      split at done
      · next made =>
        exact same_files_trans (make_directory_same_files made) (ih done)
      · next made =>
        split at done
        · exact same_files_trans (make_directory_same_files made) (ih done)
        · cases done
          exact make_directory_same_files made
      · next made =>
        cases done
        exact make_directory_same_files made

theorem make_from_same_files {waiting paths : List Path} {disk later : Disk}
    {result : Except DiskError Unit} (done : disk.makeFrom waiting paths = (result, later)) :
    SameFiles disk later := by
  induction paths generalizing disk waiting with
  | nil => exact make_missing_same_files done
  | cons path outer ih =>
      unfold makeFrom at done
      split at done
      · next made =>
        exact same_files_trans (make_directory_same_files made) (make_missing_same_files done)
      · next made =>
        exact same_files_trans (make_directory_same_files made) (ih done)
      · next made =>
        split at done
        · exact same_files_trans (make_directory_same_files made) (make_missing_same_files done)
        · cases done
          exact make_directory_same_files made
      · next made =>
        cases done
        exact make_directory_same_files made

theorem prepare_same_files {path : Path} {disk later : Disk} {result : Except DiskError Unit}
    (done : disk.prepare path = (result, later)) : SameFiles disk later := by
  unfold prepare at done
  split at done
  · cases done
    exact ⟨rfl, rfl⟩
  · cases done
    exact ⟨rfl, rfl⟩
  · exact make_from_same_files done

/-- A scratch file is made where no file was, and nothing else changes. -/
theorem make_pending_cases {path : Path} {disk later : Disk} {result : Except DiskError Place}
    (done : makePending path disk = (result, later)) :
    (∃ problem, result = .error problem ∧ SameFiles disk later) ∨
    ∃ place, result = .ok place ∧ ScratchKey place.key ∧ disk.files.get? place.key = none ∧
      later.current = disk.current ∧
      later.files = disk.files.insert place.key ByteArray.empty := by
  have calm := disturbed_same_files disk
  rcases step_cases done with ⟨problem, failed, rfl⟩ | ⟨place, made, acted⟩
  · exact Or.inl ⟨problem, failed, calm⟩
  · right
    split at acted
    · cases acted
    · next target located =>
      dsimp only at acted
      split_ifs at acted with inside
      cases acted
      generalize disk.disturbed.2 = quiet at *
      obtain ⟨number, name, vacant⟩ := @free_name_found quiet target.place
        (quiet.files.entries.length + quiet.directories.length + 1) 0
        (quiet.files.keys ++ quiet.directories.map Place.key)
        (fun later _ there => taken_keys (by simp) there)
        (by simp [Keyed.keys])
      rw [name] at made ⊢
      refine ⟨_, made, ⟨_, number, rfl⟩, ?_, calm.current, by rw [calm.files]⟩
      rw [← calm.files]
      simpa [hasFile, file?] using vacant

theorem fill_cases {place : Place} {content : ByteArray} {disk later : Disk}
    {result : Except DiskError Unit} (done : fill place content disk = (result, later)) :
    later.current = disk.current ∧
      ((∃ problem, result = .error problem ∧ later.files = disk.files) ∨
        (result = .ok () ∧ later.files = disk.files.insert place.key content)) := by
  have calm := disturbed_same_files disk
  rcases step_cases done with ⟨problem, failed, rfl⟩ | ⟨value, filled, acted⟩
  · exact ⟨calm.current, Or.inl ⟨problem, failed, calm.files⟩⟩
  · cases acted
    exact ⟨calm.current, Or.inr ⟨filled, by rw [calm.files]⟩⟩

theorem settle_cases {pending : Place} {path : Path} {disk later : Disk}
    {result : Except DiskError Unit} (done : settle pending path disk = (result, later)) :
    later.current = disk.current ∧
      ((∃ problem, result = .error problem ∧ later.files = disk.files) ∨
        ∃ content, result = .ok () ∧ disk.file? pending = some content ∧
          later.files = (disk.files.erase pending.key).insert (disk.goal path).key content) := by
  have calm := disturbed_same_files disk
  rcases step_cases done with ⟨problem, failed, rfl⟩ | ⟨value, settled, acted⟩
  · exact ⟨calm.current, Or.inl ⟨problem, failed, calm.files⟩⟩
  · split at acted
    · cases acted
    · cases acted
    · next parent name slash located =>
      have leads : parent ++ [name] = disk.goal path := by
        rw [← disturbed_goal]
        exact locate_goal located
      dsimp only at acted
      split_ifs at acted
      split at acted
      · cases acted
      · next content held =>
        cases acted
        refine ⟨calm.current, Or.inr ⟨content, settled, ?_, by rw [leads, calm.files]⟩⟩
        rw [file?, ← calm.files]
        exact held

theorem discard_cases {pending : Place} {disk later : Disk} {result : Except DiskError Unit}
    (done : discard pending disk = (result, later)) :
    later.current = disk.current ∧
      ((result ≠ .ok () ∧ later.files = disk.files) ∨
        (result = .ok () ∧ later.files = disk.files.erase pending.key)) := by
  have calm := disturbed_same_files disk
  rcases step_cases done with ⟨problem, rfl, rfl⟩ | ⟨value, rfl, acted⟩
  · exact ⟨calm.current, Or.inl ⟨nofun, calm.files⟩⟩
  · cases acted
    exact ⟨calm.current, Or.inr ⟨rfl, by rw [calm.files]⟩⟩

/-- There is a file or a directory at a path. -/
def Holds (disk : Disk) (path : Path) : Prop :=
  ∃ target, disk.locate path = .ok target ∧
    (disk.hasDirectory target.place = true ∨ disk.hasFile target.place = true)

theorem disturbed_holds {disk : Disk} {path : Path} (held : disk.Holds path) :
    disk.disturbed.2.Holds path := by
  obtain ⟨target, located, there⟩ := held
  refine ⟨target, locate_kept (disturbed_directories disk) (disturbed_current disk) located, ?_⟩
  rw [has_directory_kept (disturbed_directories disk)]
  simpa only [hasFile, file?, disturbed_files] using there

/-- The file at a path is unlinked, or no file changes. Nothing is missed that is there. -/
theorem unlink_cases {path : Path} {disk later : Disk} {result : Except DiskError Unit}
    (done : unlink path disk = (result, later)) :
    later.current = disk.current ∧ later.directories = disk.directories ∧
      ((result = .ok () ∧ (disk.fileAt path).isSome = true ∧
          later.files = disk.files.erase (disk.goal path).key) ∨
        ∃ problem, result = .error problem ∧ later.files = disk.files ∧
          (problem = .notFound → disk.disturbed.1 = some .notFound ∨ ¬disk.Holds path)) := by
  have calm := disturbed_same_files disk
  rcases step_cases done with ⟨problem, rfl, rfl⟩ | ⟨value, rfl, acted⟩
  · refine ⟨calm.current, disturbed_directories disk, Or.inr ⟨problem, rfl, calm.files, ?_⟩⟩
    rintro rfl
    rcases step_failed done with disturbed | failed
    · exact Or.inl disturbed
    · right
      intro held
      obtain ⟨target, located, there⟩ := disturbed_holds held
      rw [located] at failed
      cases target with
      | directory place => cases failed
      | entry parent name slash =>
          simp only [Target.place] at there
          dsimp only at failed
          split_ifs at failed with taken inside <;> simp_all
  · split at acted
    · cases acted
    · cases acted
    · next parent name slash located =>
      have leads : parent ++ [name] = disk.goal path := by
        rw [← disturbed_goal]
        exact locate_goal located
      dsimp only at acted
      split_ifs at acted with taken there
      cases acted
      refine ⟨calm.current, disturbed_directories disk, Or.inl ⟨rfl, ?_, by rw [leads, calm.files]⟩⟩
      rw [fileAt, ← leads, file?, ← calm.files]
      exact there

/-- The file at a path is removed, or no file changes. That nothing is there is said only where that
is so, or where the device says it. -/
theorem remove_cases {path : Path} {disk later : Disk} {result : Except DiskError Bool}
    (done : removeIfPresent path disk = (result, later)) :
    later.current = disk.current ∧ later.directories = disk.directories ∧
      ((result = .ok true ∧ (disk.fileAt path).isSome = true ∧
          later.files = disk.files.erase (disk.goal path).key) ∨
        (result ≠ .ok true ∧ later.files = disk.files ∧
          (result = .ok false → disk.disturbed.1 = some .notFound ∨ ¬disk.Holds path))) := by
  unfold removeIfPresent at done
  rcases unlinked : unlink path disk with ⟨outcome, after⟩
  rw [unlinked] at done
  obtain ⟨current, directories, ⟨rfl, there, files⟩ | ⟨problem, rfl, files, missing⟩⟩ :=
    unlink_cases unlinked
  · cases done
    exact ⟨current, directories, Or.inl ⟨rfl, there, files⟩⟩
  · by_cases absent : problem = .notFound
    · subst absent
      cases done
      exact ⟨current, directories, Or.inr ⟨nofun, files, fun _ => missing rfl⟩⟩
    · split at done
      · next same => cases same
      · next same =>
        cases same
        exact absurd rfl absent
      · next same =>
        cases same
        cases done
        exact ⟨current, directories, Or.inr ⟨nofun, files, nofun⟩⟩

theorem remove_directories (path : Path) (disk : Disk) :
    (removeIfPresent path disk).2.directories = disk.directories :=
  (remove_cases (Prod.eta (removeIfPresent path disk)).symm).2.1

/-! ## Whole writes -/

/-- A write up to where its scratch file has taken the place of the old file or is of no use any
more. In the second case it says which file that is. -/
def draft (path : Path) (content : ByteArray) (disk : Disk) :
    (Except DiskError Unit × Option Place) × Disk :=
  match disk.prepare path with
  | (.error problem, later) => ((.error problem, none), later)
  | (.ok (), prepared) =>
      match makePending (workshop path) prepared with
      | (.error problem, later) => ((.error problem, none), later)
      | (.ok pending, started) =>
          match fill pending content started with
          | (.error problem, later) => ((.error problem, some pending), later)
          | (.ok (), filled) =>
              match settle pending path filled with
              | (.error problem, later) => ((.error problem, some pending), later)
              | (.ok (), settled) => ((.ok (), none), settled)

/-- A write is its draft, and a scratch file of no use is discarded behind it. -/
theorem write_draft (path : Path) (content : ByteArray) (disk : Disk) :
    disk.writeAtomically path content =
      match disk.draft path content with
      | ((result, none), later) => (result, later)
      | ((result, some pending), later) => (result, (discard pending later).2) := by
  unfold writeAtomically draft
  rcases disk.prepare path with ⟨outcome, prepared⟩
  cases outcome with
  | error problem => rfl
  | ok value =>
      dsimp only
      rcases makePending (workshop path) prepared with ⟨outcome, started⟩
      cases outcome with
      | error problem => rfl
      | ok pending =>
          dsimp only
          rcases fill pending content started with ⟨outcome, filled⟩
          cases outcome with
          | error problem => rfl
          | ok value =>
              dsimp only
              rcases settle pending path filled with ⟨outcome, settled⟩
              cases outcome <;> rfl

/-- The files behind a draft: those from before, or a scratch file besides them, or the content in
its place. -/
inductive Drafted (disk : Disk) (path : Path) (content : ByteArray) :
    Except DiskError Unit × Option Place → Keyed ByteArray → Prop
  | unstarted (problem : DiskError) : Drafted disk path content (.error problem, none) disk.files
  | useless (problem : DiskError) {pending : Place} (scratch : ScratchKey pending.key)
      (fresh : disk.files.get? pending.key = none) (held : ByteArray) :
      Drafted disk path content (.error problem, some pending)
        (disk.files.insert pending.key held)
  | placed : Drafted disk path content (.ok (), none)
      (disk.files.insert (disk.goal path).key content)

theorem draft_cases {path : Path} {content : ByteArray} {disk later : Disk}
    {outcome : Except DiskError Unit × Option Place}
    (done : disk.draft path content = (outcome, later)) :
    later.current = disk.current ∧ Drafted disk path content outcome later.files := by
  unfold draft at done
  rcases prepares : disk.prepare path with ⟨result, prepared⟩
  have ready := prepare_same_files prepares
  simp only [prepares] at done
  cases result with
  | error problem =>
      cases done
      rw [ready.files]
      exact ⟨ready.current, .unstarted problem⟩
  | ok value =>
      rcases starts : makePending (workshop path) prepared with ⟨result, started⟩
      simp only [starts] at done
      rcases make_pending_cases starts with
        ⟨problem, rfl, calm⟩ | ⟨pending, rfl, scratch, fresh, current, begun⟩
      · cases done
        rw [calm.files, ready.files]
        exact ⟨calm.current.trans ready.current, .unstarted problem⟩
      · rw [ready.files] at fresh begun
        rcases fills : fill pending content started with ⟨result, filled⟩
        obtain ⟨stays, fillings⟩ := fill_cases fills
        have here : filled.current = disk.current :=
          stays.trans (current.trans ready.current)
        simp only [fills] at done
        rcases fillings with ⟨problem, rfl, kept⟩ | ⟨rfl, held⟩
        · cases done
          rw [kept, begun]
          exact ⟨here, .useless problem scratch fresh _⟩
        · rw [begun, Keyed.insert_insert] at held
          rcases settles : settle pending path filled with ⟨result, settled⟩
          obtain ⟨stays, settlings⟩ := settle_cases settles
          simp only [settles] at done
          rcases settlings with ⟨problem, rfl, kept⟩ | ⟨moved, rfl, found, placed⟩
          · cases done
            rw [kept, held]
            exact ⟨stays.trans here, .useless problem scratch fresh _⟩
          · cases done
            have leads : filled.goal path = disk.goal path := by
              simp only [goal, here]
            have whole : moved = content := by
              rw [file?, held, Keyed.get_insert, if_pos rfl] at found
              exact (Option.some.inj found).symm
            rw [placed, held, Keyed.erase_insert fresh, leads, whole]
            exact ⟨stays.trans here, .placed⟩

/-- A write came to nothing, and its scratch file could not be discarded either. That file is all
that is left of it. -/
def Stranded (disk : Disk) (path : Path) (content : ByteArray) (later : Disk) : Prop :=
  ∃ problem pending drafted held,
    disk.draft path content = ((.error problem, some pending), drafted) ∧
      (discard pending drafted).1 ≠ .ok () ∧ ScratchKey pending.key ∧
      disk.files.get? pending.key = none ∧ later.files = disk.files.insert pending.key held

/-- A write that succeeds puts the content at its path, and one that fails changes no file, unless
its scratch file is stranded. -/
theorem write_cases {path : Path} {content : ByteArray} {disk later : Disk}
    {result : Except DiskError Unit} (done : disk.writeAtomically path content = (result, later)) :
    later.current = disk.current ∧
      ((result = .ok () ∧ later.files = disk.files.insert (disk.goal path).key content) ∨
        ((∃ problem, result = .error problem) ∧
          (later.files = disk.files ∨ disk.Stranded path content later))) := by
  rw [write_draft] at done
  rcases drafts : disk.draft path content with ⟨outcome, drafted⟩
  obtain ⟨stays, files⟩ := draft_cases drafts
  rw [drafts] at done
  generalize held : drafted.files = between at files
  cases files with
  | unstarted problem =>
      cases done
      exact ⟨stays, Or.inr ⟨⟨problem, rfl⟩, Or.inl held⟩⟩
  | placed =>
      cases done
      exact ⟨stays, Or.inl ⟨rfl, held⟩⟩
  | @useless problem pending scratch fresh rest =>
      cases done
      rcases discards : discard pending drafted with ⟨result, later⟩
      obtain ⟨remains, ⟨refused, kept⟩ | ⟨_, erased⟩⟩ := discard_cases discards
      · refine ⟨remains.trans stays, Or.inr ⟨⟨problem, rfl⟩, Or.inr ?_⟩⟩
        refine ⟨problem, pending, drafted, rest, drafts, ?_, scratch, fresh, kept.trans held⟩
        rw [discards]
        exact refused
      · refine ⟨remains.trans stays, Or.inr ⟨⟨problem, rfl⟩, Or.inl ?_⟩⟩
        rw [erased, held, Keyed.erase_insert fresh]

/-- The files of two disks agree at a key, or a scratch file was left there where no file was. -/
def Spares (before after : Disk) (key : String) : Prop :=
  after.files.get? key = before.files.get? key ∨
    (before.files.get? key = none ∧ ScratchKey key)

/-- A write that succeeds changes the file of its path alone, and one that fails changes none. -/
theorem write_changes {path : Path} {content : ByteArray} {disk later : Disk}
    {result : Except DiskError Unit} (done : disk.writeAtomically path content = (result, later)) :
    later.current = disk.current ∧
      ((result = .ok () ∧ later.fileAt path = some content ∧
          ∀ key ≠ (disk.goal path).key, later.files.get? key = disk.files.get? key) ∨
        ((∃ problem, result = .error problem) ∧ ∀ key, Spares disk later key)) := by
  obtain ⟨current, ⟨success, files⟩ | ⟨failed, files⟩⟩ := write_cases done
  · have leads : later.goal path = disk.goal path := by
      simp only [goal, current]
    refine ⟨current, Or.inl ⟨success, ?_, ?_⟩⟩
    · rw [fileAt, file?, leads, files, Keyed.get_insert, if_pos rfl]
    · intro key other
      rw [files, Keyed.get_insert, if_neg fun equal => other equal.symm]
  · refine ⟨current, Or.inr ⟨failed, fun key => ?_⟩⟩
    rcases files with same | ⟨_, pending, _, _, _, _, scratch, fresh, left⟩
    · exact Or.inl (by rw [same])
    · by_cases own : key = pending.key
      · subst own
        exact Or.inr ⟨fresh, scratch⟩
      · left
        rw [left, Keyed.get_insert, if_neg fun equal => own equal.symm]

end BuildLedger.Disk
