import BuildLedger.Proofs.SavedFiles
import BuildLedger.Proofs.TableLookup
import Mathlib.Data.List.Forall2

/-!
# Disks whose files match

Two disks match when they hold the same files and directories and the contents of each file are
related. Whatever is done to one of them can be done to the other with the same result, and they
still match, as long as what is written matches too. What relation the contents are in does not
matter; it has to hold between two empty files.
-/
namespace BuildLedger

namespace Keyed

variable {Value : Type} {relation : Value → Value → Prop}

/-- The same keys, and related values. -/
def Matching (relation : Value → Value → Prop) (left right : List (String × Value)) : Prop :=
  List.Forall₂ (fun entry other => entry.1 = other.1 ∧ relation entry.2 other.2) left right

theorem find_matching {left right : List (String × Value)}
    (matching : Matching relation left right) (key : String) :
    Option.Rel relation (find key left) (find key right) := by
  induction matching with
  | nil => exact .none
  | @cons entry other rest others head _ ih =>
      obtain ⟨name, value⟩ := entry
      obtain ⟨sameName, related⟩ := head
      simp only at sameName
      simp only [find, ← sameName]
      split
      · exact .some related
      · exact ih

theorem place_matching {left right : List (String × Value)}
    (matching : Matching relation left right) (key : String) {value other : Value}
    (related : relation value other) :
    Matching relation (place key value left) (place key other right) := by
  induction matching with
  | nil => exact .cons ⟨rfl, related⟩ .nil
  | @cons entry twin rest others head tail ih =>
      obtain ⟨name, held⟩ := entry
      obtain ⟨name', held'⟩ := twin
      obtain ⟨same, both⟩ := head
      simp only at same
      subst same
      simp only [place]
      split
      · exact .cons ⟨rfl, related⟩ (.cons ⟨rfl, both⟩ tail)
      · split
        · exact .cons ⟨rfl, related⟩ tail
        · exact .cons ⟨rfl, both⟩ ih

theorem filter_matching {left right : List (String × Value)}
    (matching : Matching relation left right) (keep : String → Bool) :
    Matching relation (left.filter fun entry => keep entry.1)
      (right.filter fun entry => keep entry.1) := by
  induction matching with
  | nil => exact .nil
  | @cons entry other rest others head _ ih =>
      have same := head.1
      simp only [List.filter_cons, ← same]
      split
      · exact .cons head ih
      · exact ih

end Keyed

namespace Disk

/-- The same files and directories, and contents that match. -/
structure Matches (relation : ByteArray → ByteArray → Prop) (left right : Disk) : Prop where
  files : Keyed.Matching relation left.files.entries right.files.entries
  directories : right.directories = left.directories
  current : right.current = left.current
  disturbances : right.disturbances = left.disturbances

theorem matches_refl {relation : ByteArray → ByteArray → Prop}
    (reflexive : ∀ content, relation content content) (disk : Disk) : Matches relation disk disk :=
  ⟨List.forall₂_same.mpr fun _ _ => ⟨rfl, reflexive _⟩, rfl, rfl, rfl⟩

/-- How two steps on matching disks end: with the same result, and again on matching disks. -/
structure Together {Value : Type} (relation : ByteArray → ByteArray → Prop)
    (left right : Value × Disk) : Prop where
  result : right.1 = left.1
  disks : Matches relation left.2 right.2

theorem Together.parts {Value : Type} {relation : ByteArray → ByteArray → Prop}
    {left right : Value × Disk} (together : Together relation left right) :
    ∃ value first second, left = (value, first) ∧ right = (value, second) ∧
      Matches relation first second := by
  obtain ⟨same, disks⟩ := together
  exact ⟨left.1, left.2, right.2, rfl, Prod.ext same rfl, disks⟩

/-- What an undisturbed step does to matching disks. -/
inductive Acts {Value : Type} (relation : ByteArray → ByteArray → Prop) :
    Except DiskError (Value × Disk) → Except DiskError (Value × Disk) → Prop
  | done (value : Value) {left right : Disk} (disks : Matches relation left right) :
      Acts relation (.ok (value, left)) (.ok (value, right))
  | failed (problem : DiskError) : Acts relation (.error problem) (.error problem)

section Matches

variable {relation : ByteArray → ByteArray → Prop} {left right : Disk}
  (matching : Matches relation left right)

include matching

theorem matches_content (place : Place) :
    Option.Rel relation (left.file? place) (right.file? place) :=
  Keyed.find_matching matching.files place.key

theorem matches_names : SameNames left right := by
  refine ⟨matching.directories, matching.current, matching.disturbances, ?_⟩
  intro place
  have found := matches_content matching place
  unfold hasFile
  generalize left.file? place = content at found
  generalize right.file? place = other at found
  cases found <;> rfl

theorem matches_locate (path : Path) : right.locate path = left.locate path :=
  locate_same_names (matches_names matching) path

theorem matches_directory (place : Place) : right.hasDirectory place = left.hasDirectory place :=
  has_directory_kept matching.directories place

theorem matches_file (place : Place) : right.hasFile place = left.hasFile place :=
  (matches_names matching).present place

theorem matches_directory_at (path : Path) :
    right.isDirectoryAt path = left.isDirectoryAt path := by
  unfold isDirectoryAt
  rw [matches_locate matching]
  cases left.locate path with
  | error problem => rfl
  | ok target => exact matches_directory matching target.place

theorem matches_insert (key : String) {content other : ByteArray}
    (related : relation content other) :
    Matches relation { left with files := left.files.insert key content }
      { right with files := right.files.insert key other } :=
  ⟨Keyed.place_matching matching.files key related, matching.directories, matching.current,
    matching.disturbances⟩

theorem matches_erase (key : String) :
    Matches relation { left with files := left.files.erase key }
      { right with files := right.files.erase key } :=
  ⟨Keyed.filter_matching matching.files (· != key), matching.directories, matching.current,
    matching.disturbances⟩

theorem matches_free_name (directory : Place) (tries number : Nat) :
    right.freeName directory tries number = left.freeName directory tries number := by
  induction tries generalizing number with
  | zero => rfl
  | succ tries ih =>
      simp only [freeName, matches_file matching, matches_directory matching, ih]

theorem disturbed_together : Together relation left.disturbed right.disturbed := by
  unfold disturbed
  rw [matching.disturbances]
  cases left.disturbances with
  | nil => exact ⟨rfl, matching⟩
  | cons next rest => exact ⟨rfl, matching.files, matching.directories, matching.current, rfl⟩

theorem step_together {Value : Type} {action other : Disk → Except DiskError (Value × Disk)}
    (acts : ∀ {left right : Disk}, Matches relation left right →
      Acts relation (action left) (other right)) :
    Together relation (step action left) (step other right) := by
  obtain ⟨problem, first, second, leftCalm, rightCalm, calm⟩ := (disturbed_together matching).parts
  unfold step
  rw [leftCalm, rightCalm]
  cases problem with
  | some problem => exact ⟨rfl, calm⟩
  | none =>
      have acted := acts calm
      simp only
      generalize action first = ended at acted
      generalize other second = otherEnded at acted
      cases acted with
      | done value disks => exact ⟨rfl, disks⟩
      | failed problem => exact ⟨rfl, calm⟩

theorem make_directory_together (path : Path) :
    Together relation (makeDirectory path left) (makeDirectory path right) := by
  apply step_together matching
  intro left right matching
  rw [matches_locate matching]
  cases left.locate path with
  | error problem => exact .failed problem
  | ok target =>
      cases target with
      | directory place => exact .failed _
      | entry parent name slash =>
          simp only [matches_directory matching, matches_file matching]
          split
          · exact .failed _
          · split
            · exact .failed _
            · refine .done () ⟨matching.files, ?_, matching.current, matching.disturbances⟩
              simp only [matching.directories]

theorem make_missing_together (paths : List Path) :
    Together relation (left.makeMissing paths) (right.makeMissing paths) := by
  induction paths generalizing left right with
  | nil => exact ⟨rfl, matching⟩
  | cons path rest ih =>
      obtain ⟨result, first, second, leftMade, rightMade, disks⟩ :=
        (make_directory_together matching path).parts
      simp only [makeMissing, leftMade, rightMade]
      rcases result with problem | done
      · cases problem with
        | alreadyThere =>
            simp only [matches_directory_at disks]
            split
            · exact ih disks
            · exact ⟨rfl, disks⟩
        | _ => exact ⟨rfl, disks⟩
      · exact ih disks

theorem make_from_together (waiting paths : List Path) :
    Together relation (left.makeFrom waiting paths) (right.makeFrom waiting paths) := by
  induction paths generalizing left right waiting with
  | nil => exact make_missing_together matching waiting
  | cons path rest ih =>
      obtain ⟨result, first, second, leftMade, rightMade, disks⟩ :=
        (make_directory_together matching path).parts
      simp only [makeFrom, leftMade, rightMade]
      rcases result with problem | done
      · cases problem with
        | notFound => exact ih disks (path :: waiting)
        | alreadyThere =>
            simp only [matches_directory_at disks]
            split
            · exact make_missing_together disks waiting
            · exact ⟨rfl, disks⟩
        | _ => exact ⟨rfl, disks⟩
      · exact make_missing_together disks waiting

theorem prepare_together (path : Path) :
    Together relation (left.prepare path) (right.prepare path) := by
  unfold prepare
  split
  · exact ⟨rfl, matching⟩
  · exact ⟨rfl, matching⟩
  · exact make_from_together matching [] _

theorem make_pending_together (empty : relation ByteArray.empty ByteArray.empty) (path : Path) :
    Together relation (makePending path left) (makePending path right) := by
  apply step_together matching
  intro left right matching
  rw [matches_locate matching]
  cases left.locate path with
  | error problem => exact .failed problem
  | ok target =>
      have count : right.files.entries.length = left.files.entries.length :=
        matching.files.length_eq.symm
      simp only [matches_directory matching, matches_file matching, count, matching.directories,
        matches_free_name matching]
      split
      · exact .done _ ⟨Keyed.place_matching matching.files _ empty, rfl, matching.current,
          matching.disturbances⟩
      · split
        · exact .failed _
        · exact .failed _

theorem fill_together (place : Place) {content other : ByteArray}
    (related : relation content other) :
    Together relation (fill place content left) (fill place other right) := by
  apply step_together matching
  intro left right matching
  exact .done () (matches_insert matching _ related)

theorem discard_together (pending : Place) :
    Together relation (discard pending left) (discard pending right) := by
  apply step_together matching
  intro left right matching
  exact .done () (matches_erase matching _)

theorem settle_together (pending : Place) (path : Path) :
    Together relation (settle pending path left) (settle pending path right) := by
  apply step_together matching
  intro left right matching
  rw [matches_locate matching]
  cases left.locate path with
  | error problem => exact .failed problem
  | ok target =>
      cases target with
      | directory place => exact .failed _
      | entry parent name slash =>
          simp only [matches_directory matching]
          have found := matches_content matching pending
          generalize left.file? pending = content at found
          generalize right.file? pending = other at found
          split
          · exact .failed _
          · split
            · exact .failed _
            · split
              · exact .failed _
              · cases found with
                | none => exact .failed _
                | some related =>
                    exact .done () (matches_insert (matches_erase matching _) _ related)

theorem write_together (empty : relation ByteArray.empty ByteArray.empty) (path : Path)
    {content other : ByteArray} (related : relation content other) :
    Together relation (left.writeAtomically path content) (right.writeAtomically path other) := by
  obtain ⟨made, first, second, leftMade, rightMade, prepared⟩ :=
    (prepare_together matching path).parts
  simp only [writeAtomically, leftMade, rightMade]
  rcases made with problem | done
  · exact ⟨rfl, prepared⟩
  · obtain ⟨pending, first, second, leftPending, rightPending, started⟩ :=
      (make_pending_together prepared empty (workshop path)).parts
    simp only [leftPending, rightPending]
    rcases pending with problem | pending
    · exact ⟨rfl, started⟩
    · obtain ⟨filled, first, second, leftFilled, rightFilled, full⟩ :=
        (fill_together started pending related).parts
      simp only [leftFilled, rightFilled]
      rcases filled with problem | done
      · exact ⟨rfl, (discard_together full pending).disks⟩
      · obtain ⟨settled, first, second, leftSettled, rightSettled, ended⟩ :=
          (settle_together full pending path).parts
        simp only [leftSettled, rightSettled]
        rcases settled with problem | done
        · exact ⟨rfl, (discard_together ended pending).disks⟩
        · exact ⟨rfl, ended⟩

theorem unlink_together (path : Path) :
    Together relation (unlink path left) (unlink path right) := by
  apply step_together matching
  intro left right matching
  rw [matches_locate matching]
  cases left.locate path with
  | error problem => exact .failed problem
  | ok target =>
      cases target with
      | directory place => exact .failed _
      | entry parent name slash =>
          simp only [matches_directory matching, matches_file matching]
          split
          · exact .failed _
          · split
            · split
              · exact .failed _
              · exact .done () (matches_erase matching _)
            · exact .failed _

theorem remove_together (path : Path) :
    Together relation (left.removeIfPresent path) (right.removeIfPresent path) := by
  obtain ⟨result, first, second, leftDone, rightDone, disks⟩ :=
    (unlink_together matching path).parts
  simp only [removeIfPresent, leftDone, rightDone]
  rcases result with problem | done
  · cases problem <;> exact ⟨rfl, disks⟩
  · exact ⟨rfl, disks⟩

end Matches

end Disk

end BuildLedger
