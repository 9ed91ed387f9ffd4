import BuildLedger.Proofs.FileEffects
import BuildLedger.Proofs.FilteredUnion
import Mathlib.Data.List.Nodup
import Mathlib.Data.List.Perm.Basic

/-!
# What a manifest covers

The manifest has the first copy of every path that any unit wants, whether or not the settings let
the unit publish and whatever its patterns say. Filters and failures decide which list of a report a
path is on, and never whether the manifest has it: each path of a report is in the manifest once.
-/
namespace BuildLedger

namespace Collection

/-- The first copy of each path, in the order in which the paths come first. -/
structure FirstCopies (candidates listed : List Upload) : Prop where
  sublist : listed.Sublist candidates
  first : ∀ upload, upload ∈ listed ↔
    candidates.find? (fun copy => copy.path == upload.path) = some upload
  inOrder : listed.Pairwise fun earlier later =>
    (candidates.map (·.path)).idxOf earlier.path < (candidates.map (·.path)).idxOf later.path
  once : (listed.map (·.path)).Nodup
  paths : ∀ path, path ∈ listed.map (·.path) ↔ path ∈ candidates.map (·.path)

/-- The manifest has one entry for the path. -/
def ListsOnce (collection : Collection) (path : String) : Prop :=
  (collection.manifest.map (·.path)).count path = 1

theorem first_by_path_sublist (seen : List String) (uploads : List Upload) :
    (firstByPath seen uploads).Sublist uploads := by
  induction uploads generalizing seen with
  | nil => exact .slnil
  | cons upload rest ih =>
      unfold firstByPath
      by_cases known : seen.contains upload.path = true
      · rw [if_pos known]
        exact (ih seen).cons upload
      · rw [if_neg known]
        exact (ih (upload.path :: seen)).cons_cons upload

theorem first_by_path_copies (uploads : List Upload) :
    FirstCopies uploads (firstByPath [] uploads) := by
  have order := Batch.distinct_order [] (uploads.map (·.path))
  rw [← Batch.paths_of_first, List.pairwise_map] at order
  constructor
  · exact first_by_path_sublist [] uploads
  · intro upload
    rw [Batch.mem_first_by_path]
    simp
  · exact order
  · exact (first_by_path_distinct [] uploads).1
  · intro path
    rw [Batch.paths_of_first, Batch.mem_distinct]
    simp

/-- The members and their order leave no choice. -/
theorem first_copies_unique {candidates listed other : List Upload}
    (copies : FirstCopies candidates listed) (others : FirstCopies candidates other) :
    listed = other := by
  have perm : listed.Perm other := by
    apply (List.perm_ext_iff_of_nodup copies.once.of_map others.once.of_map).mpr
    intro upload
    rw [copies.first, others.first]
  apply List.Perm.eq_of_pairwise _ copies.inOrder others.inOrder perm
  intro earlier later _ _ less more
  exact absurd more (Nat.lt_asymm less)

theorem lists_once_iff {collection : Collection} {path : String} :
    collection.ListsOnce path ↔ path ∈ collection.candidates.map (·.path) := by
  have copies := first_by_path_copies collection.candidates
  unfold ListsOnce
  constructor
  · intro once
    apply (copies.paths path).mp
    apply List.count_pos_iff.mp
    rw [manifest] at once
    omega
  · intro wanted
    exact List.count_eq_one_of_mem copies.once ((copies.paths path).mpr wanted)

end Collection

namespace Batch

variable {settings : Settings} {collection : Collection} {batch : Batch}

/-- Judging fails at the first unit whose patterns are not made ready. -/
theorem compile_of_judged {units : List UnitUploads} {judged later : Judged}
    (done : judgeAll settings judged units = .ok later) : PatternsCompile settings units := by
  induction units generalizing judged with
  | nil =>
      intro own member
      cases member
  | cons own rest ih =>
      unfold judgeAll at done
      cases judges : judge settings judged own with
      | error failure =>
          rw [judges] at done
          cases done
      | ok next =>
          rw [judges] at done
          intro other member publishes
          rcases List.mem_cons.mp member with rfl | inside
          · unfold judge at judges
            rw [if_pos publishes] at judges
            cases compiled : PathFilter.ofPatterns (settings.patternsFor other.unit) with
            | error oversized =>
                rw [compiled] at judges
                cases judges
            | ok filter => rfl
          · exact ih done other inside publishes

theorem union_of_batched (batched : ofCollection settings collection = .ok batch) :
    FilteredUnion settings collection.units batch := by
  have compile : PatternsCompile settings collection.units := by
    unfold ofCollection at batched
    cases judged : judgeAll settings {} collection.units with
    | error failure =>
        rw [judged] at batched
        cases batched
    | ok later => exact compile_of_judged judged
  obtain ⟨other, found, union⟩ := of_collection_compiled compile
  rw [batched] at found
  cases found
  exact union

theorem offered_is_candidate {offer : Offer} (offered : offer ∈ offers settings collection.units) :
    offer.upload ∈ collection.candidates := by
  obtain ⟨own, publishing, inside⟩ := List.mem_flatMap.mp offered
  obtain ⟨upload, wanted, rfl⟩ := List.mem_map.mp inside
  exact List.mem_flatMap.mpr ⟨own, (List.mem_filter.mp publishing).1, wanted⟩

/-- A batch says nothing of a path that no unit wants. -/
theorem batch_paths_listed (batched : ofCollection settings collection = .ok batch) {path : String}
    (told : path ∈ batch.chosen.map (·.path) ∨ path ∈ batch.filtered) :
    collection.ListsOnce path := by
  obtain ⟨offer, offered, rfl⟩ := ((union_of_batched batched).together path).mp told
  apply Collection.lists_once_iff.mpr
  exact List.mem_map_of_mem (offered_is_candidate offered)

end Batch

/-- The paths that a report says something of. -/
def Report.paths (report : Report) : List String :=
  report.deployed ++ report.failed.map (·.path) ++ report.filtered

namespace Publication

variable {State : Type} {repository : Repository State} {settings : Settings}
  {collection : Collection} {batch : Batch} {world later : World State} {report : Report}

theorem noted_paths_listed {attempts : List Attempt}
    (batched : Batch.ofCollection settings collection = .ok batch)
    (order : attempts.map Prod.fst = batch.chosen) {record : Record} {path : String}
    (told : path ∈ (noteAttempts { record, filtered := batch.filtered } attempts).paths) :
    collection.ListsOnce path := by
  have attempted : attempts.map (·.1.path) = batch.chosen.map (·.path) := by
    rw [← order, List.map_map]
    rfl
  apply Batch.batch_paths_listed batched
  simp only [Report.paths, noteAttempts, List.nil_append, List.mem_append] at told
  rcases told with (deployed | failed) | filtered
  · left
    rw [← attempted]
    exact (deployed_sublist attempts).mem deployed
  · left
    rw [← attempted]
    exact (failed_sublist attempts).mem failed
  · exact Or.inr filtered

theorem deploy_paths_listed
    (done : deploy repository settings collection { record := collection.record } world =
      (.ok report, later)) :
    ∀ path ∈ report.paths, collection.ListsOnce path := by
  intro path told
  rcases deploy_deeds done with ⟨failure, _, failed, _⟩ | ⟨batch, attempts, batched, _, ends⟩
  · cases failed
  · rcases ends with ⟨order, noted, _⟩ | ⟨_, _, _, failure, _, _, _, failed⟩
    · cases noted
      exact noted_paths_listed batched order told
    · cases failed

/-- Nothing behind the uploads changes the lists of the report. -/
theorem course_paths_listed {collected : Except Failure Collection} {deeds : List Deed}
    (course : Course settings collected deeds (.ok report)) :
    ∃ collection, collected = .ok collection ∧
      ∀ path ∈ report.paths, collection.ListsOnce path := by
  generalize outcome : Except.ok report = result at course
  cases course with
  | stopped stop => cases outcome
  | @arrived collection _ _ connected start _ arrival finale =>
      refine ⟨collection, rfl, ?_⟩
      intro path told
      have same : report.paths = start.paths := by
        cases finale with
        | @ends _ _ _ _ _ _ recorded listed sent _ _ _ _ _ =>
            cases sent <;> cases recorded <;> cases listed <;> cases outcome
            rfl
      rw [same] at told
      cases arrival with
      | unconnected nothing => cases told
      | uploaded address batched order policy => exact noted_paths_listed batched order told

end Publication

namespace Collection

open Publication

/-- The manifest is the list of the first copies, and has every path of every unit once. So has it
every path of a report, of uploading any collection and of a whole publication. -/
theorem manifest_covers_candidates (collection : Collection) :
    (∀ listed, FirstCopies (collection.units.flatMap (·.uploads)) listed ↔
      listed = collection.manifest) ∧
    (∀ own ∈ collection.units, ∀ upload ∈ own.uploads, collection.ListsOnce upload.path) ∧
    ∀ (State : Type) (repository : Repository State) (settings : Settings) (world : World State)
      (report : Report),
      ((deploy repository settings collection { record := collection.record } world).1 =
          .ok report → ∀ path ∈ report.paths, collection.ListsOnce path) ∧
      ∀ (info : RunInfo) (graph : List UnitId) (snapshot : Snapshot) (extractor : Extractor),
        collect settings (header settings info world.now) info.started graph snapshot extractor =
          .ok collection →
        (({ settings } : Publication).publish repository info graph snapshot extractor world).1 =
          .ok (some report) → ∀ path ∈ report.paths, collection.ListsOnce path := by
  have copies := first_by_path_copies collection.candidates
  constructor
  · intro listed
    constructor
    · intro described
      exact first_copies_unique described copies
    · intro same
      rw [same]
      exact copies
  constructor
  · intro own inside upload wanted
    apply lists_once_iff.mpr
    exact List.mem_map_of_mem (List.mem_flatMap.mpr ⟨own, inside, wanted⟩)
  intro State repository settings world report
  constructor
  · intro done
    exact deploy_paths_listed (Prod.ext done rfl)
  · intro info graph snapshot extractor collected published
    obtain ⟨deeds, _, _, _, course⟩ := published_course (Prod.ext published rfl)
    obtain ⟨other, found, listed⟩ := course_paths_listed course
    rw [collected] at found
    cases found
    exact listed

/-- One upload fails, one path is held back, and one unit publishes nothing. -/
theorem unpublished_paths_are_listed :
    let upload := fun path : String => ({ path, repository := "libs", file := path } : Upload)
    let settings : Settings := {
      failurePolicy := .carryOn
      publisher := { excludePatterns := ["*.asc"] }
      modules := Keyed.ofList [("c", { publishArtifacts := some false })] }
    let collection : Collection := {
      record := { name := "app", number := "7", started := "start" }
      units := [
        ⟨"a", ["shared.jar", "app.asc"].map upload⟩,
        ⟨"b", ["shared.jar", "b.jar"].map upload⟩,
        ⟨"c", ["b.jar", "c.jar"].map upload⟩] }
    let repository : Repository Unit := {
      connect := fun _ _ state => (.ok (), state)
      deploy := fun _ upload state =>
        (if upload.path = "b.jar" then .error (.deploy "b.jar" "full") else .ok (), state)
      append := fun _ state => (.ok (), state)
      send := fun _ _ _ state => (.ok (), state)
      close := fun state => (.ok (), state) }
    let world : World Unit := { disk := Disk.blank ["work"], remote := (), now := ⟨0, 0⟩ }
    let report : Report := {
      record := collection.record
      deployed := ["shared.jar"]
      filtered := ["app.asc"]
      failed := [⟨"b.jar", "failed to deploy 'b.jar': full"⟩] }
    (deploy repository settings collection { record := collection.record } world).1 = .ok report ∧
      (∀ path ∈ report.paths, collection.ListsOnce path) ∧
      collection.manifest.map (·.path) = ["shared.jar", "app.asc", "b.jar", "c.jar"] := by
  intro upload settings collection repository world report
  have done : (deploy repository settings collection { record := collection.record } world).1 =
      .ok report := by decide +kernel
  have listed := (manifest_covers_candidates collection).2.2 Unit repository settings world report
  exact ⟨done, listed.1 done, by decide +kernel⟩

end Collection

end BuildLedger
