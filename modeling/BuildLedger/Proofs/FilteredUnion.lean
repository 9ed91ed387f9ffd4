import BuildLedger.Proofs.DistinctUploads
import Mathlib.Data.List.Basic

/-!
# What a batch holds

Every upload that a unit wants is an offer, and the unit's own patterns accept it or hold it back.
The batch has the first accepted offer of each path, in the order of the offers. A path is filtered
when it is offered and no offer of it is accepted. So each offered path is either uploaded or
filtered, and when the run carries on after failures each path of the batch ends as deployed or as
failed.
-/
namespace BuildLedger

namespace Batch

/-- An upload and the unit that wants it. -/
structure Offer where
  unit : UnitId
  upload : Upload

/-- What the units that publish artifacts want, unit by unit, in the order of production. -/
def offers (settings : Settings) (units : List UnitUploads) : List Offer :=
  (units.filter fun own => settings.publishesArtifactsOf own.unit).flatMap fun own =>
    own.uploads.map (Offer.mk own.unit)

/-- The unit's own patterns do not hold the path back. -/
def Offer.isAccepted (settings : Settings) (offer : Offer) : Bool :=
  match PathFilter.ofPatterns (settings.patternsFor offer.unit) with
  | .ok filter => !filter.holdsBack offer.upload.path
  | .error _ => false

def acceptedOf (settings : Settings) (units : List UnitUploads) : List Upload :=
  ((offers settings units).filter fun offer => offer.isAccepted settings).map (·.upload)

def heldOf (settings : Settings) (units : List UnitUploads) : List String :=
  ((offers settings units).filter fun offer => !offer.isAccepted settings).map (·.upload.path)

/-- The patterns of every unit that publishes artifacts can be made ready for matching. -/
def PatternsCompile (settings : Settings) (units : List UnitUploads) : Prop :=
  ∀ own ∈ units, settings.publishesArtifactsOf own.unit = true →
    (PathFilter.ofPatterns (settings.patternsFor own.unit)).isOk = true

instance (settings : Settings) (units : List UnitUploads) :
    Decidable (PatternsCompile settings units) :=
  inferInstanceAs (Decidable (∀ own ∈ units, settings.publishesArtifactsOf own.unit = true →
    (PathFilter.ofPatterns (settings.patternsFor own.unit)).isOk = true))

/-! ## First copies -/

theorem mem_distinct {seen texts : List String} {text : String} :
    text ∈ distinct seen texts ↔ text ∈ texts ∧ text ∉ seen := by
  induction texts generalizing seen with
  | nil => simp [distinct]
  | cons first rest ih =>
      unfold distinct
      by_cases known : first ∈ seen
      · rw [if_pos (by simpa using known), ih]
        constructor
        · rintro ⟨member, fresh⟩
          exact ⟨List.mem_cons_of_mem _ member, fresh⟩
        · rintro ⟨member, fresh⟩
          rcases List.mem_cons.mp member with rfl | member
          · exact absurd known fresh
          · exact ⟨member, fresh⟩
      · rw [if_neg (by simpa using known), List.mem_cons, ih, List.mem_cons, List.mem_cons]
        by_cases same : text = first
        · simp [same, known]
        · simp [same]

/-- Distinct texts stand in the order in which they come first. -/
theorem distinct_order (seen texts : List String) :
    (distinct seen texts).Pairwise fun earlier later =>
      texts.idxOf earlier < texts.idxOf later := by
  induction texts generalizing seen with
  | nil => exact .nil
  | cons first rest ih =>
      -- In the longer list every place is one further, but for the place of `first`.
      have shifted : ∀ known, first ∈ known →
          (distinct known rest).Pairwise fun earlier later =>
            (first :: rest).idxOf earlier < (first :: rest).idxOf later := by
        intro known member
        refine (ih known).imp_of_mem ?_
        intro earlier later before after less
        have apart : ∀ text ∈ distinct known rest, first ≠ text := by
          rintro text inside rfl
          exact (mem_distinct.mp inside).2 member
        rw [List.idxOf_cons_ne _ (apart earlier before), List.idxOf_cons_ne _ (apart later after)]
        exact Nat.succ_lt_succ less
      unfold distinct
      by_cases known : first ∈ seen
      · rw [if_pos (by simpa using known)]
        exact shifted seen known
      · rw [if_neg (by simpa using known), List.pairwise_cons]
        refine ⟨?_, shifted (first :: seen) List.mem_cons_self⟩
        intro text inside
        have apart : first ≠ text := by
          rintro rfl
          exact (mem_distinct.mp inside).2 List.mem_cons_self
        rw [List.idxOf_cons_self, List.idxOf_cons_ne _ apart]
        exact Nat.succ_pos _

theorem paths_of_first (seen : List String) (uploads : List Upload) :
    (Collection.firstByPath seen uploads).map (·.path) = distinct seen (uploads.map (·.path)) := by
  induction uploads generalizing seen with
  | nil => rfl
  | cons upload rest ih =>
      simp only [Collection.firstByPath, List.map_cons, distinct]
      by_cases known : seen.contains upload.path = true
      · rw [if_pos known, if_pos known, ih]
      · rw [if_neg known, if_neg known, List.map_cons, ih]

theorem mem_first_by_path {seen : List String} {uploads : List Upload} {upload : Upload} :
    upload ∈ Collection.firstByPath seen uploads ↔
      uploads.find? (fun copy => copy.path == upload.path) = some upload ∧ upload.path ∉ seen := by
  induction uploads generalizing seen with
  | nil => simp [Collection.firstByPath]
  | cons first rest ih =>
      unfold Collection.firstByPath
      by_cases known : first.path ∈ seen
      · rw [if_pos (by simpa using known), ih]
        by_cases same : first.path = upload.path
        · rw [same] at known
          simp [known]
        · rw [List.find?_cons_of_neg (by simpa using same)]
      · rw [if_neg (by simpa using known), List.mem_cons, ih]
        by_cases same : first.path = upload.path
        · rw [List.find?_cons_of_pos (by simpa using same)]
          rw [same] at known
          simp [same, known, eq_comm]
        · rw [List.find?_cons_of_neg (by simpa using same)]
          have other : upload ≠ first := by
            rintro rfl
            exact same rfl
          simp [other, Ne.symm same]

/-! ## Judging -/

theorem offers_cons_of_publishing {settings : Settings} {own : UnitUploads}
    (units : List UnitUploads) (publishes : settings.publishesArtifactsOf own.unit = true) :
    offers settings (own :: units) =
      own.uploads.map (Offer.mk own.unit) ++ offers settings units := by
  simp only [offers, List.filter_cons, publishes, if_true, List.flatMap_cons]

theorem offers_cons_of_silent {settings : Settings} {own : UnitUploads}
    (units : List UnitUploads) (silent : ¬settings.publishesArtifactsOf own.unit = true) :
    offers settings (own :: units) = offers settings units := by
  simp only [offers, List.filter_cons, if_neg silent]

theorem is_accepted_of_compiled {settings : Settings} {unit : UnitId} {filter : PathFilter}
    (compiled : PathFilter.ofPatterns (settings.patternsFor unit) = .ok filter)
    (upload : Upload) :
    (Offer.mk unit upload).isAccepted settings = !filter.holdsBack upload.path := by
  simp only [Offer.isAccepted, compiled]

/-- The two lists of a judgement grow by the accepted and by the held offers. -/
theorem judge_all_offers {settings : Settings} {units : List UnitUploads}
    (compile : PatternsCompile settings units) (judged : Judged) :
    judgeAll settings judged units = .ok {
      accepted := judged.accepted ++ acceptedOf settings units
      held := judged.held ++ heldOf settings units } := by
  induction units generalizing judged with
  | nil => simp [judgeAll, acceptedOf, heldOf, offers]
  | cons own rest ih =>
      have later := ih fun other member => compile other (List.mem_cons_of_mem _ member)
      unfold judgeAll judge
      by_cases publishes : settings.publishesArtifactsOf own.unit = true
      · rw [if_pos publishes]
        have fine := compile own List.mem_cons_self publishes
        cases compiled : PathFilter.ofPatterns (settings.patternsFor own.unit) with
        | error oversized =>
            rw [compiled] at fine
            cases fine
        | ok filter =>
            have accepts := is_accepted_of_compiled compiled
            simp only [later, acceptedOf, heldOf, offers_cons_of_publishing rest publishes,
              List.filter_append, List.filter_map, List.map_append, List.map_map,
              Function.comp_def, accepts, Bool.not_not, List.append_assoc, List.map_id']
      · rw [if_neg publishes]
        simp only [later, acceptedOf, heldOf, offers_cons_of_silent rest publishes]

/-! ## The batch -/

/-- The first accepted copy of each path that is offered, and the paths that nobody accepts. -/
structure FilteredUnion (settings : Settings) (units : List UnitUploads) (batch : Batch) :
    Prop where
  /-- An upload is chosen when it is the first accepted one with its path. -/
  chosen : ∀ upload, upload ∈ batch.chosen ↔
    (acceptedOf settings units).find? (fun copy => copy.path == upload.path) = some upload
  inOrder : batch.chosen.Pairwise fun earlier later =>
    ((acceptedOf settings units).map (·.path)).idxOf earlier.path <
      ((acceptedOf settings units).map (·.path)).idxOf later.path
  paths : ∀ path, path ∈ batch.chosen.map (·.path) ↔
    ∃ offer ∈ offers settings units, offer.upload.path = path ∧ offer.isAccepted settings = true
  once : (batch.chosen.map (·.path)).Nodup
  filtered : ∀ path, path ∈ batch.filtered ↔
    (∃ offer ∈ offers settings units, offer.upload.path = path) ∧
      ∀ offer ∈ offers settings units, offer.upload.path = path →
        offer.isAccepted settings = false
  filteredInOrder : batch.filtered.Pairwise fun earlier later =>
    (heldOf settings units).idxOf earlier < (heldOf settings units).idxOf later
  filteredOnce : batch.filtered.Nodup
  apart : List.Disjoint (batch.chosen.map (·.path)) batch.filtered
  together : ∀ path, path ∈ batch.chosen.map (·.path) ∨ path ∈ batch.filtered ↔
    ∃ offer ∈ offers settings units, offer.upload.path = path

theorem accepted_path_iff {settings : Settings} {units : List UnitUploads} {path : String} :
    path ∈ (acceptedOf settings units).map (·.path) ↔
      ∃ offer ∈ offers settings units,
        offer.upload.path = path ∧ offer.isAccepted settings = true := by
  simp only [acceptedOf, List.map_map, List.mem_map, List.mem_filter, Function.comp_apply]
  constructor
  · rintro ⟨offer, ⟨member, accepted⟩, same⟩
    exact ⟨offer, member, same, accepted⟩
  · rintro ⟨offer, member, same, accepted⟩
    exact ⟨offer, ⟨member, accepted⟩, same⟩

theorem held_path_iff {settings : Settings} {units : List UnitUploads} {path : String} :
    path ∈ heldOf settings units ↔
      ∃ offer ∈ offers settings units,
        offer.upload.path = path ∧ offer.isAccepted settings = false := by
  simp only [heldOf, List.mem_map, List.mem_filter, Bool.not_eq_true']
  constructor
  · rintro ⟨offer, ⟨member, held⟩, same⟩
    exact ⟨offer, member, same, held⟩
  · rintro ⟨offer, member, same, held⟩
    exact ⟨offer, ⟨member, held⟩, same⟩

section Judged

variable {settings : Settings} {units : List UnitUploads}

theorem chosen_path_iff {path : String} :
    path ∈ (Collection.firstByPath [] (acceptedOf settings units)).map (·.path) ↔
      ∃ offer ∈ offers settings units,
        offer.upload.path = path ∧ offer.isAccepted settings = true := by
  rw [paths_of_first, mem_distinct, accepted_path_iff]
  simp

theorem filtered_path_iff {chosen : List String} {path : String}
    (complete : path ∈ chosen ↔ ∃ offer ∈ offers settings units,
      offer.upload.path = path ∧ offer.isAccepted settings = true) :
    path ∈ distinct chosen (heldOf settings units) ↔
      (∃ offer ∈ offers settings units, offer.upload.path = path) ∧
        ∀ offer ∈ offers settings units, offer.upload.path = path →
          offer.isAccepted settings = false := by
  rw [mem_distinct, held_path_iff, complete]
  constructor
  · rintro ⟨⟨offer, member, same, _⟩, unaccepted⟩
    refine ⟨⟨offer, member, same⟩, ?_⟩
    intro other inside equal
    rw [← Bool.not_eq_true]
    exact fun accepted => unaccepted ⟨other, inside, equal, accepted⟩
  · rintro ⟨⟨offer, member, same⟩, held⟩
    refine ⟨⟨offer, member, same, held offer member same⟩, ?_⟩
    rintro ⟨other, inside, equal, accepted⟩
    rw [held other inside equal] at accepted
    cases accepted

theorem accepted_or_held (path : String) :
    ((∃ offer ∈ offers settings units,
        offer.upload.path = path ∧ offer.isAccepted settings = true) ∨
      ((∃ offer ∈ offers settings units, offer.upload.path = path) ∧
        ∀ offer ∈ offers settings units, offer.upload.path = path →
          offer.isAccepted settings = false)) ↔
      ∃ offer ∈ offers settings units, offer.upload.path = path := by
  constructor
  · rintro (⟨offer, member, same, _⟩ | ⟨⟨offer, member, same⟩, _⟩) <;>
      exact ⟨offer, member, same⟩
  · intro offered
    by_cases accepted : ∃ offer ∈ offers settings units,
        offer.upload.path = path ∧ offer.isAccepted settings = true
    · exact Or.inl accepted
    · refine Or.inr ⟨offered, ?_⟩
      intro offer member same
      rw [← Bool.not_eq_true]
      exact fun fine => accepted ⟨offer, member, same, fine⟩

/-- Collapsing the accepted offers by path and the held ones by text gives the batch. -/
theorem filtered_union_of_judged :
    let chosen := Collection.firstByPath [] (acceptedOf settings units)
    FilteredUnion settings units
      { chosen, filtered := distinct (chosen.map (·.path)) (heldOf settings units) } := by
  intro chosen
  have filtered : ∀ path, path ∈ distinct (chosen.map (·.path)) (heldOf settings units) ↔ _ :=
    fun path => filtered_path_iff chosen_path_iff
  have order := distinct_order [] ((acceptedOf settings units).map (·.path))
  have heldOrder := distinct_order (chosen.map (·.path)) (heldOf settings units)
  rw [← paths_of_first, List.pairwise_map] at order
  constructor
  · intro upload
    rw [mem_first_by_path]
    simp
  · exact order
  · exact fun path => chosen_path_iff
  · exact (Collection.first_by_path_distinct [] _).1
  · exact filtered
  · exact heldOrder
  · refine heldOrder.imp ?_
    rintro earlier later less rfl
    exact Nat.lt_irrefl _ less
  · intro path uploaded held
    exact (mem_distinct.mp held).2 uploaded
  · intro path
    exact (or_congr chosen_path_iff (filtered path)).trans (accepted_or_held path)

end Judged

theorem of_collection_compiled {settings : Settings} {collection : Collection}
    (compile : PatternsCompile settings collection.units) :
    ∃ batch, ofCollection settings collection = .ok batch ∧
      FilteredUnion settings collection.units batch := by
  unfold ofCollection
  rw [judge_all_offers compile]
  exact ⟨_, rfl, filtered_union_of_judged⟩

end Batch

namespace Publication

/-- The deployed and the failed paths, each in the order of the batch, share the batch out. -/
structure SharedOut (paths : List String) (report : Report) : Prop where
  deployed : report.deployed.Sublist paths
  failed : (report.failed.map (·.path)).Sublist paths
  apart : List.Disjoint report.deployed (report.failed.map (·.path))
  together : ∀ path, path ∈ paths ↔
    path ∈ report.deployed ∨ path ∈ report.failed.map (·.path)

theorem deployed_sublist (attempts : List Attempt) :
    (attempts.filterMap deployedPath?).Sublist (attempts.map (·.1.path)) := by
  induction attempts with
  | nil => exact .slnil
  | cons attempt rest ih =>
      obtain ⟨upload, answer⟩ := attempt
      cases answer with
      | ok value => exact ih.cons_cons _
      | error failure => exact ih.cons _

theorem failed_sublist (attempts : List Attempt) :
    ((attempts.filterMap failedUpload?).map (·.path)).Sublist (attempts.map (·.1.path)) := by
  induction attempts with
  | nil => exact .slnil
  | cons attempt rest ih =>
      obtain ⟨upload, answer⟩ := attempt
      cases answer with
      | ok value => exact ih.cons _
      | error failure => exact ih.cons_cons _

/-- No attempt is lost and none is noted twice. -/
theorem attempts_perm (attempts : List Attempt) :
    (attempts.filterMap deployedPath? ++ (attempts.filterMap failedUpload?).map (·.path)).Perm
      (attempts.map (·.1.path)) := by
  induction attempts with
  | nil => exact .refl _
  | cons attempt rest ih =>
      obtain ⟨upload, answer⟩ := attempt
      cases answer with
      | ok value => exact ih.cons _
      | error failure => exact List.perm_middle.trans (ih.cons _)

theorem attempts_shared_out {attempts : List Attempt} {report : Report}
    (fresh : report.deployed = [] ∧ report.failed = [])
    (distinct : (attempts.map (·.1.path)).Nodup) :
    SharedOut (attempts.map (·.1.path)) (noteAttempts report attempts) := by
  obtain ⟨noneDeployed, noneFailed⟩ := fresh
  have perm := attempts_perm attempts
  have parts := List.nodup_append.mp (perm.nodup_iff.mpr distinct)
  constructor <;> simp only [noteAttempts, noneDeployed, noneFailed, List.nil_append]
  · exact deployed_sublist attempts
  · exact failed_sublist attempts
  · intro path deployed failed
    exact parts.2.2 path deployed path failed rfl
  · intro path
    rw [← perm.mem_iff, List.mem_append]

section Deployed

variable {State : Type} {repository : Repository State} {settings : Settings}
  {collection : Collection} {batch : Batch} {world : World State}

theorem deploy_of_batch (batched : Batch.ofCollection settings collection = .ok batch)
    (report : Report) :
    deploy repository settings collection report world =
      uploadAll repository settings.failurePolicy batch.chosen
        { report with filtered := batch.filtered } world := by
  unfold deploy
  rw [batched]

/-- Each upload of the batch is attempted in its order and noted, unless a failure ends the run. -/
theorem deploy_ends (batched : Batch.ofCollection settings collection = .ok batch)
    (report : Report) :
    let deployment := deploy repository settings collection report world
    (∃ attempts : List Attempt,
      attempts.map Prod.fst = batch.chosen ∧
      Exchanges (repository.react settings world.disk world.now) world.remote
        (attempts.map attemptExchange) deployment.2.remote ∧
      deployment.1 = .ok (noteAttempts { report with filtered := batch.filtered } attempts)) ∨
    settings.failurePolicy = .abort ∧ ∃ failure, deployment.1 = .error failure := by
  intro deployment
  have uploaded : uploadAll repository settings.failurePolicy batch.chosen
      { report with filtered := batch.filtered } world = (deployment.1, deployment.2) :=
    (deploy_of_batch batched report).symm
  obtain ⟨attempts, talks, _, ends⟩ := upload_all_cases uploaded
  rcases ends with ⟨order, noted, _⟩ | ⟨_, _, _, failure, abort, _, _, failed⟩
  · exact Or.inl ⟨attempts, order, talks.answered, noted⟩
  · exact Or.inr ⟨abort, failure, failed⟩

end Deployed

/-- The batch is the union of what the units want, each filtered by the unit's own patterns, without
repeated paths. A report has its filtered paths, and the others as deployed or as failed; there is
one when failures are only noted. -/
theorem filtered_union_is_deployed (settings : Settings) (collection : Collection)
    (compile : Batch.PatternsCompile settings collection.units) :
    ∃ batch, Batch.ofCollection settings collection = .ok batch ∧
      Batch.FilteredUnion settings collection.units batch ∧
      ∀ (State : Type) (repository : Repository State) (world : World State),
        let deployment :=
          deploy repository settings collection { record := collection.record } world
        (settings.failurePolicy = .carryOn → ∃ report, deployment.1 = .ok report) ∧
        ∀ report, deployment.1 = .ok report →
          report.filtered = batch.filtered ∧
          SharedOut (batch.chosen.map (·.path)) report ∧
          ∃ attempts : List Attempt,
            attempts.map Prod.fst = batch.chosen ∧
            Exchanges (repository.react settings world.disk world.now) world.remote
              (attempts.map attemptExchange) deployment.2.remote ∧
            report.deployed = attempts.filterMap deployedPath? ∧
            report.failed = attempts.filterMap failedUpload? := by
  obtain ⟨batch, batched, union⟩ := Batch.of_collection_compiled compile
  refine ⟨batch, batched, union, ?_⟩
  intro State repository world deployment
  rcases deploy_ends batched { record := collection.record } with
    ⟨attempts, order, talks, noted⟩ | ⟨abort, failure, failed⟩
  · refine ⟨fun _ => ⟨_, noted⟩, ?_⟩
    intro report done
    obtain rfl : _ = report := Except.ok.inj (noted.symm.trans done)
    have paths : attempts.map (·.1.path) = batch.chosen.map (·.path) := by
      rw [← order, List.map_map]
      rfl
    refine ⟨rfl, ?_, attempts, order, talks, List.nil_append _, List.nil_append _⟩
    rw [← paths]
    exact attempts_shared_out ⟨rfl, rfl⟩ (by rw [paths]; exact union.once)
  · constructor
    · intro policy
      rw [policy] at abort
      cases abort
    · intro report done
      cases failed.symm.trans done

/-- The first unit holds back what the second uploads, both hold back the signature, and the third
publishes nothing. -/
theorem shared_path_is_deployed_once :
    let upload := fun path : String => ({ path, repository := "libs", file := path } : Upload)
    let settings : Settings := {
      failurePolicy := .carryOn
      publisher := { excludePatterns := ["*.asc"] }
      modules := Keyed.ofList [
        ("a", { excludePatterns := some ["shared.jar, *.asc"] }),
        ("c", { publishArtifacts := some false })] }
    let collection : Collection := {
      record := { name := "app", number := "7", started := "start" }
      units := [
        ⟨"a", ["shared.jar", "app.asc", "a.jar"].map upload⟩,
        ⟨"b", ["b.jar", "shared.jar", "app.asc", "b.jar"].map upload⟩,
        ⟨"c", ["c.jar"].map upload⟩] }
    Batch.PatternsCompile settings collection.units ∧ ∃ batch,
      Batch.ofCollection settings collection = .ok batch ∧
      Batch.FilteredUnion settings collection.units batch ∧
      batch.chosen.map (·.path) = ["a.jar", "b.jar", "shared.jar"] ∧
      batch.filtered = ["app.asc"] := by
  intro upload settings collection
  have compile : Batch.PatternsCompile settings collection.units := by decide +kernel
  obtain ⟨batch, batched, union, _⟩ := filtered_union_is_deployed settings collection compile
  refine ⟨compile, batch, batched, union, ?_⟩
  have found : Batch.ofCollection settings collection = .ok _ := rfl
  rw [found] at batched
  cases batched
  decide

end Publication

end BuildLedger
