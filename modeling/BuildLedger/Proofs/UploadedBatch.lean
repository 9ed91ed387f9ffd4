import BuildLedger.Proofs.FileEffects
import BuildLedger.Proofs.DistinctUploads

/-!
# What a publication uploads

The calls of a publication are those of its deeds, in their order. Among them the uploads are the
first ones of the batch: all of them, or those up to the failure that ends the run, or none.
-/
namespace BuildLedger

namespace Call

def upload? : Call → Option Upload
  | .deploy upload => some upload
  | _ => none

end Call

namespace Deed

def call? : Deed → Option Call
  | .said call _ => some call
  | .wrote _ _ _ | .removed _ _ => none

end Deed

/-- The uploads that a list of calls attempts. -/
def attemptedBy (calls : List Call) : List Upload := calls.filterMap Call.upload?

variable {State : Type} {repository : Repository State} {settings : Settings}

theorem leads_calls {before after : World State} {deed : Deed}
    (step : deed.Leads repository settings before after) :
    after.calls = before.calls ++ deed.call?.toList := by
  cases deed with
  | said call answer =>
      simp only [Deed.Leads, World.call] at step
      cases step
      rfl
  | wrote path text result =>
      simp only [Deed.Leads, World.onDisk] at step
      cases step
      exact (List.append_nil _).symm
  | removed path result =>
      simp only [Deed.Leads, World.onDisk] at step
      cases step
      exact (List.append_nil _).symm

theorem deeds_calls {before after : World State} {deeds : List Deed}
    (done : Deeds repository settings before deeds after) :
    after.calls = before.calls ++ deeds.filterMap Deed.call? := by
  induction done with
  | nothing world => exact (List.append_nil _).symm
  | @deed before middle last deed rest step _ ih =>
      rw [ih, leads_calls step, List.append_assoc]
      cases named : deed.call? <;> simp [named]

theorem attempted_append (earlier later : List Call) :
    attemptedBy (earlier ++ later) = attemptedBy earlier ++ attemptedBy later :=
  List.filterMap_append

theorem attempted_of_said {Item : Type} (upload : Item → Upload)
    (answer : Item → Except Failure Unit) (items : List Item) :
    attemptedBy ((items.map fun item => Deed.said (.deploy (upload item)) (answer item)).filterMap
      Deed.call?) = items.map upload := by
  induction items with
  | nil => rfl
  | cons item rest ih => exact congrArg (upload item :: ·) ih

namespace Publication

variable {collection : Collection} {world later : World State}

theorem remove_properties_calls (settings : Settings) (world : World State) :
    (removeProperties settings world).calls = world.calls := by
  unfold removeProperties
  cases settings.propsFile <;> rfl

theorem writing_silent {path : Option Path} {text : String} {deeds : List Deed}
    {result : Except Failure Unit} (writing : Writing path text deeds result) :
    deeds.filterMap Deed.call? = [] := by
  cases writing <;> rfl

/-- Behind the uploads nothing is uploaded. -/
theorem ending_uploads {connected : Bool} {report : Report} {deeds : List Deed}
    {result : Except Failure Report}
    (ending : Ending settings collection connected report deeds result) :
    attemptedBy (deeds.filterMap Deed.call?) = [] := by
  cases ending with
  | ends saves sends closes records lists =>
      simp only [List.filterMap_append, writing_silent saves, writing_silent records,
        writing_silent lists, attempted_append, List.nil_append, List.append_nil]
      have unsent : ∀ {sending : List Deed} {saved sent},
          Sending settings collection.record connected saved sending sent →
            attemptedBy (sending.filterMap Deed.call?) = [] := by
        intro sending saved sent sends
        cases sends with
        | unsaved failure => rfl
        | unwanted off => rfl
        | sent wanted connects =>
            simp only [recordCall]
            split <;> rfl
      rw [unsent sends]
      cases closes <;> rfl

theorem stopped_uploads {collected : Except Failure Collection} {deeds : List Deed}
    {failure : Failure} (stop : Stopped settings collected deeds failure) :
    attemptedBy (deeds.filterMap Deed.call?) = [] ∨
      ∃ collection batch, collected = .ok collection ∧
        Batch.ofCollection settings collection = .ok batch ∧
        attemptedBy (deeds.filterMap Deed.call?) <+: batch.chosen := by
  cases stop with
  | collecting failure => exact Or.inl rfl
  | connecting address => exact Or.inl rfl
  | batching address refused => exact Or.inl rfl
  | @uploading collection _ _ _ batch before rest upload address batched policy order =>
      right
      refine ⟨collection, batch, rfl, batched, rest, ?_⟩
      have said := attempted_of_said id (fun _ => .ok ()) before
      rw [List.map_id] at said
      rw [List.filterMap_append, attempted_append, order, List.append_assoc]
      exact congrArg (· ++ upload :: rest) said

/-- What is uploaded is the batch as far as the run got. -/
theorem course_uploads {collected : Except Failure Collection} {deeds : List Deed}
    {result : Except Failure Report} (course : Course settings collected deeds result) :
    attemptedBy (deeds.filterMap Deed.call?) = [] ∨
      ∃ collection batch, collected = .ok collection ∧
        Batch.ofCollection settings collection = .ok batch ∧
        attemptedBy (deeds.filterMap Deed.call?) <+: batch.chosen := by
  cases course with
  | stopped stop => exact stopped_uploads stop
  | @arrived collection _ _ _ _ _ arrival finale =>
      rw [List.filterMap_append, attempted_append, ending_uploads finale, List.append_nil]
      cases arrival with
      | unconnected nothing => exact Or.inl rfl
      | @uploaded _ batch attempts address batched order policy =>
          right
          refine ⟨collection, batch, rfl, batched, [], ?_⟩
          rw [List.append_nil, ← order]
          exact attempted_of_said Prod.fst Prod.snd attempts

theorem publish_uploads {info : RunInfo} {graph : List UnitId} {snapshot : Snapshot}
    {extractor : Extractor} {outcome : Except Failure (Option Report)} {publication : Publication}
    (done : ({ settings } : Publication).publish repository info graph snapshot extractor world =
      (outcome, publication, later)) :
    ∃ calls, later.calls = world.calls ++ calls ∧ (attemptedBy calls = [] ∨
      ∃ collection batch, Collection.collect settings (header settings info world.now) info.started
          graph snapshot extractor = .ok collection ∧
        Batch.ofCollection settings collection = .ok batch ∧ attemptedBy calls <+: batch.chosen) := by
  obtain ⟨deeds, result, ended, _, removed, happened, course⟩ := publish_course done
  refine ⟨deeds.filterMap Deed.call?, ?_, course_uploads course⟩
  rw [removed, remove_properties_calls, deeds_calls happened]

end Publication

end BuildLedger
