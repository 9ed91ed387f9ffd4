import BuildLedger.Proofs.ExactCollection
import BuildLedger.Proofs.TrackerHistory
import BuildLedger.Run
import Mathlib.Data.List.Nodup

/-!
# What a run reads of a snapshot

After its first snapshot a run looks up the units of its graph, one by one, and reads nothing else
of the snapshots that follow. Their order and their other entries are of no account where no name
stands twice. The extractor is asked about the units that did work and about nobody else. So a report of a
unit ends the same way for every snapshot and extractor that agree on these.
-/
namespace BuildLedger

namespace Snapshot

/-- The entries of a graph's units. -/
def ofGraph (snapshot : Snapshot) (graph : List UnitId) : Snapshot :=
  snapshot.filter fun status => graph.contains status.id

/-- No name stands twice in either snapshot, and the units of the graph have the same entries, in
any order and among any others. -/
structure Reorders (graph : List UnitId) (first second : Snapshot) : Prop where
  distinct : first.ids.Nodup
  otherDistinct : second.ids.Nodup
  entries : (first.ofGraph graph).Perm (second.ofGraph graph)

def AgreeOn (graph : List UnitId) (first second : Snapshot) : Prop :=
  ∀ id ∈ graph, second.lookup id = first.lookup id

theorem lookup_eq_some_iff {snapshot : Snapshot} (distinct : snapshot.ids.Nodup) (id : UnitId)
    (status : UnitStatus) :
    snapshot.lookup id = some status ↔ status ∈ snapshot ∧ status.id = id := by
  constructor
  · intro found
    exact ⟨List.mem_of_find?_eq_some found, by simpa using List.find?_some found⟩
  · rintro ⟨member, rfl⟩
    cases found : snapshot.lookup status.id with
    | none =>
        have absent := List.find?_eq_none.mp found status member
        simp at absent
    | some other =>
        have inside := List.mem_of_find?_eq_some found
        have same : other.id = status.id := by simpa using List.find?_some found
        rw [List.inj_on_of_nodup_map distinct inside member same]

theorem lookup_of_graph {graph : List UnitId} {id : UnitId} (known : id ∈ graph)
    (snapshot : Snapshot) : (snapshot.ofGraph graph).lookup id = snapshot.lookup id := by
  unfold lookup ofGraph
  rw [List.find?_filter]
  congr 1
  funext status
  by_cases same : status.id = id <;> simp [same, known]

theorem agree_on_of_reorders {graph : List UnitId} {first second : Snapshot}
    (reorders : Reorders graph first second) : AgreeOn graph first second := by
  intro id known
  rw [← lookup_of_graph known first, ← lookup_of_graph known second]
  have some : ∀ snapshot : Snapshot, snapshot.ids.Nodup → ((snapshot.ofGraph graph).ids).Nodup := by
    intro snapshot distinct
    exact distinct.sublist (List.filter_sublist.map _)
  apply Option.ext
  intro status
  rw [lookup_eq_some_iff (some first reorders.distinct),
    lookup_eq_some_iff (some second reorders.otherDistinct), reorders.entries.mem_iff]

theorem agree_on_refl (graph : List UnitId) (snapshot : Snapshot) :
    AgreeOn graph snapshot snapshot :=
  fun _ _ => rfl

section AgreeOn

variable {graph : List UnitId} {first second : Snapshot} (agree : AgreeOn graph first second)

include agree

theorem worked_of_agreement : second.worked graph = first.worked graph := by
  unfold worked
  apply List.filter_congr
  intro id known
  unfold showsWork
  rw [agree id known]

theorem drain_of_agreement {pending : List UnitId} (known : ∀ id ∈ pending, id ∈ graph) :
    Tracker.drain pending second = Tracker.drain pending first := by
  unfold Tracker.drain
  apply List.filter_congr
  intro id member
  unfold showsFinished
  rw [agree id (known id member)]

end AgreeOn

end Snapshot

open Snapshot

namespace Tracker

/-- The graph is settled, and nobody else remains. -/
structure Knows (tracker : Tracker) (units : List UnitId) : Prop where
  graph : tracker.graph = some units
  remaining : ∀ id ∈ tracker.remaining, id ∈ units

variable {tracker : Tracker} {graph : List UnitId}

theorem register_known (known : tracker.graph = some graph) (snapshot : Snapshot) :
    tracker.register snapshot = tracker := by
  unfold register
  rw [known]

theorem register_knows (fresh : tracker.graph = none) (idle : tracker.pending = none)
    (snapshot : Snapshot) : (tracker.register snapshot).Knows snapshot.ids := by
  unfold register
  rw [fresh]
  refine ⟨rfl, ?_⟩
  intro id member
  simpa [remaining, idle, units] using member

/-- A question leaves the graph as registration found it. -/
theorem is_last_knows {snapshot : Snapshot} (knows : (tracker.register snapshot).Knows graph)
    (unit : UnitId) : (tracker.isLast unit snapshot).2.Knows graph := by
  have drained : ∀ id ∈ drain (tracker.register snapshot).remaining snapshot, id ∈ graph := by
    intro id member
    exact knows.remaining id (List.mem_filter.mp member).1
  rcases is_last_cases tracker unit snapshot with
    ⟨_, answer⟩ | ⟨_, ⟨_, answer⟩ | ⟨_, answer⟩⟩
  · rw [answer]
    exact knows
  · rw [answer]
    exact ⟨knows.graph, drained⟩
  · rw [answer]
    exact ⟨knows.graph, drained⟩

theorem is_last_of_agreement (knows : tracker.Knows graph) {first second : Snapshot}
    (agree : AgreeOn graph first second) (unit : UnitId) :
    tracker.isLast unit second = tracker.isLast unit first := by
  unfold isLast
  simp only [register_known knows.graph, drain_of_agreement agree knows.remaining]

end Tracker

/-- Two extractors that say the same about some units. -/
def Extractor.AgreeOn (units : List UnitId) (first second : Extractor) : Prop :=
  ∀ unit ∈ units, second.moduleOf unit = first.moduleOf unit ∧
    second.uploadsOf unit = first.uploadsOf unit

section Agreement

variable {State : Type} {graph : List UnitId} {first second : Snapshot}
  {extractor other : Extractor} (agree : AgreeOn graph first second)
  (told : Extractor.AgreeOn (first.worked graph) extractor other)

include agree told

theorem Collection.collect_of_agreement (settings : Settings) (header : Record)
    (started : Instant) :
    collect settings header started graph second other =
      collect settings header started graph first extractor := by
  have worked := worked_of_agreement agree
  calc
    _ = collect settings header started graph first other := by unfold collect; rw [worked]
    _ = _ := collect_of_agreeing told

theorem Publication.publish_of_agreement (publication : Publication)
    (repository : Repository State) (info : RunInfo) (world : World State) :
    publication.publish repository info graph second other world =
      publication.publish repository info graph first extractor world := by
  have same : sequence repository publication.settings info graph second other world =
      sequence repository publication.settings info graph first extractor world := by
    unfold sequence
    rw [Collection.collect_of_agreement agree told]
  unfold publish
  rw [same]

theorem Run.complete_of_agreement {run : Run} {unit : UnitId}
    (answer : run.tracker.isLast unit second = run.tracker.isLast unit first)
    (units : (run.tracker.isLast unit first).2.units = graph) (repository : Repository State)
    (world : World State) :
    run.complete repository other unit second world =
      run.complete repository extractor unit first world := by
  unfold complete
  rw [answer]
  rcases asked : run.tracker.isLast unit first with ⟨last, tracker⟩
  rw [asked] at units
  simp only at units
  simp only [units, Publication.publish_of_agreement agree told]

end Agreement

end BuildLedger
