import BuildLedger.Proofs.RegisteredUnits
import BuildLedger.Proofs.SinglePublication
import BuildLedger.Proofs.UntimedWorlds
import BuildLedger.Proofs.UploadedBatch

/-!
# Only the registration order counts

Two runs find the same first snapshot, which registers the units. Behind it the snapshots of one run
may list these units in another order than those of the other run, and name units that are not
registered, and the extractor may answer as it likes for units that did no work. Nobody sees a
difference: with the same surroundings the runs take the same turns. With another clock, and a
repository that makes nothing of the time, they differ in the duration in the record and in nothing
else.
-/
namespace BuildLedger

namespace Run

open Snapshot

variable {State : Type} {worlds : World State → World State → Prop}
  {repositories : Repository State → Repository State → Prop}
  {outcomes : Except Failure Outcome → Except Failure Outcome → Prop} {graph : List UnitId}

/-- A report of the same unit in another run. The snapshots show the same of the graph's units, and
the extractors say the same about those that did work. -/
structure Counterpart (worlds : World State → World State → Prop)
    (repositories : Repository State → Repository State → Prop) (graph : List UnitId)
    (first second : Completion State) : Prop where
  unit : second.unit = first.unit
  snapshot : second.snapshot = first.snapshot ∨ Reorders graph first.snapshot second.snapshot
  extractor : Extractor.AgreeOn (first.snapshot.worked graph) first.extractor second.extractor
  repository : repositories first.repository second.repository
  interlude : ∀ {left right}, worlds left right →
    worlds (first.interlude.act left) (second.interlude.act right)

/-- The reports of two runs, one by one: the first snapshot is the same in both. -/
inductive Retold (worlds : World State → World State → Prop)
    (repositories : Repository State → Repository State → Prop) :
    List (Completion State) → List (Completion State) → Prop
  | nothing : Retold worlds repositories [] []
  | reports {first second : Completion State} {rest others : List (Completion State)}
      (registered : second.snapshot = first.snapshot)
      (head : Counterpart worlds repositories first.snapshot.ids first second)
      (tail : List.Forall₂ (Counterpart worlds repositories first.snapshot.ids) rest others) :
      Retold worlds repositories (first :: rest) (second :: others)

/-- Turns of two runs that cannot be told apart: what is found, what is answered, what the run keeps
and what is left. -/
structure TurnsAlike (worlds : World State → World State → Prop)
    (outcomes : Except Failure Outcome → Except Failure Outcome → Prop)
    (first second : Turn State) : Prop where
  found : worlds first.found second.found
  outcome : outcomes first.outcome second.outcome
  run : second.run = first.run
  left : worlds first.left second.left

/-- A report ends alike in worlds that count as the same. -/
def Settles (worlds : World State → World State → Prop)
    (repositories : Repository State → Repository State → Prop)
    (outcomes : Except Failure Outcome → Except Failure Outcome → Prop) : Prop :=
  ∀ {repository other : Repository State}, repositories repository other →
    ∀ {left right : World State}, worlds left right → ∀ run extractor unit snapshot,
      EndAlike outcomes (fun first second => second.1 = first.1 ∧ worlds first.2 second.2)
        (complete run repository extractor unit snapshot left)
        (complete run other extractor unit snapshot right)

theorem settles_same : Settles (@Eq (World State)) Eq Eq := by
  rintro repository _ rfl left _ rfl run extractor unit snapshot
  exact ⟨rfl, rfl, rfl⟩

theorem settles_untimed (same : State → State → Prop) :
    Settles (World.Alike same) (Repository.Alike same) (TellAlike Outcome.untimed) :=
  fun answers _ _ alike run extractor unit snapshot =>
    complete_alike answers alike run extractor unit snapshot

theorem agree_on_of_counterpart {first second : Completion State}
    (counterpart : Counterpart worlds repositories graph first second) :
    AgreeOn graph first.snapshot second.snapshot := by
  rcases counterpart.snapshot with same | reorders
  · rw [same]
    exact agree_on_refl graph first.snapshot
  · exact agree_on_of_reorders reorders

/-- A completion keeps the tracker that the question leaves. -/
theorem complete_tracker (run : Run) (repository : Repository State) (extractor : Extractor)
    (unit : UnitId) (snapshot : Snapshot) (world : World State) :
    (run.complete repository extractor unit snapshot world).2.1.tracker =
      (run.tracker.isLast unit snapshot).2 := by
  unfold complete
  rcases run.tracker.isLast unit snapshot with ⟨last, tracker⟩
  simp only
  cases last with
  | none => rfl
  | some last =>
      cases last with
      | false => cases tracker.claimedBy <;> rfl
      | true =>
          rcases run.publication.publish repository run.info tracker.units snapshot extractor
            world with ⟨result, publication, later⟩
          rcases result with failure | report
          · rfl
          · cases report <;> rfl

theorem turn_knows {run : Run} {completion : Completion State}
    (knows : (run.tracker.register completion.snapshot).Knows graph) (world : World State) :
    (run.turn world completion).run.tracker.Knows graph := by
  have tracker : (run.turn world completion).run.tracker = _ := complete_tracker run _ _ _ _ _
  rw [tracker]
  exact Tracker.is_last_knows knows completion.unit

/-- One turn: the trackers answer alike, and behind the answer stands the same graph. -/
theorem turn_alike (settles : Settles worlds repositories outcomes) {run : Run}
    {first second : Completion State}
    (counterpart : Counterpart worlds repositories graph first second)
    (knows : (run.tracker.register first.snapshot).Knows graph)
    (answer : run.tracker.isLast first.unit second.snapshot =
      run.tracker.isLast first.unit first.snapshot)
    {left right : World State} (alike : worlds left right) :
    TurnsAlike worlds outcomes (run.turn left first) (run.turn right second) := by
  have found := counterpart.interlude alike
  have units : (run.tracker.isLast first.unit first.snapshot).2.units = graph := by
    unfold Tracker.units
    rw [(Tracker.is_last_knows knows first.unit).graph, Option.getD_some]
  have ends := settles counterpart.repository found run first.extractor first.unit first.snapshot
  have same : run.complete second.repository second.extractor second.unit second.snapshot
      (second.interlude.act right) = run.complete second.repository first.extractor first.unit
        first.snapshot (second.interlude.act right) := by
    rw [counterpart.unit]
    exact complete_of_agreement (agree_on_of_counterpart counterpart) counterpart.extractor answer
      units second.repository _
  rw [← same] at ends
  exact ⟨found, ends.result, ends.states.1, ends.states.2⟩

theorem play_alike (settles : Settles worlds repositories outcomes)
    {first second : List (Completion State)}
    (counterparts : List.Forall₂ (Counterpart worlds repositories graph) first second) {run : Run}
    (knows : run.tracker.Knows graph) {left right : World State} (alike : worlds left right) :
    List.Forall₂ (TurnsAlike worlds outcomes) (run.play left first).1 (run.play right second).1 ∧
      worlds (run.play left first).2 (run.play right second).2 := by
  induction counterparts generalizing run left right with
  | nil => exact ⟨.nil, alike⟩
  | @cons first second rest others counterpart _ ih =>
      have registered : (run.tracker.register first.snapshot).Knows graph := by
        rw [Tracker.register_known knows.graph]
        exact knows
      have turn := turn_alike settles counterpart registered
        (Tracker.is_last_of_agreement knows (agree_on_of_counterpart counterpart) first.unit) alike
      obtain ⟨turns, last⟩ := ih (turn_knows registered left) turn.left
      simp only [play]
      rw [turn.run]
      exact ⟨.cons turn turns, last⟩

/-- The first snapshot registers the graph that both runs keep. -/
theorem opened_play_alike (settles : Settles worlds repositories outcomes) (info : RunInfo)
    (settings : Settings) {first second : List (Completion State)}
    (retold : Retold worlds repositories first second) {left right : World State}
    (alike : worlds left right) :
    List.Forall₂ (TurnsAlike worlds outcomes) ((opened info settings).play left first).1
        ((opened info settings).play right second).1 ∧
      worlds ((opened info settings).play left first).2
        ((opened info settings).play right second).2 := by
  cases retold with
  | nothing => exact ⟨.nil, alike⟩
  | @reports first second rest others registered head tail =>
      have fresh : ((opened info settings).tracker.register first.snapshot).Knows
          first.snapshot.ids := Tracker.register_knows rfl rfl first.snapshot
      have turn := turn_alike settles head fresh (by rw [registered]) alike
      obtain ⟨turns, last⟩ := play_alike settles tail (turn_knows fresh left) turn.left
      simp only [play]
      rw [turn.run]
      exact ⟨.cons turn turns, last⟩

/-- Runs that differ in the order of later snapshots, in units that are not registered and in what
is said of units that did no work take the same turns. By another clock they do so but for the
duration in the record. -/
theorem only_registration_order_counts (info : RunInfo) (settings : Settings)
    (first second : List (Completion State)) (world : World State) :
    (Retold Eq Eq first second →
      List.Forall₂ (TurnsAlike Eq Eq) ((opened info settings).play world first).1
          ((opened info settings).play world second).1 ∧
        ((opened info settings).play world first).2 =
          ((opened info settings).play world second).2) ∧
    ∀ (same : State → State → Prop) (later : World State), World.Alike same world later →
      Retold (World.Alike same) (Repository.Alike same) first second →
      List.Forall₂ (TurnsAlike (World.Alike same) (TellAlike Outcome.untimed))
          ((opened info settings).play world first).1
          ((opened info settings).play later second).1 ∧
        World.Alike same ((opened info settings).play world first).2
          ((opened info settings).play later second).2 := by
  constructor
  · intro retold
    exact opened_play_alike settles_same info settings retold rfl
  · intro same later alike retold
    exact opened_play_alike (settles_untimed same) info settings retold alike

/-- A second run whose last snapshot is turned round and names a stranger, whose extractor fails for
a unit that did no work, and whose clock goes on between the reports. -/
theorem turned_round_run_publishes_the_same :
    let settings : Settings := { publisher := { contextUrl := some "http://repository" } }
    let steady : Extractor := ⟨fun unit => .ok (some { id := unit }), fun _ => .ok []⟩
    let moody : Extractor :=
      ⟨fun unit => if unit = "b" then .error (.unknownUnit unit) else .ok (some { id := unit }),
        fun _ => .ok []⟩
    let still : Interlude Unit := ⟨id, fun _ => rfl⟩
    let passing : Interlude Unit := ⟨fun world => { world with now := ⟨5, 0⟩ }, fun _ => rfl⟩
    let start : Snapshot := [⟨"a", true, false⟩, ⟨"b", false, false⟩]
    let ended : Snapshot := [⟨"a", true, true⟩, ⟨"b", false, true⟩]
    let turned : Snapshot := [⟨"x", true, false⟩, ⟨"b", false, true⟩, ⟨"a", true, true⟩]
    let first : List (Completion Unit) :=
      [⟨still, "b", start, steady, .willing⟩, ⟨still, "a", ended, steady, .willing⟩]
    let second := fun between : Interlude Unit =>
      ([⟨still, "b", start, moody, .willing⟩, ⟨between, "a", turned, moody, .willing⟩] :
        List (Completion Unit))
    let world : World Unit := { disk := Disk.blank ["work"], remote := (), now := ⟨0, 0⟩ }
    let run := (opened ⟨"root", ⟨0, 0⟩⟩ settings).play world
    Retold Eq Eq first (second still) ∧
      List.Forall₂ (TurnsAlike Eq Eq) (run first).1 (run (second still)).1 ∧
      Retold (World.Alike Eq) (Repository.Alike Eq) first (second passing) ∧
      World.Alike Eq (run first).2 (run (second passing)).2 ∧
      (run (second passing)).2.calls.length = 3 := by
  intro settings steady moody still passing start ended turned first second world run
  have worked : start.worked start.ids = ["a"] ∧ ended.worked start.ids = ["a"] := by decide
  have reorders : Reorders start.ids ended turned := ⟨by decide, by decide, by decide⟩
  have told : ∀ unit ∈ ["a"], moody.moduleOf unit = steady.moduleOf unit ∧
      moody.uploadsOf unit = steady.uploadsOf unit := by
    intro unit member
    rw [List.mem_singleton.mp member]
    exact ⟨rfl, rfl⟩
  have willing : Repository.Alike (@Eq Unit) .willing .willing := by
    constructor <;> intros <;> exact ⟨rfl, rfl⟩
  have pairs : ∀ {worlds repositories} {between : Interlude Unit},
      repositories .willing .willing → (∀ {left right}, worlds left right → worlds left right) →
      (∀ {left right}, worlds left right → worlds left (between.act right)) →
      Retold worlds repositories first (second between) := by
    intro worlds repositories between willing kept passed
    refine .reports rfl ⟨rfl, .inl rfl, ?_, willing, kept⟩ (.cons ?_ .nil)
    · rw [worked.1]
      exact told
    · refine ⟨rfl, .inr reorders, ?_, willing, passed⟩
      rw [worked.2]
      exact told
  have quiet : World.Alike Eq world world :=
    ⟨Disk.matches_refl .same world.disk, rfl, rfl⟩
  have same : Retold Eq Eq first (second still) := pairs rfl id id
  have late : Retold (World.Alike Eq) (Repository.Alike Eq) first (second passing) :=
    pairs willing id fun alike => ⟨alike.disk, alike.remote, alike.calls⟩
  have counts := only_registration_order_counts ⟨"root", ⟨0, 0⟩⟩ settings first
  refine ⟨same, ((counts (second still) world).1 same).1, late,
    ((counts (second passing) world).2 Eq world quiet late).2, ?_⟩
  decide +kernel

end Run

end BuildLedger
