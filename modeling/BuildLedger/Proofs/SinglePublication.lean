import BuildLedger.Proofs.DistinctUploads
import BuildLedger.Proofs.TrackerHistory
import BuildLedger.Run

/-!
# A run publishes once

Units report their ends one after the other, in any order and any number of times. Files, the time
and the repository may change between two reports, but nobody else makes calls. Until a unit is the
last one the run waits and leaves the world alone; that one publishes; and whoever reports later
finds the run over.
-/
namespace BuildLedger

variable {State : Type}

/-- What happens to a world between two reports. It makes no call. -/
structure Interlude (State : Type) where
  act : World State → World State
  quiet : ∀ world, (act world).calls = world.calls

/-- A unit that reports its end, with what the run finds at that moment. -/
structure Completion (State : Type) where
  interlude : Interlude State
  unit : UnitId
  snapshot : Snapshot
  extractor : Extractor
  repository : Repository State

structure Turn (State : Type) where
  completion : Completion State
  found : World State
  outcome : Except Failure Outcome
  run : Run
  left : World State

def Turn.question (turn : Turn State) : Tracker.Operation :=
  .isLast turn.completion.unit turn.completion.snapshot

namespace Publication

def phaseOf : Except Failure Report → Phase
  | .ok _ => .done
  | .error _ => .failed

/-- A publication that is idle settles, by its result alone. -/
theorem publish_settles (repository : Repository State) (settings : Settings) (info : RunInfo)
    (graph : List UnitId) (snapshot : Snapshot) (extractor : Extractor) (world : World State) :
    ∃ result later, ({ settings } : Publication).publish repository info graph snapshot extractor
        world = (result.map some, { settings, phase := phaseOf result }, later) := by
  unfold publish
  rcases sequence repository settings info graph snapshot extractor world with ⟨result, later⟩
  refine ⟨result, removeProperties settings later, ?_⟩
  cases result <;> rfl

end Publication

namespace Run

open Tracker

def opened (info : RunInfo) (settings : Settings) : Run := { info, publication := { settings } }

def turn (run : Run) (world : World State) (completion : Completion State) : Turn State :=
  let found := completion.interlude.act world
  let ended := run.complete completion.repository completion.extractor completion.unit
    completion.snapshot found
  { completion, found, outcome := ended.1, run := ended.2.1, left := ended.2.2 }

/-- The turns of a run, and the world after them. -/
def play (run : Run) (world : World State) :
    List (Completion State) → List (Turn State) × World State
  | [] => ([], world)
  | completion :: rest =>
      let first := run.turn world completion
      let (others, last) := first.run.play first.left rest
      (first :: others, last)

/-- The run goes on: the unit is not one of it, or some units were not yet seen finished. -/
structure Waits (settings : Settings) (asked : History) (turn : Turn State) : Prop where
  idle : turn.run.publication = { settings, phase := .idle }
  untouched : turn.left = turn.found
  outcome : (turn.completion.unit ∉ unitsOf asked ∧ turn.outcome = .ok .unknownUnit) ∨
    (turn.completion.unit ∈ unitsOf asked ∧ 0 < (unseenOf asked).length ∧
      turn.outcome = .ok (.pending (unseenOf asked).length))

/-- The unit is the last one, and the run publishes. -/
structure Ends (info : RunInfo) (settings : Settings) (asked : History) (turn : Turn State) :
    Prop where
  known : turn.completion.unit ∈ unitsOf asked
  others : ∀ id ∈ unitsOf asked, id ≠ turn.completion.unit → SeenFinished asked id
  publishes : ∃ result : Except Failure Report,
    ({ settings } : Publication).publish turn.completion.repository info (unitsOf asked)
        turn.completion.snapshot turn.completion.extractor turn.found =
      (result.map some, turn.run.publication, turn.left) ∧
    turn.outcome = result.map .published
  done : turn.run.publication.phase = .done ↔ ∃ report, turn.outcome = .ok (.published report)
  failed : turn.run.publication.phase = .failed ↔ ∃ failure, turn.outcome = .error failure
  settled : turn.run.publication.phase ≠ .idle

structure Over (graph : List UnitId) (publication : Publication) (turn : Turn State) : Prop where
  kept : turn.run.publication = publication
  untouched : turn.left = turn.found
  outcome : (turn.completion.unit ∉ graph ∧ turn.outcome = .ok .unknownUnit) ∨
    (turn.completion.unit ∈ graph ∧ turn.outcome = .ok .alreadyPublished)

/-- The turns of a run, after a history of questions. -/
inductive Course (info : RunInfo) (settings : Settings) : History → List (Turn State) → Prop
  | nothing (history : History) : Course info settings history []
  | waits {history : History} {turn : Turn State} {rest : List (Turn State)}
      (waiting : Waits settings (history ++ [turn.question]) turn)
      (others : Course info settings (history ++ [turn.question]) rest) :
      Course info settings history (turn :: rest)
  | ends {history : History} {turn : Turn State} {rest : List (Turn State)}
      (ending : Ends info settings (history ++ [turn.question]) turn)
      (others : ∀ later ∈ rest,
        Over (unitsOf (history ++ [turn.question])) turn.run.publication later) :
      Course info settings history (turn :: rest)

/-! ## One turn -/

variable {repository : Repository State} {extractor : Extractor} {unit : UnitId}
  {snapshot : Snapshot} {world : World State} {run : Run} {tracker : Tracker}

theorem complete_unknown (answer : run.tracker.isLast unit snapshot = (none, tracker)) :
    run.complete repository extractor unit snapshot world =
      (.ok .unknownUnit, { run with tracker }, world) := by
  unfold complete
  rw [answer]

theorem complete_claimed (answer : run.tracker.isLast unit snapshot = (some false, tracker))
    (claimed : tracker.claimedBy ≠ none) :
    run.complete repository extractor unit snapshot world =
      (.ok .alreadyPublished, { run with tracker }, world) := by
  obtain ⟨claimer, known⟩ := Option.ne_none_iff_exists'.mp claimed
  unfold complete
  simp only [answer, known]

theorem complete_waiting (answer : run.tracker.isLast unit snapshot = (some false, tracker))
    (unclaimed : tracker.claimedBy = none) :
    run.complete repository extractor unit snapshot world =
      (.ok (.pending tracker.remaining.length), { run with tracker }, world) := by
  unfold complete
  simp only [answer, unclaimed]

theorem complete_last {result : Except Failure Report} {publication : Publication}
    {later : World State} (answer : run.tracker.isLast unit snapshot = (some true, tracker))
    (published : run.publication.publish repository run.info tracker.units snapshot extractor
      world = (result.map some, publication, later)) :
    run.complete repository extractor unit snapshot world =
      (result.map .published, { run with tracker, publication }, later) := by
  unfold complete
  simp only [answer, published]
  cases result <;> rfl

variable {history : History}

theorem replay_question {answer : Option Bool}
    (step : (replay history).isLast unit snapshot = (answer, tracker)) :
    replay (history ++ [.isLast unit snapshot]) = tracker := by
  rw [replay_snoc]
  simp only [perform, step]
  cases answer <;> rfl

theorem claimed_of_longer (claimed : (replay history).claimedBy ≠ none) (operation : Operation) :
    (replay (history ++ [operation])).claimedBy ≠ none := by
  rw [claimed_iff] at claimed ⊢
  rw [replies_snoc]
  exact List.mem_append_left _ claimed

/-- Everything that a completion does, told by the history of questions that ends with its own. -/
theorem complete_cases (tracker : run.tracker = replay history) (repository : Repository State)
    (extractor : Extractor) (unit : UnitId) (snapshot : Snapshot) (world : World State) :
    let asked := history ++ [.isLast unit snapshot]
    let after := { run with tracker := replay asked }
    let completed := run.complete repository extractor unit snapshot world
    (unit ∉ unitsOf asked ∧ (replay asked).claimedBy = (replay history).claimedBy ∧
      completed = (.ok .unknownUnit, after, world)) ∨
    (unit ∈ unitsOf asked ∧ (replay history).claimedBy ≠ none ∧
      completed = (.ok .alreadyPublished, after, world)) ∨
    (unit ∈ unitsOf asked ∧ (replay asked).claimedBy = none ∧ 0 < (unseenOf asked).length ∧
      completed = (.ok (.pending (unseenOf asked).length), after, world)) ∨
    (unit ∈ unitsOf asked ∧ (replay history).claimedBy = none ∧
      (replay asked).claimedBy = some unit ∧
      (∀ id ∈ unitsOf asked, id ≠ unit → SeenFinished asked id) ∧
      ∀ (result : Except Failure Report) publication later,
        run.publication.publish repository run.info (unitsOf asked) snapshot extractor world =
          (result.map some, publication, later) →
        completed = (result.map .published, { after with publication }, later)) := by
  intro asked after completed
  have state := replay_reflects history
  have later := replay_reflects asked
  have asks : ∀ answer tracker, (replay history).isLast unit snapshot = (answer, tracker) →
      run.tracker.isLast unit snapshot = (answer, replay asked) := by
    intro answer next step
    rw [tracker, step, replay_question step]
  rcases question_cases state unit snapshot with
    ⟨unknown, answer⟩ | ⟨known, ⟨waiting, answer⟩ | ⟨⟨nobody, others⟩, answer⟩⟩
  · left
    refine ⟨unknown, ?_, complete_unknown (asks _ _ answer)⟩
    rw [replay_question answer]
    exact register_claim _ _
  · right
    by_cases claimed : (replay history).claimedBy = none
    · right
      left
      have same : (replay asked).claimedBy = none := by
        rw [replay_question answer]
        exact (register_claim _ _).trans claimed
      have result : completed = _ := complete_waiting (asks _ _ answer) same
      rw [later.remaining] at result
      refine ⟨known, same, ?_, result⟩
      rcases waiting with before | ⟨id, inside, _, unseen⟩
      · exact absurd claimed before
      · exact List.length_pos_of_mem (mem_unseen_of.mpr ⟨inside, unseen⟩)
    · left
      have still := claimed_of_longer claimed (.isLast unit snapshot)
      exact ⟨known, claimed, complete_claimed (asks _ _ answer) still⟩
  · right
    right
    right
    have claims : (replay asked).claimedBy = some unit := by rw [replay_question answer]
    have units : (replay asked).units = unitsOf asked := by
      unfold units unitsOf
      rw [later.graph]
    refine ⟨known, nobody, claims, others, ?_⟩
    intro result publication left published
    rw [← units] at published
    exact complete_last (asks _ _ answer) published

variable {settings : Settings} {completion : Completion State}

theorem turn_of_complete {outcome : Except Failure Outcome} {later : Run} {left : World State}
    (result : run.complete completion.repository completion.extractor completion.unit
      completion.snapshot (completion.interlude.act world) = (outcome, later, left)) :
    run.turn world completion =
      { completion, found := completion.interlude.act world, outcome, run := later, left } := by
  simp only [turn, result]

/-- Once a unit has the claim, every turn finds the run over. -/
theorem over_of_claimed (tracker : run.tracker = replay history)
    (claimed : (replay history).claimedBy ≠ none) (world : World State)
    (completion : Completion State) :
    let turn := run.turn world completion
    let asked := history ++ [turn.question]
    turn.run.tracker = replay asked ∧ Over (unitsOf asked) run.publication turn := by
  intro turn asked
  rcases complete_cases tracker completion.repository completion.extractor completion.unit
      completion.snapshot (completion.interlude.act world) with
    ⟨unknown, _, result⟩ | ⟨known, _, result⟩ | ⟨_, unclaimed, _⟩ | ⟨_, unclaimed, _⟩
  · have ended : turn = _ := turn_of_complete result
    rw [ended]
    exact ⟨rfl, rfl, rfl, Or.inl ⟨unknown, rfl⟩⟩
  · have ended : turn = _ := turn_of_complete result
    rw [ended]
    exact ⟨rfl, rfl, rfl, Or.inr ⟨known, rfl⟩⟩
  · exact absurd unclaimed (claimed_of_longer claimed turn.question)
  · exact absurd unclaimed claimed

/-- Until a unit has the claim, a turn waits or ends the run. -/
theorem waits_or_ends (tracker : run.tracker = replay history)
    (unclaimed : (replay history).claimedBy = none)
    (idle : run.publication = { settings, phase := .idle }) (world : World State)
    (completion : Completion State) :
    let turn := run.turn world completion
    let asked := history ++ [turn.question]
    turn.run.tracker = replay asked ∧ turn.run.info = run.info ∧
      ((Waits settings asked turn ∧ (replay asked).claimedBy = none) ∨
        (Ends run.info settings asked turn ∧ (replay asked).claimedBy ≠ none)) := by
  intro turn asked
  rcases complete_cases tracker completion.repository completion.extractor completion.unit
      completion.snapshot (completion.interlude.act world) with
    ⟨unknown, same, result⟩ | ⟨_, claimed, _⟩ | ⟨known, still, some, result⟩ |
    ⟨known, _, claims, others, publishes⟩
  · have ended : turn = _ := turn_of_complete result
    rw [ended]
    refine ⟨rfl, rfl, Or.inl ⟨?_, same.trans unclaimed⟩⟩
    exact ⟨idle, rfl, Or.inl ⟨unknown, rfl⟩⟩
  · exact absurd unclaimed claimed
  · have ended : turn = _ := turn_of_complete result
    rw [ended]
    refine ⟨rfl, rfl, Or.inl ⟨?_, still⟩⟩
    exact ⟨idle, rfl, Or.inr ⟨known, some, rfl⟩⟩
  · obtain ⟨result, later, published⟩ := Publication.publish_settles completion.repository settings
      run.info (unitsOf asked) completion.snapshot completion.extractor
      (completion.interlude.act world)
    have settled := published
    rw [← idle] at settled
    have completed := publishes result _ later settled
    have ended : turn = _ := turn_of_complete completed
    have claimed : (replay asked).claimedBy ≠ none := by
      rw [Option.ne_none_iff_exists']
      exact ⟨_, claims⟩
    rw [ended]
    refine ⟨rfl, rfl, Or.inr ⟨?_, claimed⟩⟩
    exact {
      known := known
      others := others
      publishes := ⟨result, published, rfl⟩
      done := by cases result <;> simp [Publication.phaseOf, Except.map]
      failed := by cases result <;> simp [Publication.phaseOf, Except.map]
      settled := by cases result <;> simp [Publication.phaseOf]
    }

/-! ## Whole runs -/

theorem play_completions (run : Run) (world : World State) (completions : List (Completion State)) :
    (run.play world completions).1.map (·.completion) = completions := by
  induction completions generalizing run world with
  | nil => rfl
  | cons completion rest ih =>
      simp only [play, List.map_cons, ih]
      rfl

theorem over_forever (tracker : run.tracker = replay history) (begun : history ≠ [])
    (claimed : (replay history).claimedBy ≠ none) (world : World State)
    (completions : List (Completion State)) :
    (run.play world completions).2.calls = world.calls ∧
      ∀ turn ∈ (run.play world completions).1, Over (unitsOf history) run.publication turn := by
  induction completions generalizing run history world with
  | nil => simp [play]
  | cons completion rest ih =>
      have step := over_of_claimed tracker claimed world completion
      simp only [units_of_append begun] at step
      obtain ⟨after, past⟩ := step
      have still := claimed_of_longer claimed (run.turn world completion).question
      obtain ⟨calls, others⟩ := ih after (by simp) still (run.turn world completion).left
      rw [units_of_append begun, past.kept] at others
      constructor
      · calc
          _ = (run.turn world completion).left.calls := calls
          _ = (run.turn world completion).found.calls := by rw [past.untouched]
          _ = world.calls := completion.interlude.quiet world
      · intro turn member
        rcases List.mem_cons.mp member with first | later
        · rw [first]
          exact past
        · exact others turn later

/-- The calls of the turn that ends a run are those of one conversation. -/
theorem once_each_of_ends {turn : Turn State} {info : RunInfo} {asked : History}
    (ending : Ends info settings asked turn) :
    ∃ made, turn.left.calls = turn.found.calls ++ made ∧ OnceEach made := by
  obtain ⟨result, published, _⟩ := ending.publishes
  obtain ⟨talk, _, _, talks, conversation⟩ := Publication.publish_conversation published
  exact ⟨talk.map Prod.fst, talks.noted, Publication.conversation_once_each conversation⟩

theorem course_of_play (tracker : run.tracker = replay history)
    (unclaimed : (replay history).claimedBy = none)
    (idle : run.publication = { settings, phase := .idle }) (world : World State)
    (completions : List (Completion State)) :
    (∃ made, (run.play world completions).2.calls = world.calls ++ made ∧ OnceEach made) ∧
      Course run.info settings history (run.play world completions).1 := by
  induction completions generalizing run history world with
  | nil => exact ⟨⟨[], by simp [play], once_each_nil⟩, .nothing history⟩
  | cons completion rest ih =>
      obtain ⟨after, same, step⟩ := waits_or_ends tracker unclaimed idle world completion
      have quiet : (run.turn world completion).found.calls = world.calls :=
        completion.interlude.quiet world
      rcases step with ⟨waiting, still⟩ | ⟨ending, claimed⟩
      · obtain ⟨⟨made, noted, once⟩, course⟩ :=
          ih after still waiting.idle (run.turn world completion).left
        have unmoved : (run.turn world completion).left.calls = world.calls := by
          rw [waiting.untouched, quiet]
        rw [unmoved] at noted
        rw [same] at course
        exact ⟨⟨made, noted, once⟩, .waits waiting course⟩
      · obtain ⟨calls, others⟩ :=
          over_forever after (by simp) claimed (run.turn world completion).left rest
        obtain ⟨made, noted, once⟩ := once_each_of_ends ending
        rw [quiet] at noted
        exact ⟨⟨made, calls.trans noted, once⟩, .ends ending others⟩

/-- However the units report, and however the repository behaves, at most one turn publishes. The
turns before it wait, and the turns behind it change nothing. -/
theorem run_publishes_at_most_once (info : RunInfo) (settings : Settings) (world : World State)
    (completions : List (Completion State)) :
    let (turns, last) := (opened info settings).play world completions
    turns.map (·.completion) = completions ∧
    (∃ made, last.calls = world.calls ++ made ∧ OnceEach made) ∧
    Course info settings [] turns := by
  have course :=
    @course_of_play State (opened info settings) [] settings rfl rfl rfl world completions
  exact ⟨play_completions _ world completions, course⟩

end Run

end BuildLedger
