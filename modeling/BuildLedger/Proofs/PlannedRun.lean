import BuildLedger.Command
import BuildLedger.Proofs.PlannedHost
import BuildLedger.Proofs.SinglePublication

/-!
# A planned run publishes once

The command lets the entries of a plan end one after the other, and the host shows every end before
the unit reports it. Up to the entry that brings the last new name the run waits; that entry
publishes; the rest finds the run over. So the command has a report exactly when that one
publication succeeds.
-/
namespace BuildLedger

variable {State : Type}

/-- Nothing happens between two reports. -/
def Interlude.none : Interlude State := ⟨id, fun _ => rfl⟩

namespace Plan

open Tracker

/-- Entries with the host's snapshots right after they end, from a first snapshot. -/
def endings (snapshot : Snapshot) : List Entry → List (Entry × Snapshot)
  | [] => []
  | entry :: rest => (entry, entry.finish snapshot) :: endings (entry.finish snapshot) rest

/-- The reports of entries that end from a snapshot on. -/
def completions (repository : Repository State) (extractor : Extractor) (snapshot : Snapshot)
    (entries : List Entry) : List (Completion State) :=
  (endings snapshot entries).map fun ending =>
    ⟨.none, ending.1.id, ending.2, extractor, repository⟩

/-- The questions that the tracker is asked until some entries ended. -/
def questions (plan : Plan) (ended : List Entry) : History :=
  (endings plan.start ended).map fun ending => .isLast ending.1.id ending.2

/-- How many entries are missing after each of some further entries. -/
def remainders (plan : Plan) (ended : List Entry) : List Entry → List Nat
  | [] => []
  | entry :: rest =>
      (plan.missing (ended ++ [entry])).length :: remainders plan (ended ++ [entry]) rest

/-- An entry brings the last name that did not end before. -/
structure BringsLast (before : List Entry) (entry : Entry) (after : List Entry) : Prop where
  fresh : entry.id ∉ before.map (·.id)
  covered : ∀ later ∈ after, later.id ∈ before.map (·.id) ∨ later.id = entry.id

theorem brings_last {plan : Plan} {before after : List Entry} {entry : Entry}
    (more : plan.missing before ≠ []) (all : plan.missing (before ++ [entry]) = [])
    (known : ∀ later ∈ after, later.id ∈ plan.names) : BringsLast before entry after := by
  refine ⟨fresh_of_missing more all, ?_⟩
  intro later member
  simpa [List.map_append] using named_of_missing all (known later member)

/-! ## Questions -/

variable {plan : Plan} {ended : List Entry}

theorem endings_append (snapshot : Snapshot) (earlier later : List Entry) :
    endings snapshot (earlier ++ later) = endings snapshot earlier ++
      endings (earlier.foldl (fun snapshot entry => entry.finish snapshot) snapshot) later := by
  induction earlier generalizing snapshot with
  | nil => rfl
  | cons entry rest ih => simp only [List.cons_append, endings, List.foldl_cons, ih]

theorem questions_snoc (plan : Plan) (ended : List Entry) (entry : Entry) :
    plan.questions (ended ++ [entry]) =
      plan.questions ended ++ [.isLast entry.id (plan.shown (ended ++ [entry]))] := by
  unfold questions
  rw [endings_append, List.map_append, shown_snoc]
  rfl

theorem questions_units (plan : Plan) (ended : List Entry) (entry : Entry) :
    unitsOf (plan.questions (ended ++ [entry])) = plan.names := by
  cases ended with
  | nil => exact shown_ids plan [entry]
  | cons first rest => exact shown_ids plan [first]

theorem questions_seen_iff {id : UnitId} (known : ∀ entry ∈ ended, entry.id ∈ plan.names)
    (inside : id ∈ plan.names) :
    SeenFinished (plan.questions ended) id ↔ id ∈ ended.map (·.id) := by
  induction ended using List.reverseRecOn with
  | nil => exact iff_of_false (not_seen_finished_nil id) List.not_mem_nil
  | append_singleton ended entry ih =>
      have earlier := ih fun other member => known other (List.mem_append_left _ member)
      have last := known entry (List.mem_append_right _ List.mem_cons_self)
      rw [questions_snoc, seen_finished_snoc, earlier, ← questions_snoc, questions_units]
      simp only [Operation.Shows, last, true_and, shown_finished_iff inside, List.map_append,
        List.mem_append]
      tauto

theorem questions_unseen {entry : Entry}
    (known : ∀ other ∈ ended ++ [entry], other.id ∈ plan.names) :
    unseenOf (plan.questions (ended ++ [entry])) = plan.missing (ended ++ [entry]) := by
  unfold unseenOf missing
  rw [questions_units]
  apply List.filter_congr
  intro id inside
  simp only [questions_seen_iff known inside]

/-! ## Turns -/

variable {info : RunInfo} {settings : Settings} {repository : Repository State}
  {extractor : Extractor} {world : World State} {run : Run} {entry : Entry} {after : List Entry}

/-- A run that still waits when some entries have ended. -/
structure Reached (plan : Plan) (info : RunInfo) (settings : Settings) (ended : List Entry)
    (run : Run) : Prop where
  info : run.info = info
  idle : run.publication = { settings }
  tracker : run.tracker = replay (plan.questions ended)
  unclaimed : (replay (plan.questions ended)).claimedBy = none

/-- A run that is over when some entries have ended. -/
structure Passed (plan : Plan) (ended : List Entry) (run : Run) : Prop where
  tracker : run.tracker = replay (plan.questions ended)
  claimed : (replay (plan.questions ended)).claimedBy ≠ none

/-- The turn of an entry that ends after some others. -/
def turnOf (plan : Plan) (repository : Repository State) (extractor : Extractor)
    (ended : List Entry) (entry : Entry) (run : Run) (world : World State) : Turn State :=
  run.turn world ⟨.none, entry.id, plan.shown (ended ++ [entry]), extractor, repository⟩

theorem reached_start (plan : Plan) (info : RunInfo) (settings : Settings) :
    Reached plan info settings [] (.opened info settings) :=
  ⟨rfl, rfl, rfl, rfl⟩

theorem turn_cases (reached : Reached plan info settings ended run)
    (repository : Repository State) (extractor : Extractor) (entry : Entry) (world : World State) :
    let turn := plan.turnOf repository extractor ended entry run world
    let asked := plan.questions (ended ++ [entry])
    turn.run.tracker = replay asked ∧ turn.run.info = info ∧
      ((Run.Waits settings asked turn ∧ (replay asked).claimedBy = none) ∨
        (Run.Ends info settings asked turn ∧ (replay asked).claimedBy ≠ none)) := by
  rw [questions_snoc, ← reached.info]
  exact Run.waits_or_ends reached.tracker reached.unclaimed reached.idle world _

theorem turn_waits (reached : Reached plan info settings ended run)
    (known : ∀ other ∈ ended ++ [entry], other.id ∈ plan.names)
    (more : plan.missing (ended ++ [entry]) ≠ []) (repository : Repository State)
    (extractor : Extractor) (world : World State) :
    let turn := plan.turnOf repository extractor ended entry run world
    Reached plan info settings (ended ++ [entry]) turn.run ∧ turn.left = world ∧
      turn.outcome = .ok (.pending (plan.missing (ended ++ [entry])).length) := by
  obtain ⟨tracker, same, ⟨waits, unclaimed⟩ | ⟨ends, _⟩⟩ :=
    turn_cases reached repository extractor entry world
  · refine ⟨⟨same, waits.idle, tracker, unclaimed⟩, waits.untouched, ?_⟩
    rcases waits.outcome with ⟨unknown, _⟩ | ⟨_, _, outcome⟩
    · rw [questions_units] at unknown
      exact absurd (known entry (by simp)) unknown
    · rw [questions_unseen known] at outcome
      exact outcome
  -- the last unit would have seen the missing name finished
  · exfalso
    obtain ⟨id, member⟩ := List.exists_mem_of_ne_nil _ more
    obtain ⟨inside, absent⟩ := mem_missing.mp member
    have others := ends.others
    rw [questions_units] at others
    have different : id ≠ entry.id := by
      intro equal
      simp [equal] at absent
    exact absent ((questions_seen_iff known inside).mp (others id inside different))

theorem turn_publishes (reached : Reached plan info settings ended run)
    (known : ∀ other ∈ ended ++ [entry], other.id ∈ plan.names)
    (all : plan.missing (ended ++ [entry]) = []) (repository : Repository State)
    (extractor : Extractor) (world : World State) :
    let turn := plan.turnOf repository extractor ended entry run world
    Passed plan (ended ++ [entry]) turn.run ∧ ∃ result : Except Failure Report,
      ({ settings } : Publication).publish repository info plan.names
          (plan.shown (ended ++ [entry])) extractor world =
        (result.map some, turn.run.publication, turn.left) ∧
      turn.run.publication.phase ≠ .idle ∧ turn.outcome = result.map .published := by
  obtain ⟨tracker, same, ⟨waits, _⟩ | ⟨ends, claimed⟩⟩ :=
    turn_cases reached repository extractor entry world
  · exfalso
    rcases waits.outcome with ⟨unknown, _⟩ | ⟨_, more, _⟩
    · rw [questions_units] at unknown
      exact unknown (known entry (by simp))
    · rw [questions_unseen known, all] at more
      exact absurd more (Nat.lt_irrefl 0)
  · obtain ⟨result, published, outcome⟩ := ends.publishes
    rw [questions_units] at published
    exact ⟨⟨tracker, claimed⟩, result, published, ends.settled, outcome⟩

theorem turn_passed (passed : Passed plan ended run) (own : entry.id ∈ plan.names)
    (repository : Repository State) (extractor : Extractor) (world : World State) :
    let turn := plan.turnOf repository extractor ended entry run world
    Passed plan (ended ++ [entry]) turn.run ∧ turn.run.publication = run.publication ∧
      turn.left = world ∧ turn.outcome = .ok .alreadyPublished := by
  intro turn
  have asked : plan.questions (ended ++ [entry]) = plan.questions ended ++ [turn.question] :=
    questions_snoc plan ended entry
  have claimed := Run.claimed_of_longer passed.claimed turn.question
  have step := Run.over_of_claimed passed.tracker passed.claimed world
    ⟨.none, entry.id, plan.shown (ended ++ [entry]), extractor, repository⟩
  have tracker : turn.run.tracker = replay (plan.questions ended ++ [turn.question]) := step.1
  have finds : Run.Over (unitsOf (plan.questions ended ++ [turn.question])) run.publication turn :=
    step.2
  rw [← asked] at claimed tracker finds
  refine ⟨⟨tracker, claimed⟩, finds.kept, finds.untouched, ?_⟩
  rcases finds.outcome with ⟨unknown, _⟩ | ⟨_, outcome⟩
  · rw [questions_units] at unknown
    exact absurd own unknown
  · exact outcome

/-! ## Whole runs -/

/-- What a run does when some entries have ended and others are to come. One entry among them brings
the last name and publishes. -/
structure PublishesAt (plan : Plan) (info : RunInfo) (settings : Settings)
    (repository : Repository State) (extractor : Extractor) (world : World State)
    (ended before : List Entry) (entry : Entry) (after : List Entry)
    (result : Except Failure Report) (publication : Publication) (later : World State)
    (turns : List (Turn State)) (last : World State) : Prop where
  brings : BringsLast (ended ++ before) entry after
  publishes : ({ settings } : Publication).publish repository info plan.names
    (plan.shown (ended ++ before ++ [entry])) extractor world =
      (result.map some, publication, later)
  settled : publication.phase ≠ .idle
  outcomes : turns.map (·.outcome) =
    (plan.remainders ended before).map (fun missing => .ok (.pending missing)) ++
      result.map .published :: List.replicate after.length (.ok .alreadyPublished)
  publications : turns.map (·.run.publication) =
    List.replicate before.length ({ settings } : Publication) ++
      List.replicate (after.length + 1) publication
  worlds : turns.map (·.left) =
    List.replicate before.length world ++ List.replicate (after.length + 1) later
  last : last = later

theorem play_cons (plan : Plan) (repository : Repository State) (extractor : Extractor)
    (ended : List Entry) (entry : Entry) (rest : List Entry) (run : Run) (world : World State) :
    let turn := plan.turnOf repository extractor ended entry run world
    let others := turn.run.play turn.left
      (completions repository extractor (plan.shown (ended ++ [entry])) rest)
    run.play world (completions repository extractor (plan.shown ended) (entry :: rest)) =
      (turn :: others.1, others.2) := by
  intro turn others
  simp only [turn, others, turnOf, shown_snoc]
  rfl

theorem drive_cons (plan : Plan) (repository : Repository State) (extractor : Extractor)
    (ended : List Entry) (entry : Entry) (rest : List Entry) (report : Option Report) (run : Run)
    (world : World State) :
    let turn := plan.turnOf repository extractor ended entry run world
    let others := fun report =>
      Command.drive repository extractor rest report (plan.shown (ended ++ [entry])) turn.run
        turn.left
    Command.drive repository extractor (entry :: rest) report (plan.shown ended) run world =
      match turn.outcome with
      | .error cause => (.error (.publication entry.id cause), turn.left)
      | .ok (.published published) => others (some published)
      | .ok _ => others report := by
  intro turn others
  simp only [turn, others, turnOf, shown_snoc, Run.turn, Interlude.none, id_eq, Command.drive]
  rcases run.complete repository extractor entry.id (entry.finish (plan.shown ended)) world with
    ⟨outcome, later, left⟩
  cases outcome with
  | error cause => rfl
  | ok outcome => cases outcome <;> rfl

/-- Once the run is over, the entries to come change nothing. -/
theorem rest_passes (passed : Passed plan ended run)
    (known : ∀ entry ∈ after, entry.id ∈ plan.names)
    (repository : Repository State) (extractor : Extractor) (world : World State) :
    let played := run.play world (completions repository extractor (plan.shown ended) after)
    played.1.map (·.outcome) = List.replicate after.length (.ok .alreadyPublished) ∧
      played.1.map (·.run.publication) = List.replicate after.length run.publication ∧
      played.1.map (·.left) = List.replicate after.length world ∧ played.2 = world ∧
      ∀ report, Command.drive repository extractor after report (plan.shown ended) run world =
        (.ok report, world) := by
  induction after generalizing ended run with
  | nil => exact ⟨rfl, rfl, rfl, rfl, fun _ => rfl⟩
  | cons entry rest ih =>
      obtain ⟨next, kept, untouched, outcome⟩ :=
        turn_passed passed (known entry List.mem_cons_self) repository extractor world
      obtain ⟨outcomes, publications, worlds, last, drives⟩ :=
        ih next fun other member => known other (List.mem_cons_of_mem _ member)
      intro played
      simp only [played, play_cons]
      rw [kept] at publications
      rw [untouched]
      refine ⟨?_, ?_, ?_, last, ?_⟩
      · rw [List.map_cons, outcome, outcomes]
        rfl
      · rw [List.map_cons, kept, publications]
        rfl
      · rw [List.map_cons, untouched, worlds]
        rfl
      · intro report
        simp only [drive_cons, outcome, untouched]
        exact drives report

/-- From a run that still waits, by the entries to come: the first one that leaves nothing missing
publishes. -/
theorem publishes_at (reached : Reached plan info settings ended run) {coming : List Entry}
    (parts : plan.entries = ended ++ coming) (more : plan.missing ended ≠ [])
    (repository : Repository State) (extractor : Extractor) (world : World State) :
    let played := run.play world (completions repository extractor (plan.shown ended) coming)
    ∃ before entry after result publication later, coming = before ++ entry :: after ∧
      PublishesAt plan info settings repository extractor world ended before entry after result
        publication later played.1 played.2 ∧
      ∀ report, Command.drive repository extractor coming report (plan.shown ended) run world =
        ((result.map some).mapError (.publication entry.id), later) := by
  -- by the entries to come; `Reached` is what every entry that waits hands on to the next
  induction coming generalizing ended run with
  | nil =>
      rw [List.append_nil] at parts
      rw [← parts] at more
      exact absurd (missing_all plan) more
  | cons entry rest ih =>
      have known : ∀ other ∈ plan.entries, other.id ∈ plan.names :=
        fun other member => List.mem_map.mpr ⟨other, member, rfl⟩
      have snoc : plan.entries = (ended ++ [entry]) ++ rest := by simp [parts]
      have ends : ∀ other ∈ ended ++ [entry], other.id ∈ plan.names := by
        intro other member
        exact known other (by rw [snoc]; exact List.mem_append_left _ member)
      have last : ∀ other ∈ rest, other.id ∈ plan.names := by
        intro other member
        exact known other (by rw [snoc]; exact List.mem_append_right _ member)
      intro played
      simp only [played, play_cons, drive_cons]
      by_cases all : plan.missing (ended ++ [entry]) = []
      · obtain ⟨passed, result, publishes, settled, outcome⟩ :=
          turn_publishes reached ends all repository extractor world
        have brings : BringsLast ended entry rest := brings_last more all last
        generalize plan.turnOf repository extractor ended entry run world = turn at *
        obtain ⟨outcomes, publications, worlds, final, drives⟩ :=
          rest_passes passed last repository extractor turn.left
        refine ⟨[], entry, rest, result, turn.run.publication, turn.left, rfl, ?_, ?_⟩
        · exact {
            brings := by simpa using brings
            publishes := by simpa using publishes
            settled := settled
            outcomes := by rw [List.map_cons, outcome, outcomes]; rfl
            publications := by rw [List.map_cons, publications]; rfl
            worlds := by rw [List.map_cons, worlds]; rfl
            last := final
          }
        · intro report
          rw [outcome]
          cases result with
          | error cause => rfl
          | ok report => exact drives (some report)
      · obtain ⟨reached, untouched, outcome⟩ :=
          turn_waits reached ends all repository extractor world
        generalize plan.turnOf repository extractor ended entry run world = turn at *
        obtain ⟨before, publisher, after, result, publication, later, rfl, rests, drives⟩ :=
          ih reached snoc all
        rw [untouched, outcome]
        refine ⟨entry :: before, publisher, after, result, publication, later, rfl, ?_, drives⟩
        have joined : ended ++ entry :: before = ended ++ [entry] ++ before := by simp
        exact {
          brings := by rw [joined]; exact rests.brings
          publishes := by rw [joined]; exact rests.publishes
          settled := rests.settled
          outcomes := by rw [List.map_cons, outcome, rests.outcomes]; rfl
          publications := by rw [List.map_cons, reached.idle, rests.publications]; rfl
          worlds := by rw [List.map_cons, untouched, rests.worlds]; rfl
          last := rests.last
        }

/-! ## Distinct names -/

theorem nothing_after {before : List Entry} (distinct : plan.names.Nodup)
    (parts : plan.entries = before ++ entry :: after) (brings : BringsLast before entry after) :
    after = [] := by
  rw [names, parts, List.map_append, List.map_cons, List.nodup_append, List.nodup_cons] at distinct
  obtain ⟨_, ⟨single, _⟩, apart⟩ := distinct
  rw [List.eq_nil_iff_forall_not_mem]
  intro later member
  have named : later.id ∈ after.map (·.id) := List.mem_map.mpr ⟨later, member, rfl⟩
  rcases brings.covered later member with earlier | same
  · exact apart later.id earlier later.id (List.mem_cons_of_mem _ named) rfl
  · rw [← same] at single
    exact single named

/-- With distinct names the entry that brings the last one is the last entry, so all have ended. -/
theorem publishes_at_end {before : List Entry} {result : Except Failure Report}
    {publication : Publication} {later last : World State} {turns : List (Turn State)}
    (distinct : plan.names.Nodup) (parts : plan.entries = before ++ entry :: after)
    (publishes : PublishesAt plan info settings repository extractor world [] before entry after
      result publication later turns last) :
    ({ settings } : Publication).publish repository info plan.names (plan.shown plan.entries)
      extractor world = (result.map some, publication, later) := by
  have nothing := nothing_after distinct parts publishes.brings
  have whole : [] ++ before ++ [entry] = plan.entries := by rw [parts, nothing]; rfl
  rw [← whole]
  exact publishes.publishes

/-- With distinct names every entry tells its own module, and works if it says so. -/
theorem modules_of_distinct {disk : Disk} {base : Path} {key : Option String} {report : Report}
    (distinct : plan.names.Nodup)
    (published : (({ settings } : Publication).publish repository info plan.names
      (plan.shown plan.entries) (plan.extractor disk base key) world).1 = .ok (some report)) :
    List.Forall₂ (Describes disk base) (plan.entries.filter (·.didWork)) report.record.modules := by
  have modules := published_modules published
  rw [working_of_distinct distinct] at modules
  have members : ∀ entry ∈ plan.entries.filter (·.didWork), entry ∈ plan.entries :=
    fun entry member => List.mem_of_mem_filter member
  refine ((List.forall₂_and_left _ _).mpr ⟨members, modules⟩).imp ?_
  rintro entry found ⟨member, teller, asked, described⟩
  rw [entry_latest, latest_of_distinct distinct member] at asked
  cases asked
  exact described

/-! ## The command -/

/-- One entry of a plan publishes, with a result that is also that of driving the whole plan. -/
structure RunsOnce (plan : Plan) (info : RunInfo) (settings : Settings)
    (repository : Repository State) (disk : Disk) (base : Path) (world : World State)
    (entry : Entry) (result : Except Failure Report) (later : World State) : Prop where
  publishes :
    let extractor := plan.extractor disk base settings.publisher.repoKey
    let played := (Run.opened info settings).play world
      (completions repository extractor plan.start plan.entries)
    ∃ before after publication, plan.entries = before ++ entry :: after ∧
      (plan.names.Nodup → after = []) ∧
      PublishesAt plan info settings repository extractor world [] before entry after result
        publication later played.1 played.2
  drives : Command.drive repository (plan.extractor disk base settings.publisher.repoKey)
    plan.entries none plan.start (.opened info settings) world =
      ((result.map some).mapError (.publication entry.id), later)
  modules : plan.names.Nodup → ∀ report, result = .ok report →
    List.Forall₂ (Describes disk base) (plan.entries.filter (·.didWork)) report.record.modules

theorem runs_once (plan : Plan) (present : plan.entries ≠ []) (info : RunInfo)
    (settings : Settings) (repository : Repository State) (disk : Disk) (base : Path)
    (world : World State) :
    ∃ entry result later, RunsOnce plan info settings repository disk base world entry result
      later := by
  have more : plan.missing [] ≠ [] := by simpa [missing_nothing, names] using present
  obtain ⟨before, entry, after, result, publication, later, parts, publishes, drives⟩ :=
    publishes_at (reached_start plan info settings) (List.nil_append plan.entries).symm more
      repository (plan.extractor disk base settings.publisher.repoKey) world
  refine ⟨entry, result, later, ?_⟩
  exact {
    publishes := ⟨before, after, publication, parts,
      fun distinct => nothing_after distinct parts publishes.brings, publishes⟩
    drives := drives none
    modules := by
      intro distinct report reported
      have published := publishes_at_end distinct parts publishes
      rw [reported] at published
      exact modules_of_distinct distinct (congrArg Prod.fst published)
  }

theorem load_present {path : Path} {disk : Disk} (loaded : load path disk = .ok plan) :
    plan.entries ≠ [] := by
  unfold load at loaded
  cases text : disk.textAt path with
  | error cause => simp [text] at loaded
  | ok content =>
      cases parsed : Yaml.parse codec content with
      | error cause => simp [text, parsed] at loaded
      | ok found =>
          simp only [text, parsed] at loaded
          split at loaded
          · cases loaded
          · next some =>
            cases loaded
            simpa using some

/-- What the command prints and leaves is decided by the one publication. -/
theorem command_of_drive (json : Bool) {planPath : Path} {path propsFile : Option Path}
    {entry : Entry} {result : Except Failure Report} {later : World State}
    (loaded : load planPath world.disk = .ok plan)
    (accepted : Command.publishSettings path propsFile world.disk = .ok settings)
    (drives : Command.drive repository
      (plan.extractor world.disk (Command.baseOf planPath) settings.publisher.repoKey) plan.entries
      none plan.start (.opened ⟨plan.name, world.now⟩ settings) world =
        ((result.map some).mapError (.publication entry.id), later)) :
    let done := Command.publishPlan repository planPath path propsFile json world
    done.1.result = (result.map fun _ => ()).mapError (.publication entry.id) ∧ done.2 = later := by
  unfold Run.opened at drives
  simp only [Command.publishPlan, loaded, accepted, drives]
  cases result <;> exact ⟨rfl, rfl⟩

/-- Every plan with an entry publishes once, however its names repeat; the command that runs a plan
succeeds exactly when that publication does. -/
theorem planned_run_publishes_once (repository : Repository State) (world : World State) :
    (∀ (plan : Plan) (info : RunInfo) (settings : Settings) (disk : Disk) (base : Path),
      plan.entries ≠ [] → ∃ entry result later,
        RunsOnce plan info settings repository disk base world entry result later) ∧
    ∀ (planPath : Path) (path propsFile : Option Path) (json : Bool) (plan : Plan)
      (settings : Settings), load planPath world.disk = .ok plan →
      Command.publishSettings path propsFile world.disk = .ok settings →
      let done := Command.publishPlan repository planPath path propsFile json world
      ∃ entry result later,
        RunsOnce plan ⟨plan.name, world.now⟩ settings repository world.disk
          (Command.baseOf planPath) world entry result later ∧
        done.1.result = (result.map fun _ => ()).mapError (.publication entry.id) ∧
        done.2 = later := by
  refine ⟨fun plan info settings disk base present =>
    runs_once plan present info settings repository disk base world, ?_⟩
  intro planPath path propsFile json plan settings loaded accepted
  obtain ⟨entry, result, later, runs⟩ :=
    runs_once plan (load_present loaded) ⟨plan.name, world.now⟩ settings repository world.disk
      (Command.baseOf planPath) world
  exact ⟨entry, result, later, runs, command_of_drive json loaded accepted runs.drives⟩

/-- A world with nothing but the text of a plan. -/
def planned (text : String) : World Unit where
  disk := { Disk.blank ["work"] with files := Keyed.ofList [("/work/run.yaml", text.toUTF8)] }
  remote := ()
  now := ⟨0, 0⟩

theorem planned_accepted (text : String) :
    Command.publishSettings none none (planned text).disk = .ok {} := rfl

def shopPlan : Plan :=
  ⟨"shop", [{ id := "api", part := some { id := "shop:api" } }, { id := "docs", didWork := false }]⟩

def shopText : String :=
  "name: shop\nunits:\n- id: api\n  module:\n    id: shop:api\n- id: docs\n  did_work: false\n"

/-- A plan with two names, and settings that send nothing. -/
theorem shop_plan_publishes :
    let world := planned shopText
    let done := Command.publishPlan .willing "run.yaml" none none true world
    shopPlan.entries ≠ [] ∧ load "run.yaml" world.disk = .ok shopPlan ∧
      Command.publishSettings none none world.disk = .ok {} ∧ done.1.result = .ok () ∧
      (∃ entry result later,
        RunsOnce shopPlan ⟨"root", ⟨0, 0⟩⟩ {} .willing world.disk "." world entry result later) ∧
      ∃ entry result later,
        RunsOnce shopPlan ⟨"shop", ⟨0, 0⟩⟩ {} .willing world.disk "." world entry result later ∧
        done.1.result = (result.map fun _ => ()).mapError (.publication entry.id) := by
  intro world done
  have present : shopPlan.entries ≠ [] := by decide
  have loaded : load "run.yaml" world.disk = .ok shopPlan := by decide +kernel
  have accepted := planned_accepted shopText
  have fine : done.1.result = .ok () := by
    simp only [done, Command.publishPlan, loaded, accepted, world]
    decide +kernel
  have base : Command.baseOf "run.yaml" = "." := by decide +kernel
  have everything := planned_run_publishes_once .willing world
  obtain ⟨entry, result, later, runs, command, _⟩ :=
    everything.2 "run.yaml" none none true shopPlan {} loaded accepted
  rw [base] at runs
  refine ⟨present, loaded, accepted, fine, everything.1 shopPlan _ {} world.disk "." present,
    entry, result, later, runs, ?_⟩
  rw [← command]

end Plan

end BuildLedger
