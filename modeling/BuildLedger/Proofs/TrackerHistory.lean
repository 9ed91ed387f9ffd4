import BuildLedger.Failure
import BuildLedger.Tracker
import Mathlib.Data.List.Basic
import Mathlib.Data.List.Induction

/-!
# What a tracker keeps of its history

The operations on a new tracker, written down one after the other, are its history. The units of the
run are those of the first operation. A unit counts as seen finished once some question by a unit of
the run came with a snapshot whose first entry for it is finished. The remaining units and the claim
are then functions of the history, and no snapshot that comes later takes anything back.
-/
namespace BuildLedger

namespace Snapshot

/-- The entry that counts for a name is the first one, and it is finished. -/
def FirstFinished (snapshot : Snapshot) (id : UnitId) : Prop :=
  ∃ before status after, snapshot = before ++ status :: after ∧
    (∀ earlier ∈ before, earlier.id ≠ id) ∧ status.id = id ∧ status.finished = true

theorem shows_finished_iff (snapshot : Snapshot) (id : UnitId) :
    snapshot.showsFinished id = true ↔ snapshot.FirstFinished id := by
  constructor
  · intro shown
    unfold showsFinished lookup at shown
    cases found : List.find? (fun status => status.id == id) snapshot with
    | none =>
        rw [found] at shown
        cases shown
    | some status =>
        rw [found] at shown
        obtain ⟨same, before, after, parts, others⟩ := List.find?_eq_some_iff_append.mp found
        refine ⟨before, status, after, parts, ?_, by simpa using same, shown⟩
        intro earlier member
        simpa using others earlier member
  · intro first
    rcases first with ⟨before, status, after, rfl, others, same, finished⟩
    have found : List.find? (fun status => status.id == id) (before ++ status :: after) =
        some status := by
      rw [List.find?_eq_some_iff_append]
      refine ⟨by simpa using same, before, after, rfl, ?_⟩
      intro earlier member
      simpa using others earlier member
    unfold showsFinished lookup
    rw [found]
    exact finished

instance (snapshot : Snapshot) (id : UnitId) : Decidable (snapshot.FirstFinished id) :=
  decidable_of_iff _ (shows_finished_iff snapshot id)

end Snapshot

namespace Tracker

inductive Operation where
  | register (snapshot : Snapshot)
  | isLast (unit : UnitId) (snapshot : Snapshot)
deriving DecidableEq

inductive Reply where
  | units (graph : List UnitId)
  | last (answer : Bool)
  | failed (failure : Failure)
deriving DecidableEq

abbrev History := List Operation

def Operation.snapshot : Operation → Snapshot
  | .register snapshot | .isLast _ snapshot => snapshot

def perform (tracker : Tracker) : Operation → Reply × Tracker
  | .register snapshot => (.units (tracker.register snapshot).units, tracker.register snapshot)
  | .isLast unit snapshot =>
      match tracker.isLast unit snapshot with
      | (some answer, later) => (.last answer, later)
      | (none, later) => (.failed (.unknownUnit unit), later)

/-- The answers to a list of operations, and the tracker after them. -/
def replayFrom (tracker : Tracker) : History → List Reply × Tracker
  | [] => ([], tracker)
  | operation :: rest =>
      let (reply, later) := tracker.perform operation
      let (replies, last) := later.replayFrom rest
      (reply :: replies, last)

def replay (history : History) : Tracker := (replayFrom {} history).2

def replies (history : History) : List Reply := (replayFrom {} history).1

/-- The names in the first operation's snapshot, in order and with repetitions. -/
def graphOf (history : History) : Option (List UnitId) :=
  history.head?.map fun operation => operation.snapshot.ids

def unitsOf (history : History) : List UnitId := (graphOf history).getD []

/-- A unit of the run asks, and its snapshot shows `id` as finished. -/
def Operation.Shows (graph : List UnitId) (id : UnitId) : Operation → Prop
  | .register _ => False
  | .isLast unit snapshot => unit ∈ graph ∧ snapshot.FirstFinished id

instance (graph : List UnitId) (id : UnitId) (operation : Operation) :
    Decidable (operation.Shows graph id) :=
  match operation with
  | .register _ => inferInstanceAs (Decidable False)
  | .isLast unit snapshot => inferInstanceAs (Decidable (unit ∈ graph ∧ snapshot.FirstFinished id))

def SeenFinished (history : History) (id : UnitId) : Prop :=
  ∃ operation ∈ history, operation.Shows (unitsOf history) id

instance (history : History) (id : UnitId) : Decidable (SeenFinished history id) :=
  inferInstanceAs (Decidable (∃ operation ∈ history, operation.Shows (unitsOf history) id))

/-- The units of the run that no question has shown as finished, in the run's order. -/
def unseenOf (history : History) : List UnitId :=
  (unitsOf history).filter fun id => ¬SeenFinished history id

/-! ## Histories that grow -/

theorem replay_from_append (tracker : Tracker) (earlier later : History) :
    tracker.replayFrom (earlier ++ later) =
      ((tracker.replayFrom earlier).1 ++ ((tracker.replayFrom earlier).2.replayFrom later).1,
        ((tracker.replayFrom earlier).2.replayFrom later).2) := by
  induction earlier generalizing tracker with
  | nil => rfl
  | cons operation rest ih =>
      simp only [List.cons_append, replayFrom]
      rw [ih]

theorem replay_snoc (history : History) (operation : Operation) :
    replay (history ++ [operation]) = ((replay history).perform operation).2 := by
  unfold replay
  rw [replay_from_append]
  rfl

theorem replies_snoc (history : History) (operation : Operation) :
    replies (history ++ [operation]) =
      replies history ++ [((replay history).perform operation).1] := by
  unfold replies
  rw [replay_from_append]
  rfl

theorem replies_length (history : History) : (replies history).length = history.length := by
  induction history using List.reverseRecOn with
  | nil => rfl
  | append_singleton history operation ih => simp [replies_snoc, ih]

/-- The first operation decides which units there are. -/
theorem graph_of_append {history : History} (begun : history ≠ []) (later : History) :
    graphOf (history ++ later) = graphOf history := by
  cases history with
  | nil => exact absurd rfl begun
  | cons operation rest => rfl

theorem units_of_append {history : History} (begun : history ≠ []) (later : History) :
    unitsOf (history ++ later) = unitsOf history := by
  unfold unitsOf
  rw [graph_of_append begun]

theorem not_seen_finished_nil (id : UnitId) : ¬SeenFinished [] id := by
  intro seen
  rcases seen with ⟨operation, member, _⟩
  cases member

theorem seen_finished_snoc (history : History) (operation : Operation) (id : UnitId) :
    SeenFinished (history ++ [operation]) id ↔
      SeenFinished history id ∨ operation.Shows (unitsOf (history ++ [operation])) id := by
  by_cases begun : history = []
  · subst begun
    simp [SeenFinished]
  · unfold SeenFinished
    rw [units_of_append begun]
    simp only [List.mem_append, List.mem_singleton, or_and_right, exists_or, exists_eq_left]

theorem seen_finished_append {history : History} {id : UnitId} (seen : SeenFinished history id)
    (later : History) : SeenFinished (history ++ later) id := by
  obtain ⟨operation, member, shows⟩ := seen
  have begun : history ≠ [] := List.ne_nil_of_mem member
  refine ⟨operation, List.mem_append_left _ member, ?_⟩
  rw [units_of_append begun]
  exact shows

/-! ## One operation -/

variable {tracker : Tracker} {history : History}

theorem register_graph (tracker : Tracker) (snapshot : Snapshot) :
    (tracker.register snapshot).graph = some (tracker.graph.getD snapshot.ids) := by
  unfold register
  cases known : tracker.graph with
  | none => rfl
  | some graph => exact known

theorem register_claim (tracker : Tracker) (snapshot : Snapshot) :
    (tracker.register snapshot).claimedBy = tracker.claimedBy := by
  unfold register
  cases tracker.graph <;> rfl

theorem is_last_claimed {unit claimer : UnitId} {snapshot : Snapshot}
    (known : (tracker.register snapshot).units.contains unit = true)
    (claimed : tracker.claimedBy = some claimer) :
    tracker.isLast unit snapshot =
      (some false, { tracker.register snapshot with
        pending := some (drain (tracker.register snapshot).remaining snapshot) }) := by
  rw [← register_claim tracker snapshot] at claimed
  unfold isLast
  rw [if_pos known]
  simp only [claimed]

theorem is_last_unclaimed {unit : UnitId} {snapshot : Snapshot}
    (known : (tracker.register snapshot).units.contains unit = true)
    (unclaimed : tracker.claimedBy = none) :
    let drained := { tracker.register snapshot with
      pending := some (drain (tracker.register snapshot).remaining snapshot) }
    tracker.isLast unit snapshot =
      if (drain (tracker.register snapshot).remaining snapshot).all (· == unit) then
        (some true, { drained with claimedBy := some unit })
      else (some false, drained) := by
  rw [← register_claim tracker snapshot] at unclaimed
  unfold isLast
  rw [if_pos known]
  simp only [unclaimed]

/-- Everything a question can do. Only a unit of the run is answered; its snapshot always drains the
remaining units, and it is the last one when nobody was before and nobody else remains. -/
theorem is_last_cases (tracker : Tracker) (unit : UnitId) (snapshot : Snapshot) :
    let registered := tracker.register snapshot
    let left := drain registered.remaining snapshot
    (unit ∉ registered.units ∧ tracker.isLast unit snapshot = (none, registered)) ∨
    (unit ∈ registered.units ∧
      ((tracker.claimedBy ≠ none ∨ ∃ id ∈ left, id ≠ unit) ∧
          tracker.isLast unit snapshot =
            (some false, { registered with pending := some left }) ∨
        (tracker.claimedBy = none ∧ ∀ id ∈ left, id = unit) ∧
          tracker.isLast unit snapshot =
            (some true, { registered with pending := some left, claimedBy := some unit }))) := by
  intro registered left
  by_cases known : unit ∈ registered.units
  · right
    have contained : registered.units.contains unit = true := by simpa using known
    refine ⟨known, ?_⟩
    cases claimed : tracker.claimedBy with
    | some claimer =>
        left
        exact ⟨Or.inl (by simp), is_last_claimed contained claimed⟩
    | none =>
        rw [is_last_unclaimed contained claimed]
        by_cases alone : ∀ id ∈ left, id = unit
        · right
          have everyone : left.all (· == unit) = true := by simpa using alone
          exact ⟨⟨rfl, alone⟩, if_pos everyone⟩
        · left
          have others : ¬left.all (· == unit) = true := by simpa using alone
          exact ⟨Or.inr (by simpa using alone), if_neg others⟩
  · left
    have missing : ¬registered.units.contains unit = true := by simpa using known
    refine ⟨known, ?_⟩
    unfold isLast
    rw [if_neg missing]

/-! ## What every history keeps -/

structure Reflects (tracker : Tracker) (history : History) : Prop where
  graph : tracker.graph = graphOf history
  remaining : tracker.remaining = unseenOf history
  fresh : tracker.graph = none → tracker.pending = none
  /-- Whoever was told to be the last unit has the claim. -/
  claim : ∀ unit, tracker.claimedBy = some unit ↔
    ∃ snapshot, (Operation.isLast unit snapshot, Reply.last true) ∈ history.zip (replies history)

theorem graph_of_snoc (history : History) (operation : Operation) :
    graphOf (history ++ [operation]) = some ((graphOf history).getD operation.snapshot.ids) := by
  cases history <;> rfl

theorem register_units (state : Reflects tracker history) (operation : Operation) :
    (tracker.register operation.snapshot).units = unitsOf (history ++ [operation]) := by
  unfold units unitsOf
  rw [register_graph, graph_of_snoc, state.graph]

/-- Registration alone shows no unit as finished. -/
theorem register_remaining (state : Reflects tracker history) (operation : Operation) :
    (tracker.register operation.snapshot).remaining =
      (unitsOf (history ++ [operation])).filter fun id => ¬SeenFinished history id := by
  by_cases begun : history = []
  · subst begun
    have unknown : tracker.graph = none := state.graph
    have untouched := state.fresh unknown
    have everyone : operation.snapshot.ids.filter (fun id => ¬SeenFinished [] id) =
        operation.snapshot.ids := by
      rw [List.filter_eq_self]
      intro id _
      simpa using not_seen_finished_nil id
    have first : unitsOf ([] ++ [operation]) = operation.snapshot.ids := rfl
    rw [first, everyone]
    simp [register, unknown, remaining, untouched, units]
  · obtain ⟨first, rest, rfl⟩ := List.exists_cons_of_ne_nil begun
    have known : tracker.graph = some first.snapshot.ids := state.graph
    have same : tracker.register operation.snapshot = tracker := by
      unfold register
      rw [known]
    rw [same, state.remaining, units_of_append begun]
    rfl

/-- A question of a unit of the run drains the units that its snapshot adds to those seen. -/
theorem drain_remaining (state : Reflects tracker history) {unit : UnitId} {snapshot : Snapshot}
    (known : unit ∈ unitsOf (history ++ [.isLast unit snapshot])) :
    drain (tracker.register snapshot).remaining snapshot =
      unseenOf (history ++ [.isLast unit snapshot]) := by
  have registered := register_remaining state (.isLast unit snapshot)
  simp only [Operation.snapshot] at registered
  unfold drain unseenOf
  rw [registered, List.filter_filter]
  apply List.filter_congr
  intro id _
  have seen := seen_finished_snoc history (.isLast unit snapshot) id
  simp only [Operation.Shows, known, true_and] at seen
  have shown := Snapshot.shows_finished_iff snapshot id
  by_cases before : SeenFinished history id <;> by_cases now : snapshot.FirstFinished id <;>
    simp_all

/-- An operation that is no question of a unit of the run shows nothing. -/
theorem unseen_of_snoc {operation : Operation}
    (silent : ∀ id, ¬operation.Shows (unitsOf (history ++ [operation])) id) :
    unseenOf (history ++ [operation]) =
      (unitsOf (history ++ [operation])).filter fun id => ¬SeenFinished history id := by
  unfold unseenOf
  apply List.filter_congr
  intro id _
  have seen := seen_finished_snoc history operation id
  simp only [silent id, or_false] at seen
  simp only [seen]

theorem mem_unseen_of {history : History} {id : UnitId} :
    id ∈ unseenOf history ↔ id ∈ unitsOf history ∧ ¬SeenFinished history id := by
  simp [unseenOf]

theorem question_cases (state : Reflects tracker history) (unit : UnitId) (snapshot : Snapshot) :
    let asked := history ++ [.isLast unit snapshot]
    let registered := tracker.register snapshot
    (unit ∉ unitsOf asked ∧ tracker.isLast unit snapshot = (none, registered)) ∨
    (unit ∈ unitsOf asked ∧
      ((tracker.claimedBy ≠ none ∨ ∃ id ∈ unitsOf asked, id ≠ unit ∧ ¬SeenFinished asked id) ∧
          tracker.isLast unit snapshot =
            (some false, { registered with pending := some (unseenOf asked) }) ∨
        (tracker.claimedBy = none ∧ ∀ id ∈ unitsOf asked, id ≠ unit → SeenFinished asked id) ∧
          tracker.isLast unit snapshot =
            (some true, { registered with
              pending := some (unseenOf asked), claimedBy := some unit }))) := by
  intro asked registered
  have units : registered.units = unitsOf asked := register_units state (.isLast unit snapshot)
  have outcomes := is_last_cases tracker unit snapshot
  simp only [units, registered] at outcomes ⊢
  rcases outcomes with unknown | ⟨known, step⟩
  · exact Or.inl unknown
  · right
    refine ⟨known, ?_⟩
    rw [drain_remaining state known] at step
    rcases step with ⟨waiting, result⟩ | ⟨⟨nobody, alone⟩, result⟩
    · left
      refine ⟨?_, result⟩
      rcases waiting with claimed | ⟨id, member, other⟩
      · exact Or.inl claimed
      · obtain ⟨inside, unseen⟩ := mem_unseen_of.mp member
        exact Or.inr ⟨id, inside, other, unseen⟩
    · right
      refine ⟨⟨nobody, ?_⟩, result⟩
      intro id inside other
      by_contra unseen
      exact other (alone id (mem_unseen_of.mpr ⟨inside, unseen⟩))

theorem perform_graph (tracker : Tracker) (operation : Operation) :
    (tracker.perform operation).2.graph =
      some (tracker.graph.getD operation.snapshot.ids) := by
  have graph := register_graph tracker operation.snapshot
  cases operation with
  | register snapshot => exact graph
  | isLast unit snapshot =>
      rcases is_last_cases tracker unit snapshot with
        ⟨_, result⟩ | ⟨_, ⟨_, result⟩ | ⟨_, result⟩⟩ <;>
      · simp only [perform, result]
        exact graph

theorem perform_remaining (state : Reflects tracker history) (operation : Operation) :
    (tracker.perform operation).2.remaining = unseenOf (history ++ [operation]) := by
  have registered := register_remaining state operation
  cases operation with
  | register snapshot =>
      rw [@unseen_of_snoc history (.register snapshot) (fun _ shows => shows)]
      exact registered
  | isLast unit snapshot =>
      rcases question_cases state unit snapshot with
        ⟨unknown, result⟩ | ⟨_, ⟨_, result⟩ | ⟨_, result⟩⟩
      · rw [@unseen_of_snoc history (.isLast unit snapshot) (fun _ shows => unknown shows.1)]
        simp only [perform, result]
        exact registered
      · simp only [perform, result]
        rfl
      · simp only [perform, result]
        rfl

/-- The claim changes only where a unit is told to be the last one, and nobody had it before. -/
theorem perform_claim (tracker : Tracker) (operation : Operation) (unit : UnitId) :
    (tracker.perform operation).2.claimedBy = some unit ↔
      tracker.claimedBy = some unit ∨
        (tracker.perform operation).1 = .last true ∧
          ∃ snapshot, operation = .isLast unit snapshot := by
  have kept := register_claim tracker
  cases operation with
  | register snapshot =>
      simp only [perform, kept]
      simp
  | isLast asking snapshot =>
      rcases is_last_cases tracker asking snapshot with
        ⟨_, result⟩ | ⟨_, ⟨_, result⟩ | ⟨⟨nobody, _⟩, result⟩⟩
      · simp only [perform, result, kept]
        simp
      · simp only [perform, result, kept]
        simp
      · simp only [perform, result, nobody]
        simp

theorem mem_answered_snoc (history : History) (operation : Operation) (entry : Operation × Reply) :
    entry ∈ (history ++ [operation]).zip (replies (history ++ [operation])) ↔
      entry ∈ history.zip (replies history) ∨
        entry = (operation, ((replay history).perform operation).1) := by
  rw [replies_snoc, List.zip_append (replies_length history).symm]
  simp

theorem replay_reflects (history : History) : Reflects (replay history) history := by
  induction history using List.reverseRecOn with
  | nil =>
      exact {
        graph := rfl
        remaining := rfl
        fresh := fun _ => rfl
        claim := by
          intro unit
          simp [replay, replayFrom]
      }
  | append_singleton history operation ih =>
      rw [replay_snoc]
      exact {
        graph := by rw [perform_graph, graph_of_snoc, ih.graph]
        remaining := perform_remaining ih operation
        fresh := by
          intro unknown
          rw [perform_graph] at unknown
          cases unknown
        claim := by
          intro unit
          rw [perform_claim, ih.claim]
          simp only [mem_answered_snoc, exists_or, Prod.mk.injEq]
          apply or_congr Iff.rfl
          constructor
          · intro told
            rcases told with ⟨answer, snapshot, asked⟩
            exact ⟨snapshot, asked.symm, answer.symm⟩
          · intro answered
            rcases answered with ⟨snapshot, asked, answer⟩
            exact ⟨answer.symm, snapshot, asked.symm⟩
      }

theorem last_reply_question {operation : Operation}
    (last : (tracker.perform operation).1 = .last true) :
    ∃ unit snapshot, operation = .isLast unit snapshot := by
  cases operation with
  | register snapshot => simp [perform] at last
  | isLast unit snapshot => exact ⟨unit, snapshot, rfl⟩

theorem claimed_iff (history : History) :
    (replay history).claimedBy ≠ none ↔ Reply.last true ∈ replies history := by
  induction history using List.reverseRecOn with
  | nil => simp [replay, replies, replayFrom]
  | append_singleton history operation ih =>
      rw [replay_snoc, replies_snoc, List.mem_append, ← ih, List.mem_singleton]
      simp only [Option.ne_none_iff_exists', perform_claim, exists_or]
      apply or_congr Iff.rfl
      constructor
      · intro told
        rcases told with ⟨_, last, _⟩
        exact last.symm
      · intro last
        obtain ⟨unit, snapshot, asked⟩ := last_reply_question last.symm
        exact ⟨unit, last.symm, snapshot, asked⟩

theorem graph_of_longer {history : History} (begun : history ≠ []) (later : History) :
    (replay (history ++ later)).graph = (replay history).graph := by
  rw [(replay_reflects _).graph, (replay_reflects _).graph, graph_of_append begun]

/-- No later operation brings a unit back among the remaining ones. -/
theorem remaining_of_longer {history : History} (begun : history ≠ []) (later : History) :
    (replay (history ++ later)).remaining.Sublist (replay history).remaining := by
  rw [(replay_reflects _).remaining, (replay_reflects _).remaining]
  unfold unseenOf
  rw [units_of_append begun]
  apply List.monotone_filter_right
  intro id unseen
  simp only [decide_eq_true_eq] at unseen ⊢
  intro seen
  exact unseen (seen_finished_append seen later)

/-- A unit that is not of the run leaves no trace but the graph, if it was the first to ask. -/
theorem remaining_of_unknown {unit : UnitId} {snapshot : Snapshot}
    (unknown : unit ∉ unitsOf (history ++ [.isLast unit snapshot])) :
    unseenOf (history ++ [.isLast unit snapshot]) =
      if history = [] then unitsOf (history ++ [.isLast unit snapshot])
      else (replay history).remaining := by
  rw [@unseen_of_snoc history (.isLast unit snapshot) (fun _ shows => unknown shows.1)]
  split
  · next fresh =>
    subst fresh
    rw [List.filter_eq_self]
    intro id _
    simpa using not_seen_finished_nil id
  · next begun =>
    rw [(replay_reflects history).remaining, units_of_append begun]
    rfl

/-- The units, the remaining units, the claim and every answer are what the history says. -/
theorem tracker_refines_history (history : History) :
    (replay history).graph = graphOf history ∧
    (∀ later, history ≠ [] → (replay (history ++ later)).graph = (replay history).graph) ∧
    (replay history).remaining =
      (unitsOf history).filter (fun id => ¬SeenFinished history id) ∧
    (∀ later, history ≠ [] →
      (replay (history ++ later)).remaining.Sublist (replay history).remaining) ∧
    (∀ unit, (replay history).claimedBy = some unit ↔
      ∃ snapshot, (.isLast unit snapshot, .last true) ∈ history.zip (replies history)) ∧
    (∀ snapshot, ((replay history).perform (.register snapshot)).1 =
      .units (unitsOf (history ++ [.register snapshot]))) ∧
    ∀ unit snapshot,
      let asked := history ++ [.isLast unit snapshot]
      let (reply, after) := (replay history).perform (.isLast unit snapshot)
      (reply = .failed (.unknownUnit unit) ↔ unit ∉ unitsOf asked) ∧
      (unit ∉ unitsOf asked →
        after.remaining =
          (if history = [] then unitsOf asked else (replay history).remaining) ∧
        after.claimedBy = (replay history).claimedBy) ∧
      (unit ∈ unitsOf asked → ∃ answer, reply = .last answer) ∧
      (reply = .last true ↔ unit ∈ unitsOf asked ∧ .last true ∉ replies history ∧
        ∀ id ∈ unitsOf asked, id ≠ unit → SeenFinished asked id) := by
  have state := replay_reflects history
  refine ⟨state.graph, fun later begun => graph_of_longer begun later, state.remaining,
    fun later begun => remaining_of_longer begun later, state.claim, ?_, ?_⟩
  · intro snapshot
    simp only [perform, Reply.units.injEq]
    exact register_units state (.register snapshot)
  · intro unit snapshot asked
    have claimed := claimed_iff history
    rcases question_cases state unit snapshot with
      ⟨unknown, result⟩ | ⟨known, ⟨waiting, result⟩ | ⟨⟨nobody, others⟩, result⟩⟩
    · have remaining := perform_remaining state (.isLast unit snapshot)
      rw [remaining_of_unknown unknown] at remaining
      simp only [perform, result] at remaining ⊢
      exact ⟨by simpa using unknown, fun _ => ⟨remaining, register_claim _ _⟩,
        fun known => absurd known unknown, by simpa using fun known => absurd known unknown⟩
    · simp only [perform, result]
      refine ⟨by simpa using known, fun unknown => absurd known unknown,
        fun _ => ⟨false, rfl⟩, ?_⟩
      constructor
      · intro impossible
        cases impossible
      · intro expected
        rcases expected with ⟨_, unanswered, seen⟩
        rcases waiting with before | ⟨id, inside, other, unseen⟩
        · exact absurd (claimed.mp before) unanswered
        · exact absurd (seen id inside other) unseen
    · simp only [perform, result]
      refine ⟨by simpa using known, fun unknown => absurd known unknown,
        fun _ => ⟨true, rfl⟩, ?_⟩
      have unanswered : Reply.last true ∉ replies history := by
        intro answered
        exact claimed.mpr answered nobody
      exact ⟨fun _ => ⟨known, unanswered, others⟩, fun _ => trivial⟩

end Tracker

end BuildLedger
