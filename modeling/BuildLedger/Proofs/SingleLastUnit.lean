import BuildLedger.Proofs.TrackerHistory
import Mathlib.Data.List.Nodup

/-!
# One last unit for every order of ends

A host that reports the end of every unit, each time with a snapshot that shows at least that unit
as finished, is told exactly once that a unit is the last one, however stale the snapshots are
otherwise. When the units report one at a time and nothing is shown as finished too early, it is the
report that comes last. Units that are skipped never report; it is enough that some snapshot shows
them as finished.
-/
namespace BuildLedger

namespace Tracker

/-- A question of a unit of the run, by a snapshot that shows its own end. -/
def Operation.ShowsItself (graph : List UnitId) : Operation → Prop
  | .register _ => True
  | .isLast unit snapshot => unit ∈ graph ∧ snapshot.FirstFinished unit

instance (graph : List UnitId) (operation : Operation) :
    Decidable (operation.ShowsItself graph) :=
  match operation with
  | .register _ => inferInstanceAs (Decidable True)
  | .isLast unit snapshot =>
      inferInstanceAs (Decidable (unit ∈ graph ∧ snapshot.FirstFinished unit))

def Operation.asks? : Operation → Option UnitId
  | .register _ => none
  | .isLast unit _ => some unit

/-- Every unit of a run reports at least once. -/
structure Complete (history : History) : Prop where
  units : unitsOf history ≠ []
  shown : ∀ operation ∈ history, operation.ShowsItself (unitsOf history)
  reported : ∀ id ∈ unitsOf history, some id ∈ history.map Operation.asks?

/-- A unit and the snapshot with which it reports. -/
abbrev Reporting := UnitId × Snapshot

def Reporting.question (report : Reporting) : Operation := .isLast report.1 report.2

/-- Every unit of a run that is not skipped reports once, and a snapshot shows as finished the units
that reported before, some of those that are skipped, the unit itself or not, and nothing else. -/
structure Orderly (graph skipped : List UnitId) (reports : List Reporting) : Prop where
  present : reports ≠ []
  once : (reports.map Prod.fst).Nodup
  units : ∀ id, id ∈ graph ↔ id ∈ reports.map Prod.fst ∨ id ∈ skipped
  silent : ∀ id ∈ skipped, id ∉ reports.map Prod.fst
  earlier : ∀ before report after, reports = before ++ report :: after →
    ∀ id ∈ before.map Prod.fst, report.2.FirstFinished id
  nothingElse : ∀ before report after, reports = before ++ report :: after →
    ∀ id ∈ graph, report.2.FirstFinished id →
      id ∈ before.map Prod.fst ∨ id = report.1 ∨ id ∈ skipped
  skips : ∀ id ∈ skipped, ∃ report ∈ reports, report.2.FirstFinished id

/-! ## Answers -/

variable {history : History}

/-- A unit of the run is told that it is the last one when nobody was told before and all others
were seen finished; otherwise it is told that it is not. -/
theorem question_reply {unit : UnitId} {snapshot : Snapshot}
    (known : unit ∈ unitsOf (history ++ [.isLast unit snapshot])) :
    let asked := history ++ [.isLast unit snapshot]
    let reply := ((replay history).perform (.isLast unit snapshot)).1
    (reply = .last true ∧ .last true ∉ replies history ∧
        ∀ id ∈ unitsOf asked, id ≠ unit → SeenFinished asked id) ∨
      (reply = .last false ∧ (.last true ∈ replies history ∨
        ∃ id ∈ unitsOf asked, id ≠ unit ∧ ¬SeenFinished asked id)) := by
  intro asked reply
  rcases question_cases (replay_reflects history) unit snapshot with
    ⟨unknown, _⟩ | ⟨_, ⟨waiting, answer⟩ | ⟨⟨nobody, others⟩, answer⟩⟩
  · exact absurd known unknown
  · right
    refine ⟨by simp only [reply, perform, answer], ?_⟩
    rcases waiting with claimed | unseen
    · exact Or.inl ((claimed_iff history).mp claimed)
    · exact Or.inr unseen
  · left
    refine ⟨by simp only [reply, perform, answer], ?_, others⟩
    intro told
    exact (claimed_iff history).mpr told nobody

theorem last_reply_fresh {operation : Operation}
    (last : ((replay history).perform operation).1 = .last true) :
    .last true ∉ replies history := by
  obtain ⟨unit, snapshot, rfl⟩ := last_reply_question last
  rcases question_cases (replay_reflects history) unit snapshot with
    ⟨_, answer⟩ | ⟨_, ⟨_, answer⟩ | ⟨⟨nobody, _⟩, _⟩⟩
  · simp [perform, answer] at last
  · simp [perform, answer] at last
  · intro told
    exact (claimed_iff history).mpr told nobody

theorem at_most_one_last (history : History) : (replies history).count (.last true) ≤ 1 := by
  induction history using List.reverseRecOn with
  | nil => exact Nat.zero_le 1
  | append_singleton history operation ih =>
      rw [replies_snoc, List.count_append]
      by_cases last : ((replay history).perform operation).1 = .last true
      · have fresh := List.count_eq_zero.mpr (last_reply_fresh last)
        rw [fresh, last]
        simp
      · rw [List.count_singleton, if_neg (by simpa using last)]
        exact ih

/-! ## Whoever reports last -/

theorem asked_iff {id : UnitId} :
    some id ∈ history.map Operation.asks? ↔ ∃ snapshot, .isLast id snapshot ∈ history := by
  rw [List.mem_map]
  constructor
  · rintro ⟨operation, member, asks⟩
    cases operation with
    | register snapshot => cases asks
    | isLast unit snapshot =>
        cases asks
        exact ⟨snapshot, member⟩
  · rintro ⟨snapshot, member⟩
    exact ⟨_, member, rfl⟩

theorem seen_of_asked {id : UnitId}
    (shown : ∀ operation ∈ history, operation.ShowsItself (unitsOf history))
    (asked : some id ∈ history.map Operation.asks?) : SeenFinished history id := by
  obtain ⟨snapshot, member⟩ := asked_iff.mp asked
  exact ⟨_, member, shown _ member⟩

/-- Until a unit is told that it is the last one, some unit of the run has not reported. -/
theorem told_or_unreported
    (shown : ∀ operation ∈ history, operation.ShowsItself (unitsOf history)) :
    unitsOf history = [] ∨ .last true ∈ replies history ∨
      ∃ id ∈ unitsOf history, some id ∉ history.map Operation.asks? := by
  induction history using List.reverseRecOn with
  | nil => exact Or.inl rfl
  | append_singleton history operation ih =>
      rw [replies_snoc]
      cases operation with
      | register snapshot =>
          by_cases begun : history = []
          · subst begun
            by_cases empty : unitsOf [.register snapshot] = []
            · exact Or.inl empty
            · obtain ⟨id, inside⟩ := List.exists_mem_of_ne_nil _ empty
              exact Or.inr (Or.inr ⟨id, inside, by simp [Operation.asks?]⟩)
          · rw [units_of_append begun] at shown ⊢
            rcases ih fun earlier member => shown earlier (List.mem_append_left _ member) with
              empty | told | ⟨id, inside, silent⟩
            · exact Or.inl empty
            · exact Or.inr (Or.inl (List.mem_append_left _ told))
            · refine Or.inr (Or.inr ⟨id, inside, ?_⟩)
              rw [List.map_append, List.mem_append, not_or]
              exact ⟨silent, by simp [Operation.asks?]⟩
      -- a unit that is told no is still waiting for one that nobody has shown, so that never asked
      | isLast unit snapshot =>
          right
          have own := shown (.isLast unit snapshot) (List.mem_append_right _ List.mem_cons_self)
          rcases question_reply own.1 with ⟨last, _⟩ | ⟨_, told | ⟨id, inside, other, unseen⟩⟩
          · exact Or.inl (List.mem_append_right _ (List.mem_singleton.mpr last.symm))
          · exact Or.inl (List.mem_append_left _ told)
          · right
            refine ⟨id, inside, ?_⟩
            intro asked
            exact unseen (seen_of_asked shown asked)

theorem one_last_of_complete (complete : Complete history) :
    (replies history).count (.last true) = 1 := by
  have told : .last true ∈ replies history := by
    rcases told_or_unreported complete.shown with empty | told | ⟨id, inside, silent⟩
    · exact absurd empty complete.units
    · exact told
    · exact absurd (complete.reported id inside) silent
  have once := List.one_le_count_iff.mpr told
  have atMost := at_most_one_last history
  omega

/-! ## One report after the other -/

section Orderly

variable {opening : History} {skipped : List UnitId} {reports : List Reporting}

/-- What some report shows as finished, or the opening of the run. -/
theorem shown_by_report {before : List Reporting} {id : UnitId}
    (registers : ∀ operation ∈ opening, ∃ snapshot, operation = .register snapshot)
    (seen : SeenFinished (opening ++ before.map Reporting.question) id) :
    ∃ report ∈ before, report.2.FirstFinished id := by
  obtain ⟨operation, member, shows⟩ := seen
  rcases List.mem_append.mp member with first | later
  · obtain ⟨snapshot, rfl⟩ := registers operation first
    exact shows.elim
  · obtain ⟨report, inside, rfl⟩ := List.mem_map.mp later
    exact ⟨report, inside, shows.2⟩

theorem question_snoc (before : List Reporting) (report : Reporting) :
    opening ++ (before ++ [report]).map Reporting.question =
      opening ++ before.map Reporting.question ++ [.isLast report.1 report.2] := by
  rw [List.map_append, ← List.append_assoc]
  rfl

theorem units_of_begun (before after : List Reporting) (report : Reporting) :
    unitsOf (opening ++ (before ++ report :: after).map Reporting.question) =
      unitsOf (opening ++ (before ++ [report]).map Reporting.question) := by
  have begun : opening ++ (before ++ [report]).map Reporting.question ≠ [] := by simp
  rw [← units_of_append begun (after.map Reporting.question)]
  simp

/-- A unit that has yet to report is not seen finished before. -/
theorem unseen_of_orderly {before after : List Reporting} {next : Reporting}
    (registers : ∀ operation ∈ opening, ∃ snapshot, operation = .register snapshot)
    (orderly : Orderly (unitsOf (opening ++ reports.map Reporting.question)) skipped reports)
    (parts : reports = before ++ next :: after) :
    ¬SeenFinished (opening ++ before.map Reporting.question) next.1 := by
  intro seen
  obtain ⟨report, member, finished⟩ := shown_by_report registers seen
  obtain ⟨earlier, later, rfl⟩ := List.append_of_mem member
  have reporting : next.1 ∈ reports.map Prod.fst := by simp [parts]
  have inside := (orderly.units next.1).mpr (Or.inl reporting)
  have once := orderly.once
  have whole : reports = earlier ++ report :: (later ++ next :: after) := by simp [parts]
  rw [whole, List.map_append, List.map_cons, List.map_append, List.map_cons] at once
  rcases orderly.nothingElse _ _ _ whole next.1 inside finished with before | same | skips
  · have apart := (List.nodup_append.mp once).2.2 next.1 before next.1
    simp at apart
  · have fresh := (List.nodup_cons.mp (List.nodup_append.mp once).2.1).1
    simp [same] at fresh
  · exact orderly.silent next.1 skips reporting

theorem seen_of_report {report : Reporting} {id : UnitId} (member : report ∈ reports)
    (known : report.1 ∈ unitsOf (opening ++ reports.map Reporting.question))
    (finished : report.2.FirstFinished id) :
    SeenFinished (opening ++ reports.map Reporting.question) id :=
  ⟨report.question, List.mem_append_right _ (List.mem_map.mpr ⟨report, member, rfl⟩), known,
    finished⟩

theorem untold_of_registers
    (registers : ∀ operation ∈ opening, ∃ snapshot, operation = .register snapshot) :
    .last true ∉ replies opening := by
  induction opening using List.reverseRecOn with
  | nil => simp [replies, replayFrom]
  | append_singleton earlier operation ih =>
      obtain ⟨snapshot, rfl⟩ := registers operation (List.mem_append_right _ List.mem_cons_self)
      have before := ih fun other member => registers other (List.mem_append_left _ member)
      rw [replies_snoc, List.mem_append, not_or]
      exact ⟨before, by simp [perform]⟩

/-- As long as another report is to come, the answer is no. -/
theorem replies_of_waiting {before after : List Reporting}
    (registers : ∀ operation ∈ opening, ∃ snapshot, operation = .register snapshot)
    (orderly : Orderly (unitsOf (opening ++ reports.map Reporting.question)) skipped reports)
    (parts : reports = before ++ after) (more : after ≠ []) :
    replies (opening ++ before.map Reporting.question) =
      replies opening ++ List.replicate before.length (.last false) := by
  induction before using List.reverseRecOn generalizing after with
  | nil => simp
  | append_singleton before report ih =>
      obtain ⟨next, rest, rfl⟩ := List.exists_cons_of_ne_nil more
      have whole : reports = before ++ report :: next :: rest := by simp [parts]
      have units := @units_of_begun opening before (next :: rest) report
      rw [← whole, question_snoc] at units
      have answer := replies_snoc (opening ++ before.map Reporting.question)
        (.isLast report.1 report.2)
      have known : report.1 ∈ unitsOf (opening ++ before.map Reporting.question ++
          [.isLast report.1 report.2]) := by
        rw [← units, orderly.units]
        exact Or.inl (by simp [whole])
      rw [question_snoc, answer, ih whole (by simp)]
      rcases question_reply known with ⟨_, _, others⟩ | ⟨last, _⟩
      · have inside : next.1 ∈ unitsOf (opening ++ before.map Reporting.question ++
            [.isLast report.1 report.2]) := by
          rw [← units, orderly.units]
          exact Or.inl (by simp [whole])
        have different : next.1 ≠ report.1 := by
          intro same
          have once := orderly.once
          rw [whole, List.map_append, List.map_cons, List.map_cons, same] at once
          exact absurd (List.nodup_append.mp once).2.1 (by simp)
        have seen := others next.1 inside different
        rw [← question_snoc] at seen
        exact absurd seen (unseen_of_orderly registers orderly parts)
      · rw [last, List.append_assoc, ← List.replicate_succ', List.length_append]
        rfl

theorem replies_of_orderly
    (registers : ∀ operation ∈ opening, ∃ snapshot, operation = .register snapshot)
    (orderly : Orderly (unitsOf (opening ++ reports.map Reporting.question)) skipped reports) :
    replies (opening ++ reports.map Reporting.question) =
      replies opening ++ List.replicate (reports.length - 1) (.last false) ++ [.last true] := by
  rcases List.eq_nil_or_concat reports with empty | ⟨before, final, parts⟩
  · exact absurd empty orderly.present
  · rw [List.concat_eq_append] at parts
    have waiting := replies_of_waiting registers orderly parts (by simp)
    have units : ∀ report ∈ reports,
        report.1 ∈ unitsOf (opening ++ reports.map Reporting.question) := by
      intro report member
      rw [orderly.units]
      exact Or.inl (List.mem_map.mpr ⟨report, member, rfl⟩)
    have history : opening ++ reports.map Reporting.question =
        opening ++ before.map Reporting.question ++ [.isLast final.1 final.2] := by
      rw [parts, question_snoc]
    have known := units final (by simp [parts])
    rw [history] at known
    rw [history, replies_snoc, waiting]
    rcases question_reply known with ⟨last, _⟩ | ⟨_, told | ⟨id, inside, other, unseen⟩⟩
    · rw [last, parts, List.length_append]
      rfl
    · rw [waiting, List.mem_append] at told
      rcases told with early | late
      · exact absurd early (untold_of_registers registers)
      · simp at late
    · exfalso
      apply unseen
      rw [← history] at inside ⊢
      rcases (orderly.units id).mp inside with reporting | skips
      · have earlier : id ∈ before.map Prod.fst := by
          simpa [parts, other] using reporting
        exact seen_of_report (by simp [parts]) (units final (by simp [parts]))
          (orderly.earlier before final [] parts id earlier)
      · obtain ⟨report, member, finished⟩ := orderly.skips id skips
        exact seen_of_report member (units report member) finished

end Orderly

/-- However stale the snapshots, one question is answered with yes; and it is the final one when the
units report one after the other. -/
theorem exactly_one_unit_is_last :
    (∀ history, Complete history → (replies history).count (.last true) = 1) ∧
    ∀ (opening : History) (skipped : List UnitId) (reports : List Reporting),
      (∀ operation ∈ opening, ∃ snapshot, operation = .register snapshot) →
      Orderly (unitsOf (opening ++ reports.map Reporting.question)) skipped reports →
      replies (opening ++ reports.map Reporting.question) =
        replies opening ++ List.replicate (reports.length - 1) (.last false) ++ [.last true] :=
  ⟨fun _ complete => one_last_of_complete complete,
    fun _ _ _ registers orderly => replies_of_orderly registers orderly⟩

/-- The second unit reports with a snapshot from before the first one ended. -/
def staleHistory : History := [
  .register [.pending "a", .pending "b"],
  .isLast "a" [⟨"a", true, true⟩, .pending "b"],
  .isLast "b" [.pending "a", ⟨"b", true, true⟩],
  .isLast "a" [⟨"a", true, true⟩, .pending "b"]]

/-- Of three units the second is skipped, and the snapshots do not show the units that report. -/
def skippingOpening : History := [.register [.pending "a", .pending "b", .pending "c"]]

def skippingReports : List Reporting := [
  ("c", [.pending "a", ⟨"b", false, true⟩, .pending "c"]),
  ("a", [.pending "a", ⟨"b", false, true⟩, ⟨"c", true, true⟩])]

theorem stale_and_skipping_end_once :
    (replies staleHistory).count (.last true) = 1 ∧
      replies (skippingOpening ++ skippingReports.map Reporting.question) =
        [.units ["a", "b", "c"], .last false, .last true] := by
  have stale : Complete staleHistory :=
    ⟨by decide, by decide, by decide⟩
  have registers : ∀ operation ∈ skippingOpening, ∃ snapshot, operation = .register snapshot := by
    simp [skippingOpening]
  have orderly : Orderly (unitsOf (skippingOpening ++ skippingReports.map Reporting.question))
      ["b"] skippingReports := by
    have units : unitsOf (skippingOpening ++ skippingReports.map Reporting.question) =
        ["a", "b", "c"] := by decide
    have places : ∀ before report after, skippingReports = before ++ report :: after →
        (before = [] ∧ report = ("c", [.pending "a", ⟨"b", false, true⟩, .pending "c"])) ∨
          (before.map Prod.fst = ["c"] ∧
            report = ("a", [.pending "a", ⟨"b", false, true⟩, ⟨"c", true, true⟩])) := by
      intro before report after parts
      rcases before with _ | ⟨first, _ | ⟨second, more⟩⟩ <;>
        simp only [skippingReports, List.nil_append, List.cons_append, List.cons.injEq] at parts
      · exact Or.inl ⟨rfl, parts.1.symm⟩
      · exact Or.inr ⟨by rw [← parts.1]; rfl, parts.2.1.symm⟩
      · exact absurd parts.2.2 (by simp)
    rw [units]
    refine ⟨by decide, by decide, ?_, by decide, ?_, ?_, by decide⟩
    · intro id
      simp only [skippingReports, List.map_cons, List.map_nil, List.mem_cons, List.not_mem_nil]
      tauto
    · intro before report after parts
      rcases places before report after parts with ⟨rfl, rfl⟩ | ⟨earlier, rfl⟩
      · decide
      · rw [earlier]
        decide
    · intro before report after parts
      rcases places before report after parts with ⟨rfl, rfl⟩ | ⟨earlier, rfl⟩
      · decide
      · rw [earlier]
        decide
  refine ⟨exactly_one_unit_is_last.1 _ stale, ?_⟩
  rw [exactly_one_unit_is_last.2 _ _ _ registers orderly]
  decide

end Tracker

end BuildLedger
