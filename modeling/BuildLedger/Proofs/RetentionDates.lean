import BuildLedger.Http.Client
import BuildLedger.Proofs.CalendarReach
import BuildLedger.Settings.Review

/-!
# The date of a retention rule

A retention rule tells the repository from which date on records are kept. The date is that of the
publication less a number of days, and it is worked out after the record was sent. No review of
settings looks at the number of days. So a full publication fails over a date exactly when the days
are more than the calendar reaches back, and then the record is already there.
-/
namespace BuildLedger

namespace Settings

/-- The settings with another number of days in their retention rule. -/
def keepingDays (settings : Settings) (days : Option UInt32) : Settings :=
  { settings with build := { settings.build with
      retention := settings.build.retention.map fun retention =>
        { retention with maxDays := days } } }

theorem find_error_notice_warning (condition : Bool) (message : String) :
    (noticeIf condition .warning message).find? (fun notice => notice.level == .error) = none := by
  cases condition <;> rfl

/-- Settings are accepted or refused whatever the number of days is. -/
theorem ensure_valid_keeping_days (settings : Settings) (days : Option UInt32) :
    (settings.keepingDays days).ensureValid = settings.ensureValid := by
  have same : (settings.keepingDays days).review.find? (fun notice => notice.level == .error) =
      settings.review.find? fun notice => notice.level == .error := by
    simp only [review, List.find?_append, keepingDays]
    cases settings.build.retention with
    | none => rfl
    | some retention =>
        simp only [Option.map_some, reviewRetention, List.find?_append, find_error_notice_warning]
        rfl
  unfold ensureValid
  rw [same]

end Settings

namespace Http.Client

variable {Line : Type}

/-- A retention rule can be sent unless its date is out of the calendar. -/
theorem retention_tree_cases {now : Instant} (valid : now.isValid = true) (retention : Retention) :
    (∃ days, retention.maxDays = some days ∧ now.reach < days.toNat ∧
      retentionTree? now retention = none) ∨
    ((∀ days, retention.maxDays = some days → (days.toNat : Int) ≤ now.reach) ∧
      ∃ tree, retentionTree? now retention = some tree ∧
        tree.part? "minimumBuildDate" = retention.maxDays.map fun days =>
          .number (now.millis - days.toNat * 86400000)) := by
  unfold retentionTree?
  cases limit : retention.maxDays with
  | none =>
      right
      refine ⟨by simp, _, rfl, ?_⟩
      cases retention.maxBuilds <;> rfl
  | some days =>
      simp only [Instant.minus_days_eq valid]
      by_cases near : (days.toNat : Int) ≤ now.reach
      · right
        rw [if_pos near]
        refine ⟨by simpa using near, _, rfl, ?_⟩
        cases retention.maxBuilds <;>
          simp [Tree.part?, Tree.entry?, Instant.days_earlier_millis]
      · left
        rw [if_neg near]
        exact ⟨days, rfl, by omega, rfl⟩

theorem publish_never_overflows (client : Client) (transport : Transport Line)
    (request : Except Fault Request) (line : Line) :
    (client.publish transport request line).1 ≠ .error .dateOverflow := by
  unfold publish
  rcases client.deliver transport request line with ⟨result, later⟩
  cases result <;> simp

theorem send_of_accepted {client : Client} {transport : Transport Line} {record : Record}
    {line : Line}
    (accepted : (client.publish transport (client.recordRequest record) line).1 = .ok ())
    (now : Instant) (settings : Settings) :
    client.send transport now record settings line =
      client.retain transport now record settings.build.retention
        (client.publish transport (client.recordRequest record) line).2 := by
  unfold send
  rcases sent : client.publish transport (client.recordRequest record) line with ⟨result, later⟩
  cases result with
  | ok => rfl
  | error failure => simp [sent] at accepted

theorem retain_cases (client : Client) (transport : Transport Line) {now : Instant}
    (valid : now.isValid = true) (record : Record) {retention : Retention}
    (enabled : retention.isEnabled = true) (line : Line) :
    (∃ days, retention.maxDays = some days ∧ now.reach < days.toNat ∧
      client.retain transport now record (some retention) line = (.error .dateOverflow, line)) ∨
    ((∀ days, retention.maxDays = some days → (days.toNat : Int) ≤ now.reach) ∧
      ∃ tree, retentionTree? now retention = some tree ∧
        tree.part? "minimumBuildDate" = (retention.maxDays.map fun days =>
          .number (now.millis - days.toNat * 86400000)) ∧
        client.retain transport now record (some retention) line =
          client.publish transport (client.retentionRequest record retention tree) line) := by
  rcases retention_tree_cases valid retention with
    ⟨days, limit, far, missing⟩ | ⟨near, tree, found, date⟩
  · left
    refine ⟨days, limit, far, ?_⟩
    simp only [retain, Option.filter, enabled, if_true, missing]
  · right
    refine ⟨near, tree, found, date, ?_⟩
    simp only [retain, Option.filter, enabled, if_true, found]

theorem retain_overflows_iff (client : Client) (transport : Transport Line) {now : Instant}
    (valid : now.isValid = true) (record : Record) (retention : Option Retention) (line : Line) :
    (client.retain transport now record retention line).1 = .error .dateOverflow ↔
      ∃ rule days, retention = some rule ∧ rule.maxDays = some days ∧ now.reach < days.toNat := by
  constructor
  · intro failed
    cases retention with
    | none => cases failed
    | some rule =>
        by_cases enabled : rule.isEnabled = true
        · rcases retain_cases client transport valid record enabled line with
            ⟨days, limit, far, _⟩ | ⟨_, tree, _, _, sent⟩
          · exact ⟨rule, days, rfl, limit, far⟩
          · rw [sent] at failed
            exact absurd failed (publish_never_overflows client transport _ line)
        · simp [retain, Option.filter, enabled] at failed
  · rintro ⟨rule, days, rfl, limit, far⟩
    have enabled : rule.isEnabled = true := by simp [Retention.isEnabled, limit]
    rcases retain_cases client transport valid record enabled line with
      ⟨_, _, _, failed⟩ | ⟨near, _⟩
    · rw [failed]
    · exact absurd (near days limit) (by omega)

/-- Settings are accepted whatever the days of their retention rule are. A full publication whose
record is taken fails over the date exactly when the days are out of the calendar's reach, and
otherwise the rule is sent with the date that is so many days back. -/
theorem retention_fails_beyond_reach (client : Client) (transport : Transport Line) (now : Instant)
    (record : Record) (settings : Settings) (line : Line) (valid : now.isValid = true)
    (since : 1970 ≤ now.date.year) (before : now.date.year ≤ 9999)
    (accepted : (client.publish transport (client.recordRequest record) line).1 = .ok ()) :
    let later := (client.publish transport (client.recordRequest record) line).2
    let done := client.send transport now record settings line
    (∀ days, (settings.keepingDays days).ensureValid = settings.ensureValid) ∧
    (96465292 ≤ now.reach ∧ now.reach < 99398189) ∧
    (done.1 = .error .dateOverflow ↔ ∃ retention days, settings.build.retention = some retention ∧
      retention.maxDays = some days ∧ now.reach < days.toNat) ∧
    ∀ retention, settings.build.retention = some retention → retention.isEnabled = true →
      (∃ days, retention.maxDays = some days ∧ now.reach < days.toNat ∧
        done = (.error .dateOverflow, later)) ∨
      ((∀ days, retention.maxDays = some days → (days.toNat : Int) ≤ now.reach) ∧
        ∃ tree, retentionTree? now retention = some tree ∧
          tree.part? "minimumBuildDate" = (retention.maxDays.map fun days =>
            .number (now.millis - days.toNat * 86400000)) ∧
          done =
            client.publish transport (client.retentionRequest record retention tree) later) := by
  intro later done
  have continued : done = client.retain transport now record settings.build.retention later :=
    send_of_accepted accepted now settings
  rw [continued]
  refine ⟨settings.ensure_valid_keeping_days, Instant.reach_bounds since before,
    retain_overflows_iff client transport valid record _ later, ?_⟩
  intro retention known enabled
  rw [known]
  exact retain_cases client transport valid record enabled later

/-- A line to a repository that takes everything, with what it was asked for. -/
def obliging : Transport (List String) where
  exchange request asked :=
    (.response ⟨200, ByteArray.empty⟩, asked ++ [request.method.name ++ " " ++ request.target])
  pause _ asked := asked

/-- Thirty days before the second of January 1970 are days of the year before. -/
theorem retention_date_is_sent :
    let client : Client :=
      { base := { scheme := "http", host := some (.domain "repository"), path := ["ledger"] }
        username := "", password := "", retries := 3, relay := none }
    let retention : Retention := { maxDays := some 30 }
    let settings : Settings := { build := { retention := some retention } }
    let record : Record := { name := "app", number := "7", started := "" }
    let now : Instant := ⟨86400, 0⟩
    let asked := (client.publish obliging (client.recordRequest record) []).2
    let done := client.send obliging now record settings []
    now.isValid = true ∧ 1970 ≤ now.date.year ∧ now.date.year ≤ 9999 ∧
      (client.publish obliging (client.recordRequest record) []).1 = .ok () ∧
      done.1 ≠ .error .dateOverflow ∧
      ∃ tree, retentionTree? now retention = some tree ∧
        tree.part? "minimumBuildDate" = some (.number (-2505600000)) ∧
        done = client.publish obliging (client.retentionRequest record retention tree) asked ∧
        done.2 = ["PUT /ledger/api/build", "POST /ledger/api/build/retention/app?async=false"] := by
  intro client retention settings record now asked done
  have valid : now.isValid = true := by decide
  have since : 1970 ≤ now.date.year := by decide
  have before : now.date.year ≤ 9999 := by decide
  have accepted : (client.publish obliging (client.recordRequest record) []).1 = .ok () := by
    decide +kernel
  have requests : done.2 =
      ["PUT /ledger/api/build", "POST /ledger/api/build/retention/app?async=false"] := by
    decide +kernel
  obtain ⟨_, ⟨reached, _⟩, overflows, ruled⟩ := retention_fails_beyond_reach client obliging now
    record settings [] valid since before accepted
  have millis : now.millis - (30 : UInt32).toNat * 86400000 = -2505600000 := by decide
  have near : ¬now.reach < (30 : UInt32).toNat := by
    have days : (30 : UInt32).toNat = 30 := rfl
    rw [days]
    omega
  refine ⟨valid, since, before, accepted, ?_, ?_⟩
  · intro failed
    obtain ⟨_, _, known, limit, far⟩ := overflows.mp failed
    cases known
    cases limit
    exact near far
  · rcases ruled retention rfl rfl with ⟨_, limit, far, _⟩ | ⟨_, tree, found, date, sent⟩
    · cases limit
      exact absurd far near
    · refine ⟨tree, found, ?_, sent, requests⟩
      rw [date, ← millis]
      rfl

/-- Settings with the largest number of days are accepted, and the publication fails over the date
when the record is sent already. -/
theorem accepted_days_overflow :
    let client : Client :=
      { base := { scheme := "http", host := some (.domain "repository"), path := ["ledger"] }
        username := "", password := "", retries := 3, relay := none }
    let settings : Settings :=
      { publisher := { contextUrl := some "http://repository/ledger" }
        build := { retention := some { maxDays := some 4294967295 } } }
    let record : Record := { name := "app", number := "7", started := "" }
    let now : Instant := ⟨1704067200, 0⟩
    settings.ensureValid = .ok () ∧ now.isValid = true ∧ now.date.year = 2024 ∧
      (client.publish obliging (client.recordRequest record) []).1 = .ok () ∧
      client.send obliging now record settings [] =
        (.error .dateOverflow, ["PUT /ledger/api/build"]) := by
  decide +kernel

end Http.Client

end BuildLedger
