import BuildLedger.Proofs.RecordRoundTrip
import BuildLedger.Proofs.RetentionDates

/-!
# What requests decide about an operation

An operation of a client is a list of requests, each with what came back for it after all of its
attempts. A request is accepted when it is answered with a status of success. An upload and the
modules of a record are one request each. A whole record is one request, and its retention rule is a
second one that is sent only behind an accepted record. An operation succeeds exactly when all its
requests are accepted, and a request that is not accepted is the last one. Nothing is assumed of the
repository or of the way to it.
-/
namespace BuildLedger.Http

variable {Line : Type}

/-- A request, built or not, and what came back for it after all of its attempts. -/
abbrev Asked := Except Fault Request × Except Fault Response

/-- The request was answered with a status of success. -/
def Accepted (asked : Asked) : Prop :=
  ∃ response, asked.2 = .ok response ∧ isSuccess response.status = true

/-- Requests that are sent one after the other, from a first line to a last. -/
inductive Asks (transport : Transport Line) (limit : Nat) : Line → List Asked → Line → Prop
  | nothing (line : Line) : Asks transport limit line [] line
  | request {line next last : Line} {request : Except Fault Request}
      {answer : Except Fault Response} {rest : List Asked}
      (sent : transport.send (fun _ => request) limit line = (answer, next))
      (others : Asks transport limit next rest last) :
      Asks transport limit line ((request, answer) :: rest) last

theorem asks_append {transport : Transport Line} {limit : Nat} {line next last : Line}
    {asked others : List Asked} (first : Asks transport limit line asked next)
    (second : Asks transport limit next others last) :
    Asks transport limit line (asked ++ others) last := by
  induction first with
  | nothing => exact second
  | request sent _ ih => exact .request sent (ih second)

namespace Client

/-! ## Single requests -/

/-- A delivery is one request. It succeeds when that is accepted, and fails with the report of a
fault otherwise. -/
theorem delivery_asks (client : Client) (transport : Transport Line)
    (request : Except Fault Request) (line : Line) (report : Fault → Failure) :
    let delivered := client.deliver transport request line
    ∃ answer, Asks transport client.retries line [(request, answer)] delivered.2 ∧
      (delivered.1.mapError report = .ok () ↔ Accepted (request, answer)) ∧
      ∀ failure, delivered.1.mapError report = .error failure →
        ∃ fault, failure = report fault := by
  intro delivered
  rcases sent : transport.send (fun _ => request) client.retries line with ⟨answer, later⟩
  have asks : Asks transport client.retries line [(request, answer)] later :=
    .request sent (.nothing later)
  cases answer with
  | error fault =>
      have failed : delivered = (.error fault, later) := by
        simp only [delivered, deliver, Transport.deliver, sent]
      rw [failed]
      refine ⟨_, asks, by simp [Except.mapError, Accepted], ?_⟩
      intro failure same
      exact ⟨fault, (Except.error.inj same).symm⟩
  | ok response =>
      by_cases success : isSuccess response.status = true
      · have done : delivered = (.ok (), later) := by
          simp only [delivered, deliver, Transport.deliver, sent, success, if_true]
        rw [done]
        exact ⟨_, asks, by simp [Except.mapError, Accepted, success], nofun⟩
      · have failed : delivered = (.error (.refused response.status
            (Text.ofBytes response.body.data.toList)), later) := by
          simp only [delivered, deliver, Transport.deliver, sent]
          rw [if_neg success]
        rw [failed]
        refine ⟨_, asks, by simp [Except.mapError, Accepted, success], ?_⟩
        intro failure same
        exact ⟨_, (Except.error.inj same).symm⟩

theorem deploy_delivers (client : Client) (transport : Transport Line) (disk : Disk)
    (upload : Upload) (line : Line) :
    let delivered := client.deliver transport (client.uploadRequest disk upload) line
    client.deploy transport disk upload line =
      (delivered.1.mapError fun fault => .deploy upload.path fault.message, delivered.2) := by
  dsimp only [deploy]
  rcases client.deliver transport (client.uploadRequest disk upload) line with ⟨result, later⟩
  cases result <;> rfl

theorem publish_delivers (client : Client) (transport : Transport Line)
    (request : Except Fault Request) (line : Line) :
    let delivered := client.deliver transport request line
    client.publish transport request line =
      (delivered.1.mapError fun fault => .publish fault.message, delivered.2) := by
  dsimp only [publish]
  rcases client.deliver transport request line with ⟨result, later⟩
  cases result <;> rfl

theorem deploy_asks (client : Client) (transport : Transport Line) (disk : Disk) (upload : Upload)
    (line : Line) :
    let done := client.deploy transport disk upload line
    ∃ answer,
      Asks transport client.retries line [(client.uploadRequest disk upload, answer)] done.2 ∧
      (done.1 = .ok () ↔ Accepted (client.uploadRequest disk upload, answer)) ∧
      ∀ failure, done.1 = .error failure →
        ∃ fault : Fault, failure = .deploy upload.path fault.message := by
  rw [deploy_delivers]
  exact client.delivery_asks transport (client.uploadRequest disk upload) line _

/-- A request that belongs to a record. -/
theorem publish_asks (client : Client) (transport : Transport Line)
    (request : Except Fault Request) (line : Line) :
    let done := client.publish transport request line
    ∃ answer, Asks transport client.retries line [(request, answer)] done.2 ∧
      (done.1 = .ok () ↔ Accepted (request, answer)) ∧
      ∀ failure, done.1 = .error failure → ∃ fault : Fault, failure = .publish fault.message := by
  rw [publish_delivers]
  exact client.delivery_asks transport request line _

/-! ## What a request carries -/

/-- A request with a text in its body from which the value is read. -/
def Carries {Value : Type} (codec : Codec Value) (value : Value) (method : Method) (url : Url)
    (request : Except Fault Request) : Prop :=
  ∃ built text, request = .ok built ∧ built.method = method ∧ built.url.target = url.target ∧
    built.body = text.toUTF8 ∧ Json.parse codec text = .ok value

theorem json_request_carries {Value : Type} {codec : Codec Value} (lawful : codec.Lawful)
    (client : Client) (method : Method) (url : Url) (value : Value) :
    Carries codec value method url (client.jsonRequest method url (codec.encode value)) := by
  have sendable : isSendable "application/json" = true := by decide
  have address : (if url.credentials?.isSome then url.withoutCredentials else url).target =
      url.target := by
    split <;> rfl
  unfold jsonRequest request
  simp only [List.all_cons, List.all_nil, sendable, Bool.and_self, if_true]
  exact ⟨_, _, rfl, rfl, address, rfl, Json.parse_written lawful .compact value⟩

/-! ## A whole record -/

/-- The requests for a record: the record itself, and behind it the retention rule, if the record is
accepted and there is a rule to send. -/
inductive RecordAsked (client : Client) (now : Instant) (record : Record)
    (retention : Option Retention) : List Asked → Prop
  | alone {answer : Except Fault Response}
      (last : ¬(Accepted (client.recordRequest record, answer) ∧
        ∃ rule, retention = some rule ∧ rule.isEnabled = true)) :
      RecordAsked client now record retention [(client.recordRequest record, answer)]
  | ruled {answer second : Except Fault Response} {rule : Retention} {tree : Tree}
      (accepted : Accepted (client.recordRequest record, answer))
      (known : retention = some rule) (enabled : rule.isEnabled = true)
      (dated : retentionTree? now rule = some tree) :
      RecordAsked client now record retention [(client.recordRequest record, answer),
        (client.retentionRequest record rule tree, second)]

/-- Nothing is requested behind a request that is not accepted. -/
theorem nothing_behind_refusal {client : Client} {now : Instant} {record : Record}
    {retention : Option Retention} {asked before after : List Asked} {one : Asked}
    (requests : RecordAsked client now record retention asked)
    (order : asked = before ++ one :: after) (refused : ¬Accepted one) : after = [] := by
  cases before with
  | nil =>
      cases requests with
      | alone last => exact (List.cons.inj order).2.symm
      | ruled accepted =>
          -- The request in front of another one is the record, which was accepted.
          obtain ⟨rfl, _⟩ := List.cons.inj order
          exact absurd accepted refused
  | cons head before =>
      have two : asked.length ≤ 2 := by cases requests <;> simp
      have length := congrArg List.length order
      simp only [List.length_append, List.length_cons] at length
      exact List.length_eq_zero_iff.mp (by omega)

theorem send_of_refused {client : Client} {transport : Transport Line} {record : Record}
    {line : Line}
    (refused : (client.publish transport (client.recordRequest record) line).1 ≠ .ok ())
    (now : Instant) (settings : Settings) :
    client.send transport now record settings line =
      client.publish transport (client.recordRequest record) line := by
  unfold send
  rcases sent : client.publish transport (client.recordRequest record) line with ⟨result, later⟩
  cases result with
  | ok => simp [sent] at refused
  | error failure => rfl

theorem send_asks (client : Client) (transport : Transport Line) {now : Instant}
    (valid : now.isValid = true) (record : Record) {settings : Settings}
    (near : ∀ rule days, settings.build.retention = some rule → rule.maxDays = some days →
      (days.toNat : Int) ≤ now.reach) (line : Line) :
    let done := client.send transport now record settings line
    ∃ asked, Asks transport client.retries line asked done.2 ∧
      RecordAsked client now record settings.build.retention asked ∧
      (done.1 = .ok () ↔ ∀ one ∈ asked, Accepted one) ∧
      ∀ failure, done.1 = .error failure → ∃ fault : Fault, failure = .publish fault.message := by
  intro done
  obtain ⟨answer, asks, success, failures⟩ :=
    client.publish_asks transport (client.recordRequest record) line
  by_cases accepted : Accepted (client.recordRequest record, answer)
  · have continued : done = client.retain transport now record settings.build.retention
        (client.publish transport (client.recordRequest record) line).2 :=
      send_of_accepted (success.mpr accepted) now settings
    rw [continued]
    generalize (client.publish transport (client.recordRequest record) line).2 = later at asks ⊢
    by_cases ruled : ∃ rule, settings.build.retention = some rule ∧ rule.isEnabled = true
    · obtain ⟨rule, known, enabled⟩ := ruled
      rw [known]
      rcases retain_cases client transport valid record enabled later with
        ⟨days, limit, far, _⟩ | ⟨_, tree, dated, _, sent⟩
      · have := near rule days known limit
        omega
      · obtain ⟨second, follows, succeeds, fails⟩ := client.publish_asks transport
          (client.retentionRequest record rule tree) later
        rw [sent]
        refine ⟨[(client.recordRequest record, answer),
          (client.retentionRequest record rule tree, second)], asks_append asks follows,
          .ruled accepted rfl enabled dated, ?_, fails⟩
        rw [succeeds]
        simp [accepted]
    · have silent : settings.build.retention.filter (·.isEnabled) = none := by
        rw [Option.filter_eq_none_iff]
        intro rule known enabled
        exact ruled ⟨rule, known, enabled⟩
      have finished : client.retain transport now record settings.build.retention later =
          (.ok (), later) := by
        simp only [retain, silent]
      rw [finished]
      refine ⟨[(client.recordRequest record, answer)], asks, .alone fun both => ruled both.2, ?_, ?_⟩
      · simp [accepted]
      · intro failure failed
        cases failed
  · have stopped : done = client.publish transport (client.recordRequest record) line :=
      send_of_refused (fun sent => accepted (success.mp sent)) now settings
    rw [stopped]
    refine ⟨[(client.recordRequest record, answer)], asks, .alone fun both => accepted both.1, ?_,
      failures⟩
    rw [success]
    simp [accepted]

/-- A file that cannot be read fails its upload before anything is sent. -/
theorem unreadable_file_sends_nothing {disk : Disk} {upload : Upload} {cause : DiskError}
    (unreadable : disk.contentAt upload.file = .error cause) (client : Client)
    (transport : Transport Line) (line : Line) :
    client.deploy transport disk upload line =
      (.error (.deploy upload.path (Fault.unreadable cause).message), line) := by
  have unbuilt : client.uploadRequest disk upload = .error (.unreadable cause) := by
    simp only [uploadRequest, unreadable]
  have stopped : transport.send (fun _ => .error (.unreadable cause)) client.retries line =
      (.error (.unreadable cause), line) := by
    unfold Transport.send Transport.repeatSend
    rfl
  simp only [deploy, deliver, Transport.deliver, unbuilt, stopped]

/-- An upload and the modules of a record are one request each, and a whole record is one request
with the retention rule behind it. An operation succeeds exactly when every one of its requests is
accepted, and a failure names the upload or is one of the publication. -/
theorem requests_decide_operations (client : Client) (transport : Transport Line) (disk : Disk)
    (upload : Upload) (record : Record) (settings : Settings) (now : Instant) (line : Line)
    (valid : now.isValid = true)
    (near : ∀ rule days, settings.build.retention = some rule → rule.maxDays = some days →
      (days.toNat : Int) ≤ now.reach) :
    let deployed := client.deploy transport disk upload line
    let appended := client.append transport record line
    let sent := client.send transport now record settings line
    ((∃ answer,
        Asks transport client.retries line [(client.uploadRequest disk upload, answer)] deployed.2 ∧
        (deployed.1 = .ok () ↔ Accepted (client.uploadRequest disk upload, answer))) ∧
      (∀ failure, deployed.1 = .error failure →
        ∃ fault : Fault, failure = .deploy upload.path fault.message) ∧
      ∀ cause, disk.contentAt upload.file = .error cause →
        deployed = (.error (.deploy upload.path (Fault.unreadable cause).message), line)) ∧
    ((∃ answer,
        Asks transport client.retries line [(client.appendRequest record, answer)] appended.2 ∧
        (appended.1 = .ok () ↔ Accepted (client.appendRequest record, answer))) ∧
      Carries (Codec.list Module.codec) record.modules .post
        (client.base.append ["api", "build", "append", record.name, record.number])
        (client.appendRequest record) ∧
      ∀ failure, appended.1 = .error failure →
        ∃ fault : Fault, failure = .publish fault.message) ∧
    ((∃ asked, Asks transport client.retries line asked sent.2 ∧
        RecordAsked client now record settings.build.retention asked ∧
        (sent.1 = .ok () ↔ ∀ one ∈ asked, Accepted one) ∧
        ∀ before one after, asked = before ++ one :: after → ¬Accepted one → after = []) ∧
      Carries Record.codec record .put (client.base.append ["api", "build"])
        (client.recordRequest record) ∧
      ∀ failure, sent.1 = .error failure →
        ∃ fault : Fault, failure = .publish fault.message) := by
  intro deployed appended sent
  refine ⟨?upload, ?modules, ?record⟩
  case upload =>
    obtain ⟨answer, asks, success, failures⟩ := client.deploy_asks transport disk upload line
    refine ⟨⟨answer, asks, success⟩, failures, ?_⟩
    intro cause unreadable
    exact unreadable_file_sends_nothing unreadable client transport line
  case modules =>
    obtain ⟨answer, asks, success, failures⟩ :=
      client.publish_asks transport (client.appendRequest record) line
    exact ⟨⟨answer, asks, success⟩,
      client.json_request_carries (Codec.list_lawful module_lawful) .post _ _, failures⟩
  case record =>
    obtain ⟨asked, asks, requests, success, failures⟩ :=
      client.send_asks transport valid record near line
    refine ⟨⟨asked, asks, requests, success, ?_⟩,
      client.json_request_carries Record.codec_lawful .put _ _, failures⟩
    intro before one after order refused
    exact nothing_behind_refusal requests order refused

/-- A line to a repository that takes one request and no more, with what it was asked for. -/
def sated : Transport (List String) where
  exchange request asked :=
    (.response ⟨if asked.isEmpty then 201 else 409, ByteArray.empty⟩,
      asked ++ [request.method.name ++ " " ++ request.target])
  pause _ asked := asked

/-- The record is taken and its rule is not, so the publication fails. -/
theorem refused_rule_fails_publication :
    let client : Client :=
      { base := { scheme := "http", host := some (.domain "repository"), path := ["ledger"] }
        username := "", password := "", retries := 3, relay := none }
    let settings : Settings := { build := { retention := some { maxDays := some 30 } } }
    let record : Record := { name := "app", number := "7", started := "" }
    let now : Instant := ⟨86400, 0⟩
    let sent := client.send sated now record settings []
    now.isValid = true ∧ (30 : Int) ≤ now.reach ∧
      sent.2 = ["PUT /ledger/api/build", "POST /ledger/api/build/retention/app?async=false"] ∧
      ∃ fault : Fault, sent.1 = .error (.publish fault.message) := by
  intro client settings record now sent
  let disk : Disk := .blank []
  let upload : Upload := { path := "app.jar", repository := "libs", file := "app.jar" }
  have valid : now.isValid = true := by decide
  have reached : (30 : Int) ≤ now.reach := by decide
  have near : ∀ rule days, settings.build.retention = some rule → rule.maxDays = some days →
      (days.toNat : Int) ≤ now.reach := by
    intro rule days known limit
    cases known
    cases limit
    exact reached
  have requests : sent.2 =
      ["PUT /ledger/api/build", "POST /ledger/api/build/retention/app?async=false"] := by
    decide +kernel
  have refused : sent.1 ≠ .ok () := by decide +kernel
  obtain ⟨_, _, _, _, failures⟩ := requests_decide_operations client sated disk upload record
    settings now [] valid near
  refine ⟨valid, reached, requests, ?_⟩
  cases result : sent.1 with
  | ok => exact absurd result refused
  | error failure =>
      obtain ⟨fault, same⟩ := failures failure result
      exact ⟨fault, congrArg _ same⟩

end Client

end BuildLedger.Http
