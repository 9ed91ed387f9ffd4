import BuildLedger.Proofs.MatchingDisks
import BuildLedger.Run

/-!
# Publications by different clocks

The clock shows in a publication in two places. The record tells how long the run took, and a
repository is told the time when it takes a whole record. If a repository makes nothing of the time
and of durations, two publications that differ in the clock alone make the same calls with the same
answers, and write the same files, but for the duration in their records.
-/
namespace BuildLedger

/-! ## What is told besides the duration -/

/-- A record without the time that the run took. -/
def Record.untimed (record : Record) : Record := { record with durationMillis := 0 }

def Collection.untimed (collection : Collection) : Collection :=
  { collection with record := collection.record.untimed }

def Report.untimed (report : Report) : Report := { report with record := report.record.untimed }

def Call.untimed : Call → Call
  | .append record => .append record.untimed
  | .send record retention => .send record.untimed retention
  | call => call

def Outcome.untimed : Outcome → Outcome
  | .published report => .published report.untimed
  | outcome => outcome

/-- Contents of files that are the same, but for the duration in a record. -/
inductive SameButTime : ByteArray → ByteArray → Prop
  | same (content : ByteArray) : SameButTime content content
  | record {first second : Record} (told : second.untimed = first.untimed) :
      SameButTime first.text.toUTF8 second.text.toUTF8

/-! ## Repositories and worlds -/

variable {State Value : Type} {same : State → State → Prop}

/-- Two ends of a step: results that are related, and states that are alike. -/
structure EndAlike {World Result : Type} (results : Result → Result → Prop)
    (alike : World → World → Prop) (left right : Result × World) : Prop where
  result : results left.1 right.1
  states : alike left.2 right.2

/-- Two repositories that answer alike in states that count as the same, whatever time it is and
however long the run took. -/
structure Repository.Alike (same : State → State → Prop) (first second : Repository State) :
    Prop where
  connect : ∀ {left right}, same left right → ∀ endpoint settings,
    EndAlike Eq same (first.connect endpoint settings left) (second.connect endpoint settings right)
  deploy : ∀ {left right}, same left right → ∀ {disk other}, disk.Matches SameButTime other →
    ∀ upload, EndAlike Eq same (first.deploy disk upload left) (second.deploy other upload right)
  append : ∀ {left right}, same left right → ∀ {record other : Record},
    other.untimed = record.untimed →
      EndAlike Eq same (first.append record left) (second.append other right)
  send : ∀ {left right}, same left right → ∀ {record other : Record},
    other.untimed = record.untimed → ∀ now later settings,
      EndAlike Eq same (first.send now record settings left)
        (second.send later other settings right)
  close : ∀ {left right}, same left right →
    EndAlike Eq same (first.close left) (second.close right)

namespace World

/-- Worlds that are the same but for the clock and the durations that were told. -/
structure Alike (same : State → State → Prop) (left right : World State) : Prop where
  disk : left.disk.Matches SameButTime right.disk
  remote : same left.remote right.remote
  calls : right.calls.map Call.untimed = left.calls.map Call.untimed

variable {left right : World State} (alike : Alike same left right)

include alike

theorem call_alike (call other : Call) (told : other.untimed = call.untimed)
    {react answer : State → Answer State}
    (answers : EndAlike Eq same (react left.remote) (answer right.remote)) :
    EndAlike Eq (Alike same) (left.call call react) (right.call other answer) := by
  refine ⟨answers.result, alike.disk, answers.states, ?_⟩
  simp only [World.call, List.map_append, List.map_cons, List.map_nil, alike.calls, told]

theorem on_disk_alike {step other : Disk → Value × Disk}
    (together : Disk.Together SameButTime (step left.disk) (other right.disk)) :
    EndAlike Eq (Alike same) (left.onDisk step) (right.onDisk other) :=
  ⟨together.result.symm, together.disks, alike.remote, alike.calls⟩

end World

open World

theorem EndAlike.parts {Value State : Type} {results : Value → Value → Prop}
    {alike : State → State → Prop} {left right : Value × State}
    (ends : EndAlike results alike left right) :
    ∃ value other first second, left = (value, first) ∧ right = (other, second) ∧
      results value other ∧ alike first second :=
  ⟨left.1, right.1, left.2, right.2, rfl, rfl, ends.result, ends.states⟩

/-- Both fail with the same failure, or both succeed and tell the same. -/
inductive TellAlike {Value : Type} (untimed : Value → Value) :
    Except Failure Value → Except Failure Value → Prop
  | told {value other : Value} (same : untimed other = untimed value) :
      TellAlike untimed (.ok value) (.ok other)
  | failed (failure : Failure) : TellAlike untimed (.error failure) (.error failure)

theorem Record.retimed {record other : Record} (told : other.untimed = record.untimed) :
    ∃ duration, other = { record with durationMillis := duration } := by
  refine ⟨other.durationMillis, ?_⟩
  obtain ⟨⟩ := record
  obtain ⟨⟩ := other
  simp only [untimed, mk.injEq, true_and] at told
  simp only [told]

theorem Collection.retimed {collection other : Collection}
    (told : other.untimed = collection.untimed) :
    ∃ duration, other =
      { collection with record := { collection.record with durationMillis := duration } } := by
  obtain ⟨record, units⟩ := collection
  obtain ⟨otherRecord, otherUnits⟩ := other
  simp only [untimed, mk.injEq] at told
  obtain ⟨duration, rfl⟩ := Record.retimed told.1
  exact ⟨duration, by rw [told.2]⟩

theorem Report.retimed {report other : Report} (told : other.untimed = report.untimed) :
    ∃ duration, other =
      { report with record := { report.record with durationMillis := duration } } := by
  obtain ⟨⟩ := report
  obtain ⟨⟩ := other
  simp only [untimed, mk.injEq] at told
  obtain ⟨duration, rfl⟩ := Record.retimed told.1
  exact ⟨duration, by simp only [told]⟩

theorem Collection.collect_untimed (header other : Record) (told : other.untimed = header.untimed)
    (settings : Settings) (started : Instant) (graph : List UnitId) (snapshot : Snapshot)
    (extractor : Extractor) :
    TellAlike untimed (collect settings header started graph snapshot extractor)
      (collect settings other started graph snapshot extractor) := by
  obtain ⟨duration, rfl⟩ := Record.retimed told
  unfold collect
  have common : runProperties { header with durationMillis := duration } started =
      runProperties header started := rfl
  rw [common]
  cases contributions settings (runProperties header started) extractor (snapshot.worked graph) with
  | error failure => exact .failed failure
  | ok found => exact .told rfl

theorem Record.save_together (record other : Record) (told : other.untimed = record.untimed)
    (path : Path) {left right : Disk} (matching : left.Matches SameButTime right) :
    Disk.Together SameButTime (record.save path left) (other.save path right) := by
  obtain ⟨result, first, second, leftDone, rightDone, later⟩ :=
    (Disk.write_together matching (.same _) path (.record told)).parts
  unfold save Disk.save
  change left.writeAtomically path (Json.indented (codec.encode record)).toUTF8 = _ at leftDone
  change right.writeAtomically path (Json.indented (codec.encode other)).toUTF8 = _ at rightDone
  simp only [leftDone, rightDone]
  cases result <;> exact ⟨rfl, later⟩

theorem Manifest.save_together (manifest : Manifest) (path : Path) {left right : Disk}
    (matching : left.Matches SameButTime right) :
    Disk.Together SameButTime (manifest.save path left) (manifest.save path right) := by
  obtain ⟨result, first, second, leftDone, rightDone, later⟩ :=
    (Disk.write_together matching (.same _) path
      (.same (Json.indented (codec.encode manifest)).toUTF8)).parts
  unfold save Disk.save
  simp only [leftDone, rightDone]
  cases result <;> exact ⟨rfl, later⟩

namespace Publication

section Steps

variable {left right : World State} (alike : World.Alike same left right)

include alike

theorem save_if_alike (path : Option Path) {save other : Path → Disk → Except Failure Unit × Disk}
    (together : ∀ path, Disk.Together SameButTime (save path left.disk) (other path right.disk)) :
    EndAlike Eq (World.Alike same) (saveIf path save left) (saveIf path other right) := by
  unfold saveIf
  cases path with
  | none => exact ⟨rfl, alike⟩
  | some path =>
      obtain ⟨result, _, first, second, leftDone, rightDone, rfl, later⟩ :=
        (on_disk_alike alike (together path)).parts
      simp only [leftDone, rightDone]
      cases result <;> exact ⟨rfl, later⟩

theorem export_files_alike {collection other : Collection}
    (told : other.untimed = collection.untimed) (settings : Settings) :
    EndAlike Eq (World.Alike same) (exportFiles settings collection left)
      (exportFiles settings other right) := by
  obtain ⟨duration, rfl⟩ := Collection.retimed told
  obtain ⟨record, _, first, second, leftDone, rightDone, rfl, saved⟩ :=
    (save_if_alike alike settings.build.buildInfoOutput fun path =>
      Record.save_together collection.record { collection.record with durationMillis := duration }
        rfl path alike.disk).parts
  simp only [exportFiles, leftDone, rightDone]
  cases record with
  | error failure => exact ⟨rfl, saved⟩
  | ok paths =>
      obtain ⟨manifest, _, first, second, leftDone, rightDone, rfl, later⟩ :=
        (save_if_alike saved settings.build.deployManifestOutput fun path =>
          Manifest.save_together collection.manifest path saved.disk).parts
      have listed : Collection.manifest { collection with
          record := { collection.record with durationMillis := duration } } =
        collection.manifest := rfl
      simp only [listed, leftDone, rightDone]
      cases manifest <;> exact ⟨rfl, later⟩

theorem remove_properties_alike (settings : Settings) :
    World.Alike same (removeProperties settings left) (removeProperties settings right) := by
  unfold removeProperties
  cases settings.propsFile with
  | none => exact alike
  | some path => exact (on_disk_alike alike (Disk.remove_together alike.disk path)).states

end Steps

section Calls

variable {repository other : Repository State} (answers : repository.Alike same other)
  {left right : World State} (alike : World.Alike same left right)

include answers alike

theorem connect_alike (settings : Settings) :
    EndAlike Eq (World.Alike same) (connect repository settings left)
      (connect other settings right) := by
  unfold connect
  cases settings.endpoint with
  | none => exact ⟨rfl, alike⟩
  | some endpoint =>
      simp only
      split
      · obtain ⟨result, _, first, second, leftDone, rightDone, rfl, later⟩ :=
          (call_alike alike (.connect endpoint) (.connect endpoint) rfl
            (answers.connect alike.remote endpoint settings)).parts
        simp only [World.connect, leftDone, rightDone]
        cases result <;> exact ⟨rfl, later⟩
      · exact ⟨rfl, alike⟩

theorem release_alike : World.Alike same (left.release repository) (right.release other) :=
  (call_alike alike .close .close rfl (answers.close alike.remote)).states

theorem transmit_alike {record later : Record} (told : later.untimed = record.untimed)
    (settings : Settings) :
    EndAlike Eq (World.Alike same) (transmit repository settings record left)
      (transmit other settings later right) := by
  obtain ⟨duration, rfl⟩ := Record.retimed told
  unfold transmit
  simp only
  split
  · have ends := call_alike alike (.append record)
      (.append { record with durationMillis := duration }) rfl
      (answers.append alike.remote told)
    exact ⟨congrArg (Except.map fun _ => true) ends.result, ends.states⟩
  · have ends := call_alike alike (.send record settings.build.retention)
      (.send { record with durationMillis := duration } settings.build.retention) rfl
      (answers.send alike.remote told left.now right.now settings)
    exact ⟨congrArg (Except.map fun _ => true) ends.result, ends.states⟩

theorem send_record_alike {record later : Record} (told : later.untimed = record.untimed)
    (settings : Settings) (connected : Bool) :
    EndAlike Eq (World.Alike same) (sendRecord repository settings connected record left)
      (sendRecord other settings connected later right) := by
  unfold sendRecord
  split
  · obtain ⟨result, _, first, second, leftDone, rightDone, rfl, saved⟩ :=
      (save_if_alike alike settings.build.exportFile fun path =>
        Record.save_together record later told path alike.disk).parts
    simp only [leftDone, rightDone]
    cases result with
    | error failure => exact ⟨rfl, saved⟩
    | ok paths =>
        simp only
        split
        · exact transmit_alike answers saved told settings
        · exact ⟨rfl, saved⟩
  · exact ⟨rfl, alike⟩

theorem finish_alike {collection later : Collection} (told : later.untimed = collection.untimed)
    {report next : Report} (reported : next.untimed = report.untimed) (settings : Settings)
    (connected : Bool) :
    EndAlike (TellAlike Report.untimed) (World.Alike same)
      (finish repository settings connected collection report left)
      (finish other settings connected later next right) := by
  have record : later.record.untimed = collection.record.untimed := congrArg Collection.record told
  obtain ⟨sent, _, first, second, leftSent, rightSent, rfl, talked⟩ :=
    (send_record_alike answers alike record settings connected).parts
  have released : World.Alike same (if connected then first.release repository else first)
      (if connected then second.release other else second) := by
    split
    · exact release_alike answers talked
    · exact talked
  obtain ⟨exported, _, leftLast, rightLast, leftDone, rightDone, rfl, written⟩ :=
    (export_files_alike released told settings).parts
  simp only [finish, leftSent, rightSent, leftDone, rightDone]
  refine ⟨?_, ?_⟩
  · obtain ⟨duration, rfl⟩ := Report.retimed reported
    cases sent with
    | error failure => exact .failed failure
    | ok published =>
        cases exported with
        | error failure => exact .failed failure
        | ok paths => exact .told rfl
  · cases sent <;> cases exported <;> exact written

theorem upload_all_alike (policy : FailurePolicy) (uploads : List Upload) {report next : Report}
    (reported : next.untimed = report.untimed) :
    EndAlike (TellAlike Report.untimed) (World.Alike same)
      (uploadAll repository policy uploads report left)
      (uploadAll other policy uploads next right) := by
  obtain ⟨duration, rfl⟩ := Report.retimed reported
  clear reported
  induction uploads generalizing left right report with
  | nil => exact ⟨.told rfl, alike⟩
  | cons upload rest ih =>
      obtain ⟨result, _, first, second, leftDone, rightDone, rfl, later⟩ :=
        (call_alike alike (.deploy upload) (.deploy upload) rfl
          (answers.deploy alike.remote alike.disk upload)).parts
      simp only [uploadAll, World.deploy, leftDone, rightDone]
      cases result with
      | ok done =>
          exact @ih _ _ later { report with deployed := report.deployed ++ [upload.path] }
      | error failure =>
          cases policy with
          | abort => exact ⟨.failed failure, later⟩
          | carryOn =>
              exact @ih _ _ later { report with
                failed := report.failed ++ [⟨upload.path, failure.message⟩] }

theorem deploy_alike {collection later : Collection} (told : later.untimed = collection.untimed)
    {report next : Report} (reported : next.untimed = report.untimed) (settings : Settings) :
    EndAlike (TellAlike Report.untimed) (World.Alike same)
      (deploy repository settings collection report left)
      (deploy other settings later next right) := by
  obtain ⟨duration, rfl⟩ := Collection.retimed told
  have judged : Batch.ofCollection settings { collection with
      record := { collection.record with durationMillis := duration } } =
    Batch.ofCollection settings collection := rfl
  unfold deploy
  rw [judged]
  cases Batch.ofCollection settings collection with
  | error failure => exact ⟨.failed failure, alike⟩
  | ok batch =>
      apply upload_all_alike answers alike
      obtain ⟨duration, rfl⟩ := Report.retimed reported
      rfl

theorem sequence_alike (settings : Settings) (info : RunInfo) (graph : List UnitId)
    (snapshot : Snapshot) (extractor : Extractor) :
    EndAlike (TellAlike Report.untimed) (World.Alike same)
      (sequence repository settings info graph snapshot extractor left)
      (sequence other settings info graph snapshot extractor right) := by
  have collected := Collection.collect_untimed (header settings info left.now)
    (header settings info right.now) rfl settings info.started graph snapshot extractor
  unfold sequence
  generalize Collection.collect settings (header settings info left.now) info.started graph snapshot
    extractor = first at collected
  generalize Collection.collect settings (header settings info right.now) info.started graph
    snapshot extractor = second at collected
  cases collected with
  | failed failure => exact ⟨.failed failure, alike⟩
  | @told collection later told =>
      have record : Report.untimed { record := later.record } =
          Report.untimed { record := collection.record } := by
        obtain ⟨duration, rfl⟩ := Collection.retimed told
        rfl
      obtain ⟨result, _, leftNext, rightNext, leftDone, rightDone, rfl, connected⟩ :=
        (connect_alike answers alike settings).parts
      simp only [leftDone, rightDone]
      rcases result with failure | linked
      · exact ⟨.failed failure, connected⟩
      · cases linked with
        | false => exact finish_alike answers connected told record settings false
        | true =>
            obtain ⟨uploaded, others, _, _, leftDone, rightDone, reports, deployed⟩ :=
              (deploy_alike answers connected told record settings).parts
            simp only [leftDone, rightDone]
            cases reports with
            | failed failure => exact ⟨.failed failure, release_alike answers deployed⟩
            | told reported => exact finish_alike answers deployed told reported settings true

theorem publish_alike (publication : Publication) (info : RunInfo) (graph : List UnitId)
    (snapshot : Snapshot) (extractor : Extractor) :
    EndAlike (TellAlike (Option.map Report.untimed))
      (fun first second => second.1 = first.1 ∧ World.Alike same first.2 second.2)
      (publication.publish repository info graph snapshot extractor left)
      (publication.publish other info graph snapshot extractor right) := by
  have idle : EndAlike (TellAlike (Option.map Report.untimed))
      (fun first second => second.1 = first.1 ∧ World.Alike same first.2 second.2)
      (.ok none, publication, left) (.ok none, publication, right) :=
    ⟨.told rfl, rfl, alike⟩
  obtain ⟨result, next, first, second, leftDone, rightDone, reports, later⟩ :=
    (sequence_alike answers alike publication.settings info graph snapshot extractor).parts
  unfold publish
  cases publication.phase with
  | done => exact idle
  | failed => exact idle
  | idle =>
      simp only [leftDone, rightDone]
      have removed := remove_properties_alike later publication.settings
      cases reports with
      | failed failure => exact ⟨.failed failure, rfl, removed⟩
      | told reported => exact ⟨.told (congrArg some reported), rfl, removed⟩

end Calls

end Publication

/-- A report of a unit ends alike, however late it is. -/
theorem Run.complete_alike {repository other : Repository State}
    (answers : repository.Alike same other) {left right : World State}
    (alike : World.Alike same left right) (run : Run) (extractor : Extractor) (unit : UnitId)
    (snapshot : Snapshot) :
    EndAlike (TellAlike Outcome.untimed)
      (fun first second => second.1 = first.1 ∧ World.Alike same first.2 second.2)
      (run.complete repository extractor unit snapshot left)
      (run.complete other extractor unit snapshot right) := by
  unfold complete
  rcases run.tracker.isLast unit snapshot with ⟨last, tracker⟩
  simp only
  cases last with
  | none => exact ⟨.told rfl, rfl, alike⟩
  | some last =>
      cases last with
      | false => cases tracker.claimedBy <;> exact ⟨.told rfl, rfl, alike⟩
      | true =>
          obtain ⟨result, next, ⟨publication, first⟩, ⟨_, second⟩, leftDone, rightDone, reports,
              rfl, later⟩ :=
            (Publication.publish_alike answers alike run.publication run.info tracker.units snapshot
              extractor).parts
          simp only [leftDone, rightDone]
          cases reports with
          | failed failure => exact ⟨.failed failure, rfl, later⟩
          | @told report next reported =>
              rcases report with _ | report <;> rcases next with _ | next
              · exact ⟨.told rfl, rfl, later⟩
              · cases reported
              · cases reported
              · exact ⟨.told (congrArg Outcome.published (Option.some.inj reported)), rfl, later⟩

end BuildLedger
