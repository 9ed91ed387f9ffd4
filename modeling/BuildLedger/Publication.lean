import BuildLedger.Batch
import BuildLedger.Export
import BuildLedger.Repository

/-!
# Publishing a run

A publication happens once. It collects the record, connects if there is anything to send, uploads
the batch, sends the record, closes the connection, and writes the files that the settings ask for.
Whatever the outcome, the connection is closed and the file with the run's properties is removed.
Files besides the one that is written before sending are written even when sending failed; the
failure to send is told first.
-/
namespace BuildLedger

/-- What is known of a run before its first unit ends. -/
structure RunInfo where
  /-- The name of the record when the settings have none. -/
  root : String
  started : Instant
deriving Repr, DecidableEq

/-- An upload that failed while others went on. -/
structure FailedUpload where
  path : String
  message : String
deriving Repr, DecidableEq

/-- What a publication did. -/
structure Report where
  record : Record
  deployed : List String := []
  filtered : List String := []
  failed : List FailedUpload := []
  /-- Whether the record reached the repository. -/
  published : Bool := false
  exported : List Path := []
deriving DecidableEq

/-- How far a publication is. While it runs it also passes through a state in which it is triggered
and one in which it finishes; between calls neither is ever seen. -/
inductive Phase where
  | idle
  | done
  | failed
deriving Repr, DecidableEq

def Phase.name : Phase → String
  | .idle => "idle"
  | .done => "done"
  | .failed => "failed"

namespace Report

open Codec in
/-- The report as a field tree. -/
def tree (report : Report) : Tree :=
  .table [
    ("build_name", .text report.record.name),
    ("build_number", .text report.record.number),
    ("modules", .number report.record.modules.length),
    ("artifacts", .number report.record.artifactCount),
    ("dependencies", .number report.record.dependencyCount),
    ("deployed", (list text).encode report.deployed),
    ("filtered", (list text).encode report.filtered),
    ("failed", .list (report.failed.map fun failure =>
      .table [("path", .text failure.path), ("message", .text failure.message)])),
    ("published", .flag report.published),
    ("exported", (list path).encode report.exported)
  ]

end Report

/-- One publication: its settings, and whether it has happened. -/
structure Publication where
  settings : Settings
  phase : Phase := .idle

namespace Publication

variable {State : Type}

/-- The program that is named as agent when the settings name none. -/
def ownAgent : Agent := ⟨"buildinfo", "0.1.0"⟩

/-- What counted seconds miss between two times of day: the leap second that the earlier one lies
in. -/
def missedSecond (started now : Instant) : Int :=
  if started.secondOfDay < now.secondOfDay ∧ 1000000000 ≤ started.nanos then 1
  else if now.secondOfDay < started.secondOfDay ∧ 1000000000 ≤ now.nanos then -1
  else 0

/-- Milliseconds since the start, or zero for a start in the future. -/
def duration (started now : Instant) : UInt64 :=
  let seconds := now.seconds - started.seconds + missedSecond started now
  let span := seconds * 1000000000 + ((now.nanos : Int) - started.nanos)
  (span.tdiv 1000000).toNat.toUInt64

/-- The record without modules and properties. -/
def header (settings : Settings) (info : RunInfo) (now : Instant) : Record :=
  let build := settings.build
  {
    name := build.name.getD info.root
    number := build.number.getD (toString info.started.millis)
    started := info.started.startedText
    durationMillis := duration info.started now
    agent := some (build.agent.getD ownAgent)
    url := build.url
    principal := build.principal
    vcsRevision := build.vcsRevision
    vcsUrl := build.vcsUrl
    incremental := build.incremental
  }

/-- Whether there is anything that a repository could be sent. -/
def wantsRepository (settings : Settings) : Bool :=
  settings.publisher.publishBuildInfo || settings.publisher.publishArtifacts ||
    settings.modules.values.any fun own => own.publishArtifacts == some true

/-- Connect if there is an address and something to send; says whether there is a connection. -/
def connect (repository : Repository State) (settings : Settings) (world : World State) :
    Except Failure Bool × World State :=
  match settings.endpoint with
  | none => (.ok false, world)
  | some endpoint =>
      if wantsRepository settings then
        match world.connect repository endpoint settings with
        | (.ok (), connected) => (.ok true, connected)
        | (.error failure, later) => (.error failure, later)
      else (.ok false, world)

/-- Upload one after the other. A failure ends it or is noted, as the policy says. -/
def uploadAll (repository : Repository State) (policy : FailurePolicy) :
    List Upload → Report → World State → Except Failure Report × World State
  | [], report, world => (.ok report, world)
  | upload :: rest, report, world =>
      match world.deploy repository upload with
      | (.ok (), later) =>
          uploadAll repository policy rest
            { report with deployed := report.deployed ++ [upload.path] } later
      | (.error failure, later) =>
          match policy with
          | .abort => (.error failure, later)
          | .carryOn =>
              uploadAll repository policy rest
                { report with failed := report.failed ++ [⟨upload.path, failure.message⟩] } later

/-- Upload the batch of a collection. -/
def deploy (repository : Repository State) (settings : Settings) (collection : Collection)
    (report : Report) (world : World State) : Except Failure Report × World State :=
  match Batch.ofCollection settings collection with
  | .error failure => (.error failure, world)
  | .ok batch =>
      uploadAll repository settings.failurePolicy batch.chosen
        { report with filtered := batch.filtered } world

/-- Write a file if a path is given. -/
def saveIf (path : Option Path) (save : Path → Disk → Except Failure Unit × Disk)
    (world : World State) : Except Failure (List Path) × World State :=
  match path with
  | none => (.ok [], world)
  | some path =>
      match world.onDisk (save path) with
      | (.ok (), later) => (.ok [path], later)
      | (.error failure, later) => (.error failure, later)

/-- Send the record over an open connection; says whether it was sent. -/
def transmit (repository : Repository State) (settings : Settings) (record : Record)
    (world : World State) : Except Failure Bool × World State :=
  let (result, later) := if record.incremental then world.append repository record
    else world.send repository record settings
  (result.map fun _ => true, later)

/-- Write the file that comes before sending, and send the record if there is a connection. -/
def sendRecord (repository : Repository State) (settings : Settings) (connected : Bool)
    (record : Record) (world : World State) : Except Failure Bool × World State :=
  if settings.publisher.publishBuildInfo then
    match saveIf settings.build.exportFile record.save world with
    | (.error failure, later) => (.error failure, later)
    | (.ok _, saved) =>
        if connected then transmit repository settings record saved else (.ok false, saved)
  else (.ok false, world)

/-- Write the record and the manifest where the settings ask for them. -/
def exportFiles (settings : Settings) (collection : Collection) (world : World State) :
    Except Failure (List Path) × World State :=
  match saveIf settings.build.buildInfoOutput collection.record.save world with
  | (.error failure, later) => (.error failure, later)
  | (.ok first, saved) =>
      match saveIf settings.build.deployManifestOutput collection.manifest.save saved with
      | (.error failure, later) => (.error failure, later)
      | (.ok second, later) => (.ok (first ++ second), later)

/-- Send the record, close the connection, and write the files. -/
def finish (repository : Repository State) (settings : Settings) (connected : Bool)
    (collection : Collection) (report : Report) (world : World State) :
    Except Failure Report × World State :=
  let (sent, later) := sendRecord repository settings connected collection.record world
  let released := if connected then later.release repository else later
  let (exported, written) := exportFiles settings collection released
  match sent, exported with
  | .error failure, _ => (.error failure, written)
  | .ok _, .error failure => (.error failure, written)
  | .ok published, .ok exported => (.ok { report with published, exported }, written)

/-- Everything that a publication does, but for the file of the run's properties. -/
def sequence (repository : Repository State) (settings : Settings) (info : RunInfo)
    (graph : List UnitId) (snapshot : Snapshot) (extractor : Extractor) (world : World State) :
    Except Failure Report × World State :=
  match Collection.collect settings (header settings info world.now) info.started graph snapshot
      extractor with
  | .error failure => (.error failure, world)
  | .ok collection =>
      let report : Report := { record := collection.record }
      match connect repository settings world with
      | (.error failure, later) => (.error failure, later)
      | (.ok false, idle) => finish repository settings false collection report idle
      | (.ok true, connected) =>
          match deploy repository settings collection report connected with
          | (.error failure, later) => (.error failure, later.release repository)
          | (.ok report, deployed) => finish repository settings true collection report deployed

/-- Remove the file of the run's properties, if the settings name one and it can be removed. -/
def removeProperties (settings : Settings) (world : World State) : World State :=
  match settings.propsFile with
  | none => world
  | some path => (world.onDisk (Disk.removeIfPresent path)).2

/-- Publish, unless this publication has happened; no report then. -/
def publish (publication : Publication) (repository : Repository State) (info : RunInfo)
    (graph : List UnitId) (snapshot : Snapshot) (extractor : Extractor) (world : World State) :
    Except Failure (Option Report) × Publication × World State :=
  match publication.phase with
  | .done | .failed => (.ok none, publication, world)
  | .idle =>
      let (result, later) := sequence repository publication.settings info graph snapshot extractor
        world
      let phase := match result with
        | .ok _ => Phase.done
        | .error _ => Phase.failed
      (result.map some, { publication with phase := phase },
        removeProperties publication.settings later)

end Publication

end BuildLedger
