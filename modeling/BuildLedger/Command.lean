import BuildLedger.Plan
import BuildLedger.Run
import BuildLedger.Settings.File
import BuildLedger.Settings.Review
import BuildLedger.Table

/-!
# Commands

A command prints lines and may fail. Publishing drives the units of a plan to their ends, one after
the other, until the last one publishes the record; validating lists the remarks on some settings;
showing prints the modules of a record in a file. Lines that were printed before a failure stay.
-/
namespace BuildLedger

inductive Command where
  | publish (plan : Path) (settings : Option Path) (propsFile : Option Path)
  | validate (settings : Path)
  | showRecord (file : Path)
deriving Repr, DecidableEq

namespace Command

/-- Why a command fails. -/
inductive Fault where
  | plan (cause : Plan.Fault)
  | unreadableSettings (path : Path) (cause : Failure)
  | refusedSettings (cause : Failure)
  | publication (unit : UnitId) (cause : Failure)
  | withoutLastUnit
  | errorsFound
  | unreadableRecord (path : Path) (cause : Failure)
deriving Repr, DecidableEq

namespace Fault

/-- The messages of a fault, from the outermost to its root cause. -/
def chain : Fault → List String
  | .plan cause => cause.chain
  | .unreadableSettings path cause => ("failed to load config " ++ path) :: cause.chain
  | .refusedSettings cause => cause.chain
  | .publication unit cause => ("publishing failed after unit " ++ unit) :: cause.chain
  | .withoutLastUnit => ["run finished without a last unit; nothing was published"]
  | .errorsFound => ["config validation found errors"]
  | .unreadableRecord path cause => ("failed to read build info " ++ path) :: cause.chain

def message (fault : Fault) : String := ": ".intercalate fault.chain

end Fault

/-- What a command printed, and whether it got to its end. -/
structure Printed where
  lines : List String
  result : Except Fault Unit

namespace Printed

/-- All lines, each with its line end. -/
def text (printed : Printed) : String := String.join (printed.lines.map (· ++ "\n"))

def failed (fault : Fault) : Printed := ⟨[], .error fault⟩

def complete (lines : List String) : Printed := ⟨lines, .ok ()⟩

end Printed

/-- The files that a command names itself. -/
def named : Command → List Path
  | .publish plan settings propsFile => plan :: (settings.toList ++ propsFile.toList)
  | .validate settings => [settings]
  | .showRecord file => [file]

variable {State : Type}

/-! ## Publishing -/

def loadSettings (path : Path) (disk : Disk) : Except Fault Settings :=
  match Settings.load path disk with
  | .ok settings => .ok settings
  | .error cause => .error (.unreadableSettings path cause)

/-- The settings of a publication: those of a file if one is given, with a file of the run's
properties in place of theirs if one is given. Settings with errors are refused. -/
def publishSettings (path propsFile : Option Path) (disk : Disk) : Except Fault Settings := do
  let loaded ← match path with
    | some path => loadSettings path disk
    | none => pure {}
  let settings := match propsFile with
    | some file => { loaded with propsFile := some file }
    | none => loaded
  match settings.ensureValid with
  | .ok () => return settings
  | .error cause => throw (.refusedSettings cause)

/-- The directory from which the files of a plan are read. -/
def baseOf (plan : Path) : Path :=
  match Path.parent? plan with
  | none | some "" => "."
  | some parent => parent

/-- Let the units end one after the other; the report is that of the last one that published. -/
def drive (repository : Repository State) (extractor : Extractor) :
    List Plan.Entry → Option Report → Snapshot → Run → World State →
      Except Fault (Option Report) × World State
  | [], report, _, _, world => (.ok report, world)
  | entry :: rest, report, snapshot, run, world =>
      let finished := entry.finish snapshot
      match run.complete repository extractor entry.id finished world with
      | (.error cause, _, later) => (.error (.publication entry.id cause), later)
      | (.ok (.published published), after, later) =>
          drive repository extractor rest (some published) finished after later
      | (.ok _, after, later) => drive repository extractor rest report finished after later

def reportLines (report : Report) : List String :=
  [
    "Build " ++ report.record.name ++ " #" ++ report.record.number,
    "  modules: " ++ toString report.record.modules.length ++
      "  artifacts: " ++ toString report.record.artifactCount ++
      "  dependencies: " ++ toString report.record.dependencyCount,
    "  deployed: " ++ toString report.deployed.length ++
      "  filtered: " ++ toString report.filtered.length ++
      "  failed: " ++ toString report.failed.length
  ] ++
  (report.failed.map fun failure => "  [failed] " ++ failure.path ++ ": " ++ failure.message) ++
  ["  build info: " ++ (if report.published then "published" else "not published")] ++
  (report.exported.map fun path => "  exported: " ++ path)

/-- Publish the run of a plan. -/
def publishPlan (repository : Repository State) (planPath : Path) (path propsFile : Option Path)
    (json : Bool) (world : World State) : Printed × World State :=
  match Plan.load planPath world.disk with
  | .error cause => (.failed (.plan cause), world)
  | .ok plan =>
      match publishSettings path propsFile world.disk with
      | .error fault => (.failed fault, world)
      | .ok settings =>
          let extractor := plan.extractor world.disk (baseOf planPath) settings.publisher.repoKey
          let run : Run := { info := ⟨plan.name, world.now⟩, publication := { settings } }
          match drive repository extractor plan.entries none plan.start run world with
          | (.error fault, later) => (.failed fault, later)
          | (.ok none, later) => (.failed .withoutLastUnit, later)
          | (.ok (some report), later) =>
              (.complete (if json then [Json.indented report.tree] else reportLines report), later)

/-- The files that the settings name. -/
def settingsFiles (settings : Settings) : List Path :=
  (settings.build.exportFile.toList ++ settings.build.buildInfoOutput.toList ++
    settings.build.deployManifestOutput.toList ++ settings.propsFile.toList)

/-- The files that a publication may read or write besides its plan and settings. -/
def publicationFiles (planPath : Path) (path propsFile : Option Path) (disk : Disk) : List Path :=
  match Plan.load planPath disk, publishSettings path propsFile disk with
  | .ok plan, .ok settings =>
      settingsFiles settings ++ plan.entries.flatMap fun entry =>
        entry.products.map fun product => Path.join (baseOf planPath) product.file
  | _, _ => []

/-! ## Validating and showing -/

def validateAt (path : Path) (json : Bool) (disk : Disk) : Printed :=
  match loadSettings path disk with
  | .error fault => .failed fault
  | .ok settings =>
      let notices := settings.review
      let lines :=
        if json then
          [Json.indented (.table [("warnings", .list (notices.map Notice.tree))])]
        else if notices.isEmpty then ["Config is valid. No warnings."]
        else notices.map fun notice => "[" ++ notice.level.name ++ "] " ++ notice.message
      let faulty := notices.any fun notice => notice.level == .error
      ⟨lines, if faulty then .error .errorsFound else .ok ()⟩

def moduleRow (entry : Module) : List String :=
  [entry.id, toString entry.artifacts.length, toString entry.dependencies.length]

def recordLines (record : Record) : List String :=
  ["Build:    " ++ record.name ++ " #" ++ record.number, "Started:  " ++ record.started] ++
  (record.vcsRevision.map fun revision => "Revision: " ++ revision).toList ++
  (if record.incremental then ["Mode:     incremental"] else []) ++
  [""] ++
  Table.lines ["MODULE", "ARTIFACTS", "DEPENDENCIES"] (record.modules.map moduleRow)

def showRecordAt (file : Path) (json : Bool) (disk : Disk) : Printed :=
  match Record.load file disk with
  | .error cause => .failed (.unreadableRecord file cause)
  | .ok record => .complete (if json then [record.text] else recordLines record)

/-- The files that a command finds named in the files that it names itself. -/
def found (command : Command) (disk : Disk) : List Path :=
  match command with
  | .publish plan settings propsFile => publicationFiles plan settings propsFile disk
  | _ => []

/-- Run a command; only publishing changes the world. -/
def run (command : Command) (json : Bool) (repository : Repository State) (world : World State) :
    Printed × World State :=
  match command with
  | .publish plan settings propsFile => publishPlan repository plan settings propsFile json world
  | .validate settings => (validateAt settings json world.disk, world)
  | .showRecord file => (showRecordAt file json world.disk, world)

end Command

end BuildLedger
