import BuildLedger.Calendar
import BuildLedger.Failure
import BuildLedger.Settings.Basic
import BuildLedger.Tracker
import BuildLedger.Upload

/-!
# Collecting what a run produced

For every unit that did work, in the order of the graph, an extractor gives the unit's module and
the uploads it wants. A unit that did work and has no module spoils the whole collection, so there
are no partial records. Properties of a module win over those of the settings, and an upload's own
properties win over those of its module.
-/
namespace BuildLedger

/-- What the units of a run have to tell about themselves. -/
structure Extractor where
  /-- The module of a unit; none when the unit has none. -/
  moduleOf : UnitId → Except Failure (Option Module)
  /-- The uploads of a unit, in the order in which it made them. -/
  uploadsOf : UnitId → Except Failure (List Upload)

/-- The uploads that one unit wants. Other units may want the same paths. -/
structure UnitUploads where
  unit : UnitId
  uploads : List Upload
deriving DecidableEq

/-- A whole record and the uploads of every unit in it. -/
structure Collection where
  record : Record
  units : List UnitUploads
deriving DecidableEq

namespace Collection

/-- The uploads of all units, one after the other. -/
def candidates (collection : Collection) : List Upload :=
  collection.units.flatMap (·.uploads)

/-- Of uploads with one path only the first. -/
def firstByPath (seen : List String) : List Upload → List Upload
  | [] => []
  | upload :: rest =>
      if seen.contains upload.path then firstByPath seen rest
      else upload :: firstByPath (upload.path :: seen) rest

/-- Every path that some unit wants, as the first unit wants it. -/
def manifest (collection : Collection) : Manifest := firstByPath [] collection.candidates

/-- Properties that every upload of a run has. -/
def runProperties (header : Record) (started : Instant) : Properties :=
  Keyed.ofList [
    ("build.name", header.name),
    ("build.number", header.number),
    ("build.timestamp", toString started.millis)
  ]

/-- What one unit contributes. -/
structure Contribution where
  entry : Module
  uploads : UnitUploads

def contributionOf (settings : Settings) (common : Properties) (extractor : Extractor)
    (unit : UnitId) : Except Failure Contribution :=
  match extractor.moduleOf unit with
  | .error failure => .error failure
  | .ok none => .error (.missingFragment unit)
  | .ok (some bare) =>
      let entry := { bare with
        properties := (settings.propertiesFor unit).override bare.properties }
      match extractor.uploadsOf unit with
      | .error failure => .error failure
      | .ok uploads =>
          let defaults := common.override entry.properties
          .ok ⟨entry, ⟨unit, uploads.map (·.withDefaults defaults)⟩⟩

/-- The contributions of some units, or the first failure. -/
def contributions (settings : Settings) (common : Properties) (extractor : Extractor) :
    List UnitId → Except Failure (List Contribution)
  | [] => .ok []
  | unit :: rest =>
      match contributionOf settings common extractor unit with
      | .error failure => .error failure
      | .ok contribution =>
          match contributions settings common extractor rest with
          | .error failure => .error failure
          | .ok others => .ok (contribution :: others)

/-- The properties of the record: those of the settings and then of every module in order. -/
def recordProperties (settings : Settings) (contributions : List Contribution) : Properties :=
  contributions.foldl (fun properties contribution =>
    properties.override contribution.entry.properties) settings.publisher.properties

/-- Collect the units of the graph that did work. The header gives all of the record but its
modules and properties. -/
def collect (settings : Settings) (header : Record) (started : Instant) (graph : List UnitId)
    (snapshot : Snapshot) (extractor : Extractor) : Except Failure Collection :=
  match contributions settings (runProperties header started) extractor (snapshot.worked graph) with
  | .error failure => .error failure
  | .ok found => .ok {
      record := { header with
        modules := found.map (·.entry)
        properties := recordProperties settings found }
      units := found.map (·.uploads)
    }

end Collection

end BuildLedger
