import BuildLedger.Bytes.Sha256
import BuildLedger.Collection
import BuildLedger.Disk
import BuildLedger.Yaml.Conform

/-!
# Plans of runs

A plan says what a run does without a build engine: its units in the order of their ends, what
module each of them is, and which files it made. Files are read from the directory of the plan.
Where two units have one name, the later one is asked for module and uploads.
-/
namespace BuildLedger

namespace Plan

/-- A file that a unit made. -/
structure Product where
  file : Path
  /-- Where the file goes inside the repository. -/
  path : String
  repository : Option String := none
  kind : Option String := none
  properties : Properties := ∅
deriving DecidableEq

/-- What a unit says about its module; the artifacts are its products. -/
structure Part where
  id : String
  properties : Properties := ∅
  dependencies : List Dependency := []
deriving DecidableEq

structure Entry where
  id : UnitId
  didWork : Bool := true
  part : Option Part := none
  products : List Product := []
deriving DecidableEq

end Plan

structure Plan where
  /-- The name of the record when the settings have none. -/
  name : String
  entries : List Plan.Entry := []
deriving DecidableEq

namespace Plan

/-! ## Text -/

open Codec in
def Product.codec : Codec Product :=
  Codec.record "PlanArtifact" [
    .mandatory "file" Codec.path (·.file),
    .mandatory "path" text (·.path),
    .optional "repo" text (·.repository),
    .optional "type" text (·.kind),
    .defaulted "properties" named (·.properties)
  ] fun entries => do
    return {
      file := ← require entries "file" Codec.path
      path := ← require entries "path" text
      repository := ← maybe entries "repo" text
      kind := ← maybe entries "type" text
      properties := ← fallback entries "properties" named ∅
    }

open Codec in
def Part.codec : Codec Part :=
  Codec.record "PlanModule" [
    .mandatory "id" text (·.id),
    .defaulted "properties" named (·.properties),
    .defaulted "dependencies" (list Dependency.codec) (·.dependencies)
  ] fun entries => do
    return {
      id := ← require entries "id" text
      properties := ← fallback entries "properties" named ∅
      dependencies := ← fallback entries "dependencies" (list Dependency.codec) []
    }

open Codec in
def Entry.codec : Codec Entry :=
  Codec.record "PlanUnit" [
    .mandatory "id" text (·.id),
    .defaulted "did_work" flag (·.didWork),
    .optional "module" Part.codec (·.part),
    .defaulted "artifacts" (list Product.codec) (·.products)
  ] fun entries => do
    return {
      id := ← require entries "id" text
      didWork := ← fallback entries "did_work" flag true
      part := ← maybe entries "module" Part.codec
      products := ← fallback entries "artifacts" (list Product.codec) []
    }

open Codec in
def codec : Codec Plan :=
  Codec.record "RunPlan" [
    .mandatory "name" text (·.name),
    .defaulted "units" (list Entry.codec) (·.entries)
  ] fun entries => do
    return {
      name := ← require entries "name" text
      entries := ← fallback entries "units" (list Entry.codec) []
    }

/-- Why a plan cannot be used. -/
inductive Fault where
  | unreadable (path : Path) (cause : DiskError)
  | malformed (path : Path) (cause : Yaml.Problem)
  | withoutUnits (path : Path)
deriving Repr, DecidableEq

/-- The messages of a fault, from the outermost to its cause. -/
def Fault.chain : Fault → List String
  | .unreadable path cause => ["cannot read run plan " ++ path, cause.message]
  | .malformed path cause => ["invalid run plan " ++ path, cause.message]
  | .withoutUnits path => ["run plan " ++ path ++ " has no units"]

/-- A plan has at least one unit. -/
def load (path : Path) (disk : Disk) : Except Fault Plan :=
  match disk.textAt path with
  | .error cause => .error (.unreadable path cause)
  | .ok text =>
      match Yaml.parse codec text with
      | .error cause => .error (.malformed path cause)
      | .ok plan => if plan.entries.isEmpty then .error (.withoutUnits path) else .ok plan

/-! ## The host of a planned run -/

/-- All units before the first one ends. -/
def start (plan : Plan) : Snapshot := plan.entries.map fun entry => .pending entry.id

/-- The snapshot after a unit of the plan ended. -/
def Entry.finish (entry : Entry) (snapshot : Snapshot) : Snapshot :=
  snapshot.finish entry.id entry.didWork

/-! ## What the units tell -/

/-- The last entry with a name. -/
def entry? (plan : Plan) (id : UnitId) : Option Entry :=
  plan.entries.reverse.find? fun entry => entry.id == id

/-- How many bytes one read gives at most. -/
def readSize : Nat := 8192

/-- What so many reads give of what is left of a file. -/
def readsOf : Nat → List UInt8 → List (List UInt8)
  | 0, _ => []
  | count + 1, left => left.take readSize :: readsOf count (left.drop readSize)

/-- The hash of a file, which is read until a read finds its end. -/
def hashAt (disk : Disk) (file : Path) : Except Failure String :=
  match disk.contentAt file with
  | .error cause => .error (.disk cause)
  | .ok content =>
      let bytes := content.data.toList
      .ok (Bytes.hashReads (readsOf (bytes.length / readSize + 2) bytes))

/-- A product as an artifact of a module; its name is that of the file. -/
def Product.artifact (product : Product) (disk : Disk) (base : Path) : Except Failure Artifact :=
  let file := Path.join base product.file
  (hashAt disk file).map fun hash => {
    name := (Path.fileName? file).getD product.path
    kind := product.kind
    sha256 := some hash
    path := some product.path
  }

/-- A product as an upload; a product that names no repository goes to the given one. -/
def Product.upload (product : Product) (disk : Disk) (base : Path) (repository : Option String) :
    Except Failure Upload :=
  let file := Path.join base product.file
  (hashAt disk file).map fun hash => {
    path := product.path
    repository := (product.repository.or repository).getD ""
    checksums := { sha256 := some hash }
    properties := product.properties
    file
  }

def moduleOf (plan : Plan) (disk : Disk) (base : Path) (id : UnitId) :
    Except Failure (Option Module) :=
  match plan.entry? id with
  | none => .ok none
  | some entry =>
      match entry.part with
      | none => .ok none
      | some part =>
          (entry.products.mapM (Product.artifact · disk base)).map fun artifacts => some {
            id := part.id
            properties := part.properties
            dependencies := part.dependencies
            artifacts
          }

def uploadsOf (plan : Plan) (disk : Disk) (base : Path) (repository : Option String) (id : UnitId) :
    Except Failure (List Upload) :=
  match plan.entry? id with
  | none => .ok []
  | some entry => entry.products.mapM fun product => product.upload disk base repository

/-- The units of a plan as they tell about themselves, with files read from a base directory. -/
def extractor (plan : Plan) (disk : Disk) (base : Path) (repository : Option String) :
    Extractor where
  moduleOf := plan.moduleOf disk base
  uploadsOf := plan.uploadsOf disk base repository

end Plan

end BuildLedger
