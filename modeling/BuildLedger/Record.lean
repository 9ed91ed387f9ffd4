import BuildLedger.Codec

/-!
# Build records

A build record says what one run of a build produced: its modules, and for each module the
dependencies it used and the artifacts it made. Fields without a value are left out of a written
record where they are optional, and read back as absent.
-/
namespace BuildLedger

/-- A file that a module made. -/
structure Artifact where
  name : String
  kind : Option String := none
  sha1 : Option String := none
  sha256 : Option String := none
  md5 : Option String := none
  path : Option String := none
deriving Repr, DecidableEq

/-- Something that a module used. -/
structure Dependency where
  id : String
  kind : Option String := none
  scopes : List String := []
  sha1 : Option String := none
  sha256 : Option String := none
  md5 : Option String := none
  /-- Chains of names through which the dependency is pulled in. -/
  requiredBy : List (List String) := []
deriving Repr, DecidableEq

/-- What one module contributes to the record. -/
structure Module where
  id : String
  properties : Properties := ∅
  dependencies : List Dependency := []
  artifacts : List Artifact := []
deriving DecidableEq

/-- The program that ran the build. -/
structure Agent where
  name : String
  version : String
deriving Repr, DecidableEq

namespace Record

/-- The version of the record format, for records that name none. -/
def formatVersion : String := "1.0.1"

end Record

/-- The record of one run. -/
structure Record where
  version : String := Record.formatVersion
  name : String
  number : String
  started : String
  durationMillis : UInt64 := 0
  agent : Option Agent := none
  url : Option String := none
  principal : Option String := none
  properties : Properties := ∅
  vcsRevision : Option String := none
  vcsUrl : Option String := none
  incremental : Bool := false
  modules : List Module := []
deriving DecidableEq

namespace Codec

def named : Codec Properties := keyed text

end Codec

open Codec in
def Artifact.codec : Codec Artifact :=
  Codec.record "Artifact" [
    .mandatory "name" text (·.name),
    .optional "type" text (·.kind),
    .optional "sha1" text (·.sha1),
    .optional "sha256" text (·.sha256),
    .optional "md5" text (·.md5),
    .optional "path" text (·.path)
  ] fun entries => do
    return {
      name := ← require entries "name" text
      kind := ← maybe entries "type" text
      sha1 := ← maybe entries "sha1" text
      sha256 := ← maybe entries "sha256" text
      md5 := ← maybe entries "md5" text
      path := ← maybe entries "path" text
    }

open Codec in
def Dependency.codec : Codec Dependency :=
  Codec.record "Dependency" [
    .mandatory "id" text (·.id),
    .optional "type" text (·.kind),
    .writtenUnless "scopes" (list text) List.isEmpty (·.scopes),
    .optional "sha1" text (·.sha1),
    .optional "sha256" text (·.sha256),
    .optional "md5" text (·.md5),
    .writtenUnless "requiredBy" (list (list text)) List.isEmpty (·.requiredBy)
  ] fun entries => do
    return {
      id := ← require entries "id" text
      kind := ← maybe entries "type" text
      scopes := ← fallback entries "scopes" (list text) []
      sha1 := ← maybe entries "sha1" text
      sha256 := ← maybe entries "sha256" text
      md5 := ← maybe entries "md5" text
      requiredBy := ← fallback entries "requiredBy" (list (list text)) []
    }

open Codec in
def Module.codec : Codec Module :=
  Codec.record "ModuleFragment" [
    .mandatory "id" text (·.id),
    .writtenUnless "properties" named Keyed.isEmpty (·.properties),
    .defaulted "dependencies" (list Dependency.codec) (·.dependencies),
    .defaulted "artifacts" (list Artifact.codec) (·.artifacts)
  ] fun entries => do
    return {
      id := ← require entries "id" text
      properties := ← fallback entries "properties" named ∅
      dependencies := ← fallback entries "dependencies" (list Dependency.codec) []
      artifacts := ← fallback entries "artifacts" (list Artifact.codec) []
    }

open Codec in
def Agent.codec : Codec Agent :=
  Codec.record "Agent" [
    .mandatory "name" text (·.name),
    .mandatory "version" text (·.version)
  ] fun entries => do
    return {
      name := ← require entries "name" text
      version := ← require entries "version" text
    }

namespace Record

open Codec in
def codec : Codec Record :=
  Codec.record "AggregatedBuild" [
    .defaulted "version" text (·.version),
    .mandatory "name" text (·.name),
    .mandatory "number" text (·.number),
    .mandatory "started" text (·.started),
    .defaulted "durationMillis" word64 (·.durationMillis),
    .optional "agent" Agent.codec (·.agent),
    .optional "url" text (·.url),
    .optional "principal" text (·.principal),
    .defaulted "properties" named (·.properties),
    .optional "vcsRevision" text (·.vcsRevision),
    .optional "vcsUrl" text (·.vcsUrl),
    .writtenUnless "incremental" flag (! ·) (·.incremental),
    .defaulted "modules" (list Module.codec) (·.modules)
  ] fun entries => do
    return {
      version := ← fallback entries "version" text formatVersion
      name := ← require entries "name" text
      number := ← require entries "number" text
      started := ← require entries "started" text
      durationMillis := ← fallback entries "durationMillis" word64 0
      agent := ← maybe entries "agent" Agent.codec
      url := ← maybe entries "url" text
      principal := ← maybe entries "principal" text
      properties := ← fallback entries "properties" named ∅
      vcsRevision := ← maybe entries "vcsRevision" text
      vcsUrl := ← maybe entries "vcsUrl" text
      incremental := ← fallback entries "incremental" flag false
      modules := ← fallback entries "modules" (list Module.codec) []
    }

/-- The first module with a name. -/
def module? (record : Record) (id : String) : Option Module :=
  record.modules.find? fun entry => entry.id == id

def artifactCount (record : Record) : Nat :=
  (record.modules.map fun entry => entry.artifacts.length).foldl (· + ·) 0

def dependencyCount (record : Record) : Nat :=
  (record.modules.map fun entry => entry.dependencies.length).foldl (· + ·) 0

end Record

end BuildLedger
