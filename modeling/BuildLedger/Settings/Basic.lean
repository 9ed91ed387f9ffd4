import BuildLedger.Filter
import BuildLedger.Path
import BuildLedger.Record
import BuildLedger.Text.Blank

/-!
# Settings of a publication

The settings say where records and artifacts go, which artifacts are held back, what the record is
called, and which files are written beside it. Settings of a single unit stand in for the general
ones where they say something. One codec serves every text format.
-/
namespace BuildLedger

/-- The repository and what is published to it. -/
structure Publisher where
  contextUrl : Option String := none
  username : Option String := none
  password : Option String := none
  /-- The repository of artifacts that name none. -/
  repoKey : Option String := none
  includePatterns : List String := []
  excludePatterns : List String := []
  publishArtifacts : Bool := true
  publishBuildInfo : Bool := true
  /-- Properties of every module and every upload. -/
  properties : Properties := ∅
deriving DecidableEq

structure Proxy where
  host : Option String := none
  port : Option UInt16 := none
  username : Option String := none
  password : Option String := none
deriving Repr, DecidableEq

/-- Which older records the repository drops after a full publication. -/
structure Retention where
  maxBuilds : Option UInt32 := none
  maxDays : Option UInt32 := none
  deleteBuildArtifacts : Bool := false
  excludeBuilds : List String := []
  inBackground : Bool := false
deriving Repr, DecidableEq

/-- The head of the record and the files that are written. -/
structure BuildSettings where
  name : Option String := none
  number : Option String := none
  agent : Option Agent := none
  url : Option String := none
  principal : Option String := none
  vcsRevision : Option String := none
  vcsUrl : Option String := none
  /-- Add the modules to a record that is there instead of sending a whole one. -/
  incremental : Bool := false
  /-- Written right before the record is sent. -/
  exportFile : Option Path := none
  buildInfoOutput : Option Path := none
  deployManifestOutput : Option Path := none
  retention : Option Retention := none
deriving Repr, DecidableEq

/-- What one unit has in place of the general settings. -/
structure UnitSettings where
  includePatterns : Option (List String) := none
  excludePatterns : Option (List String) := none
  publishArtifacts : Option Bool := none
  properties : Properties := ∅
deriving DecidableEq

/-- What a failed upload does to the run. -/
inductive FailurePolicy where
  /-- The run ends with the first failed upload. -/
  | abort
  /-- The failure is noted and the other uploads go on. -/
  | carryOn
deriving Repr, DecidableEq

structure Settings where
  publisher : Publisher := {}
  proxy : Proxy := {}
  timeoutSeconds : Option UInt64 := none
  connectionRetries : Option UInt32 := none
  build : BuildSettings := {}
  /-- Settings of single units, by the unit's name. -/
  modules : Keyed UnitSettings := ∅
  failurePolicy : FailurePolicy := .abort
  /-- A file of the run that is removed once the run has published. -/
  propsFile : Option Path := none
deriving DecidableEq

/-- Where the repository is and who asks. -/
structure Endpoint where
  contextUrl : String
  username : String
  password : String
deriving Repr, DecidableEq

/-- No text, or a text without a visible character. -/
def isBlankSetting (value : Option String) : Bool :=
  match value with
  | none => true
  | some text => Text.allBlank text

/-- The text itself, or nothing when it is blank. -/
def shownSetting (value : Option String) : String :=
  if isBlankSetting value then "" else value.getD ""

namespace Proxy

/-- A proxy is used when it has both a host and a port. -/
def isConfigured (proxy : Proxy) : Bool := !isBlankSetting proxy.host && proxy.port.isSome

def hasCredentials (proxy : Proxy) : Bool := !isBlankSetting proxy.username

end Proxy

namespace Retention

def isEnabled (retention : Retention) : Bool :=
  retention.maxBuilds.isSome || retention.maxDays.isSome

end Retention

namespace Settings

/-- The repository's address without blanks around it and slashes behind it; none when blank. -/
def endpoint (settings : Settings) : Option Endpoint :=
  match settings.publisher.contextUrl with
  | none => none
  | some text =>
      let address := Text.trim text
      if address.isEmpty then none
      else some {
        contextUrl := Text.dropTrailing '/' address
        username := shownSetting settings.publisher.username
        password := shownSetting settings.publisher.password
      }

def patternsFor (settings : Settings) (unit : String) : PatternLists :=
  let own := settings.modules.get? unit
  PatternLists.ofRaw
    ((own.bind (·.includePatterns)).getD settings.publisher.includePatterns)
    ((own.bind (·.excludePatterns)).getD settings.publisher.excludePatterns)

/-- The general properties under the unit's own. -/
def propertiesFor (settings : Settings) (unit : String) : Properties :=
  match settings.modules.get? unit with
  | some own => settings.publisher.properties.override own.properties
  | none => settings.publisher.properties

def publishesArtifactsOf (settings : Settings) (unit : String) : Bool :=
  ((settings.modules.get? unit).bind (·.publishArtifacts)).getD
    settings.publisher.publishArtifacts

end Settings

end BuildLedger
