import BuildLedger.Failure
import BuildLedger.Settings.Basic

/-!
# Reviewing settings

A review lists what looks wrong in some settings, in a fixed order of questions. Errors keep a run
from starting; warnings do not. The first error of a review is the reason why settings are refused.
-/
namespace BuildLedger

inductive Level where
  | warning
  | error
deriving Repr, DecidableEq

def Level.name : Level → String
  | .warning => "warning"
  | .error => "error"

/-- One remark of a review. -/
structure Notice where
  level : Level
  message : String
deriving Repr, DecidableEq

def Notice.tree (notice : Notice) : Tree :=
  .table [("level", .text notice.level.name), ("message", .text notice.message)]

namespace Settings

/-- A remark that is made when a condition holds. -/
def noticeIf (condition : Bool) (level : Level) (message : String) : List Notice :=
  if condition then [⟨level, message⟩] else []

/-- Every pattern with the section it stands in. -/
def scopedPatterns (settings : Settings) : List (String × String) :=
  let publisher := settings.publisher
  (publisher.includePatterns ++ publisher.excludePatterns).map (("publisher", ·)) ++
    settings.modules.entries.flatMap fun (unit, own) =>
      (own.includePatterns.getD [] ++ own.excludePatterns.getD []).map (("modules." ++ unit, ·))

def reviewRetention (settings : Settings) (retention : Retention) : List Notice :=
  noticeIf (retention.maxBuilds == some 0) .error
    "build.retention.max_builds must be greater than zero" ++
  noticeIf (settings.build.incremental && retention.isEnabled) .warning
    "build.retention is ignored for incremental publishing"

def reviewPatterns (settings : Settings) : List Notice :=
  (settings.scopedPatterns.filter fun (_, pattern) => Text.allBlank pattern).map fun (scope, _) =>
    ⟨.warning, scope ++ " has an empty include/exclude pattern"⟩

def review (settings : Settings) : List Notice :=
  let publisher := settings.publisher
  let hasEndpoint := settings.endpoint.isSome
  noticeIf (!hasEndpoint && (publisher.publishArtifacts || publisher.publishBuildInfo)) .warning
    "publisher.context_url is not set: deploy and publish will be skipped" ++
  noticeIf (!hasEndpoint && !isBlankSetting publisher.username) .error
    "publisher.username is set but publisher.context_url is not" ++
  noticeIf (hasEndpoint && publisher.publishArtifacts && isBlankSetting publisher.repoKey) .warning
    "publisher.repo_key is not set: artifacts must name their own target repository" ++
  noticeIf (settings.proxy.host.isSome && settings.proxy.port.isNone) .error
    "proxy.host is set without proxy.port" ++
  (match settings.connectionRetries with
    | some retries =>
        noticeIf (10 < retries) .warning
          ("connection_retries=" ++ toString retries.toNat ++ " (>10 is unusual)")
    | none => []) ++
  noticeIf (settings.timeoutSeconds == some 0) .error "timeout_secs must be greater than zero" ++
  noticeIf (settings.build.incremental && !publisher.publishBuildInfo) .warning
    "build.incremental has no effect while publish_build_info is false" ++
  (match settings.build.retention with
    | some retention => settings.reviewRetention retention
    | none => []) ++
  settings.reviewPatterns

/-- Refuse settings whose review has an error, by the first one. -/
def ensureValid (settings : Settings) : Except Failure Unit :=
  match settings.review.find? fun notice => notice.level == .error with
  | some notice => .error (.settings notice.message)
  | none => .ok ()

end Settings

end BuildLedger
