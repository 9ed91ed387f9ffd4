import BuildLedger.Disk
import BuildLedger.Filter
import BuildLedger.Json.Conform
import BuildLedger.Url.Fault
import BuildLedger.Yaml.Fault

/-!
# Failures

Everything that can keep the library from doing what it was asked. A failure has a message of its
own and a chain of messages that ends with its root cause.
-/
namespace BuildLedger

inductive Failure where
  | unknownUnit (unit : String)
  | missingFragment (unit : String)
  | deploy (path : String) (reason : String)
  | publish (reason : String)
  | writing (path : Path) (cause : DiskError)
  | settings (reason : String)
  | oversizedPattern (pattern : String)
  | disk (cause : DiskError)
  /-- The address of a proxy cannot be used. -/
  | proxyAddress (cause : Url.Fault)
  | json (cause : Json.Problem)
  | yaml (cause : Yaml.Problem)
  /-- A date so many days back that no calendar has it. This one is not told but stops the program.
  -/
  | dateOverflow
deriving Repr, DecidableEq

namespace Failure

def message : Failure → String
  | .unknownUnit unit => "unit '" ++ unit ++ "' is not part of the registered task graph"
  | .missingFragment unit => "unit '" ++ unit ++ "' did work but produced no module fragment"
  | .deploy path reason => "failed to deploy '" ++ path ++ "': " ++ reason
  | .publish reason => "failed to publish build info: " ++ reason
  | .writing path cause => "failed writing " ++ path ++ ": " ++ cause.message
  | .settings reason => "invalid configuration: " ++ reason
  | .oversizedPattern pattern =>
      "invalid pattern '" ++ pattern ++ "': Compiled regex exceeds size limit of " ++
        toString Glob.sizeLimit ++ " bytes."
  | .disk cause => cause.message
  | .proxyAddress _ => "builder error"
  | .json cause => cause.message
  | .yaml cause => cause.message
  | .dateOverflow => "`DateTime - TimeDelta` overflowed"

/-- The failure's message and the messages of what caused it. -/
def chain (failure : Failure) : List String :=
  match failure with
  | .writing _ cause => [failure.message, cause.message]
  | .oversizedPattern _ =>
      [failure.message, "Compiled regex exceeds size limit of " ++ toString Glob.sizeLimit ++
        " bytes."]
  | .proxyAddress cause => [failure.message, failure.message, cause.message]
  | _ => [failure.message]

end Failure

end BuildLedger
