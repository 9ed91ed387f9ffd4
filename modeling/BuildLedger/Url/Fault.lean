/-!
# Why an address is refused
-/
namespace BuildLedger.Url

inductive Fault where
  | withoutBase
  | emptyHost
  | invalidPort
  | invalidIpv4
  | invalidIpv6
  | invalidInternationalName
  | invalidDomainCharacter
  /-- The address names something that has no path, such as a mailbox. -/
  | withoutPath
deriving Repr, DecidableEq

def Fault.message : Fault → String
  | .withoutBase => "relative URL without a base"
  | .emptyHost => "empty host"
  | .invalidPort => "invalid port number"
  | .invalidIpv4 => "invalid IPv4 address"
  | .invalidIpv6 => "invalid IPv6 address"
  | .invalidInternationalName => "invalid international domain name"
  | .invalidDomainCharacter => "invalid domain character"
  | .withoutPath => "cannot carry a path"

end BuildLedger.Url
