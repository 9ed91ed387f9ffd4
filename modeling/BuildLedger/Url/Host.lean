import BuildLedger.Url.Folding
import BuildLedger.Url.Ipv4
import BuildLedger.Url.Ipv6
import BuildLedger.Url.Percent
import BuildLedger.Url.Punycode

/-!
# Hosts

The host of a common scheme is a domain name or an internet address. A name is percent-decoded and
brought to its one spelling, and a label with characters outside ASCII is written in Punycode. A
name whose last label is a number is an address of four bytes or nothing. Other schemes take almost
any text as a host.
-/
namespace BuildLedger.Url

inductive Host where
  | empty
  | domain (name : String)
  | ipv4 (address : Ipv4)
  | ipv6 (address : Ipv6)
deriving Repr, DecidableEq

namespace Host

def text : Host → String
  | .empty => ""
  | .domain name => name
  | .ipv4 address => address.text
  | .ipv6 address => "[" ++ address.text ++ "]"

/-- The inside of the brackets of an address of eight pieces, if the text begins with one. -/
def bracketed? (text : List Char) : Option (Except Fault (List Char)) :=
  match text with
  | '[' :: rest =>
      some (if text.getLast? == some ']' then .ok rest.dropLast else .error .invalidIpv6)
  | _ => none

/-- Characters that no domain name holds. -/
def isForbidden (character : Char) : Bool :=
  isControl character || (0x80 ≤ character.toNat && character.toNat < 0xA0) ||
    [' ', '#', '%', '/', ':', '<', '>', '?', '@', '[', '\\', ']', '^', '|'].contains character

def lower (character : Char) : Char :=
  if 'A' ≤ character && character ≤ 'Z' then Char.ofNat (character.toNat + 32) else character

def punycodeMark : List Char := ['x', 'n', '-', '-']

/-- A name that Punycode may stand for: it needs Punycode, and it is in its one spelling. -/
def isEncodable (name : List Char) : Bool :=
  name.any (! Punycode.isBasic ·) && !name.any isForbidden && foldName name == name

/-- A folded label in ASCII. What claims to be Punycode has to be it. -/
def label? (label : List Char) : Option (List Char) :=
  if label.any isForbidden then none
  else if label.any (! Punycode.isBasic ·) then some (punycodeMark ++ Punycode.encode label)
  else if punycodeMark.isPrefixOf label then
    match Punycode.decode? (label.drop punycodeMark.length) with
    | some name => if isEncodable name then some label else none
    | none => none
  else some label

/-- A domain name in ASCII, label by label. -/
def domain? (name : String) : Option (List Char) :=
  match ((foldName name.toList).splitOn '.').mapM label? with
  | some labels => some (['.'].intercalate labels)
  | none => none

/-- The host of a common scheme. -/
def ofName (text : List Char) : Except Fault Host :=
  match bracketed? text with
  | some (.error fault) => .error fault
  | some (.ok inside) => (Ipv6.ofText inside).map .ipv6
  | none =>
      match (decodeText? (String.ofList text)).bind domain? with
      | none => .error .invalidInternationalName
      | some [] => .error .emptyHost
      | some name =>
          if Ipv4.endsInNumber name then (Ipv4.ofName name).map .ipv4
          else .ok (.domain (String.ofList name))

/-- Characters that even a free host does not hold. -/
def isExcluded (character : Char) : Bool :=
  ['\x00', '\t', '\n', '\r', ' ', '#', '/', ':', '<', '>', '?', '@', '[', '\\', ']', '^',
    '|'].contains character

/-- The host of any other scheme. -/
def free (text : List Char) : Except Fault Host :=
  match bracketed? text with
  | some (.error fault) => .error fault
  | some (.ok inside) => (Ipv6.ofText inside).map .ipv6
  | none =>
      if text.any isExcluded then .error .invalidDomainCharacter
      else if text.isEmpty then .ok .empty
      else .ok (.domain (encodeText (! isControl ·) (String.ofList text)))

end Host

end BuildLedger.Url
