import BuildLedger.Bytes.Hex
import BuildLedger.Url.Fault

/-!
# Internet addresses of four bytes

An address is written as up to four numbers with dots between them. A number is decimal, octal after
a zero, or hexadecimal after `0x`; the last one fills all bytes that are left. A single dot at the
end is allowed.
-/
namespace BuildLedger.Url

structure Ipv4 where
  number : Nat
deriving Repr, DecidableEq

namespace Ipv4

/-- The value of digits below a base; none if another character is among them. -/
def digits? (base : Nat) (digits : List Char) : Option Nat :=
  digits.foldl (fun total digit => do
    let value ← Bytes.hexValue? digit
    if value < base then return (← total) * base + value else none) (some 0)

/-- A number in one of the three notations. -/
def number? : List Char → Option Nat
  | [] => none
  | '0' :: 'x' :: digits => digits? 16 digits
  | '0' :: 'X' :: digits => digits? 16 digits
  | '0' :: digit :: digits => digits? 8 (digit :: digits)
  | digits => digits? 10 digits

/-- The parts between dots, without an empty one at the end. -/
def parts (name : List Char) : List (List Char) :=
  let all := name.splitOn '.'
  if all.getLast? == some [] then all.dropLast else all

/-- A name whose last part is a number stands for an address and for nothing else. -/
def endsInNumber (name : List Char) : Bool :=
  match (parts name).getLast? with
  | none => false
  | some last =>
      (!last.isEmpty && last.all fun digit => '0' ≤ digit && digit ≤ '9') || (number? last).isSome

/-- Join the numbers of an address: each but the last is one byte. -/
def combine (numbers : List Nat) : Option Nat :=
  match numbers.getLast? with
  | none => none
  | some last =>
      let leading := numbers.dropLast
      let room := Nat.pow 256 (4 - leading.length)
      if leading.length ≤ 3 ∧ leading.all (· ≤ 255) ∧ last < room then
        some (leading.foldl (fun total byte => total * 256 + byte) 0 * room + last)
      else none

def ofName (name : List Char) : Except Fault Ipv4 :=
  match ((parts name).mapM number?).bind combine with
  | some number => .ok ⟨number⟩
  | none => .error .invalidIpv4

def text (address : Ipv4) : String :=
  ".".intercalate ([16777216, 65536, 256, 1].map fun weight =>
    toString (address.number / weight % 256))

end Ipv4

end BuildLedger.Url
