import BuildLedger.Decimal.Layout
import BuildLedger.Json.Fault

/-!
# Numbers in JSON text

A numeral is kept as it is spelled. Without fraction and exponent it is a whole number when 64 bits
hold it, unsigned or, with a minus sign, signed; minus zero and everything else is a double. The
double is the leading digits that fit 64 bits, scaled by a power of ten.
-/
namespace BuildLedger.Json

/-- A number as it is spelled; digits are values below ten. -/
structure Numeral where
  negative : Bool
  whole : List Nat
  /-- The digits after the point, if there is one. -/
  fraction : Option (List Nat)
  /-- Whether the exponent is negative, and its digits. -/
  exponent : Option (Bool × List Nat)
deriving Repr, DecidableEq

/-- The value of a numeral; a double only in the text that messages show. -/
inductive Quantity where
  | whole (value : Int)
  | decimal (digits : String)
deriving Repr, DecidableEq

namespace Numeral

def wordLimit : Nat := Nat.pow 2 64

/-- Leading digits while 64 bits hold the number, and how many digits were taken. -/
def gather (coefficient : Nat) : List Nat → Nat × Nat
  | [] => (coefficient, 0)
  | digit :: rest =>
      let next := coefficient * 10 + digit
      if next < wordLimit then
        let (result, taken) := gather next rest
        (result, taken + 1)
      else (coefficient, 0)

def natural (digits : List Nat) : Nat :=
  digits.foldl (fun value digit => value * 10 + digit) 0

/-- Largest exponent that is told apart from an endless one. -/
def exponentLimit : Nat := 2147483647

/-- A coefficient divided or multiplied by a power of ten, in at most a few rounded steps. -/
def scale : Nat → Float → Int → Except Fault Float
  | 0, value, _ => .ok value
  | steps + 1, value, exponent =>
      if exponent.natAbs ≤ 308 then
        let power := Float.ofScientific 1 false exponent.natAbs
        if 0 ≤ exponent then
          let result := value * power
          if result.isInf then .error .numberOutOfRange else .ok result
        else .ok (value / power)
      else if value == 0.0 then .ok value
      else if 0 ≤ exponent then .error .numberOutOfRange
      else scale steps (value / Float.ofScientific 1 false 308) (exponent + 308)

/-- The double that a numeral stands for, without its sign. -/
def magnitude (numeral : Numeral) : Except Fault Float :=
  let (whole, wholeTaken) := gather 0 numeral.whole
  let dropped : Int := numeral.whole.length - wholeTaken
  let (coefficient, fractionTaken) := gather whole (numeral.fraction.getD [])
  let base : Int := dropped - fractionTaken
  match numeral.exponent with
  | none => scale 4 (Float.ofNat coefficient) base
  | some (below, digits) =>
      let size := natural digits
      if exponentLimit < size then
        if coefficient != 0 && !below then .error .numberOutOfRange else .ok 0.0
      else
        scale 4 (Float.ofNat coefficient) (if below then base - size else base + size)

def quantity (numeral : Numeral) : Except Fault Quantity :=
  let value := natural numeral.whole
  if numeral.fraction.isNone && numeral.exponent.isNone && !numeral.negative &&
      value < wordLimit then
    .ok (.whole value)
  else if numeral.fraction.isNone && numeral.exponent.isNone && numeral.negative &&
      value != 0 && value ≤ Nat.pow 2 63 then
    .ok (.whole (-value))
  else
    match numeral.magnitude with
    | .error fault => .error fault
    | .ok size =>
        let signed := if numeral.negative then -size else size
        .ok (.decimal ((Decimal.Double.ofFloat signed).text Decimal.Digits.compact))

end Numeral

end BuildLedger.Json
