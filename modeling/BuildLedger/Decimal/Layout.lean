import BuildLedger.Decimal.Binary

/-!
# Decimal texts of doubles

Two layouts are in use. The plain layout writes every digit in its place and always has a point.
The compact layout does so for values of ordinary size and otherwise writes one digit, the rest
after a point, and an exponent of two digits or more with its sign.
-/
namespace BuildLedger.Decimal

def digitText (digits : List Nat) : String :=
  String.ofList (digits.map fun digit => Char.ofNat (0x30 + digit))

def zeros (count : Nat) : String :=
  String.ofList (List.replicate count '0')

/-- Every digit in its place, with at least one digit after the point. -/
def Digits.plain (value : Digits) : String :=
  let count : Int := value.digits.length
  if value.digits.isEmpty then "0.0"
  else if count ≤ value.point then
    digitText value.digits ++ zeros (value.point - count).toNat ++ ".0"
  else if 0 < value.point then
    digitText (value.digits.take value.point.toNat) ++ "." ++
      digitText (value.digits.drop value.point.toNat)
  else "0." ++ zeros (-value.point).toNat ++ digitText value.digits

/-- The plain layout from `0.00001` up to sixteen whole digits, one digit and an exponent beyond. -/
def Digits.compact (value : Digits) : String :=
  if value.digits.isEmpty || (-5 < value.point && value.point ≤ 16) then value.plain
  else
    let exponent := value.point - 1
    let tail := value.digits.drop 1
    digitText (value.digits.take 1) ++ (if tail.isEmpty then "" else "." ++ digitText tail) ++
      (if exponent < 0 then "e-" else "e+") ++ (if exponent.natAbs < 10 then "0" else "") ++
      toString exponent.natAbs

/-- A double: its sign apart from its magnitude. -/
inductive Double where
  | finite (negative : Bool) (magnitude : Binary)
  | infinite (negative : Bool)
  | notANumber
deriving Repr, DecidableEq

def Double.ofFloat (value : Float) : Double :=
  let bits := value.toBits.toNat
  let magnitude := bits % Nat.pow 2 63
  let negative := bits / Nat.pow 2 63 = 1
  if magnitude / Nat.pow 2 52 = 2047 then
    if magnitude % Nat.pow 2 52 = 0 then .infinite negative else .notANumber
  else .finite negative (Binary.ofBits magnitude)

/-- The text of a double in a given layout of its shortest digits. -/
def Double.text (layout : Digits → String) : Double → String
  | .finite negative magnitude =>
      (if negative then "-" else "") ++ layout magnitude.shortest
  | .infinite negative => if negative then "-inf" else "inf"
  | .notANumber => "NaN"

end BuildLedger.Decimal
