import BuildLedger.Decimal.Layout
import BuildLedger.Yaml.Node

/-!
# What plain scalars mean

A plain scalar is nothing, a flag, a whole number or a decimal when it is spelled like one, and a
text otherwise. Whole numbers are decimal, hexadecimal, octal or binary; digits behind a leading
zero are a text. Numbers too wide for 64 bits are told apart up to 128 bits.
-/
namespace BuildLedger.Yaml

def isNothing (text : String) : Bool := ["null", "Null", "NULL", "~"].contains text

def flag? (text : String) : Option Bool :=
  if ["true", "True", "TRUE"].contains text then some true
  else if ["false", "False", "FALSE"].contains text then some false
  else none

def hasSign (characters : List Char) : Bool :=
  startsWith false (fun character => character == '+' || character == '-') characters

def dropSign (sign : Char) : List Char → List Char
  | character :: rest => if character == sign then rest else character :: rest
  | [] => []

/-- Two or more digits of which the first is a zero; a sign may stand in front. -/
def hasIdleZero (characters : List Char) : Bool :=
  let digits := if hasSign characters then characters.drop 1 else characters
  match digits with
  | '0' :: next :: rest => (next :: rest).all isDigit
  | _ => false

/-- The number of some digits, at least one, in a radix. -/
def digits? (radix : Nat) (characters : List Char) : Option Nat :=
  let step (value : Option Nat) (character : Char) : Option Nat :=
    match value, hexDigit? character with
    | some value, some digit => if digit < radix then some (value * radix + digit) else none
    | _, _ => none
  if characters.isEmpty then none else characters.foldl step (some 0)

/-- The radix that a number without sign starts with, and the digits behind its mark. -/
def radixMark? : List Char → Option (Nat × List Char)
  | '0' :: 'x' :: rest => some (16, rest)
  | '0' :: 'o' :: rest => some (8, rest)
  | '0' :: 'b' :: rest => some (2, rest)
  | _ => none

/-- A whole number without a minus sign, below a limit. -/
def natural? (limit : Nat) (characters : List Char) : Option Nat :=
  let unsigned := dropSign '+' characters
  let value := match radixMark? unsigned with
    | some (radix, rest) => digits? radix rest
    | none => if hasIdleZero characters then none else digits? 10 unsigned
  value.filter (· < limit)

/-- A whole number with a minus sign, not below the negative of a limit. -/
def negative? (limit : Nat) (characters : List Char) : Option Int :=
  match characters with
  | '-' :: unsigned =>
      let value := match radixMark? unsigned with
        | some (radix, rest) => digits? radix rest
        | none => if hasIdleZero characters then none else digits? 10 unsigned
      (value.filter (· ≤ limit)).map fun value => -(value : Int)
  | _ => none

/-- A whole number as messages tell it. -/
def whole? (text : String) : Option Found :=
  let characters := text.toList
  match natural? (Nat.pow 2 64) characters with
  | some value => some (.whole value)
  | none =>
      match negative? (Nat.pow 2 63) characters with
      | some value => some (.whole value)
      | none =>
          match natural? (Nat.pow 2 128) characters with
          | some value => some (.wide value "u128")
          | none => (negative? (Nat.pow 2 127) characters).map (.wide · "i128")

/-! ## Decimals -/

/-- A coefficient and a power of ten, from digits with a point and an exponent. -/
def scientific? (characters : List Char) : Option (Nat × Int) :=
  let whole := characters.takeWhile isDigit
  let behind := characters.dropWhile isDigit
  let (fraction, behind) := match behind with
    | '.' :: rest => (rest.takeWhile isDigit, rest.dropWhile isDigit)
    | other => ([], other)
  let exponent := match behind with
    | [] => some 0
    | mark :: rest =>
        if mark == 'e' || mark == 'E' then
          let size := digits? 10 (if hasSign rest then rest.drop 1 else rest)
          size.map fun size =>
            if startsWith false (· == '-') rest then -(size : Int) else (size : Int)
        else none
  match digits? 10 (whole ++ fraction), exponent with
  | some coefficient, some exponent => some (coefficient, exponent - fraction.length)
  | _, _ => none

/-- The nearest double of a coefficient and a power of ten; none if it is too large. -/
def nearest? (coefficient : Nat) (exponent : Int) : Option Float :=
  let size : Int := (Nat.toDigits 10 coefficient).length + exponent
  if coefficient = 0 || size < -400 then some 0.0
  else if 400 < size then none
  else
    let value := Float.ofScientific coefficient (exponent < 0) exponent.natAbs
    if value.isInf then none else some value

/-- A decimal as messages tell it. -/
def decimal? (text : String) : Option String :=
  let characters := text.toList
  let positive := dropSign '+' characters
  if startsWith false (· == '+') characters && hasSign positive then none
  else if [".inf", ".Inf", ".INF"].contains (String.ofList positive) then some "inf"
  else if ["-.inf", "-.Inf", "-.INF"].contains text then some "-inf"
  else if [".nan", ".NaN", ".NAN"].contains text then some "NaN"
  else
    let minus := startsWith false (· == '-') positive
    match scientific? (dropSign '-' positive) with
    | none => none
    | some (coefficient, exponent) =>
        (nearest? coefficient exponent).map fun value =>
          (Decimal.Double.ofFloat (if minus then -value else value)).text Decimal.Digits.plain

/-- What a plain scalar without a tag means. -/
def plainMeaning (text : String) : Found :=
  if text.isEmpty || isNothing text then .nothing "unit value"
  else
    match flag? text with
    | some value => .flag value
    | none =>
        match whole? text with
        | some found => found
        | none =>
            match (if hasIdleZero text.toList then none else decimal? text) with
            | some digits => .decimal digits
            | none => .text text

/-! ## Tags -/

def flagTag : String := "tag:yaml.org,2002:bool"

def wholeTag : String := "tag:yaml.org,2002:int"

def decimalTag : String := "tag:yaml.org,2002:float"

def nothingTag : String := "tag:yaml.org,2002:null"

/-- A tag of the document's own, without its mark. -/
def localTag? (tag : Option String) : Option String :=
  match tag.map String.toList with
  | some ['!'] => some "!"
  | some ('!' :: name) => some (String.ofList name)
  | _ => none

namespace Scalar

def isPlain (scalar : Scalar) : Bool := scalar.style == .plain

/-- An empty value, as it is left out after a colon. -/
def isAbsent (scalar : Scalar) : Bool := scalar.text.isEmpty && scalar.isPlain

/-- Whether the scalar may be read as something other than a text. -/
def isReadAs (tag : String) (scalar : Scalar) : Bool :=
  scalar.isPlain || (scalar.style == .literal && scalar.tag == some tag)

/-- What a scalar of an unexpected kind is; a text that its tag does not fit is told as such. -/
def meaning (scalar : Scalar) : Except Mismatch Found :=
  let refuse (expected : String) : Except Mismatch Found :=
    .error (.wrongValue (.text scalar.text) expected)
  let orRefuse (found : Option Found) (expected : String) : Except Mismatch Found :=
    match found with
    | some found => .ok found
    | none => refuse expected
  match scalar.tag with
  | none => .ok (if scalar.isPlain then plainMeaning scalar.text else .text scalar.text)
  | some tag =>
      if tag == flagTag then orRefuse ((flag? scalar.text).map .flag) "a boolean"
      else if tag == wholeTag then orRefuse (whole? scalar.text) "an integer"
      else if tag == decimalTag then orRefuse ((decimal? scalar.text).map .decimal) "a float"
      else if tag == nothingTag then
        if isNothing scalar.text then .ok (.nothing "unit value") else refuse "null"
      else if (localTag? scalar.tag).isSome && scalar.isPlain then .ok (plainMeaning scalar.text)
      else .ok (.text scalar.text)

end Scalar

end BuildLedger.Yaml
