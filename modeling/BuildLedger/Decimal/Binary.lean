/-!
# Binary fractions and their shortest decimals

A finite double is a whole number times a power of two. This module takes one apart, finds the
shortest decimal that reads back as the same double, and says how a coefficient with a decimal
exponent becomes a double. Digits are found in exact arithmetic on natural numbers: for one digit,
two digits and so on, the two neighbours of the value on that decimal grid are tried, and the first
grid with a neighbour inside the rounding interval wins, the nearer neighbour first.
-/
namespace BuildLedger.Decimal

/-- A non-negative value `mantissa * 2 ^ exponent`, as a finite double holds it. -/
structure Binary where
  mantissa : Nat
  exponent : Int
  /-- Whether the gap to the next smaller double is half the gap to the next larger one. -/
  narrowBelow : Bool
deriving Repr, DecidableEq

/-- A decimal `0.d₁d₂… * 10 ^ point`, by its digits without leading or trailing zeros. -/
structure Digits where
  digits : List Nat
  point : Int
deriving Repr, DecidableEq

/-- The bits of a finite double without its sign. -/
def Binary.ofBits (bits : Nat) : Binary :=
  let fraction : Nat := bits % Nat.pow 2 52
  let biased : Nat := (bits / Nat.pow 2 52) % Nat.pow 2 11
  if biased = 0 then ⟨fraction, -1074, false⟩
  else ⟨fraction + Nat.pow 2 52, (biased : Int) - 1075, fraction = 0 && biased > 1⟩

/-- A fraction of natural numbers; the denominator is positive wherever one is built. -/
structure Ratio where
  top : Nat
  bottom : Nat

def Ratio.less (left right : Ratio) : Bool :=
  left.top * right.bottom < right.top * left.bottom

def Ratio.scaled (value : Nat) (two ten : Int) : Ratio :=
  ⟨value * Nat.pow 2 two.toNat * Nat.pow 10 ten.toNat,
    Nat.pow 2 (-two).toNat * Nat.pow 10 (-ten).toNat⟩

/-- The reals that round to the value: its two ends, both included iff the mantissa is even. -/
structure Interval where
  low : Ratio
  high : Ratio
  closed : Bool

/-- The rounding interval, in units of a quarter of the last place. -/
def Binary.interval (value : Binary) (ten : Int) : Interval where
  low := Ratio.scaled (4 * value.mantissa - (if value.narrowBelow then 1 else 2))
    (value.exponent - 2) ten
  high := Ratio.scaled (4 * value.mantissa + 2) (value.exponent - 2) ten
  closed := value.mantissa % 2 = 0

def Interval.holds (interval : Interval) (candidate : Nat) : Bool :=
  let point : Ratio := ⟨candidate, 1⟩
  if interval.closed then !(point.less interval.low) && !(interval.high.less point)
  else interval.low.less point && point.less interval.high

/-- The nearest multiple of `10 ^ place` that reads back, if a neighbour of the value does. -/
def Binary.onGrid? (value : Binary) (place : Int) : Option Nat :=
  let exact := Ratio.scaled value.mantissa value.exponent (-place)
  let interval := value.interval (-place)
  let below := exact.top / exact.bottom
  let above := below + 1
  let belowFits := below != 0 && interval.holds below
  let aboveFits := interval.holds above
  let twice := 2 * (exact.top % exact.bottom)
  if belowFits && aboveFits then
    if twice < exact.bottom then some below
    else if exact.bottom < twice then some above
    else if below % 2 = 0 then some below else some above
  else if belowFits then some below
  else if aboveFits then some above
  else none

/-- How many decimal digits the whole part of the value has; not positive for small values. -/
def Binary.point (value : Binary) : Int :=
  let exact := Ratio.scaled value.mantissa value.exponent 0
  let whole := exact.top / exact.bottom
  if whole = 0 then
    -- The reciprocal has one digit more than the value has zeros after its point.
    let inverse := exact.bottom / exact.top
    let size := (Nat.toDigits 10 inverse).length
    if inverse * exact.top = exact.bottom && inverse = Nat.pow 10 (size - 1) then 2 - (size : Int)
    else 1 - (size : Int)
  else (Nat.toDigits 10 whole).length

def stripZeros (digits : List Nat) : List Nat :=
  (digits.reverse.dropWhile (· == 0)).reverse

/-- Grids from the coarsest on; seventeen digits always suffice for a double. -/
def Binary.search (value : Binary) (point : Int) : Nat → Nat → Digits
  | 0, _ => ⟨[], 0⟩
  | remaining + 1, count =>
    let place := point - (count : Int)
    match value.onGrid? place with
    | some found =>
        let text := (Nat.toDigits 10 found).map fun digit => digit.toNat - 0x30
        ⟨stripZeros text, place + (text.length : Int)⟩
    | none => value.search point remaining (count + 1)

/-- The shortest decimal that reads back as the value, the nearest one among the shortest. -/
def Binary.shortest (value : Binary) : Digits :=
  if value.mantissa = 0 then ⟨[], 0⟩ else value.search value.point 18 1

end BuildLedger.Decimal
