/-!
# Punycode

A label with characters outside ASCII is written in ASCII alone: its ASCII characters, a hyphen, and
digits that tell, by rising code point, how far the place of each other character lies behind the
place of the one before. Numbers have digits of base 36 whose weights follow a bias that adapts to
the label.
-/
namespace BuildLedger.Url.Punycode

/-- Digits are the letters `a` to `z` and then `0` to `9`. -/
def digitChar (value : Nat) : Char :=
  if value < 26 then Char.ofNat (0x61 + value) else Char.ofNat (0x30 + (value - 26))

def digitValue? (character : Char) : Option Nat :=
  let code := character.toNat
  if 0x61 ≤ code && code ≤ 0x7A then some (code - 0x61)
  else if 0x41 ≤ code && code ≤ 0x5A then some (code - 0x41)
  else if 0x30 ≤ code && code ≤ 0x39 then some (code - 0x30 + 26)
  else none

/-- The threshold of a digit, between 1 and 26. -/
def threshold (position bias : Nat) : Nat :=
  if position ≤ bias then 1 else if bias + 26 ≤ position then 26 else position - bias

theorem threshold_pos (position bias : Nat) : 1 ≤ threshold position bias := by
  unfold threshold
  split
  · omega
  · split <;> omega

/-- Divide by 35 until at most 455 is left; the bias grows by 36 each time. -/
def shrink (delta bias : Nat) : Nat :=
  if 455 < delta then shrink (delta / 35) (bias + 36) else bias + 36 * delta / (delta + 38)
termination_by delta
decreasing_by omega

def adapt (delta count : Nat) (first : Bool) : Nat :=
  let damped := if first then delta / 700 else delta / 2
  shrink (damped + damped / count) 0

/-- A number in digits of adapted weights. -/
def encodeNumber (bias position number : Nat) : List Char :=
  if number < threshold position bias then [digitChar number]
  else
    let beyond := number - threshold position bias
    let base := 36 - threshold position bias
    digitChar (threshold position bias + beyond % base) ::
      encodeNumber bias (position + 36) (beyond / base)
termination_by number
decreasing_by
  have positive := threshold_pos position bias
  have below : (number - threshold position bias) / (36 - threshold position bias) ≤
      number - threshold position bias := Nat.div_le_self _ _
  omega

structure Encoder where
  output : List Char
  delta : Nat
  bias : Nat
  /-- How many characters are written. -/
  handled : Nat

/-- Pass one character of the label while characters with a given code are written. -/
def pass (basic code : Nat) (state : Encoder) (character : Char) : Encoder :=
  if character.toNat < code then { state with delta := state.delta + 1 }
  else if character.toNat = code then
    { output := state.output ++ encodeNumber state.bias 36 state.delta
      delta := 0
      bias := adapt state.delta (state.handled + 1) (state.handled == basic)
      handled := state.handled + 1 }
  else state

/-- Write the characters beyond ASCII by rising code. -/
def encodeCodes (label : List Char) (basic : Nat) : List Nat → Nat → Encoder → Encoder
  | [], _, state => state
  | code :: rest, next, state =>
      let moved := { state with delta := state.delta + (code - next) * (state.handled + 1) }
      let passed := label.foldl (pass basic code) moved
      encodeCodes label basic rest (code + 1) { passed with delta := passed.delta + 1 }

def isBasic (character : Char) : Bool := character.toNat < 128

def encode (label : List Char) : List Char :=
  let basic := label.filter isBasic
  let codes := ((label.filter (! isBasic ·)).map Char.toNat).eraseDups.mergeSort
  basic ++ (if basic.isEmpty then [] else ['-']) ++
    (encodeCodes label basic.length codes 128 ⟨[], 0, 72, basic.length⟩).output

/-- Read a number, and what follows it. -/
def decodeNumber (bias : Nat) : Nat → Nat → Nat → List Char → Option (Nat × List Char)
  | _, _, _, [] => none
  | position, weight, number, character :: rest =>
      match digitValue? character with
      | none => none
      | some digit =>
          let total := number + digit * weight
          if digit < threshold position bias then some (total, rest)
          else
            decodeNumber bias (position + 36) (weight * (36 - threshold position bias)) total rest

/-- Put the characters of the digits into the label, as many as the fuel allows. -/
def decodeCodes : Nat → Nat → Nat → Nat → List Char → List Char → Option (List Char)
  | _, _, _, _, label, [] => some label
  | 0, _, _, _, _, _ :: _ => none
  | fuel + 1, code, place, bias, label, digits =>
      match decodeNumber bias 36 1 place digits with
      | none => none
      | some (reached, rest) =>
          let count := label.length + 1
          let next := code + reached / count
          let spot := reached % count
          if next.isValidChar then
            decodeCodes fuel next (spot + 1) (adapt (reached - place) count (place == 0))
              (label.take spot ++ Char.ofNat next :: label.drop spot) rest
          else none

/-- The label behind its ASCII form, if there is one. -/
def decode? (text : List Char) : Option (List Char) :=
  let digits := (text.reverse.takeWhile (· != '-')).reverse
  let basic := (text.take (text.length - digits.length)).dropLast
  if basic.all isBasic then decodeCodes digits.length 128 0 72 basic digits else none

end BuildLedger.Url.Punycode
