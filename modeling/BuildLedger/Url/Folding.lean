import BuildLedger.Text.Blank

/-!
# One spelling for a name

A host name is the same name in capitals, in full width, and with characters that cannot be seen.
Before a label is written in Punycode each of its characters is replaced by the one spelling that
stands for all of them. Capitals of the Latin, Greek and Cyrillic alphabets are covered; a capital
of any other alphabet stands for itself.
-/
namespace BuildLedger.Url

/-- Codes of capitals that stand a fixed distance before their small letters. -/
def capitalDistance? (code : Nat) : Option Nat :=
  if (0x41 ≤ code && code ≤ 0x5A) || (0xC0 ≤ code && code ≤ 0xDE && code != 0xD7) ||
      (0x391 ≤ code && code ≤ 0x3AB) || (0x410 ≤ code && code ≤ 0x42F) then some 32
  else if code == 0x386 then some 38
  else if 0x388 ≤ code && code ≤ 0x38A then some 37
  else if code == 0x38C then some 64
  else if code == 0x38E || code == 0x38F then some 63
  else if 0x400 ≤ code && code ≤ 0x40F then some 80
  else none

/-- Blocks where capitals and small letters alternate, capitals on even codes. -/
def alternatesFromEven (code : Nat) : Bool :=
  (0x100 ≤ code && code ≤ 0x137 && code != 0x130 && code != 0x132) ||
    (0x14A ≤ code && code ≤ 0x177) || (0x460 ≤ code && code ≤ 0x481) ||
    (0x48A ≤ code && code ≤ 0x4BF) || (0x4D0 ≤ code && code ≤ 0x52F) ||
    (0x1E00 ≤ code && code ≤ 0x1E95) || (0x1EA0 ≤ code && code ≤ 0x1EFF)

/-- Blocks where capitals and small letters alternate, capitals on odd codes. -/
def alternatesFromOdd (code : Nat) : Bool :=
  (0x139 ≤ code && code ≤ 0x148) || (0x179 ≤ code && code ≤ 0x17E)

def smallCode (code : Nat) : Nat :=
  match capitalDistance? code with
  | some distance => code + distance
  | none =>
      if alternatesFromEven code && code % 2 == 0 then code + 1
      else if alternatesFromOdd code && code % 2 == 1 then code + 1
      else code

/-- A character of full width has a narrow twin. -/
def narrowCode (code : Nat) : Nat :=
  if 0xFF01 ≤ code && code ≤ 0xFF5E then code - 0xFEE0
  else if code == 0x3002 || code == 0xFF61 then 0x2E
  else code

/-- Joiners, soft hyphens and variation marks, which leave no trace in a name. -/
def isUnseen (character : Char) : Bool :=
  let code := character.toNat
  code == 0xAD || code == 0x200B || code == 0x2060 || code == 0x2064 || code == 0xFEFF ||
    (0xFE00 ≤ code && code ≤ 0xFE0F)

/-- The one spelling of a character. -/
def foldCharacter (character : Char) : Char :=
  if Text.isBlank character then ' ' else Char.ofNat (smallCode (narrowCode character.toNat))

/-- The one spelling of a name. -/
def foldName (name : List Char) : List Char :=
  (name.filter (! isUnseen ·)).map foldCharacter

end BuildLedger.Url
