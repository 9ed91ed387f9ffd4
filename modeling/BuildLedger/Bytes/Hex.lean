/-!
# Bytes as hexadecimal digits
-/
namespace BuildLedger.Bytes

/-- A hexadecimal digit below sixteen; `ten` is the letter that stands for ten. -/
def digitChar (ten : Char) (value : Nat) : Char :=
  if value < 10 then Char.ofNat (0x30 + value) else Char.ofNat (ten.toNat + (value - 10))

def hexPair (ten : Char) (byte : UInt8) : List Char :=
  [digitChar ten (byte.toNat / 16), digitChar ten (byte.toNat % 16)]

/-- Two lower-case digits for each byte. -/
def toHex (bytes : List UInt8) : String :=
  String.ofList (bytes.flatMap (hexPair 'a'))

def hexValue? (character : Char) : Option Nat :=
  let code := character.toNat
  if 0x30 ≤ code && code ≤ 0x39 then some (code - 0x30)
  else if 0x61 ≤ code && code ≤ 0x66 then some (code - 0x61 + 10)
  else if 0x41 ≤ code && code ≤ 0x46 then some (code - 0x41 + 10)
  else none

/-- The bytes of a text of digit pairs; both letter cases are read. -/
def ofHex? : List Char → Option (List UInt8)
  | [] => some []
  | high :: low :: rest =>
      match hexValue? high, hexValue? low, ofHex? rest with
      | some left, some right, some bytes => some (UInt8.ofNat (left * 16 + right) :: bytes)
      | _, _, _ => none
  | [_] => none

end BuildLedger.Bytes
