/-!
# Text from bytes

Bytes that claim to be UTF-8 are read as text in any case. Each longest part that begins a character
but does not complete it, and each byte that begins none, is shown as the replacement character. A
byte-order mark at the start is not part of the text.
-/
namespace BuildLedger.Text

/-- A character of several bytes that is not complete: its bits so far, how many bytes are missing,
and between which bounds the next one lies. -/
structure Pending where
  code : Nat := 0
  missing : Nat := 0
  low : Nat := 0x80
  high : Nat := 0xBF

def replacement : Char := Char.ofNat 0xFFFD

/-- Read the first byte of a character. -/
def beginCharacter (byte : Nat) : List Char × Pending :=
  if byte < 0x80 then ([Char.ofNat byte], {})
  else if 0xC2 ≤ byte && byte ≤ 0xDF then ([], { code := byte - 0xC0, missing := 1 })
  else if 0xE0 ≤ byte && byte ≤ 0xEF then
    ([], {
      code := byte - 0xE0
      missing := 2
      low := if byte = 0xE0 then 0xA0 else 0x80
      high := if byte = 0xED then 0x9F else 0xBF })
  else if 0xF0 ≤ byte && byte ≤ 0xF4 then
    ([], {
      code := byte - 0xF0
      missing := 3
      low := if byte = 0xF0 then 0x90 else 0x80
      high := if byte = 0xF4 then 0x8F else 0xBF })
  else ([replacement], {})

/-- Read a byte: the characters that are complete with it, and what it leaves open. -/
def readByte (pending : Pending) (byte : Nat) : List Char × Pending :=
  if pending.missing = 0 then beginCharacter byte
  else if pending.low ≤ byte && byte ≤ pending.high then
    let code := pending.code * 64 + (byte - 0x80)
    if pending.missing = 1 then ([Char.ofNat code], {})
    else ([], { code, missing := pending.missing - 1 })
  else
    let (characters, next) := beginCharacter byte
    (replacement :: characters, next)

def decodeFrom (pending : Pending) : List UInt8 → List Char
  | [] => if pending.missing = 0 then [] else [replacement]
  | byte :: rest =>
      let (characters, next) := readByte pending byte.toNat
      characters ++ decodeFrom next rest

def ofBytes (bytes : List UInt8) : String :=
  match decodeFrom {} bytes with
  | '\ufeff' :: rest => String.ofList rest
  | characters => String.ofList characters

end BuildLedger.Text
