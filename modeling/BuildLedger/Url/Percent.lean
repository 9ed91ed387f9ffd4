import BuildLedger.Bytes.Hex

/-!
# Percent encoding

A byte that may not stand in a part of an address is written as `%` and two upper-case hexadecimal
digits. Which characters may stand differs from part to part; characters outside ASCII and controls
never may. Decoding takes the triplets back and leaves everything else as it is, also a `%` that no
two digits follow.
-/
namespace BuildLedger.Url

/-- One byte, as itself where it may stand, otherwise as a triplet. -/
def encodeByte (kept : Char → Bool) (byte : UInt8) : List Char :=
  let character := Char.ofNat byte.toNat
  if byte.toNat < 128 && kept character then [character] else '%' :: Bytes.hexPair 'A' byte

def encodeBytes (kept : Char → Bool) (bytes : List UInt8) : List Char :=
  bytes.flatMap (encodeByte kept)

/-- The bytes of a text in UTF-8. -/
def bytesOf (text : String) : List UInt8 := text.toUTF8.data.toList

def encodeText (kept : Char → Bool) (text : String) : String :=
  String.ofList (encodeBytes kept (bytesOf text))

def decodeList : List Char → List UInt8
  | [] => []
  | '%' :: high :: low :: rest =>
      match Bytes.hexValue? high, Bytes.hexValue? low with
      | some left, some right => UInt8.ofNat (left * 16 + right) :: decodeList rest
      | _, _ => 0x25 :: decodeList (high :: low :: rest)
  | character :: rest => String.utf8EncodeChar character ++ decodeList rest

/-- The text behind an encoded text; none if its bytes are no UTF-8. -/
def decodeText? (text : String) : Option String :=
  String.fromUTF8? ⟨(decodeList text.toList).toArray⟩

/-! ## What may stand where -/

def isControl (character : Char) : Bool := character.toNat < 0x20 || character.toNat == 0x7f

def isLetter (character : Char) : Bool :=
  ('a' ≤ character && character ≤ 'z') || ('A' ≤ character && character ≤ 'Z')

def isDigit (character : Char) : Bool := '0' ≤ character && character ≤ '9'

/-- Characters that never need encoding, wherever they stand. -/
def isUnreserved (character : Char) : Bool :=
  isLetter character || isDigit character || ['-', '_', '.', '~'].contains character

def standsInFragment (character : Char) : Bool :=
  !(isControl character || [' ', '"', '<', '>', Char.ofNat 0x60].contains character)

def standsInPath (character : Char) : Bool :=
  standsInFragment character && !(['#', '?', '\x7b', '\x7d'].contains character)

/-- What may stand in a single segment of a path; a backslash only where it is no separator. -/
def standsInSegment (special : Bool) (character : Char) : Bool :=
  standsInPath character && !(['/', '%'].contains character || (special && character == '\\'))

def standsInUserInfo (character : Char) : Bool :=
  standsInPath character &&
    !(['/', ':', ';', '=', '@', '[', '\\', ']', '^', '|'].contains character)

def standsInQuery (special : Bool) (character : Char) : Bool :=
  !(isControl character || [' ', '"', '#', '<', '>'].contains character ||
    (special && character == '\''))

end BuildLedger.Url
