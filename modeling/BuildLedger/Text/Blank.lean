/-!
# Blank characters and trimming

A character is blank when Unicode gives it the `White_Space` property. There are twenty-five of
them. The zero-width space U+200B, the byte-order mark U+FEFF and the separator U+001C are not
among them. Trimming works on both ends and never touches the middle of a text.
-/
namespace BuildLedger.Text

/-- The twenty-five characters with the `White_Space` property. -/
def isBlank (character : Char) : Bool :=
  let code := character.toNat
  (9 ≤ code && code ≤ 13) || code == 0x20 || code == 0x85 || code == 0xA0 || code == 0x1680 ||
    (0x2000 ≤ code && code ≤ 0x200A) || code == 0x2028 || code == 0x2029 || code == 0x202F ||
    code == 0x205F || code == 0x3000

def trimStartList (characters : List Char) : List Char :=
  characters.dropWhile isBlank

def trimEndList (characters : List Char) : List Char :=
  (characters.reverse.dropWhile isBlank).reverse

def trimList (characters : List Char) : List Char :=
  trimEndList (trimStartList characters)

/-- The text without the blank characters at its two ends. -/
def trim (text : String) : String :=
  String.ofList (trimList text.toList)

def trimEnd (text : String) : String :=
  String.ofList (trimEndList text.toList)

/-- Nothing but blank characters, or nothing at all. -/
def allBlank (text : String) : Bool :=
  text.toList.all isBlank

/-- The text without the given character at its start. -/
def dropLeading (unwanted : Char) (text : String) : String :=
  String.ofList (text.toList.dropWhile (· == unwanted))

/-- The text without the given character at its end. -/
def dropTrailing (unwanted : Char) (text : String) : String :=
  String.ofList (text.toList.reverse.dropWhile (· == unwanted)).reverse

end BuildLedger.Text
