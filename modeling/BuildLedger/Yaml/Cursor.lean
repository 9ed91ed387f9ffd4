import BuildLedger.Yaml.Fault

/-!
# Moving through YAML text

A cursor is what is left of a text and how far it is from the start of the text and of its line.
Five characters break a line; a carriage return and a line feed together break it once. A break is
read as a line feed, except for the two separators of Unicode, which stay what they are.
-/
namespace BuildLedger.Yaml

/-- What is left of a text, and where that is. -/
structure Cursor where
  rest : List Char
  /-- The number of characters of the whole text. -/
  size : Nat
  index : Nat := 0
  line : Nat := 0
  column : Nat := 0

def isBreak (character : Char) : Bool :=
  character == '\r' || character == '\n' || character.toNat == 0x85 ||
    character.toNat == 0x2028 || character.toNat == 0x2029

def isBlank (character : Char) : Bool := character == ' ' || character == '\t'

def isDigit (character : Char) : Bool := '0' ≤ character && character ≤ '9'

/-- The characters of names in anchors, tags and directives. -/
def isNameCharacter (character : Char) : Bool :=
  isDigit character || ('A' ≤ character && character ≤ 'Z') ||
    ('a' ≤ character && character ≤ 'z') || character == '_' || character == '-'

/-- A test of the next character; the end of the text passes as given. -/
def startsWith (atEnd : Bool) (test : Char → Bool) (characters : List Char) : Bool :=
  match characters with
  | [] => atEnd
  | character :: _ => test character

/-- A blank, a break or the end. -/
def endsWord : List Char → Bool :=
  startsWith true fun character => isBlank character || isBreak character

/-- A break or the end. -/
def endsLine : List Char → Bool := startsWith true isBreak

def startsBlank : List Char → Bool := startsWith false isBlank

def startsBreak : List Char → Bool := startsWith false isBreak

/-- Three dashes or three dots that stand alone. -/
def isDocumentMark (characters : List Char) : Bool :=
  match characters with
  | '-' :: '-' :: '-' :: rest => endsWord rest
  | '.' :: '.' :: '.' :: rest => endsWord rest
  | _ => false

namespace Cursor

/-- No more than so many characters are left. -/
def left (cursor : Cursor) : Nat := cursor.size - cursor.index

/-- Go on by a number of characters of one line. -/
def skip (count : Nat) (cursor : Cursor) : Cursor :=
  { cursor with
    rest := cursor.rest.drop count
    index := cursor.index + count
    column := cursor.column + count }

/-- The characters at the front that pass a test, and the cursor behind them. -/
def takeWhile (test : Char → Bool) (cursor : Cursor) : List Char × Cursor :=
  let taken := cursor.rest.takeWhile test
  (taken, cursor.skip taken.length)

def skipWhile (test : Char → Bool) (cursor : Cursor) : Cursor := (cursor.takeWhile test).2

/-- Go past a line break, and say what it is read as; nothing is done where there is none. -/
def takeBreak (cursor : Cursor) : List Char × Cursor :=
  let past (count : Nat) : Cursor :=
    { cursor with
      rest := cursor.rest.drop count
      index := cursor.index + count
      line := cursor.line + 1
      column := 0 }
  match cursor.rest with
  | '\r' :: '\n' :: _ => (['\n'], past 2)
  | character :: _ =>
      if character == '\r' || character == '\n' || character.toNat == 0x85 then (['\n'], past 1)
      else if isBreak character then ([character], past 1)
      else ([], cursor)
  | [] => ([], cursor)

/-- Skip blanks and a comment, up to the end of the line. -/
def skipToLineEnd (cursor : Cursor) : Cursor :=
  let cursor := cursor.skipWhile isBlank
  match cursor.rest with
  | '#' :: _ => cursor.skipWhile fun character => !isBreak character
  | _ => cursor

end Cursor

end BuildLedger.Yaml
