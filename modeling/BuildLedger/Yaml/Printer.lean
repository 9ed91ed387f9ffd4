import BuildLedger.Tree
import BuildLedger.Yaml.Plain

/-!
# Writing YAML text

Field trees are written in block style, two spaces for each level; the items of a list stand at the
column of its key. A text is plain if that reads back as the same text, quoted if not, and literal
when it has several lines. A key that is long or has several lines gets marks of its own for key and
value.
-/
namespace BuildLedger.Yaml

/-- What counts for the spelling of a text. -/
structure Traits where
  hasBreak : Bool
  hasUnprintable : Bool
  startsLoose : Bool
  endsWithSpace : Bool
  endsWithBreak : Bool
  /-- A space right behind a line break. -/
  breakThenSpace : Bool
  /-- A space right before a line break. -/
  spaceThenBreak : Bool
  /-- A mark of block style where it would be taken for one. -/
  hasMark : Bool

/-- Characters that are written as they are. -/
def isPrintable (character : Char) : Bool :=
  let code := character.toNat
  code == 0x0A || (0x20 ≤ code && code ≤ 0x7E) ||
    (0xA0 ≤ code && code != 0xFEFF && code != 0xFFFE && code != 0xFFFF)

/-- Marks that cannot start a plain text. -/
def isStartMark (character : Char) : Bool :=
  ['#', ',', '[', ']', '{', '}', '&', '*', '!', '|', '>', '\'', '"', '%', '@', '`'].contains
    character

/-- A colon before a blank, or a number sign behind one. -/
def hasInnerMark (previous : Char) : List Char → Bool
  | [] => false
  | character :: rest =>
      (character == ':' && endsWord rest) ||
        (character == '#' && (isBlank previous || isBreak previous)) ||
        hasInnerMark character rest

def startsWithMark : List Char → Bool
  | [] => false
  | character :: rest =>
      isStartMark character ||
        ((character == '-' || character == '?' || character == ':') && endsWord rest) ||
        ['-', '-', '-'].isPrefixOf (character :: rest) ||
        ['.', '.', '.'].isPrefixOf (character :: rest)

/-- Whether two neighbours pass a pair of tests. -/
def hasPair (first second : Char → Bool) (characters : List Char) : Bool :=
  (characters.zip (characters.drop 1)).any fun pair => first pair.1 && second pair.2

/-- A space or a break. -/
def isLoose (character : Char) : Bool := character == ' ' || isBreak character

def traits (characters : List Char) : Traits where
  hasBreak := characters.any isBreak
  hasUnprintable := characters.any fun character => !isPrintable character
  startsLoose := startsWith false isLoose characters
  endsWithSpace := characters.getLast? == some ' '
  endsWithBreak := (characters.getLast?.map isBreak).getD false
  breakThenSpace := hasPair isBreak (· == ' ') characters
  spaceThenBreak := hasPair (· == ' ') isBreak characters
  hasMark := startsWithMark characters ||
    (match characters with
      | [] => false
      | first :: rest => hasInnerMark first rest)

namespace Traits

def allowsPlain (traits : Traits) : Bool :=
  !(traits.hasBreak || traits.hasUnprintable || traits.startsLoose || traits.endsWithSpace ||
    traits.endsWithBreak || traits.hasMark)

def allowsSingleQuotes (traits : Traits) : Bool :=
  !(traits.breakThenSpace || traits.spaceThenBreak || traits.hasUnprintable)

def allowsLiteral (traits : Traits) : Bool :=
  !(traits.endsWithSpace || traits.spaceThenBreak || traits.hasUnprintable)

end Traits

/-- Whether a plain text would be read as something else. -/
def isAmbiguous (text : String) : Bool :=
  (match plainMeaning text with
    | .text _ => false
    | _ => true) || hasIdleZero text.toList

/-- The spelling of a text. -/
def styleOf (text : String) : Style :=
  let traits := traits text.toList
  if text.toList.contains '\n' then (if traits.allowsLiteral then .literal else .doubleQuoted)
  else if !isAmbiguous text && traits.allowsPlain then .plain
  else if traits.allowsSingleQuotes then .singleQuoted
  else .doubleQuoted

def spaces (count : Nat) : List Char := List.replicate count ' '

/-- The escape of a character between double quotes. -/
def escapeOf (character : Char) : List Char :=
  let code := character.toNat
  let padded (width : Nat) : List Char :=
    let digits := (Nat.toDigits 16 code).map Char.toUpper
    List.replicate (width - digits.length) '0' ++ digits
  '\\' ::
    (if code == 0x00 then ['0']
    else if code == 0x07 then ['a']
    else if code == 0x08 then ['b']
    else if code == 0x09 then ['t']
    else if code == 0x0A then ['n']
    else if code == 0x0B then ['v']
    else if code == 0x0C then ['f']
    else if code == 0x0D then ['r']
    else if code == 0x1B then ['e']
    else if code == 0x22 then ['"']
    else if code == 0x5C then ['\\']
    else if code == 0x85 then ['N']
    else if code == 0x2028 then ['L']
    else if code == 0x2029 then ['P']
    else if code ≤ 0xFF then 'x' :: padded 2
    else if code ≤ 0xFFFF then 'u' :: padded 4
    else 'U' :: padded 8)

def doubleQuoted (characters : List Char) : List Char :=
  let escaped := characters.flatMap fun character =>
    if !isPrintable character || isBreak character || character == '"' || character == '\\' then
      escapeOf character
    else [character]
  '"' :: (escaped ++ ['"'])

/-- A text between single quotes: a quote is doubled, and a line goes on at the indentation. -/
def singleQuoted (indent : Nat) (characters : List Char) : List Char :=
  let rec body (afterBreak : Bool) : List Char → List Char
    | [] => if afterBreak then spaces indent else []
    | character :: rest =>
        if isBreak character then character :: body true rest
        else
          (if afterBreak then spaces indent else []) ++
            (if character == '\'' then ['\'', '\''] else [character]) ++ body false rest
  '\'' :: (body false characters ++ ['\''])

/-- The marks behind the bar of a literal text. -/
def literalHints (characters : List Char) : List Char :=
  let endsWithBreak : List Char → Bool := fun text => (text.getLast?.map isBreak).getD false
  (if startsWith false isLoose characters then ['2'] else []) ++
  (if !endsWithBreak characters then ['-']
    else if characters.length == 1 || endsWithBreak characters.dropLast then ['+']
    else [])

/-- The lines of a literal text, each at the indentation; empty lines stay empty. -/
def literalLines (indent : Nat) (afterBreak : Bool) : List Char → List Char
  | [] => []
  | character :: rest =>
      if isBreak character then character :: literalLines indent true rest
      else (if afterBreak then spaces indent else []) ++ character :: literalLines indent false rest

/-- A text in its spelling; further lines stand at the indentation. -/
def writtenText (indent : Nat) (text : String) : List Char :=
  let characters := text.toList
  match styleOf text with
  | .plain => characters
  | .singleQuoted => singleQuoted indent characters
  | .literal => '|' :: (literalHints characters ++ '\n' :: literalLines indent true characters)
  | _ => doubleQuoted characters

/-- The text with a line break at its end, unless a literal text has brought one. -/
def endedLine (characters : List Char) : List Char :=
  if characters.getLast? == some '\n' then characters else characters ++ ['\n']

/-- Longest key, in bytes, that stands before its colon without a mark. -/
def simpleKeyLimit : Nat := 128

def isSimpleKey (key : String) : Bool :=
  key.utf8ByteSize ≤ simpleKeyLimit && !key.toList.any isBreak

/-- A value of one piece and the end of its line; further lines stand at the indentation. -/
def writePiece (indent : Nat) : Tree → List Char
  | .null => ['n', 'u', 'l', 'l', '\n']
  | .flag true => ['t', 'r', 'u', 'e', '\n']
  | .flag false => ['f', 'a', 'l', 's', 'e', '\n']
  | .number value => (toString value).toList ++ ['\n']
  | .text value => endedLine (writtenText indent value)
  | .list _ => ['[', ']', '\n']
  | .table _ => ['{', '}', '\n']

mutual

/-- A value on the line of the mark in front of it, with its parts at a column. -/
def writeInline (column : Nat) : Tree → List Char
  | .list (item :: items) => writeItems column [] (item :: items)
  | .table (entry :: entries) => writeEntries column [] (entry :: entries)
  | value => writePiece column value

/-- A value behind the colon of a key at a column. -/
def writeUnder (column : Nat) : Tree → List Char
  | .list (item :: items) => '\n' :: writeItems column (spaces column) (item :: items)
  | .table (entry :: entries) =>
      '\n' :: writeEntries (column + 2) (spaces (column + 2)) (entry :: entries)
  | value => ' ' :: writePiece (column + 2) value

/-- Items at a column; `lead` stands in front of the first one. -/
def writeItems (column : Nat) (lead : List Char) : List Tree → List Char
  | [] => []
  | item :: rest =>
      lead ++ '-' :: ' ' :: writeInline (column + 2) item ++ writeItems column (spaces column) rest

/-- Entries at a column; `lead` stands in front of the first one. -/
def writeEntries (column : Nat) (lead : List Char) : List (String × Tree) → List Char
  | [] => []
  | (key, value) :: rest =>
      let name := writtenText (column + 2) key
      let entry := if isSimpleKey key then name ++ ':' :: writeUnder column value
        else '?' :: ' ' :: (endedLine name ++ spaces column ++
          ':' :: ' ' :: writeInline (column + 2) value)
      lead ++ entry ++ writeEntries column (spaces column) rest

end

/-- The text of a whole document. -/
def write (tree : Tree) : String := String.ofList (writeInline 0 tree)

end BuildLedger.Yaml
