import BuildLedger.Bytes.Hex
import BuildLedger.Tree

/-!
# Writing JSON text

A field tree is written either on one line without spaces, or with one entry a line, two spaces for
each level, and nothing inside empty brackets. Only the quote, the backslash and the characters
below the space are escaped.
-/
namespace BuildLedger.Json

inductive Layout where
  | compact
  | indented
deriving Repr, DecidableEq

/-- A character as it stands between quotes. -/
def escaped (character : Char) : List Char :=
  if character = '"' then ['\\', '"']
  else if character = '\\' then ['\\', '\\']
  else if character = '\x08' then ['\\', 'b']
  else if character = '\x0c' then ['\\', 'f']
  else if character = '\n' then ['\\', 'n']
  else if character = '\r' then ['\\', 'r']
  else if character = '\t' then ['\\', 't']
  else if character.toNat < 0x20 then
    '\\' :: 'u' :: '0' :: '0' :: Bytes.hexPair 'a' character.toNat.toUInt8
  else [character]

def written (text : String) : List Char :=
  '"' :: (text.toList.flatMap escaped ++ ['"'])

namespace Layout

/-- What stands before an entry of a given depth. -/
def lineStart (layout : Layout) (depth : Nat) : List Char :=
  match layout with
  | .compact => []
  | .indented => '\n' :: List.replicate (2 * depth) ' '

def colon (layout : Layout) : List Char :=
  match layout with
  | .compact => [':']
  | .indented => [':', ' ']

end Layout

mutual

def write (layout : Layout) (depth : Nat) : Tree → List Char
  | .null => ['n', 'u', 'l', 'l']
  | .flag true => ['t', 'r', 'u', 'e']
  | .flag false => ['f', 'a', 'l', 's', 'e']
  | .number value => (toString value).toList
  | .text value => written value
  | .list [] => ['[', ']']
  | .list (item :: items) =>
      '[' :: (layout.lineStart (depth + 1) ++ write layout (depth + 1) item ++
        writeItems layout (depth + 1) items ++ layout.lineStart depth ++ [']'])
  | .table [] => ['{', '}']
  | .table ((name, value) :: entries) =>
      '{' :: (layout.lineStart (depth + 1) ++ written name ++ layout.colon ++
        write layout (depth + 1) value ++ writeEntries layout (depth + 1) entries ++
        layout.lineStart depth ++ ['}'])

/-- The items after the first, each after a comma. -/
def writeItems (layout : Layout) (depth : Nat) : List Tree → List Char
  | [] => []
  | item :: items =>
      ',' :: (layout.lineStart depth ++ write layout depth item ++ writeItems layout depth items)

/-- The entries after the first, each after a comma. -/
def writeEntries (layout : Layout) (depth : Nat) : List (String × Tree) → List Char
  | [] => []
  | (name, value) :: entries =>
      ',' :: (layout.lineStart depth ++ written name ++ layout.colon ++ write layout depth value ++
        writeEntries layout depth entries)

end

def compact (tree : Tree) : String := String.ofList (write .compact 0 tree)

def indented (tree : Tree) : String := String.ofList (write .indented 0 tree)

end BuildLedger.Json
