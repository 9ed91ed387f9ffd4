/-!
# File paths

A path is a text whose parts are separated by `/`. Empty parts and single dots say nothing about the
place, except a dot at the very start, so they are left out when a path is taken apart.
-/
namespace BuildLedger

abbrev Path := String

namespace Path

/-- The pieces of a text between its slashes. -/
def pieces (path : Path) : List String :=
  (path.toList.splitOn '/').map String.ofList

def isAbsolute (path : Path) : Bool := path.toList.head? == some '/'

/-- The parts that say something about the place, from the outermost inwards. -/
def parts (path : Path) : List String :=
  match path.pieces with
  | "." :: rest => "." :: rest.filter fun piece => piece != "" && piece != "."
  | all => all.filter fun piece => piece != "" && piece != "."

/-- A path from its parts. -/
def ofParts (absolute : Bool) (parts : List String) : Path :=
  (if absolute then "/" else "") ++ "/".intercalate parts

/-- Pieces without the ones at the end that say nothing about the place. -/
def trimmed (pieces : List String) : List String :=
  (pieces.reverse.dropWhile fun piece => piece == "" || piece == ".").reverse

/-- The path without its last part, as far as it is written; none for the root and for the empty
path. -/
def parent? (path : Path) : Option Path :=
  match path.pieces with
  | [] => none
  | first :: rest =>
      match trimmed rest, trimmed (trimmed rest).dropLast with
      | [], _ => if first == "" then none else some ""
      | _ :: _, [] => some (if first == "" then "/" else first)
      | _ :: _, left => some ("/".intercalate (first :: left))

/-- The last part, when it is a name. -/
def fileName? (path : Path) : Option String :=
  match path.parts.getLast? with
  | none | some ".." | some "." => none
  | some name => some name

/-- A path read from a base directory. -/
def join (base path : Path) : Path :=
  if path.isAbsolute || base.isEmpty then path
  else if base.toList.getLast? == some '/' then base ++ path
  else base ++ "/" ++ path

/-- The path itself and the paths around it, from the inside out, down to the first part. -/
def chain (path : Path) : List Path :=
  let parts := path.parts
  (List.range parts.length).map fun dropped =>
    ofParts path.isAbsolute (parts.take (parts.length - dropped))

end Path

end BuildLedger
