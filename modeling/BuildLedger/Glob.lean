import BuildLedger.Text.Blank

/-!
# Path globs

A glob is read left to right into pieces. `**/` at the start of a segment stands for any directories
or none, any other `**` for any text in one line, `*` for any text without a slash, `?` for one
character other than a slash, and every other character for itself. Slashes at the start of a glob
or of a path do not count.

Matching is by a table with one flag for each suffix of the path: the flag says whether the pieces
read so far, from the last to the first, match that suffix. The table has as many steps as there are
pieces, so no glob is slow.
-/
namespace BuildLedger

/-- What a part of a glob stands for. -/
inductive Piece where
  /-- `**/` at the start of a segment. -/
  | directories
  /-- `**` anywhere else. -/
  | anyText
  /-- `*` that is not part of `**`. -/
  | anyName
  /-- `?` -/
  | anyCharacter
  | literal (character : Char)
deriving Repr, DecidableEq

namespace Piece

/-- The pieces of a glob; the flag says whether a segment starts here. -/
def ofCharacters (segmentStart : Bool) : List Char → List Piece
  | '*' :: '*' :: '/' :: rest =>
      if segmentStart then .directories :: ofCharacters true rest
      else .anyText :: .literal '/' :: ofCharacters true rest
  | '*' :: '*' :: rest => .anyText :: ofCharacters false rest
  | '*' :: rest => .anyName :: ofCharacters false rest
  | '?' :: rest => .anyCharacter :: ofCharacters false rest
  | character :: rest => .literal character :: ofCharacters (character == '/') rest
  | [] => []

/-- A flag for each suffix: some line-internal text and a slash lead to a marked suffix. -/
def crossings : List Char → List Bool → List Bool
  | character :: rest, _ :: later =>
      let below := crossings rest later
      ((character == '/' && later.headD false) ||
        (character != '\n' && below.headD false)) :: below
  | _, _ => [false]

/-- From the suffixes that the pieces behind match, the suffixes that this piece and they match. -/
def reach (piece : Piece) : List Char → List Bool → List Bool
  | character :: rest, here :: later =>
      let below := reach piece rest later
      let flag :=
        match piece with
        | .literal wanted => character == wanted && later.headD false
        | .anyCharacter => character != '/' && later.headD false
        | .anyName => here || (character != '/' && below.headD false)
        | .anyText => here || (character != '\n' && below.headD false)
        | .directories => here || (crossings (character :: rest) (here :: later)).headD false
      flag :: below
  | _, here :: _ =>
      match piece with
      | .literal _ | .anyCharacter => [false]
      | .anyName | .anyText | .directories => [here]
  | _, [] => []

/-- Only the empty suffix matches no pieces. -/
def endFlags (path : List Char) : List Bool :=
  List.replicate path.length false ++ [true]

/-- Whether the pieces match the whole path. -/
def matchesAll (pieces : List Piece) (path : List Char) : Bool :=
  (pieces.foldr (fun piece flags => piece.reach path flags) (endFlags path)).headD false

/-- A rough estimate of the room a piece takes when it is made ready for matching, in bytes. Pieces
for directories and characters outside ASCII take more than others in truth; the estimate is only
meant to tell patterns far below the limit from those far above it. -/
def weight : Piece → Nat
  | .literal _ => 40
  | .directories | .anyText | .anyName | .anyCharacter => 600

end Piece

/-- A glob that was made ready for matching. -/
structure Glob where
  pieces : List Piece
deriving Repr, DecidableEq

namespace Glob

/-- The room that one glob may take, in bytes. -/
def sizeLimit : Nat := 10485760

/-- The estimated room of all pieces. -/
def size (glob : Glob) : Nat := (glob.pieces.map Piece.weight).foldl (· + ·) 0

/-- A path or a pattern without the slashes at its start. -/
def relative (text : String) : List Char := text.toList.dropWhile (· == '/')

/-- The glob of a pattern, if it is not too large by the estimate. -/
def ofPattern? (pattern : String) : Option Glob :=
  let glob : Glob := ⟨Piece.ofCharacters true (relative pattern)⟩
  if glob.size ≤ sizeLimit then some glob else none

def accepts (glob : Glob) (path : String) : Bool :=
  Piece.matchesAll glob.pieces (relative path)

end Glob

end BuildLedger
