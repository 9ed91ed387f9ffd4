/-!
# Field trees

A field tree is what a structured value looks like before it becomes text: flags, whole numbers,
texts, lists, and tables with named entries in a fixed order. The two text formats write the same
trees, and what either format reads is brought back to a tree of this kind.
-/
namespace BuildLedger

inductive Tree where
  | null
  | flag (value : Bool)
  | number (value : Int)
  | text (value : String)
  | list (items : List Tree)
  | table (entries : List (String × Tree))
deriving Repr, Inhabited, BEq

namespace Tree

/-- The first entry with a name. -/
def entry? (name : String) : List (String × Tree) → Option Tree
  | [] => none
  | (key, value) :: rest => if key = name then some value else entry? name rest

/-- A named part of a table; none for other trees. -/
def part? (name : String) : Tree → Option Tree
  | .table entries => entry? name entries
  | _ => none

end Tree

end BuildLedger
