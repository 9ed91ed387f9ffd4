import BuildLedger.Text.Blank

/-!
# Tables of text

A column is as wide as its widest cell in bytes, so it is wide enough in characters. Cells are
filled with spaces to the width of their column, two spaces stand between columns, and no line ends
in blanks. A line of hyphens separates the headers from the rows.
-/
namespace BuildLedger.Table

def gap : String := "  "

/-- Widths of columns, at least as wide as the cells of a row. -/
def widen : List Nat → List String → List Nat
  | width :: widths, cell :: cells => max width cell.utf8ByteSize :: widen widths cells
  | widths, _ => widths

def widths (headers : List String) (rows : List (List String)) : List Nat :=
  rows.foldl widen (headers.map (·.utf8ByteSize))

/-- A cell with spaces behind it up to a width. -/
def fill (cell : String) (width : Nat) : String :=
  cell ++ String.ofList (List.replicate (width - cell.length) ' ')

def line (widths : List Nat) (cells : List String) : String :=
  Text.trimEnd (gap.intercalate (cells.zipWith fill widths))

def separator (widths : List Nat) : String :=
  gap.intercalate (widths.map fun width => String.ofList (List.replicate width '-'))

def lines (headers : List String) (rows : List (List String)) : List String :=
  let widths := widths headers rows
  line widths headers :: separator widths :: rows.map (line widths)

end BuildLedger.Table
