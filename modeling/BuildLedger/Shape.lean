import BuildLedger.Text.Quoted

/-!
# Shapes of structured values

A shape says what a reader expects: a text, a whole number of some width, a list, a table with free
keys, a record with known fields, and so on. What was found instead is described in the same words
for every text format; only the name of the missing value differs. Fields of a record are read in
the order of the text, so the first problem in the text is the one that is told.
-/
namespace BuildLedger

/-- Width of an unsigned whole number, in bits. -/
inductive Width where
  | w16
  | w32
  | w64
deriving Repr, DecidableEq

namespace Width

def bits : Width → Nat
  | .w16 => 16
  | .w32 => 32
  | .w64 => 64

def holds (width : Width) (value : Nat) : Bool := value < Nat.pow 2 width.bits

def name (width : Width) : String := "u" ++ toString width.bits

end Width

mutual

/-- What a reader expects at some place. -/
inductive Shape where
  | text
  | path
  | flag
  | whole (width : Width)
  | list (item : Shape)
  | dictionary (value : Shape)
  | optional (inner : Shape)
  | choice (names : List String)
  | record (name : String) (fields : Fields)

/-- The fields of a record in their order; a field that is not required may be absent. -/
inductive Fields where
  | nil
  | cons (name : String) (required : Bool) (shape : Shape) (rest : Fields)

end

namespace Fields

def count : Fields → Nat
  | .nil => 0
  | .cons _ _ _ rest => rest.count + 1

def names : Fields → List String
  | .nil => []
  | .cons name _ _ rest => name :: rest.names

def requiredNames : Fields → List String
  | .nil => []
  | .cons name required _ rest =>
      if required then name :: rest.requiredNames else rest.requiredNames

/-- The shape of the field with a name. -/
def find? (name : String) : Fields → Option Shape
  | .nil => none
  | .cons field _ shape rest => if field = name then some shape else rest.find? name

/-- Fields from a list of name, necessity and shape. -/
def ofList : List (String × Bool × Shape) → Fields
  | [] => .nil
  | (name, required, shape) :: rest => .cons name required shape (ofList rest)

end Fields

namespace Shape

/-- How a message names what is expected. -/
def expectation : Shape → String
  | .text => "a string"
  | .path => "path string"
  | .flag => "a boolean"
  | .whole width => width.name
  | .list _ => "a sequence"
  | .dictionary _ => "a map"
  | .optional inner => inner.expectation
  | .choice _ => "variant identifier"
  | .record name _ => "struct " ++ name

end Shape

/-- What a text holds at a place where something else is expected. -/
inductive Found where
  /-- The missing value, under the name that the format gives it. -/
  | nothing (name : String)
  | flag (value : Bool)
  | whole (value : Int)
  /-- A whole number that needs more than 64 bits, with the width that holds it. -/
  | wide (value : Int) (width : String)
  | decimal (digits : String)
  | text (value : String)
  | sequence
  | table
deriving Repr, DecidableEq

namespace Found

def describe : Found → String
  | .nothing name => name
  | .flag value => "boolean `" ++ (if value then "true" else "false") ++ "`"
  | .whole value => "integer `" ++ toString value ++ "`"
  | .wide value width => "integer `" ++ toString value ++ "` as " ++ width
  | .decimal digits => "floating point `" ++ digits ++ "`"
  | .text value => "string " ++ Text.quoted value
  | .sequence => "sequence"
  | .table => "map"

end Found

/-- Why a well-formed text does not fit a shape. -/
inductive Mismatch where
  | wrongType (found : Found) (expected : String)
  | wrongValue (found : Found) (expected : String)
  | missingField (name : String)
  | duplicateField (name : String)
  /-- A record given by position ends before a required field. -/
  | wrongLength (count : Nat) (record : String) (fields : Nat)
  | unknownChoice (name : String) (names : List String)
deriving Repr, DecidableEq

namespace Mismatch

/-- The names of a choice, each between grave accents. -/
def alternatives : List String → String
  | [] => "there are no variants"
  | [only] => "expected `" ++ only ++ "`"
  | [first, second] => "expected `" ++ first ++ "` or `" ++ second ++ "`"
  | names =>
      "expected one of " ++ ", ".intercalate (names.map fun name => "`" ++ name ++ "`")

def message : Mismatch → String
  | .wrongType found expected => "invalid type: " ++ found.describe ++ ", expected " ++ expected
  | .wrongValue found expected => "invalid value: " ++ found.describe ++ ", expected " ++ expected
  | .missingField name => "missing field `" ++ name ++ "`"
  | .duplicateField name => "duplicate field `" ++ name ++ "`"
  | .wrongLength count record fields =>
      "invalid length " ++ toString count ++ ", expected struct " ++ record ++ " with " ++
        toString fields ++ (if fields = 1 then " element" else " elements")
  | .unknownChoice name names => "unknown variant `" ++ name ++ "`, " ++ alternatives names

end Mismatch

end BuildLedger
