import BuildLedger.Codec
import BuildLedger.Json.Reader

/-!
# Fitting JSON values to shapes

A value is fitted to a shape in the order of the text, and the first problem met is the answer: a
fault of the text, or a mismatch between what stands there and what the shape expects. A record may
be given as a table of its fields in any order, with other members passed over, or as a list of its
fields in their own order.
-/
namespace BuildLedger.Json

inductive Problem where
  | fault (fault : Fault)
  | mismatch (mismatch : Mismatch)
deriving Repr, DecidableEq

def Problem.message : Problem → String
  | .fault cause => cause.message
  | .mismatch cause => cause.message

/-- What a value of the wrong kind is called. -/
def found : Json → Except Fault Found
  | .null => .ok (.nothing "null")
  | .flag value => .ok (.flag value)
  | .number numeral =>
      numeral.quantity.map fun quantity =>
        match quantity with
        | .whole value => .whole value
        | .decimal digits => .decimal digits
  | .text value => .ok (.text value)
  | .unreadable fault => .error fault
  | .list _ _ => .ok .sequence
  | .table _ _ => .ok .table
  | .broken trouble => .error trouble.read

/-- The problem of a value of the wrong kind. -/
def unfit (value : Json) (expected : String) : Problem :=
  match found value with
  | .ok found => .mismatch (.wrongType found expected)
  | .error fault => .fault fault

/-- A number for an unsigned field: no fraction, no sign, and not too large. -/
def fitWhole (width : Width) (value : Json) : Except Problem Tree :=
  match found value with
  | .ok (.whole size) =>
      if 0 ≤ size ∧ width.holds size.toNat then .ok (.number size)
      else .error (.mismatch (.wrongValue (.whole size) width.name))
  | .ok found => .error (.mismatch (.wrongType found width.name))
  | .error fault => .error (.fault fault)

/-- Nothing more, or the trouble that ended the list or table. -/
def ended (ending : Option Trouble) : Except Problem Unit :=
  match ending with
  | none => .ok ()
  | some trouble => .error (.fault trouble.read)

/-- Passing over a value fails only on a text that is not well-formed. -/
def skip (value : Json) : Except Problem Unit :=
  match value.skipFault with
  | none => .ok ()
  | some fault => .error (.fault fault)

/-- The first field that must be there and is not. -/
def missing? (present : List String) (fields : Fields) : Option String :=
  fields.requiredNames.find? fun name => !present.contains name

/-- A list that gave all fields of a record has to end there. -/
def surplus (ending : Option Trouble) : Except Problem Unit :=
  match ending with
  | none => .ok ()
  | some trouble =>
      match trouble.read with
      | .endInList => .error (.fault .endInList)
      | .trailingComma => .error (.fault .trailingComma)
      | _ => .error (.fault .trailingCharacters)

/-- A list that is too short for a record: the first field that must be there counts. -/
def shortfall (name : String) (count : Nat) (index : Nat) :
    Fields → Except Problem (List (String × Tree))
  | .nil => .ok []
  | .cons _ required _ rest =>
      if required then .error (.mismatch (.wrongLength index name count))
      else shortfall name count (index + 1) rest

/-- The items of a list. -/
def fitItems (fit : Json → Except Problem Tree) : List Json → Except Problem (List Tree)
  | [] => .ok []
  | item :: rest => do
      let tree ← fit item
      let trees ← fitItems fit rest
      return tree :: trees

/-- The members of a table with free keys. -/
def fitEntries (fit : Json → Except Problem Tree) :
    List (Name × Json) → Except Problem (List (String × Tree))
  | [] => .ok []
  | (.error fault, _) :: _ => .error (.fault fault)
  | (.ok name, value) :: rest => do
      let tree ← fit value
      let entries ← fitEntries fit rest
      return (name, tree) :: entries

/-- The known members of a record; `present` are the fields that came before. -/
def fitMembers (fit? : String → Option (Json → Except Problem Tree)) :
    List String → List (Name × Json) → Except Problem (List (String × Tree))
  | _, [] => .ok []
  | _, (.error fault, _) :: _ => .error (.fault fault)
  | present, (.ok name, value) :: rest =>
      match fit? name with
      | none => do
          skip value
          fitMembers fit? present rest
      | some fit =>
          if present.contains name then .error (.mismatch (.duplicateField name))
          else do
            let tree ← fit value
            let entries ← fitMembers fit? (name :: present) rest
            return (name, tree) :: entries

/-- A record from its members: what is missing is noticed at its end. -/
def completeRecord (fields : Fields) (ending : Option Trouble) (entries : List (String × Tree)) :
    Except Problem Tree := do
  ended ending
  match missing? (entries.map Prod.fst) fields with
  | some name => .error (.mismatch (.missingField name))
  | none => return .table entries

mutual

def fit : Shape → Json → Except Problem Tree
  | .text, value =>
      match value with
      | .text written => .ok (.text written)
      | other => .error (unfit other "a string")
  | .path, value =>
      match value with
      | .text written => .ok (.text written)
      | other => .error (unfit other "path string")
  | .flag, value =>
      match value with
      | .flag stated => .ok (.flag stated)
      | other => .error (unfit other "a boolean")
  | .whole width, value => fitWhole width value
  | .choice names, value =>
      match value with
      | .text name =>
          if names.contains name then .ok (.text name)
          else .error (.mismatch (.unknownChoice name names))
      | other => .error (unfit other "variant identifier")
  | .optional inner, value =>
      match value with
      | .null => .ok .null
      | other => fit inner other
  | .list item, value =>
      match value with
      | .list items ending => do
          let trees ← fitItems (fit item) items
          ended ending
          return .list trees
      | other => .error (unfit other "a sequence")
  | .dictionary item, value =>
      match value with
      | .table members ending => do
          let entries ← fitEntries (fit item) members
          ended ending
          return .table entries
      | other => .error (unfit other "a map")
  | .record name fields, value =>
      match value with
      | .table members ending => do
          let entries ← fitMembers (fitField? fields) [] members
          completeRecord fields ending entries
      | .list items ending => do
          let entries ← fitPositions name fields.count ending 0 fields items
          return .table entries
      | other => .error (unfit other ("struct " ++ name))

/-- How the field with a name is fitted, if there is one. -/
def fitField? : Fields → String → Option (Json → Except Problem Tree)
  | .nil, _ => none
  | .cons field _ shape rest, name =>
      if field = name then some (fit shape) else fitField? rest name

/-- The fields of a record by position. -/
def fitPositions (name : String) (count : Nat) (ending : Option Trouble) :
    Nat → Fields → List Json → Except Problem (List (String × Tree))
  | _, .nil, [] => do
      surplus ending
      return []
  | _, .nil, _ :: _ => .error (.fault .trailingCharacters)
  | index, .cons field required shape rest, items =>
      match items with
      | [] => do
          ended ending
          shortfall name count index (.cons field required shape rest)
      | item :: items => do
          let tree ← fit shape item
          let entries ← fitPositions name count ending (index + 1) rest items
          return (field, tree) :: entries

end

/-- Read a whole text: one value, with nothing but space around it. -/
def parseTree (shape : Shape) (text : String) : Except Problem Tree :=
  let (value, rest) := ofText text
  match fit shape value with
  | .error problem => .error problem
  | .ok tree =>
      match rest.map skipSpace with
      | some [] => .ok tree
      | _ => .error (.fault .trailingCharacters)

/-- Read a whole text as a value of a codec. A tree that fits the shape always decodes. -/
def parse {Value : Type} (codec : Codec Value) (text : String) : Except Problem Value :=
  match parseTree codec.shape text with
  | .error problem => .error problem
  | .ok tree =>
      match codec.decode tree with
      | some value => .ok value
      | none => .error (.mismatch (.wrongType .table codec.shape.expectation))

end BuildLedger.Json
