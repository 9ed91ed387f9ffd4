import BuildLedger.Codec
import BuildLedger.Yaml.Plain

/-!
# Fitting YAML nodes to shapes

A node is fitted to a shape in the order of the text, and the first problem met is the answer. A
mismatch carries the place of the value that does not fit; what is wrong with a record as a whole
carries the place of the record. A text takes any scalar as it is spelled, an empty value is an
empty list, table or record, and a record cannot be given as a list.
-/
namespace BuildLedger.Yaml

mutual

/-- The fault that is met when the node is passed over. -/
def skipFault : Node → Option Fault
  | .list _ items ending => (itemsSkipFault items).or ending
  | .table _ entries ending => (entriesSkipFault entries).or ending
  | .cut fault => some fault
  | _ => none

def itemsSkipFault : List Node → Option Fault
  | [] => none
  | item :: rest => (skipFault item).or (itemsSkipFault rest)

def entriesSkipFault : List (Node × Node) → Option Fault
  | [] => none
  | (key, value) :: rest =>
      ((skipFault key).or (skipFault value)).or (entriesSkipFault rest)

end

/-- The place of an entry of a table, by its key. -/
def entryPlace (place : String) : Node → String
  | .scalar key => (if place.isEmpty then "" else place ++ ".") ++ key.text
  | _ => (if place.isEmpty then "" else place ++ ".") ++ "?"

def itemPlace (place : String) (index : Nat) : String := place ++ "[" ++ toString index ++ "]"

/-- What an alias stands for; any other node is itself. -/
def target (anchored? : Nat → Option Node) : Node → Node
  | .aliasOf number => (anchored? number).getD (.cut .unknownAnchor)
  | node => node

/-- The problem of a node of the wrong kind. -/
def unfit (place : String) (node : Node) (expected : String) : Problem :=
  match node with
  | .scalar scalar =>
      match scalar.meaning with
      | .ok found => .mismatch place (.wrongType found expected)
      | .error mismatch => .mismatch place mismatch
  | .list _ _ _ => .mismatch place (.wrongType .sequence expected)
  | .table _ _ _ => .mismatch place (.wrongType .table expected)
  | .aliasOf _ | .void => .fault .endOfText
  | .cut fault => .fault fault

def ended (ending : Option Fault) : Except Problem Unit :=
  match ending with
  | none => .ok ()
  | some fault => .error (.fault fault)

/-- A text, whatever the scalar would mean otherwise. -/
def fitText (expected place : String) (node : Node) : Except Problem String :=
  match node with
  | .scalar scalar => .ok scalar.text
  | node => .error (unfit place node expected)

def fitFlag (place : String) (node : Node) : Except Problem Tree :=
  match node with
  | .scalar scalar =>
      match if scalar.isReadAs flagTag then flag? scalar.text else none with
      | some value => .ok (.flag value)
      | none => .error (unfit place node "a boolean")
  | node => .error (unfit place node "a boolean")

def fitWhole (width : Width) (place : String) (node : Node) : Except Problem Tree :=
  match node with
  | .scalar scalar =>
      let value? :=
        if scalar.isReadAs wholeTag then natural? (Nat.pow 2 64) scalar.text.toList else none
      match value? with
      | some value =>
          if width.holds value then .ok (.number value)
          else .error (.mismatch place (.wrongValue (.whole value) width.name))
      | none => .error (unfit place node width.name)
  | node => .error (unfit place node width.name)

/-- One of several names, as a scalar or as a tag without a value. A tag that is none of the names
is a problem of the table around it. -/
def fitChoice (names : List String) (place outer : String) (node : Node) : Except Problem Tree :=
  let tagged (name : String) (bare : Bool) (problem : Mismatch) : Except Problem Tree :=
    if !names.contains name then .error (.mismatch outer (.unknownChoice name names))
    else if bare then .ok (.text name)
    else .error (.mismatch place problem)
  let tagExpected := "a YAML tag starting with '!'"
  match node with
  | .scalar scalar =>
      match localTag? scalar.tag with
      | some name =>
          tagged name (scalar.isPlain && (scalar.text.isEmpty || isNothing scalar.text))
            (.wrongValue (.text scalar.text) "null")
      | none =>
          if names.contains scalar.text then .ok (.text scalar.text)
          else .error (.mismatch place (.unknownChoice scalar.text names))
  | .list tag _ _ =>
      match localTag? tag with
      | some name => tagged name false (.wrongType .sequence "unit")
      | none => .error (.mismatch place (.wrongType .sequence tagExpected))
  | .table tag _ _ =>
      match localTag? tag with
      | some name => tagged name false (.wrongType .table "unit")
      | none => .error (.mismatch place (.wrongType .table tagExpected))
  | node => .error (unfit place node tagExpected)

/-- Whether an optional value is there. -/
def isPresent (outer : String) (node : Node) : Except Problem Bool :=
  match node with
  | .scalar scalar =>
      if !scalar.isPlain then .ok true
      else
        match scalar.tag with
        | none => .ok (!(scalar.text.isEmpty || isNothing scalar.text))
        | some tag =>
            if tag == nothingTag then
              if isNothing scalar.text then .ok false
              else .error (.mismatch outer (.wrongValue (.text scalar.text) "null"))
            else .ok true
  | .void => .ok false
  | .cut fault => .error (.fault fault)
  | _ => .ok true

/-- The items of a list, each fitted at its own place. -/
def fitItems (fit : String → Node → Except Problem Tree) (place : String) :
    Nat → List Node → Except Problem (List Tree)
  | _, [] => .ok []
  | index, item :: rest => do
      let tree ← fit (itemPlace place index) item
      let trees ← fitItems fit place (index + 1) rest
      return tree :: trees

/-- The entries of a table with free keys. -/
def fitEntries (anchored? : Nat → Option Node) (fit : String → Node → Except Problem Tree)
    (place : String) : List (Node × Node) → Except Problem (List (String × Tree))
  | [] => .ok []
  | (key, value) :: rest => do
      let name ← fitText "a string" place (target anchored? key)
      let tree ← fit (entryPlace place key) value
      let entries ← fitEntries anchored? fit place rest
      return (name, tree) :: entries

/-- The known fields of a record; `present` are those that came before. -/
def fitFields (anchored? : Nat → Option Node)
    (fit? : String → Option (String → Node → Except Problem Tree)) (place : String) :
    List String → List (Node × Node) → Except Problem (List (String × Tree))
  | _, [] => .ok []
  | present, (key, value) :: rest => do
      let name ← fitText "field identifier" place (target anchored? key)
      match fit? name with
      | none =>
          match skipFault value with
          | some fault => .error (.fault fault)
          | none => fitFields anchored? fit? place present rest
      | some fit =>
          if present.contains name then .error (.mismatch place (.duplicateField name))
          else do
            let tree ← fit (entryPlace place key) value
            let entries ← fitFields anchored? fit? place (name :: present) rest
            return (name, tree) :: entries

/-- A record from its entries: what is missing is noticed at its end. -/
def completeRecord (required : List String) (place : String) (ending : Option Fault)
    (entries : List (String × Tree)) : Except Problem Tree := do
  ended ending
  match required.find? fun name => !(entries.map Prod.fst).contains name with
  | some name => .error (.mismatch place (.missingField name))
  | none => return .table entries

mutual

/-- Fit a node; `outer` is the place of the list, table or record around it. -/
def fit (anchored? : Nat → Option Node) (outer : String) :
    Shape → String → Node → Except Problem Tree
  | .text, place, node => (fitText "a string" place (target anchored? node)).map .text
  | .path, place, node => (fitText "path string" place (target anchored? node)).map .text
  | .flag, place, node => fitFlag place (target anchored? node)
  | .whole width, place, node => fitWhole width place (target anchored? node)
  | .choice names, place, node => fitChoice names place outer (target anchored? node)
  | .optional inner, place, node => do
      if ← isPresent outer (target anchored? node) then fit anchored? outer inner place node
      else return .null
  | .list item, place, node =>
      match target anchored? node with
      | .list _ items ending => do
          let trees ← fitItems (fit anchored? place item) place 0 items
          ended ending
          return .list trees
      | .void => .ok (.list [])
      | .scalar scalar =>
          if scalar.isAbsent then .ok (.list [])
          else .error (unfit place (.scalar scalar) "a sequence")
      | other => .error (unfit place other "a sequence")
  | .dictionary value, place, node =>
      match target anchored? node with
      | .table _ entries ending => do
          let entries ← fitEntries anchored? (fit anchored? place value) place entries
          ended ending
          return .table entries
      | .void => .ok (.table [])
      | .scalar scalar =>
          if scalar.isAbsent then .ok (.table [])
          else .error (unfit place (.scalar scalar) "a map")
      | other => .error (unfit place other "a map")
  | .record name fields, place, node =>
      let expected := "struct " ++ name
      match target anchored? node with
      | .table _ entries ending => do
          let entries ← fitFields anchored? (fitField? anchored? place fields) place [] entries
          completeRecord fields.requiredNames place ending entries
      | .void => completeRecord fields.requiredNames place none []
      | .scalar scalar =>
          if scalar.isAbsent then completeRecord fields.requiredNames place none []
          else .error (unfit place (.scalar scalar) expected)
      | other => .error (unfit place other expected)

/-- How the field with a name is fitted, if there is one. -/
def fitField? (anchored? : Nat → Option Node) (outer : String) :
    Fields → String → Option (String → Node → Except Problem Tree)
  | .nil, _ => none
  | .cons field _ shape rest, name =>
      if field = name then some (fit anchored? outer shape)
      else fitField? anchored? outer rest name

end

/-- Read a whole text: one document of a shape. -/
def parseTree (shape : Shape) (text : String) : Except Problem Tree :=
  let document := Document.ofText text
  match fit document.anchored? "" shape "" document.root with
  | .error problem => .error problem
  | .ok tree =>
      match document.fault with
      | some fault => .error (.fault fault)
      | none => .ok tree

/-- Read a whole text as a value of a codec. A tree that fits the shape always decodes. -/
def parse {Value : Type} (codec : Codec Value) (text : String) : Except Problem Value :=
  match parseTree codec.shape text with
  | .error problem => .error problem
  | .ok tree =>
      match codec.decode tree with
      | some value => .ok value
      | none => .error (.mismatch "" (.wrongType .table codec.shape.expectation))

end BuildLedger.Yaml
