import BuildLedger.Keyed
import BuildLedger.Shape
import BuildLedger.Tree

/-!
# Codecs between values and field trees

A codec joins the shape of a value, the field tree that is written for it, and the way back. A
record's codec has one table of fields: name, whether it must be present, and how it is written. The
way back reads each field by name, so the order of entries in a tree does not matter to it.
-/
namespace BuildLedger

structure Codec (Value : Type) where
  shape : Shape
  encode : Value → Tree
  decode : Tree → Option Value

namespace Codec

def text : Codec String where
  shape := .text
  encode := .text
  decode
    | .text value => some value
    | _ => none

/-- A path is written as a text; only its name in messages differs. -/
def path : Codec String := { text with shape := .path }

def flag : Codec Bool where
  shape := .flag
  encode := .flag
  decode
    | .flag value => some value
    | _ => none

/-- A natural number below a power of two. -/
def natural (width : Width) (tree : Tree) : Option Nat :=
  match tree with
  | .number value =>
      if 0 ≤ value ∧ width.holds value.toNat then some value.toNat else none
  | _ => none

def word16 : Codec UInt16 where
  shape := .whole .w16
  encode value := .number value.toNat
  decode tree := (natural .w16 tree).map UInt16.ofNat

def word32 : Codec UInt32 where
  shape := .whole .w32
  encode value := .number value.toNat
  decode tree := (natural .w32 tree).map UInt32.ofNat

def word64 : Codec UInt64 where
  shape := .whole .w64
  encode value := .number value.toNat
  decode tree := (natural .w64 tree).map UInt64.ofNat

/-- Decode every item, or none at all. -/
def decodeAll {Value : Type} (decode : Tree → Option Value) : List Tree → Option (List Value)
  | [] => some []
  | item :: rest =>
      match decode item, decodeAll decode rest with
      | some value, some values => some (value :: values)
      | _, _ => none

def list {Value : Type} (item : Codec Value) : Codec (List Value) where
  shape := .list item.shape
  encode values := .list (values.map item.encode)
  decode
    | .list items => decodeAll item.decode items
    | _ => none

/-- Decode every entry's value, or none at all. -/
def decodeEntries {Value : Type} (decode : Tree → Option Value) :
    List (String × Tree) → Option (List (String × Value))
  | [] => some []
  | (key, tree) :: rest =>
      match decode tree, decodeEntries decode rest with
      | some value, some values => some ((key, value) :: values)
      | _, _ => none

/-- A table with free keys; of two entries with one key the later counts. -/
def keyed {Value : Type} (value : Codec Value) : Codec (Keyed Value) where
  shape := .dictionary value.shape
  encode table := .table (table.entries.map fun entry => (entry.1, value.encode entry.2))
  decode
    | .table entries => (decodeEntries value.decode entries).map Keyed.ofList
    | _ => none

/-- A field of a record: its name, whether it must be present, its shape, and what is written. -/
structure Field (Record : Type) where
  name : String
  required : Bool
  shape : Shape
  /-- Nothing is written for a field that may be left out. -/
  write : Record → Option Tree

namespace Field

variable {Record Value : Type}

/-- A field that every text must have. -/
def mandatory (name : String) (codec : Codec Value) (get : Record → Value) : Field Record :=
  ⟨name, true, codec.shape, fun record => some (codec.encode (get record))⟩

/-- A field that is always written and has a default when absent. -/
def defaulted (name : String) (codec : Codec Value) (get : Record → Value) : Field Record :=
  ⟨name, false, codec.shape, fun record => some (codec.encode (get record))⟩

/-- A field that is written unless it is left out by a test. -/
def writtenUnless (name : String) (codec : Codec Value) (skip : Value → Bool)
    (get : Record → Value) : Field Record :=
  ⟨name, false, codec.shape, fun record =>
    if skip (get record) then none else some (codec.encode (get record))⟩

/-- A field that may be absent or have no value; it is written when it has one. -/
def optional (name : String) (codec : Codec Value) (get : Record → Option Value) : Field Record :=
  ⟨name, false, .optional codec.shape, fun record => (get record).map codec.encode⟩

end Field

/-- The entries of a record that are written, in the order of the fields. -/
def writeFields {Record : Type} (fields : List (Field Record)) (record : Record) :
    List (String × Tree) :=
  fields.filterMap fun field => (field.write record).map fun tree => (field.name, tree)

/-- The codec of a record from its table of fields and the way back from its entries. -/
def record {Record : Type} (name : String) (fields : List (Field Record))
    (build : List (String × Tree) → Option Record) : Codec Record where
  shape := .record name (Fields.ofList (fields.map fun field =>
    (field.name, field.required, field.shape)))
  encode value := .table (writeFields fields value)
  decode
    | .table entries => build entries
    | _ => none

/-- The value of a field that must be there. -/
def require {Value : Type} (entries : List (String × Tree)) (name : String) (codec : Codec Value) :
    Option Value :=
  (Tree.entry? name entries).bind codec.decode

/-- The value of a field, or its default when it is absent. -/
def fallback {Value : Type} (entries : List (String × Tree)) (name : String) (codec : Codec Value)
    (default : Value) : Option Value :=
  match Tree.entry? name entries with
  | none => some default
  | some tree => codec.decode tree

/-- The value of a field, or none when it is absent or null. -/
def maybe {Value : Type} (entries : List (String × Tree)) (name : String) (codec : Codec Value) :
    Option (Option Value) :=
  match Tree.entry? name entries with
  | none | some .null => some none
  | some tree => (codec.decode tree).map some

end Codec

end BuildLedger
