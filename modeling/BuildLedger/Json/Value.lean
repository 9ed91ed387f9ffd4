import BuildLedger.Json.Numeral

/-!
# Values of JSON text

A value as the text spells it, with members in the order of the text. A text that stops being JSON
somewhere still has a value: everything up to that spot, and the trouble there. So a reader that
looks for the first problem in the text meets problems of form and of content in one walk.
-/
namespace BuildLedger

/-- A member's name, or why it cannot be read. -/
abbrev Json.Name := Except Json.Fault String

inductive Json where
  | null
  | flag (value : Bool)
  | number (numeral : Json.Numeral)
  | text (value : String)
  /-- A text that is well delimited but holds half a surrogate pair. -/
  | unreadable (fault : Json.Fault)
  | list (items : List Json) (ending : Option Json.Trouble)
  | table (members : List (Json.Name × Json)) (ending : Option Json.Trouble)
  | broken (trouble : Json.Trouble)
deriving Inhabited

namespace Json

mutual

/-- What goes wrong when the value is passed over. -/
def skipFault : Json → Option Fault
  | .list items ending => (itemsSkipFault items).or (ending.map (·.skipped))
  | .table members ending => (membersSkipFault members).or (ending.map (·.skipped))
  | .broken trouble => some trouble.skipped
  | _ => none

def itemsSkipFault : List Json → Option Fault
  | [] => none
  | item :: rest => (skipFault item).or (itemsSkipFault rest)

def membersSkipFault : List (Name × Json) → Option Fault
  | [] => none
  | (_, value) :: rest => (skipFault value).or (membersSkipFault rest)

end

end Json

end BuildLedger
