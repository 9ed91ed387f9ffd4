/-!
# Faults of JSON text

A fault is the reason why a text is not well-formed JSON. A value that is only passed over is
checked less closely than one that is read, so the same spot can have two faults; a `Trouble` holds
both.
-/
namespace BuildLedger.Json

inductive Fault where
  | endInList
  | endInTable
  | endInText
  | endInValue
  | expectedColon
  | expectedCommaOrBracket
  | expectedCommaOrBrace
  | expectedWord
  | expectedValue
  | invalidEscape
  | invalidNumber
  | numberOutOfRange
  | controlInText
  | keyNotText
  | loneSurrogate
  | escapeCutShort
  | trailingComma
  | trailingCharacters
deriving Repr, DecidableEq

namespace Fault

def message : Fault → String
  | .endInList => "EOF while parsing a list"
  | .endInTable => "EOF while parsing an object"
  | .endInText => "EOF while parsing a string"
  | .endInValue => "EOF while parsing a value"
  | .expectedColon => "expected `:`"
  | .expectedCommaOrBracket => "expected `,` or `]`"
  | .expectedCommaOrBrace => "expected `,` or `\x7d`"
  | .expectedWord => "expected ident"
  | .expectedValue => "expected value"
  | .invalidEscape => "invalid escape"
  | .invalidNumber => "invalid number"
  | .numberOutOfRange => "number out of range"
  | .controlInText => "control character (\\u0000-\\u001F) found while parsing a string"
  | .keyNotText => "key must be a string"
  | .loneSurrogate => "lone leading surrogate in hex escape"
  | .escapeCutShort => "unexpected end of hex escape"
  | .trailingComma => "trailing comma"
  | .trailingCharacters => "trailing characters"

end Fault

/-- What is wrong at a spot when its value is read, and when the value is only passed over. -/
structure Trouble where
  read : Fault
  skipped : Fault
deriving Repr, DecidableEq

/-- The same fault either way. -/
def Trouble.same (fault : Fault) : Trouble := ⟨fault, fault⟩

end BuildLedger.Json
