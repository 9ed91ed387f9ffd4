import BuildLedger.Bytes.Hex
import BuildLedger.Json.Value

/-!
# Reading JSON text

The reader works on the list of characters of the text. It returns the value at the front and what
follows it, or no rest at all when the value holds a trouble: nothing after that spot is looked at.
Every step uses up a character or one unit of fuel, and twice the length of the text is always
enough.
-/
namespace BuildLedger.Json

/-- The four characters that may stand between the parts of a text. -/
def isSpace (character : Char) : Bool :=
  character == ' ' || character == '\n' || character == '\t' || character == '\r'

def skipSpace (characters : List Char) : List Char := characters.dropWhile isSpace

/-- A text up to its closing quote: its characters, and what follows the quote. A text that cannot
be read may still be delimited well, so the two can fail apart. -/
structure Delimited where
  value : Except Fault (List Char)
  rest : Except Fault (List Char)

namespace Delimited

/-- The text stops here. -/
def stopped (fault : Fault) : Delimited := ⟨.error fault, .error fault⟩

def cons (character : Char) (after : Delimited) : Delimited :=
  { after with value := after.value.map (character :: ·) }

/-- A spot that can be passed over but not read. -/
def spoiled (fault : Fault) (after : Delimited) : Delimited :=
  { after with value := .error fault }

end Delimited

/-- The character of a two-character escape. -/
def simpleEscape? : Char → Option Char
  | '"' => some '"'
  | '\\' => some '\\'
  | '/' => some '/'
  | 'b' => some '\x08'
  | 'f' => some '\x0c'
  | 'n' => some '\n'
  | 'r' => some '\r'
  | 't' => some '\t'
  | _ => none

/-- The number of four hexadecimal digits. -/
def fourHex? (a b c d : Char) : Option Nat :=
  match Bytes.hexValue? a, Bytes.hexValue? b, Bytes.hexValue? c, Bytes.hexValue? d with
  | some a, some b, some c, some d => some (((a * 16 + b) * 16 + c) * 16 + d)
  | _, _, _, _ => none

/-- The fault of an escape whose four digits are not there: too few bytes, or wrong ones. -/
def hexFault (following : List Char) : Fault :=
  if ((following.take 4).map Char.utf8Size).foldl (· + ·) 0 < 4 then .endInText else .invalidEscape

def isHighSurrogate (unit : Nat) : Bool := 0xD800 ≤ unit && unit ≤ 0xDBFF

def isLowSurrogate (unit : Nat) : Bool := 0xDC00 ≤ unit && unit ≤ 0xDFFF

/-- The character of a surrogate pair. -/
def paired (high low : Nat) : Char :=
  Char.ofNat (0x10000 + (high - 0xD800) * 0x400 + (low - 0xDC00))

/-- What keeps the characters after a high surrogate from completing it. -/
def unpaired : List Char → Fault
  | [] | ['\\'] => .endInText
  | '\\' :: 'u' :: a :: b :: c :: d :: _ =>
      match fourHex? a b c d with
      | some _ => .loneSurrogate
      | none => hexFault [a, b, c, d]
  | '\\' :: 'u' :: following => hexFault following
  | _ => .escapeCutShort

/-- The low surrogate that an escape at the front gives. -/
def lowEscape? : List Char → Option Nat
  | '\\' :: 'u' :: a :: b :: c :: d :: _ =>
      (fourHex? a b c d).bind fun unit => if isLowSurrogate unit then some unit else none
  | _ => none

/-- Read a text after its opening quote. -/
def readText : List Char → Delimited
  | [] => .stopped .endInText
  | '"' :: rest => ⟨.ok [], .ok rest⟩
  | ['\\'] => .stopped .endInText
  | '\\' :: 'u' :: a :: b :: c :: d :: rest =>
      match fourHex? a b c d with
      | none => .stopped (hexFault [a, b, c, d])
      | some unit =>
          if isHighSurrogate unit then
            match lowEscape? rest with
            | some low =>
                match rest with
                | _ :: _ :: _ :: _ :: _ :: _ :: after => (readText after).cons (paired unit low)
                | _ => .stopped .endInText
            | none => (readText rest).spoiled (unpaired rest)
          else if isLowSurrogate unit then (readText rest).spoiled .loneSurrogate
          else (readText rest).cons (Char.ofNat unit)
  | '\\' :: 'u' :: following => .stopped (hexFault following)
  | '\\' :: escape :: rest =>
      match simpleEscape? escape with
      | some character => (readText rest).cons character
      | none => .stopped .invalidEscape
  | character :: rest =>
      if character.toNat < 0x20 then .stopped .controlInText
      else (readText rest).cons character

def isDigit (character : Char) : Bool := '0' ≤ character && character ≤ '9'

def digitValue (character : Char) : Nat := character.toNat - 0x30

/-- The digits at the front and what follows them. -/
def takeDigits (characters : List Char) : List Nat × List Char :=
  ((characters.takeWhile isDigit).map digitValue, characters.dropWhile isDigit)

/-- What is wrong where a digit should stand. -/
def digitTrouble : List Char → Trouble
  | [] => ⟨.endInValue, .invalidNumber⟩
  | _ => .same .invalidNumber

/-- The exponent of a number after its letter. -/
def readExponent (numeral : Numeral) (characters : List Char) :
    Except Trouble (Numeral × List Char) :=
  let (below, unsigned) := match characters with
    | '-' :: rest => (true, rest)
    | '+' :: rest => (false, rest)
    | other => (false, other)
  let (digits, rest) := takeDigits unsigned
  if digits.isEmpty then .error (digitTrouble unsigned)
  else .ok ({ numeral with exponent := some (below, digits) }, rest)

/-- The fraction and exponent of a number after its whole part. -/
def readFraction (numeral : Numeral) (characters : List Char) :
    Except Trouble (Numeral × List Char) :=
  match characters with
  | '.' :: after =>
      let (digits, rest) := takeDigits after
      let numeral := { numeral with fraction := some digits }
      if digits.isEmpty then .error (digitTrouble after)
      else
        match rest with
        | 'e' :: rest | 'E' :: rest => readExponent numeral rest
        | rest => .ok (numeral, rest)
  | 'e' :: rest | 'E' :: rest => readExponent numeral rest
  | rest => .ok (numeral, rest)

/-- A number after its sign. -/
def readNumeral (negative : Bool) (characters : List Char) :
    Except Trouble (Numeral × List Char) :=
  let (digits, rest) := takeDigits characters
  if digits.isEmpty then .error (digitTrouble characters)
  else if digits.head? == some 0 && 1 < digits.length then .error (.same .invalidNumber)
  else readFraction ⟨negative, digits, none, none⟩ rest

/-- A value and what follows it; no rest when the value holds a trouble. -/
abbrev Part := Json × Option (List Char)

def readNumber (negative : Bool) (characters : List Char) : Part :=
  match readNumeral negative characters with
  | .ok (numeral, rest) => (.number numeral, some rest)
  | .error trouble => (.broken trouble, none)

/-- One of the three words, after its first letter. -/
def readWord (value : Json) : List Char → List Char → Part
  | [], rest => (value, some rest)
  | _ :: _, [] => (.broken (.same .endInValue), none)
  | letter :: letters, character :: rest =>
      if character == letter then readWord value letters rest
      else (.broken (.same .expectedWord), none)

def readTextValue (characters : List Char) : Part :=
  match readText characters with
  | ⟨.ok value, .ok rest⟩ => (.text (String.ofList value), some rest)
  | ⟨.error fault, .ok rest⟩ => (.unreadable fault, some rest)
  | ⟨.error fault, .error other⟩ => (.broken ⟨fault, other⟩, none)
  | ⟨.ok _, .error fault⟩ => (.broken (.same fault), none)

/-- The trouble of a value that has no rest. It stands for the end of everything around the value,
and is met only after the value's own trouble. -/
def innerTrouble : Trouble := .same .endInValue

/-- Items read so far and what follows the closing bracket. -/
structure Items where
  items : List Json
  ending : Option Trouble
  rest : Option (List Char)

def Items.cons (item : Json) (after : Items) : Items := { after with items := item :: after.items }

def Items.cut (trouble : Trouble) : Items := ⟨[], some trouble, none⟩

/-- Members read so far and what follows the closing brace. -/
structure Members where
  members : List (Name × Json)
  ending : Option Trouble
  rest : Option (List Char)

def Members.cons (member : Name × Json) (after : Members) : Members :=
  { after with members := member :: after.members }

def Members.cut (trouble : Trouble) : Members := ⟨[], some trouble, none⟩

mutual

def readValue : Nat → List Char → Part
  | 0, _ => (.broken innerTrouble, none)
  | fuel + 1, characters =>
      match skipSpace characters with
      | [] => (.broken (.same .endInValue), none)
      | 'n' :: rest => readWord .null ['u', 'l', 'l'] rest
      | 't' :: rest => readWord (.flag true) ['r', 'u', 'e'] rest
      | 'f' :: rest => readWord (.flag false) ['a', 'l', 's', 'e'] rest
      | '"' :: rest => readTextValue rest
      | '-' :: rest => readNumber true rest
      | '[' :: rest =>
          let list := readItems fuel true rest
          (.list list.items list.ending, list.rest)
      | '{' :: rest =>
          let table := readMembers fuel true rest
          (.table table.members table.ending, table.rest)
      | character :: rest =>
          if isDigit character then readNumber false (character :: rest)
          else (.broken (.same .expectedValue), none)

/-- Items up to the closing bracket; `first` until one was read. -/
def readItems : Nat → Bool → List Char → Items
  | 0, _, _ => .cut innerTrouble
  | fuel + 1, first, characters =>
      match skipSpace characters with
      | [] => .cut (.same .endInList)
      | ']' :: rest => ⟨[], none, some rest⟩
      | character :: rest =>
          if first then readItem fuel (character :: rest)
          else if character != ',' then .cut (.same .expectedCommaOrBracket)
          else
            match skipSpace rest with
            | [] => .cut (.same .endInValue)
            | ']' :: _ => .cut ⟨.trailingComma, .expectedValue⟩
            | start => readItem fuel start

def readItem : Nat → List Char → Items
  | 0, _ => .cut innerTrouble
  | fuel + 1, characters =>
      match readValue fuel characters with
      | (item, none) => (Items.cut innerTrouble).cons item
      | (item, some rest) => (readItems fuel false rest).cons item

/-- Members up to the closing brace; `first` until one was read. -/
def readMembers : Nat → Bool → List Char → Members
  | 0, _, _ => .cut innerTrouble
  | fuel + 1, first, characters =>
      match skipSpace characters with
      | [] => .cut (.same .endInTable)
      | '}' :: rest => ⟨[], none, some rest⟩
      | character :: rest =>
          if first then readMember fuel (character :: rest)
          else if character != ',' then .cut (.same .expectedCommaOrBrace)
          else
            match skipSpace rest with
            | [] => .cut ⟨.endInValue, .endInTable⟩
            | '}' :: _ => .cut ⟨.trailingComma, .keyNotText⟩
            | start => readMember fuel start

def readMember : Nat → List Char → Members
  | 0, _ => .cut innerTrouble
  | fuel + 1, characters =>
      match characters with
      | '"' :: after =>
          match readText after with
          | ⟨.ok _, .error fault⟩ => .cut (.same fault)
          | ⟨.error fault, .error other⟩ => .cut ⟨fault, other⟩
          | ⟨characters, .ok rest⟩ =>
              let name := characters.map String.ofList
              match skipSpace rest with
              | ':' :: start =>
                  match readValue fuel start with
                  | (value, none) => (Members.cut innerTrouble).cons (name, value)
                  | (value, some rest) => (readMembers fuel false rest).cons (name, value)
              -- The name counts even when no value follows it.
              | [] => (Members.cut innerTrouble).cons (name, .broken (.same .endInTable))
              | _ => (Members.cut innerTrouble).cons (name, .broken (.same .expectedColon))
      | _ => .cut (.same .keyNotText)

end

/-- Fuel that suffices for a text: three steps a character. -/
def fuelFor (characters : List Char) : Nat := 3 * characters.length + 3

/-- The value at the front of a text, and what follows it. -/
def ofText (text : String) : Part := readValue (fuelFor text.toList) text.toList

end BuildLedger.Json
