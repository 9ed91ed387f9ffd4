import BuildLedger.Yaml.Scalars

/-!
# Scanning anchors, tags and directives

An anchor names a node, an alias stands for the node of that name, and a tag says what kind of node
it is. Directives at the start of a document set its version and abbreviate tags. Characters of a
tag may be given as octets of their UTF-8 form, each after a percent sign.
-/
namespace BuildLedger.Yaml

/-- The name of an anchor or alias after its mark. -/
def scanMark (mark : Mark) (cursor : Cursor) : Except Fault (String × Cursor) :=
  let (name, next) := cursor.takeWhile isNameCharacter
  let ends := startsWith true fun character =>
    isBlank character || isBreak character ||
      ['?', ':', ',', ']', '}', '%', '@', '`'].contains character
  if name.isEmpty || !ends next.rest then .error (.emptyMark mark)
  else .ok (String.ofList name, next)

/-- The number of octets of a character by its first octet. -/
def octetCount? (octet : Nat) : Option Nat :=
  if octet < 0x80 then some 1
  else if 0xC0 ≤ octet && octet < 0xE0 then some 2
  else if 0xE0 ≤ octet && octet < 0xF0 then some 3
  else if 0xF0 ≤ octet && octet < 0xF8 then some 4
  else none

def octet? : List Char → Option Nat
  | '%' :: rest => hexNumber? 0 2 rest
  | _ => none

/-- The further octets of a character. -/
def scanOctets (directive : Bool) : Nat → List UInt8 → Cursor → Except Fault (List UInt8 × Cursor)
  | 0, octets, cursor => .ok (octets, cursor)
  | count + 1, octets, cursor =>
      match octet? cursor.rest with
      | none => .error (.missingOctet directive)
      | some octet =>
          if octet / 64 = 2 then
            scanOctets directive count (octets ++ [octet.toUInt8]) (cursor.skip 3)
          else .error (.trailingOctet directive)

/-- A character given by octets. -/
def scanOctetCharacter (directive : Bool) (cursor : Cursor) :
    Except Fault (List UInt8 × Cursor) :=
  match octet? cursor.rest with
  | none => .error (.missingOctet directive)
  | some octet =>
      match octetCount? octet with
      | none => .error (.leadingOctet directive)
      | some count => scanOctets directive (count - 1) [octet.toUInt8] (cursor.skip 3)

def isTagCharacter (verbatim : Bool) (character : Char) : Bool :=
  isNameCharacter character ||
    [';', '/', '?', ':', '@', '&', '=', '+', '$', '.', '%', '!', '~', '*', '\'', '(', ')'].contains
      character ||
    (verbatim && [',', '[', ']'].contains character)

/-- The octets of the text of a tag. -/
def scanTagOctets (verbatim directive : Bool) : Nat → List UInt8 → Cursor →
    Except Fault (List UInt8 × Cursor)
  | 0, octets, cursor => .ok (octets, cursor)
  | fuel + 1, octets, cursor =>
      match cursor.rest with
      | [] => .ok (octets, cursor)
      | character :: _ =>
          if character == '%' then
            match scanOctetCharacter directive cursor with
            | .error fault => .error fault
            | .ok (more, next) => scanTagOctets verbatim directive fuel (octets ++ more) next
          else if isTagCharacter verbatim character then
            scanTagOctets verbatim directive fuel (octets ++ [character.toNat.toUInt8])
              (cursor.skip 1)
          else .ok (octets, cursor)

/-- The text of a tag after what was read of it already. It must not be empty as a whole. -/
def scanTagText (verbatim directive : Bool) (head : List Char) (cursor : Cursor) :
    Except Fault (String × Cursor) :=
  match scanTagOctets verbatim directive (cursor.left + 1) [] cursor with
  | .error fault => .error fault
  | .ok (octets, next) =>
      if octets.isEmpty && head.isEmpty then .error (.missingTagText directive)
      else
        let text := (String.fromUTF8? ⟨octets.toArray⟩).getD "\uFFFD"
        .ok (String.ofList (head.drop 1) ++ text, next)

/-- The handle of a tag: a mark, and a name with another mark if there is one. -/
def scanHandle (directive : Bool) (cursor : Cursor) : Except Fault (List Char × Cursor) :=
  match cursor.rest with
  | '!' :: _ =>
      let (name, next) := (cursor.skip 1).takeWhile isNameCharacter
      match next.rest with
      | '!' :: _ => .ok ('!' :: name ++ ['!'], next.skip 1)
      | _ =>
          if directive && !name.isEmpty then .error .handleWithoutMark
          else .ok ('!' :: name, next)
  | _ => .error (.tagWithoutMark directive)

/-- A tag, from its mark on: the handle and what follows it. -/
def scanTag (inFlow : Bool) (cursor : Cursor) : Except Fault (Token × Cursor) := do
  let (tag, next) ← match cursor.rest with
    | '!' :: '<' :: _ => do
        let (text, next) ← scanTagText true false [] (cursor.skip 2)
        if !startsWith false (· == '>') next.rest then throw .unclosedTag
        pure (Token.tag "" text, next.skip 1)
    | _ => do
        let (handle, next) ← scanHandle false cursor
        if 1 < handle.length && handle.getLast? == some '!' then
          let (text, next) ← scanTagText false false [] next
          pure (Token.tag (String.ofList handle) text, next)
        else
          let (text, next) ← scanTagText false false handle next
          pure (if text.isEmpty then Token.tag "" "!" else Token.tag "!" text, next)
  let ended := endsWord next.rest || (inFlow && startsWith false (· == ',') next.rest)
  if !ended then throw .tagEnd
  return (tag, next)

/-- Most digits of a version number. -/
def versionDigits : Nat := 9

def scanVersionNumber (cursor : Cursor) : Except Fault (Nat × Cursor) :=
  let (digits, next) := cursor.takeWhile isDigit
  if versionDigits < digits.length then .error .longVersion
  else if digits.isEmpty then .error .missingVersion
  else .ok (digits.foldl (fun value digit => value * 10 + (digit.toNat - 0x30)) 0, next)

def scanVersion (cursor : Cursor) : Except Fault (Token × Cursor) := do
  let (major, next) ← scanVersionNumber (cursor.skipWhile isBlank)
  if !startsWith false (· == '.') next.rest then throw .versionCharacter
  let (minor, next) ← scanVersionNumber (next.skip 1)
  return (.versionDirective major minor, next)

def scanTagDirective (cursor : Cursor) : Except Fault (Token × Cursor) := do
  let (handle, next) ← scanHandle true (cursor.skipWhile isBlank)
  if !startsBlank next.rest then throw .tagDirectiveBlank
  let (text, next) ← scanTagText true true [] (next.skipWhile isBlank)
  if !endsWord next.rest then throw .tagDirectiveEnd
  return (.tagDirective (String.ofList handle) text, next)

/-- A directive, from its mark to the end of its line. -/
def scanDirective (cursor : Cursor) : Except Fault (Token × Cursor) := do
  let (name, next) := (cursor.skip 1).takeWhile isNameCharacter
  if name.isEmpty then throw .missingDirectiveName
  if !endsWord next.rest then throw .directiveNameCharacter
  let (token, next) ← match String.ofList name with
    | "YAML" => scanVersion next
    | "TAG" => scanTagDirective next
    | _ => throw .unknownDirective
  let next := next.skipToLineEnd
  if !endsLine next.rest then throw .directiveEnd
  return (token, next.takeBreak.2)

end BuildLedger.Yaml
