import BuildLedger.Text.Unprintable

/-!
# Quoted text in messages

A message that quotes a text puts it between double quotes. The quote, the backslash and the
common controls have two-character escapes; every other unprintable character is shown by its
code point in lower-case hexadecimal without padding.
-/
namespace BuildLedger.Text

/-- A number in lower-case hexadecimal, without padding. -/
def hexNumber (value : Nat) : String :=
  String.ofList (Nat.toDigits 16 value)

def quoteCharacter (character : Char) : String :=
  if character == '"' then "\\\""
  else if character == '\\' then "\\\\"
  else if character == '\n' then "\\n"
  else if character == '\r' then "\\r"
  else if character == '\t' then "\\t"
  else if character == '\x00' then "\\0"
  else if isUnprintable character then "\\u\x7b" ++ hexNumber character.toNat ++ "\x7d"
  else String.singleton character

/-- The text between double quotes, as messages show it. -/
def quoted (text : String) : String :=
  "\"" ++ String.join (text.toList.map quoteCharacter) ++ "\""

end BuildLedger.Text
