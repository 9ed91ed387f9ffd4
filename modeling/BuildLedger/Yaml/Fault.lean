import BuildLedger.Shape

/-!
# Faults of YAML text

A fault is the reason why a text is not well-formed YAML: what was met, and often what was being
read. A problem is a fault, or a mismatch between a well-formed value and the shape that is expected
at its place.
-/
namespace BuildLedger.Yaml

/-- Where an anchor, a tag or a directive was being read. -/
inductive Mark where
  | anchor
  | aliasMark
deriving Repr, DecidableEq

inductive Fault where
  /-- A control character in the text, with its offset in bytes. -/
  | controlCharacter (offset : Nat)
  | unstartableToken
  | keyWithoutColon
  | misplacedEntry
  | misplacedKey
  | misplacedValue
  | unknownDirective
  | missingDirectiveName
  | directiveNameCharacter
  | directiveEnd
  | longVersion
  | missingVersion
  | versionCharacter
  | tagDirectiveBlank
  | tagDirectiveEnd
  | emptyMark (mark : Mark)
  | unclosedTag
  | tagEnd
  | tagWithoutMark (directive : Bool)
  | handleWithoutMark
  | missingTagText (directive : Bool)
  | missingOctet (directive : Bool)
  | leadingOctet (directive : Bool)
  | trailingOctet (directive : Bool)
  | zeroIndentation
  | blockHeaderEnd
  | tabInIndentation
  | documentMarkInQuotes
  | endInQuotes
  | unknownEscape
  | missingHexDigits
  | invalidCodePoint
  | tabInPlain
  | colonInPlain
  | missingDocumentStart
  | repeatedVersion
  | incompatibleVersion
  | repeatedTagDirective
  | undefinedHandle
  | missingNode (block : Bool)
  | missingDash
  | missingKey
  | listUnfinished
  | tableUnfinished
  | unknownAnchor
  | endOfText
  | severalDocuments
deriving Repr, DecidableEq

namespace Fault

/-- What was met. -/
def problem : Fault → String
  | .controlCharacter offset =>
      "control characters are not allowed" ++
        (if offset = 0 then "" else " at position " ++ toString offset)
  | .unstartableToken => "found character that cannot start any token"
  | .keyWithoutColon => "could not find expected ':'"
  | .misplacedEntry => "block sequence entries are not allowed in this context"
  | .misplacedKey => "mapping keys are not allowed in this context"
  | .misplacedValue => "mapping values are not allowed in this context"
  | .unknownDirective => "found unknown directive name"
  | .missingDirectiveName => "could not find expected directive name"
  | .directiveNameCharacter => "found unexpected non-alphabetical character"
  | .directiveEnd => "did not find expected comment or line break"
  | .longVersion => "found extremely long version number"
  | .missingVersion => "did not find expected version number"
  | .versionCharacter => "did not find expected digit or '.' character"
  | .tagDirectiveBlank => "did not find expected whitespace"
  | .tagDirectiveEnd => "did not find expected whitespace or line break"
  | .emptyMark _ => "did not find expected alphabetic or numeric character"
  | .unclosedTag => "did not find the expected '>'"
  | .tagEnd => "did not find expected whitespace or line break"
  | .tagWithoutMark _ => "did not find expected '!'"
  | .handleWithoutMark => "did not find expected '!'"
  | .missingTagText _ => "did not find expected tag URI"
  | .missingOctet _ => "did not find URI escaped octet"
  | .leadingOctet _ => "found an incorrect leading UTF-8 octet"
  | .trailingOctet _ => "found an incorrect trailing UTF-8 octet"
  | .zeroIndentation => "found an indentation indicator equal to 0"
  | .blockHeaderEnd => "did not find expected comment or line break"
  | .tabInIndentation => "found a tab character where an indentation space is expected"
  | .documentMarkInQuotes => "found unexpected document indicator"
  | .endInQuotes => "found unexpected end of stream"
  | .unknownEscape => "found unknown escape character"
  | .missingHexDigits => "did not find expected hexdecimal number"
  | .invalidCodePoint => "found invalid Unicode character escape code"
  | .tabInPlain => "found a tab character that violates indentation"
  | .colonInPlain => "found unexpected ':'"
  | .missingDocumentStart => "did not find expected <document start>"
  | .repeatedVersion => "found duplicate %YAML directive"
  | .incompatibleVersion => "found incompatible YAML document"
  | .repeatedTagDirective => "found duplicate %TAG directive"
  | .undefinedHandle => "found undefined tag handle"
  | .missingNode _ => "did not find expected node content"
  | .missingDash => "did not find expected '-' indicator"
  | .missingKey => "did not find expected key"
  | .listUnfinished => "did not find expected ',' or ']'"
  | .tableUnfinished => "did not find expected ',' or '\x7d'"
  | .unknownAnchor => "unknown anchor"
  | .endOfText => "EOF while parsing a value"
  | .severalDocuments =>
      "deserializing from YAML containing more than one document is not supported"

/-- What was being read, where the fault names it. -/
def context : Fault → Option String
  | .unstartableToken => some "while scanning for the next token"
  | .keyWithoutColon => some "while scanning a simple key"
  | .unknownDirective | .missingDirectiveName | .directiveNameCharacter | .directiveEnd =>
      some "while scanning a directive"
  | .longVersion | .missingVersion | .versionCharacter =>
      some "while scanning a %YAML directive"
  | .tagDirectiveBlank | .tagDirectiveEnd => some "while scanning a %TAG directive"
  | .emptyMark .anchor => some "while scanning an anchor"
  | .emptyMark .aliasMark => some "while scanning an alias"
  | .unclosedTag | .tagEnd => some "while scanning a tag"
  | .tagWithoutMark directive =>
      some (if directive then "while scanning a directive" else "while scanning a tag")
  | .handleWithoutMark => some "while parsing a directive"
  | .missingTagText directive | .missingOctet directive | .leadingOctet directive
  | .trailingOctet directive =>
      some (if directive then "while parsing a %TAG directive" else "while parsing a tag")
  | .zeroIndentation | .blockHeaderEnd | .tabInIndentation =>
      some "while scanning a block scalar"
  | .documentMarkInQuotes | .endInQuotes => some "while scanning a quoted scalar"
  | .unknownEscape | .missingHexDigits | .invalidCodePoint =>
      some "while parsing a quoted scalar"
  | .tabInPlain | .colonInPlain => some "while scanning a plain scalar"
  | .undefinedHandle => some "while parsing a node"
  | .missingNode block =>
      some (if block then "while parsing a block node" else "while parsing a flow node")
  | .missingDash => some "while parsing a block collection"
  | .missingKey => some "while parsing a block mapping"
  | .listUnfinished => some "while parsing a flow sequence"
  | .tableUnfinished => some "while parsing a flow mapping"
  | _ => none

def message (fault : Fault) : String :=
  match fault.context with
  | some context => fault.problem ++ ", " ++ context
  | none => fault.problem

end Fault

/-- Why a text is not read as a value; a mismatch carries the place of the value, if not the top. -/
inductive Problem where
  | fault (cause : Fault)
  | mismatch (place : String) (cause : Mismatch)
deriving Repr, DecidableEq

def Problem.message : Problem → String
  | .fault cause => cause.message
  | .mismatch place cause => (if place.isEmpty then "" else place ++ ": ") ++ cause.message

end BuildLedger.Yaml
