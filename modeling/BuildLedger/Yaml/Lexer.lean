import BuildLedger.Yaml.Marks

/-!
# From YAML text to tokens

Tokens are made on demand, as far ahead as it takes to know whether the first of them starts the key
of a table. A possible key is remembered for every level of brackets; when a colon follows it, marks
are put in front of it after the fact. In block style the indentation decides where lists and tables
begin and end.
-/
namespace BuildLedger.Yaml

/-- A place where the key of a table may have started. -/
structure PossibleKey where
  /-- The number of the token that would be the key. -/
  token : Nat
  /-- Nothing but a key can stand at the place. -/
  required : Bool
  index : Nat
  line : Nat
  column : Nat

structure Lexer where
  cursor : Cursor
  /-- Tokens that were made and not taken. -/
  waiting : List Token := []
  /-- How many tokens were taken. -/
  taken : Nat := 0
  indent : Int := -1
  /-- Indentations of the blocks around the current one, the inner ones first. -/
  outer : List Int := []
  keyAllowed : Bool := true
  /-- The possible key of every level of brackets, the inner ones first. -/
  keys : List (Option PossibleKey) := [none]
  started : Bool := false
  ended : Bool := false

namespace Lexer

def ofCharacters (characters : List Char) : Lexer :=
  { cursor := { rest := characters, size := characters.length } }

/-- Whether the place is inside brackets. -/
def inFlow (lexer : Lexer) : Bool := !(lexer.keys.drop 1).isEmpty

def emit (token : Token) (lexer : Lexer) : Lexer :=
  { lexer with waiting := lexer.waiting ++ [token] }

/-- Put a token in front of the one with a number. -/
def emitBefore (number : Nat) (token : Token) (lexer : Lexer) : Lexer :=
  let place := number - lexer.taken
  { lexer with waiting := lexer.waiting.take place ++ token :: lexer.waiting.drop place }

def skip (count : Nat) (lexer : Lexer) : Lexer := { lexer with cursor := lexer.cursor.skip count }

/-- Longest distance between the start of a key and its colon. -/
def keyLimit : Nat := 1024

/-- Give up the possible keys that are too far back. -/
def dropStaleKeys (lexer : Lexer) : Except Fault Lexer :=
  let stale (key : PossibleKey) : Bool :=
    key.line < lexer.cursor.line || key.index + keyLimit < lexer.cursor.index
  let isStale (key : Option PossibleKey) : Bool := (key.map stale).getD false
  if !lexer.keys.any isStale then .ok lexer
  else if lexer.keys.any fun key => isStale key && (key.map (·.required)).getD false then
    .error .keyWithoutColon
  else .ok { lexer with keys := lexer.keys.map fun key => if isStale key then none else key }

def setKey (key : Option PossibleKey) (lexer : Lexer) : Lexer :=
  { lexer with keys := key :: lexer.keys.drop 1 }

/-- Give up the possible key of this level. -/
def dropKey (lexer : Lexer) : Except Fault Lexer :=
  match lexer.keys.head? with
  | some (some key) => if key.required then .error .keyWithoutColon else .ok (lexer.setKey none)
  | _ => .ok lexer

/-- Remember that a key may start here. -/
def noteKey (lexer : Lexer) : Except Fault Lexer :=
  if lexer.keyAllowed then do
    let cursor := lexer.cursor
    let cleared ← lexer.dropKey
    return cleared.setKey (some {
      token := lexer.taken + lexer.waiting.length
      required := !lexer.inFlow && lexer.indent == cursor.column
      index := cursor.index
      line := cursor.line
      column := cursor.column
    })
  else .ok lexer

/-- Open a block when the column is deeper than the current one. -/
def openBlock (column : Nat) (place : Option Nat) (token : Token) (lexer : Lexer) : Lexer :=
  if lexer.inFlow || (column : Int) ≤ lexer.indent then lexer
  else
    let deeper := { lexer with indent := column, outer := lexer.indent :: lexer.outer }
    match place with
    | none => deeper.emit token
    | some number => deeper.emitBefore number token

/-- Close the blocks that are deeper than a column. -/
def closeBlocks (column : Int) (lexer : Lexer) : Lexer :=
  if lexer.inFlow then lexer else go lexer.outer lexer
where
  go : List Int → Lexer → Lexer
    | [], lexer => lexer
    | indent :: outer, lexer =>
        if column < lexer.indent then
          go outer { lexer.emit .blockEnd with indent := indent, outer := outer }
        else lexer

/-- Skip blanks, comments and line breaks before a token. -/
def skipToToken : Nat → Lexer → Lexer
  | 0, lexer => lexer
  | fuel + 1, lexer =>
      let cursor := lexer.cursor
      let cursor := if cursor.column == 0 && startsWith false (·.toNat == 0xFEFF) cursor.rest then
        cursor.skip 1 else cursor
      let tabs := lexer.inFlow || !lexer.keyAllowed
      let cursor := cursor.skipWhile fun character =>
        character == ' ' || (tabs && character == '\t')
      let cursor := match cursor.rest with
        | '#' :: _ => cursor.skipWhile fun character => !isBreak character
        | _ => cursor
      if startsBreak cursor.rest then
        skipToToken fuel { lexer with
          cursor := cursor.takeBreak.2
          keyAllowed := lexer.keyAllowed || !lexer.inFlow }
      else { lexer with cursor := cursor }

/-! ## The kinds of tokens -/

/-- The end of the text ends its last line too, so no key can be waiting for a colon any more. -/
def fetchEnd (lexer : Lexer) : Except Fault Lexer := do
  let cursor := lexer.cursor
  let line := if cursor.column == 0 then cursor.line else cursor.line + 1
  let lexer ← (lexer.closeBlocks (-1)).dropKey
  return { lexer.emit .streamEnd with
    keyAllowed := false, ended := true, cursor := { cursor with line := line, column := 0 } }

def fetchDirective (lexer : Lexer) : Except Fault Lexer := do
  let lexer ← (lexer.closeBlocks (-1)).dropKey
  let (token, cursor) ← scanDirective lexer.cursor
  return { lexer.emit token with keyAllowed := false, cursor := cursor }

def fetchDocumentMark (token : Token) (lexer : Lexer) : Except Fault Lexer := do
  let lexer ← (lexer.closeBlocks (-1)).dropKey
  return { (lexer.skip 3).emit token with keyAllowed := false }

def fetchFlowStart (token : Token) (lexer : Lexer) : Except Fault Lexer := do
  let lexer ← lexer.noteKey
  return { (lexer.skip 1).emit token with keys := none :: lexer.keys, keyAllowed := true }

def fetchFlowEnd (token : Token) (lexer : Lexer) : Except Fault Lexer := do
  let lexer ← lexer.dropKey
  let keys := if lexer.inFlow then lexer.keys.drop 1 else lexer.keys
  return { (lexer.skip 1).emit token with keys := keys, keyAllowed := false }

def fetchComma (lexer : Lexer) : Except Fault Lexer := do
  let lexer ← lexer.dropKey
  return { (lexer.skip 1).emit .comma with keyAllowed := true }

def fetchDash (lexer : Lexer) : Except Fault Lexer := do
  if !lexer.inFlow && !lexer.keyAllowed then throw .misplacedEntry
  let lexer ← (lexer.openBlock lexer.cursor.column none .blockListStart).dropKey
  return { (lexer.skip 1).emit .dash with keyAllowed := true }

def fetchKey (lexer : Lexer) : Except Fault Lexer := do
  if !lexer.inFlow && !lexer.keyAllowed then throw .misplacedKey
  let lexer ← (lexer.openBlock lexer.cursor.column none .blockTableStart).dropKey
  return { (lexer.skip 1).emit .key with keyAllowed := !lexer.inFlow }

def fetchColon (lexer : Lexer) : Except Fault Lexer := do
  match lexer.keys.head? with
  | some (some key) =>
      let marked := (lexer.emitBefore key.token .key).openBlock key.column (some key.token)
        .blockTableStart
      return { ((marked.setKey none).skip 1).emit .colon with keyAllowed := false }
  | _ =>
      if !lexer.inFlow && !lexer.keyAllowed then throw .misplacedValue
      let opened := lexer.openBlock lexer.cursor.column none .blockTableStart
      return { (opened.skip 1).emit .colon with keyAllowed := !lexer.inFlow }

def fetchMark (mark : Mark) (lexer : Lexer) : Except Fault Lexer := do
  let lexer ← lexer.noteKey
  let (name, cursor) ← scanMark mark (lexer.cursor.skip 1)
  let token := match mark with
    | .anchor => Token.anchor name
    | .aliasMark => Token.aliasOf name
  return { lexer.emit token with keyAllowed := false, cursor := cursor }

def fetchTag (lexer : Lexer) : Except Fault Lexer := do
  let lexer ← lexer.noteKey
  let (token, cursor) ← scanTag lexer.inFlow lexer.cursor
  return { lexer.emit token with keyAllowed := false, cursor := cursor }

def fetchBlock (folded : Bool) (lexer : Lexer) : Except Fault Lexer := do
  let lexer ← lexer.dropKey
  let (text, cursor) ← scanBlock folded lexer.indent (lexer.cursor.skip 1)
  let token := Token.scalar (String.ofList text) (if folded then .folded else .literal)
  return { lexer.emit token with keyAllowed := true, cursor := cursor }

def fetchQuoted (single : Bool) (lexer : Lexer) : Except Fault Lexer := do
  let lexer ← lexer.noteKey
  let start := lexer.cursor.skip 1
  let (text, cursor) ← scanQuoted single (start.left + 1) [] start
  let token := Token.scalar (String.ofList text) (if single then .singleQuoted else .doubleQuoted)
  return { lexer.emit token with keyAllowed := false, cursor := cursor }

def fetchPlain (lexer : Lexer) : Except Fault Lexer := do
  let lexer ← lexer.noteKey
  let (text, newLine, cursor) ← scanPlain lexer.inFlow (lexer.indent + 1).toNat
    (lexer.cursor.left + 1) [] {} lexer.cursor
  return { lexer.emit (.scalar (String.ofList text) .plain) with
    keyAllowed := newLine, cursor := cursor }

/-- Characters that never start a plain scalar, unless a rule of their own allows it. -/
def isIndicator (character : Char) : Bool :=
  ['-', '?', ':', ',', '[', ']', '{', '}', '#', '&', '*', '!', '|', '>', '\'', '"', '%', '@',
    '`'].contains character

/-- Make the tokens that start at the next character. -/
def fetchHere (lexer : Lexer) : Except Fault Lexer :=
  match lexer.cursor.rest with
  | [] => lexer.fetchEnd
  | character :: rest =>
      let flow := lexer.inFlow
      let atMargin := lexer.cursor.column == 0
      if atMargin && character == '%' then lexer.fetchDirective
      else if atMargin && isDocumentMark (character :: rest) then
        lexer.fetchDocumentMark (if character == '-' then .documentStart else .documentEnd)
      else if character == '[' then lexer.fetchFlowStart .flowListStart
      else if character == '{' then lexer.fetchFlowStart .flowTableStart
      else if character == ']' then lexer.fetchFlowEnd .flowListEnd
      else if character == '}' then lexer.fetchFlowEnd .flowTableEnd
      else if character == ',' then lexer.fetchComma
      else if character == '-' && endsWord rest then lexer.fetchDash
      else if character == '?' && (flow || endsWord rest) then lexer.fetchKey
      else if character == ':' && (flow || endsWord rest) then lexer.fetchColon
      else if character == '*' then lexer.fetchMark .aliasMark
      else if character == '&' then lexer.fetchMark .anchor
      else if character == '!' then lexer.fetchTag
      else if character == '|' && !flow then lexer.fetchBlock false
      else if character == '>' && !flow then lexer.fetchBlock true
      else if character == '\'' then lexer.fetchQuoted true
      else if character == '"' then lexer.fetchQuoted false
      else if !(isBlank character || isBreak character || isIndicator character) ||
          (character == '-' && !startsBlank rest) ||
          (!flow && (character == '?' || character == ':') && !endsWord rest) then
        lexer.fetchPlain
      else .error .unstartableToken

/-- Make the next tokens. -/
def fetch (lexer : Lexer) : Except Fault Lexer := do
  if !lexer.started then return { lexer.emit .streamStart with started := true }
  let lexer ← (lexer.skipToToken (lexer.cursor.left + 1)).dropStaleKeys
  (lexer.closeBlocks lexer.cursor.column).fetchHere

/-- Make tokens until the first one cannot turn out to start a key. -/
def ready : Nat → Lexer → Except Fault Lexer
  | 0, lexer => .ok lexer
  | fuel + 1, lexer => do
      if lexer.waiting.isEmpty then
        if lexer.ended then return lexer
        ready fuel (← lexer.fetch)
      else
        let lexer ← lexer.dropStaleKeys
        let undecided := lexer.keys.any fun key =>
          (key.map fun key => key.token == lexer.taken).getD false
        if undecided then ready fuel (← lexer.fetch) else return lexer

/-- The next token; the end of the text once there is no other. -/
def peek (lexer : Lexer) : Except Fault (Token × Lexer) := do
  let lexer ← ready (lexer.cursor.left + 3) lexer
  return (lexer.waiting.head?.getD .streamEnd, lexer)

/-- Take the token that was looked at. -/
def advance (lexer : Lexer) : Lexer :=
  { lexer with waiting := lexer.waiting.drop 1, taken := lexer.taken + 1 }

end Lexer

end BuildLedger.Yaml
