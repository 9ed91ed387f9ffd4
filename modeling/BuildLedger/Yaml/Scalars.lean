import BuildLedger.Yaml.Token

/-!
# Scanning YAML scalars

Quoted and plain scalars may run over several lines: blanks around a line break are dropped, a
single break becomes a space, and of several breaks all but the first are kept. A literal scalar
keeps its lines; a folded one joins lines that do not start with a blank. Each scanner gets the
indentation of the block around the scalar and returns its text and the cursor behind it.
-/
namespace BuildLedger.Yaml

/-- The breaks between two lines of a folded text: a lone line feed becomes a space. -/
def foldBreaks (first : List Char) (others : List Char) : List Char :=
  if first == ['\n'] then (if others.isEmpty then [' '] else others)
  else first ++ others

/-! ## Quoted scalars -/

/-- The text of an escape that is one character long. -/
def escapeText? : Char → Option (List Char)
  | '0' => some ['\x00']
  | 'a' => some ['\x07']
  | 'b' => some ['\x08']
  | 't' => some ['\t']
  | '\t' => some ['\t']
  | 'n' => some ['\n']
  | 'v' => some ['\x0b']
  | 'f' => some ['\x0c']
  | 'r' => some ['\r']
  | 'e' => some ['\x1b']
  | ' ' => some [' ']
  | '"' => some ['"']
  | '/' => some ['/']
  | '\\' => some ['\\']
  | 'N' => some [Char.ofNat 0x85]
  | '_' => some [Char.ofNat 0xA0]
  | 'L' => some [Char.ofNat 0x2028]
  | 'P' => some [Char.ofNat 0x2029]
  | _ => none

/-- How many hexadecimal digits follow the letter of an escape. -/
def escapeWidth? : Char → Option Nat
  | 'x' => some 2
  | 'u' => some 4
  | 'U' => some 8
  | _ => none

def hexDigit? (character : Char) : Option Nat :=
  if isDigit character then some (character.toNat - 0x30)
  else if 'a' ≤ character && character ≤ 'f' then some (character.toNat - 0x57)
  else if 'A' ≤ character && character ≤ 'F' then some (character.toNat - 0x37)
  else none

/-- The number of that many hexadecimal digits at the front. -/
def hexNumber? (value : Nat) : Nat → List Char → Option Nat
  | 0, _ => some value
  | _ + 1, [] => none
  | count + 1, character :: rest =>
      (hexDigit? character).bind fun digit => hexNumber? (value * 16 + digit) count rest

/-- An escape after its backslash: its text and the cursor behind it. -/
def scanEscape (cursor : Cursor) : Except Fault (List Char × Cursor) :=
  match cursor.rest with
  | [] => .error .unknownEscape
  | letter :: rest =>
      match escapeText? letter, escapeWidth? letter with
      | some text, _ => .ok (text, cursor.skip 1)
      | none, none => .error .unknownEscape
      | none, some width =>
          match hexNumber? 0 width rest with
          | none => .error .missingHexDigits
          | some code =>
              if (0xD800 ≤ code && code ≤ 0xDFFF) || 0x10FFFF < code then .error .invalidCodePoint
              else .ok ([Char.ofNat code], cursor.skip (width + 1))

/-- The blanks and breaks between two words of a quoted scalar. -/
structure Gap where
  /-- Blanks before the first break. -/
  blanks : List Char := []
  /-- Whether a line was left. -/
  broken : Bool := false
  firstBreak : List Char := []
  otherBreaks : List Char := []

/-- What a gap contributes to the text. -/
def Gap.text (gap : Gap) : List Char :=
  if gap.broken then foldBreaks gap.firstBreak gap.otherBreaks else gap.blanks

/-- Take all blanks and breaks. A tab may be refused where it would stand for indentation. -/
def scanGap (tabLimit : Option Nat) : Nat → Gap → Cursor → Except Fault (Gap × Cursor)
  | 0, gap, cursor => .ok (gap, cursor)
  | fuel + 1, gap, cursor =>
      match cursor.rest with
      | [] => .ok (gap, cursor)
      | character :: _ =>
          if isBlank character then
            let refused := match tabLimit with
              | some limit => gap.broken && cursor.column < limit && character == '\t'
              | none => false
            if refused then .error .tabInPlain
            else if gap.broken then scanGap tabLimit fuel gap (cursor.skip 1)
            else
              scanGap tabLimit fuel { gap with blanks := gap.blanks ++ [character] } (cursor.skip 1)
          else if isBreak character then
            let (text, next) := cursor.takeBreak
            if gap.broken then
              scanGap tabLimit fuel { gap with otherBreaks := gap.otherBreaks ++ text } next
            else scanGap tabLimit fuel { gap with broken := true, firstBreak := text } next
          else .ok (gap, cursor)

/-- The characters of a word up to a blank, a break or the closing quote, with those before it in
reverse. The flag tells that an escaped line break ended it. -/
def scanQuotedWord (single : Bool) : Nat → List Char → Cursor →
    Except Fault (List Char × Bool × Cursor)
  | 0, taken, cursor => .ok (taken.reverse, false, cursor)
  | fuel + 1, taken, cursor =>
      match cursor.rest with
      | [] => .ok (taken.reverse, false, cursor)
      | character :: rest =>
          if isBlank character || isBreak character then .ok (taken.reverse, false, cursor)
          else if single && character == '\'' then
            match rest with
            | '\'' :: _ => scanQuotedWord single fuel ('\'' :: taken) (cursor.skip 2)
            | _ => .ok (taken.reverse, false, cursor)
          else if !single && character == '"' then .ok (taken.reverse, false, cursor)
          else if !single && character == '\\' then
            if startsBreak rest then .ok (taken.reverse, true, ((cursor.skip 1).takeBreak).2)
            else
              match scanEscape (cursor.skip 1) with
              | .error fault => .error fault
              | .ok (escaped, next) => scanQuotedWord single fuel (escaped.reverse ++ taken) next
          else scanQuotedWord single fuel (character :: taken) (cursor.skip 1)

/-- A quoted scalar after its opening quote; `taken` holds what was read, the last word first. -/
def scanQuoted (single : Bool) :
    Nat → List (List Char) → Cursor → Except Fault (List Char × Cursor)
  | 0, _, _ => .error .endInQuotes
  | fuel + 1, taken, cursor =>
      if cursor.column == 0 && isDocumentMark cursor.rest then .error .documentMarkInQuotes
      else if cursor.rest.isEmpty then .error .endInQuotes
      else
        match scanQuotedWord single (cursor.left + 1) [] cursor with
        | .error fault => .error fault
        | .ok (word, escapedBreak, next) =>
            if startsWith false (· == (if single then '\'' else '"')) next.rest then
              .ok ((word :: taken).reverse.flatten, next.skip 1)
            else
              match scanGap none (next.left + 1) { broken := escapedBreak } next with
              | .error fault => .error fault
              | .ok (gap, next) => scanQuoted single fuel (gap.text :: word :: taken) next

/-! ## Plain scalars -/

def isFlowMark (character : Char) : Bool :=
  character == ',' || character == '[' || character == ']' || character == '{' || character == '}'

/-- The characters of a word of a plain scalar, with those before it in reverse. -/
def scanPlainWord (inFlow : Bool) : Nat → List Char → Cursor → Except Fault (List Char × Cursor)
  | 0, taken, cursor => .ok (taken.reverse, cursor)
  | fuel + 1, taken, cursor =>
      match cursor.rest with
      | [] => .ok (taken.reverse, cursor)
      | character :: rest =>
          if isBlank character || isBreak character then .ok (taken.reverse, cursor)
          else if inFlow && character == ':' &&
              startsWith false (fun next => isFlowMark next || next == '?') rest then
            .error .colonInPlain
          else if (character == ':' && endsWord rest) || (inFlow && isFlowMark character) then
            .ok (taken.reverse, cursor)
          else scanPlainWord inFlow fuel (character :: taken) (cursor.skip 1)

/-- A plain scalar; `taken` holds what was read, the last word first. `gap` is what stands before
the next word, and counts only if there is one. The flag tells that the scalar ended on a new
line. -/
def scanPlain (inFlow : Bool) (indent : Nat) : Nat → List (List Char) → Gap → Cursor →
    Except Fault (List Char × Bool × Cursor)
  | 0, taken, gap, cursor => .ok (taken.reverse.flatten, gap.broken, cursor)
  | fuel + 1, taken, gap, cursor =>
      if (cursor.column == 0 && isDocumentMark cursor.rest) ||
          startsWith false (· == '#') cursor.rest then
        .ok (taken.reverse.flatten, gap.broken, cursor)
      else
        match scanPlainWord inFlow (cursor.left + 1) [] cursor with
        | .error fault => .error fault
        | .ok (word, next) =>
            let taken := if word.isEmpty then taken else word :: gap.text :: taken
            let gap := if word.isEmpty then gap else {}
            if !startsBlank next.rest && !startsBreak next.rest then
              .ok (taken.reverse.flatten, gap.broken, next)
            else
              match scanGap (some indent) (next.left + 1) gap next with
              | .error fault => .error fault
              | .ok (gap, next) =>
                  if !inFlow && next.column < indent then
                    .ok (taken.reverse.flatten, gap.broken, next)
                  else scanPlain inFlow indent fuel taken gap next

/-! ## Block scalars -/

/-- What becomes of the line breaks at the end of a block scalar. -/
inductive Chomping where
  | strip
  | clip
  | keep
deriving Repr, DecidableEq

/-- The header of a block scalar after its mark: an indentation and a chomping in any order. -/
def scanBlockHeader (cursor : Cursor) : Except Fault (Nat × Chomping × Cursor) :=
  let chomping? : List Char → Option Chomping
    | '+' :: _ => some .keep
    | '-' :: _ => some .strip
    | _ => none
  let digit? : List Char → Option Nat
    | character :: _ => if isDigit character then some (character.toNat - 0x30) else none
    | [] => none
  match chomping? cursor.rest, digit? cursor.rest with
  | some chomping, _ =>
      let next := cursor.skip 1
      match digit? next.rest with
      | some 0 => .error .zeroIndentation
      | some digit => .ok (digit, chomping, next.skip 1)
      | none => .ok (0, chomping, next)
  | none, some 0 => .error .zeroIndentation
  | none, some digit =>
      let next := cursor.skip 1
      match chomping? next.rest with
      | some chomping => .ok (digit, chomping, next.skip 1)
      | none => .ok (digit, .clip, next)
  | none, none => .ok (0, .clip, cursor)

/-- Take indentation and empty lines: the breaks and the widest indentation that was seen. An
indentation of zero stands for one that is not known yet. -/
def scanBlockBreaks (indent : Nat) : Nat → Nat → List Char → Cursor →
    Except Fault (List Char × Nat × Cursor)
  | 0, widest, breaks, cursor => .ok (breaks, widest, cursor)
  | fuel + 1, widest, breaks, cursor =>
      let spaces := (cursor.rest.takeWhile (· == ' ')).length
      let wanted := if indent == 0 then spaces else min spaces (indent - cursor.column)
      let next := cursor.skip wanted
      let widest := max widest next.column
      if (indent == 0 || next.column < indent) && startsWith false (· == '\t') next.rest then
        .error .tabInIndentation
      else if startsBreak next.rest then
        let (text, after) := next.takeBreak
        scanBlockBreaks indent fuel widest (breaks ++ text) after
      else .ok (breaks, widest, next)

/-- The lines of a block scalar; `taken` holds what was read, the last line first. `lastBreak` ended
the line before, `breaks` are the empty lines since then, and `afterBlank` tells that the line
before started with a blank. The three results besides the cursor are the text, the last break and
the empty lines at the end. -/
def scanBlockLines (folded : Bool) (indent : Nat) :
    Nat → List (List Char) → List Char → List Char → Bool → Cursor →
      Except Fault (List Char × List Char × List Char × Cursor)
  | 0, taken, lastBreak, breaks, _, cursor =>
      .ok (taken.reverse.flatten, lastBreak, breaks, cursor)
  | fuel + 1, taken, lastBreak, breaks, afterBlank, cursor =>
      if cursor.column != indent || cursor.rest.isEmpty then
        .ok (taken.reverse.flatten, lastBreak, breaks, cursor)
      else
        let startsWithBlank := startsBlank cursor.rest
        let joined :=
          if folded && lastBreak == ['\n'] && !afterBlank && !startsWithBlank then
            (if breaks.isEmpty then [' '] else [])
          else lastBreak
        let (line, lineEnd) := cursor.takeWhile fun character => !isBreak character
        let (ended, next) := lineEnd.takeBreak
        match scanBlockBreaks indent (next.left + 1) 0 [] next with
        | .error fault => .error fault
        | .ok (empty, _, after) =>
            scanBlockLines folded indent fuel (line :: breaks :: joined :: taken) ended empty
              startsWithBlank after

/-- A literal or folded scalar after its mark, inside a block of some indentation. -/
def scanBlock (folded : Bool) (parent : Int) (cursor : Cursor) :
    Except Fault (List Char × Cursor) := do
  let (increment, chomping, cursor) ← scanBlockHeader cursor
  let cursor := cursor.skipToLineEnd
  if !endsLine cursor.rest then throw .blockHeaderEnd
  let (_, cursor) := cursor.takeBreak
  let given := if increment == 0 then 0 else (max parent 0).toNat + increment
  let (breaks, widest, cursor) ← scanBlockBreaks given (cursor.left + 1) 0 [] cursor
  let indent := if given != 0 then given else max widest (max (parent + 1) 1).toNat
  let (text, lastBreak, breaks, cursor) ←
    scanBlockLines folded indent (cursor.left + 1) [] [] breaks false cursor
  let tail := match chomping with
    | .strip => []
    | .clip => lastBreak
    | .keep => lastBreak ++ breaks
  return (text ++ tail, cursor)

end BuildLedger.Yaml
