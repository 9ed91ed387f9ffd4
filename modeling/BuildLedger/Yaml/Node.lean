import BuildLedger.Yaml.Lexer

/-!
# From tokens to nodes

A node is a scalar, a list, a table or an alias. A text that stops being YAML somewhere still has a
node: everything up to that spot, and the fault there. So one walk over the node meets problems of
form and of content in the order of the text.

Anchors are numbered by how many different names came before, and of two nodes with one number the
later one counts. An alias means the number that its name has at that place.
-/
namespace BuildLedger.Yaml

structure Scalar where
  text : String
  style : Style
  tag : Option String
deriving Repr, DecidableEq

inductive Node where
  | scalar (value : Scalar)
  | list (tag : Option String) (items : List Node) (ending : Option Fault)
  | table (tag : Option String) (entries : List (Node × Node)) (ending : Option Fault)
  | aliasOf (anchor : Nat)
  /-- Nothing at all: a text without a document. -/
  | void
  | cut (fault : Fault)
deriving Inhabited

namespace Node

/-- A scalar that is left out. -/
def empty : Node := .scalar ⟨"", .plain, none⟩

end Node

/-- What is known while a document is put together. -/
structure Composer where
  lexer : Lexer
  /-- Abbreviations of tags. -/
  handles : List (String × String) := []
  /-- The number of every anchor's name. -/
  names : List (String × Nat) := []
  /-- The place, by order of appearance, of the node with a number; the latest comes first. -/
  places : List (Nat × Nat) := []
  /-- Nodes by their place. -/
  nodes : List (Nat × Node) := []

/-- A node, the fault that stopped it, and what is known behind it. -/
structure Composed where
  node : Node
  stopped : Option Fault
  after : Composer

/-- Parts of a list or a table, what stopped them, and what is known behind them. -/
structure Parts (Part : Type) where
  parts : List Part
  stopped : Option Fault
  after : Composer

namespace Parts

variable {Part : Type}

def done (after : Composer) : Parts Part := ⟨[], none, after⟩

def stop (after : Composer) (fault : Fault) : Parts Part := ⟨[], some fault, after⟩

def cons (part : Part) (parts : Parts Part) : Parts Part :=
  { parts with parts := part :: parts.parts }

end Parts

namespace Composer

def stop (composer : Composer) (fault : Fault) : Composed := ⟨.cut fault, some fault, composer⟩

def peek (composer : Composer) : Except Fault (Token × Composer) :=
  match composer.lexer.peek with
  | .error fault => .error fault
  | .ok (token, lexer) => .ok (token, { composer with lexer := lexer })

def advance (composer : Composer) : Composer := { composer with lexer := composer.lexer.advance }

/-! ## Anchors and tags -/

/-- Give an anchor its number, and the node that follows its place. -/
def openAnchor (composer : Composer) : Option String → Option Nat × Composer
  | none => (none, composer)
  | some name =>
      let number := composer.names.length
      let place := composer.places.length
      let names := (composer.names.filter fun entry => entry.1 != name) ++ [(name, number)]
      (some place, { composer with
        names := names
        places := (number, place) :: composer.places })

def closeAnchor (composer : Composer) (node : Node) : Option Nat → Composer
  | none => composer
  | some place => { composer with nodes := (place, node) :: composer.nodes }

/-- The node with an anchor's number. -/
def anchored? (composer : Composer) (number : Nat) : Option Node :=
  (composer.places.lookup number).bind fun place => composer.nodes.lookup place

/-- The anchor and the tag in front of a node, in any order. -/
structure Properties where
  anchor : Option String := none
  tag : Option (String × String) := none

def readProperties : Nat → Properties → Composer → Except Fault (Properties × Composer)
  | 0, properties, composer => .ok (properties, composer)
  | count + 1, properties, composer => do
      let (token, composer) ← composer.peek
      match token, properties with
      | .anchor name, ⟨none, tag⟩ => readProperties count ⟨some name, tag⟩ composer.advance
      | .tag handle suffix, ⟨anchor, none⟩ =>
          readProperties count ⟨anchor, some (handle, suffix)⟩ composer.advance
      | _, _ => return (properties, composer)

/-- The whole tag that a handle and a suffix stand for. -/
def resolveTag (composer : Composer) : Option (String × String) → Except Fault (Option String)
  | none => .ok none
  | some ("", suffix) => .ok (some suffix)
  | some (handle, suffix) =>
      match composer.handles.lookup handle with
      | some start => .ok (some (start ++ suffix))
      | none => .error .undefinedHandle

/-! ## Nodes -/

def isOneOf (tokens : List Token) (token : Token) : Bool := tokens.contains token

mutual

/-- A node; `block` where block style may start, `bare` where a list may start without
indentation. -/
def readNode : Nat → Bool → Bool → Composer → Composed
  | 0, _, _, composer => composer.stop .endOfText
  | fuel + 1, block, bare, composer =>
      match composer.peek with
      | .error fault => composer.stop fault
      | .ok (.aliasOf name, composer) =>
          match composer.names.lookup name with
          | some number => ⟨.aliasOf number, none, composer.advance⟩
          | none => composer.stop .unknownAnchor
      | .ok (_, composer) =>
          match readProperties 2 {} composer with
          | .error fault => composer.stop fault
          | .ok (properties, composer) =>
              match composer.resolveTag properties.tag with
              | .error fault => composer.stop fault
              | .ok tag => readContent fuel block bare properties.anchor tag composer

/-- A node behind its anchor and tag. -/
def readContent : Nat → Bool → Bool → Option String → Option String → Composer → Composed
  | 0, _, _, _, _, composer => composer.stop .endOfText
  | fuel + 1, block, bare, anchor, tag, composer =>
      match composer.peek with
      | .error fault => composer.stop fault
      | .ok (token, composer) =>
          let (place, opened) := composer.openAnchor anchor
          let finish (node : Node) (stopped : Option Fault) (after : Composer) : Composed :=
            ⟨node, stopped, after.closeAnchor node place⟩
          let listOf (items : Parts Node) : Composed :=
            finish (.list tag items.parts items.stopped) items.stopped items.after
          let tableOf (entries : Parts (Node × Node)) : Composed :=
            finish (.table tag entries.parts entries.stopped) entries.stopped entries.after
          let scalarTag := if tag == some "!" then none else tag
          match token with
          | .scalar text style => finish (.scalar ⟨text, style, scalarTag⟩) none opened.advance
          | .flowListStart => listOf (readFlowItems fuel true opened.advance)
          | .flowTableStart => tableOf (readFlowEntries fuel true opened.advance)
          | token =>
              if bare && token == .dash then listOf (readBareItems fuel opened)
              else if block && token == .blockListStart then
                listOf (readBlockItems fuel opened.advance)
              else if block && token == .blockTableStart then
                tableOf (readBlockEntries fuel opened.advance)
              else if anchor.isSome || tag.isSome then
                finish (.scalar ⟨"", .plain, scalarTag⟩) none opened
              else composer.stop (.missingNode block)

/-- A node, or an empty scalar before one of some tokens. -/
def readOptional : Nat → List Token → Bool → Bool → Composer → Composed
  | 0, _, _, _, composer => composer.stop .endOfText
  | fuel + 1, enders, block, bare, composer =>
      match composer.peek with
      | .error fault => composer.stop fault
      | .ok (token, composer) =>
          if isOneOf enders token then ⟨.empty, none, composer⟩
          else readNode fuel block bare composer

/-- A value after its colon, or an empty scalar where there is no colon. -/
def readValue : Nat → List Token → Bool → Composer → Composed
  | 0, _, _, composer => composer.stop .endOfText
  | fuel + 1, enders, block, composer =>
      match composer.peek with
      | .error fault => composer.stop fault
      | .ok (.colon, composer) => readOptional fuel enders block block composer.advance
      | .ok (_, composer) => ⟨.empty, none, composer⟩

def readBlockItems : Nat → Composer → Parts Node
  | 0, composer => .stop composer .endOfText
  | fuel + 1, composer =>
      match composer.peek with
      | .error fault => .stop composer fault
      | .ok (.blockEnd, composer) => .done composer.advance
      | .ok (.dash, composer) =>
          let item := readOptional fuel [.dash, .blockEnd] true false composer.advance
          match item.stopped with
          | some fault => (Parts.stop item.after fault).cons item.node
          | none => (readBlockItems fuel item.after).cons item.node
      | .ok (_, composer) => .stop composer .missingDash

/-- Items of a list at the indentation of the table around it. -/
def readBareItems : Nat → Composer → Parts Node
  | 0, composer => .stop composer .endOfText
  | fuel + 1, composer =>
      match composer.peek with
      | .error fault => .stop composer fault
      | .ok (.dash, composer) =>
          let item := readOptional fuel [.dash, .key, .colon, .blockEnd] true false composer.advance
          match item.stopped with
          | some fault => (Parts.stop item.after fault).cons item.node
          | none => (readBareItems fuel item.after).cons item.node
      | .ok (_, composer) => .done composer

def readBlockEntries : Nat → Composer → Parts (Node × Node)
  | 0, composer => .stop composer .endOfText
  | fuel + 1, composer =>
      match composer.peek with
      | .error fault => .stop composer fault
      | .ok (.blockEnd, composer) => .done composer.advance
      | .ok (.key, composer) =>
          let enders := [Token.key, .colon, .blockEnd]
          let key := readOptional fuel enders true true composer.advance
          match key.stopped with
          | some fault => (Parts.stop key.after fault).cons (key.node, .cut fault)
          | none =>
              let value := readValue fuel enders true key.after
              match value.stopped with
              | some fault => (Parts.stop value.after fault).cons (key.node, value.node)
              | none => (readBlockEntries fuel value.after).cons (key.node, value.node)
      | .ok (_, composer) => .stop composer .missingKey

/-- Items of a list in brackets; `first` until one was read. -/
def readFlowItems : Nat → Bool → Composer → Parts Node
  | 0, _, composer => .stop composer .endOfText
  | fuel + 1, first, composer =>
      match composer.peek with
      | .error fault => .stop composer fault
      | .ok (.flowListEnd, composer) => .done composer.advance
      | .ok (token, composer) =>
          if first then readFlowItem fuel composer
          else if token == .comma then readFlowItem fuel composer.advance
          else .stop composer .listUnfinished

/-- An item of a list in brackets: a node, or a table of one entry without brackets of its own. -/
def readFlowItem : Nat → Composer → Parts Node
  | 0, composer => .stop composer .endOfText
  | fuel + 1, composer =>
      match composer.peek with
      | .error fault => .stop composer fault
      | .ok (.flowListEnd, composer) => .done composer.advance
      | .ok (token, composer) =>
          let item := if token == .key then readFlowPair fuel composer.advance
            else readNode fuel false false composer
          match item.stopped with
          | some fault => (Parts.stop item.after fault).cons item.node
          | none => (readFlowItems fuel false item.after).cons item.node

/-- The single entry of a table without brackets. An empty key takes the token behind it away. -/
def readFlowPair : Nat → Composer → Composed
  | 0, composer => composer.stop .endOfText
  | fuel + 1, composer =>
      let enders := [Token.comma, .flowListEnd]
      let key := match composer.peek with
        | .error fault => composer.stop fault
        | .ok (token, composer) =>
            if isOneOf (.colon :: enders) token then ⟨.empty, none, composer.advance⟩
            else readNode fuel false false composer
      match key.stopped with
      | some fault => ⟨.table none [(key.node, .cut fault)] (some fault), some fault, key.after⟩
      | none =>
          let value := readValue fuel enders false key.after
          ⟨.table none [(key.node, value.node)] value.stopped, value.stopped, value.after⟩

/-- Entries of a table in braces; `first` until one was read. -/
def readFlowEntries : Nat → Bool → Composer → Parts (Node × Node)
  | 0, _, composer => .stop composer .endOfText
  | fuel + 1, first, composer =>
      match composer.peek with
      | .error fault => .stop composer fault
      | .ok (.flowTableEnd, composer) => .done composer.advance
      | .ok (token, composer) =>
          if first then readFlowEntry fuel composer
          else if token == .comma then readFlowEntry fuel composer.advance
          else .stop composer .tableUnfinished

/-- An entry of a table in braces; a node without a mark for a key has an empty value. -/
def readFlowEntry : Nat → Composer → Parts (Node × Node)
  | 0, composer => .stop composer .endOfText
  | fuel + 1, composer =>
      let enders := [Token.comma, .flowTableEnd]
      match composer.peek with
      | .error fault => .stop composer fault
      | .ok (.flowTableEnd, composer) => .done composer.advance
      | .ok (token, composer) =>
          let key := if token == .key then
              readOptional fuel (.colon :: enders) false false composer.advance
            else readNode fuel false false composer
          match key.stopped with
          | some fault => (Parts.stop key.after fault).cons (key.node, .cut fault)
          | none =>
              let value := if token == .key then readValue fuel enders false key.after
                else ⟨.empty, none, key.after⟩
              match value.stopped with
              | some fault => (Parts.stop value.after fault).cons (key.node, value.node)
              | none => (readFlowEntries fuel false value.after).cons (key.node, value.node)

end

/-! ## Documents -/

/-- Abbreviations that every document has unless it says otherwise. -/
def commonHandles : List (String × String) := [("!", "!"), ("!!", "tag:yaml.org,2002:")]

/-- The directives in front of a document. -/
def readDirectives : Nat → Bool → Composer → Except Fault Composer
  | 0, _, composer => .ok composer
  | fuel + 1, versioned, composer => do
      let (token, composer) ← composer.peek
      match token with
      | .versionDirective major minor =>
          if versioned then throw .repeatedVersion
          if major != 1 || (minor != 1 && minor != 2) then throw .incompatibleVersion
          readDirectives fuel true composer.advance
      | .tagDirective handle start =>
          if (composer.handles.lookup handle).isSome then throw .repeatedTagDirective
          readDirectives fuel versioned { composer.advance with
            handles := composer.handles ++ [(handle, start)] }
      | _ => return composer

def withCommonHandles (composer : Composer) : Composer :=
  { composer with handles := composer.handles ++ commonHandles }

/-- The first document. -/
def readDocument (fuel : Nat) (composer : Composer) : Composed :=
  match composer.peek with
  | .error fault => composer.stop fault
  | .ok (_, composer) =>
      let composer := composer.advance
      match composer.peek with
      | .error fault => composer.stop fault
      | .ok (token, composer) =>
          match token with
          | .streamEnd => ⟨.void, none, composer⟩
          | .versionDirective _ _ | .tagDirective _ _ | .documentStart =>
              match readDirectives fuel false composer with
              | .error fault => composer.stop fault
              | .ok composer =>
                  match composer.peek with
                  | .error fault => composer.stop fault
                  | .ok (.documentStart, composer) =>
                      readContentOrNothing composer.withCommonHandles.advance
                  | .ok (_, composer) => composer.stop .missingDocumentStart
          | _ => readNode fuel true false composer.withCommonHandles
where
  readContentOrNothing (composer : Composer) : Composed :=
    match composer.peek with
    | .error fault => composer.stop fault
    | .ok (token, composer) =>
        match token with
        | .versionDirective _ _ | .tagDirective _ _ | .documentStart | .documentEnd | .streamEnd =>
            ⟨.empty, none, composer⟩
        | _ => readNode fuel true false composer

/-- Skip marks that end a document. -/
def skipEnds : Nat → Composer → Except Fault (Token × Composer)
  | 0, composer => composer.peek
  | fuel + 1, composer => do
      let (token, composer) ← composer.peek
      if token == .documentEnd then skipEnds fuel composer.advance else return (token, composer)

end Composer

/-- A text as one node, with what its aliases stand for, and what is wrong behind the node. -/
structure Document where
  root : Node
  /-- The node of an anchor by its number. -/
  anchored? : Nat → Option Node
  fault : Option Fault

namespace Document

/-- The characters that a text may hold. -/
def isAllowed (character : Char) : Bool :=
  let code := character.toNat
  code == 9 || code == 10 || code == 13 || (0x20 ≤ code && code ≤ 0x7E) || code == 0x85 ||
    (0xA0 ≤ code && code ≤ 0xD7FF) || (0xE000 ≤ code && code ≤ 0xFFFD) || 0x10000 ≤ code

/-- The offset of the first character that a text may not hold. -/
def firstControl? (offset : Nat) : List Char → Option Nat
  | [] => none
  | character :: rest =>
      if isAllowed character then firstControl? (offset + character.utf8Size) rest else some offset

/-- What is wrong behind the first document: its own end, or another document. -/
def faultBehind (fuel : Nat) (composed : Composed) : Option Fault :=
  match composed.stopped with
  | some fault => some fault
  | none =>
      match composed.after.peek with
      | .error fault => some fault
      | .ok (_, composer) =>
          match composer.skipEnds fuel with
          | .ok (.streamEnd, _) => none
          | _ => some .severalDocuments

def ofText (text : String) : Document :=
  match firstControl? 0 text.toList with
  | some offset => ⟨.cut (.controlCharacter offset), fun _ => none, some (.controlCharacter offset)⟩
  | none =>
      let characters := match text.toList with
        | character :: rest => if character.toNat == 0xFEFF then rest else character :: rest
        | [] => []
      let fuel := 8 * characters.length + 32
      let composed := Composer.readDocument fuel { lexer := .ofCharacters characters }
      ⟨composed.node, composed.after.anchored?, faultBehind fuel composed⟩

end Document

/-- Why a text is not one well-formed document, if it is not. -/
def fault? (text : String) : Option Fault := (Document.ofText text).fault

end BuildLedger.Yaml
