import BuildLedger.Glob

/-!
# Which artifacts are held back

Patterns come as raw entries that may each name several patterns with commas between them. A path is
held back when an exclude pattern matches it and no include pattern does, so include patterns alone
never hold anything back.
-/
namespace BuildLedger

/-- Two lists of patterns, one pattern an entry. -/
structure PatternLists where
  includes : List String
  excludes : List String
deriving Repr, DecidableEq

namespace PatternLists

/-- The parts of a text between commas; without a comma, the text itself. -/
def splitCommas : List Char → List (List Char)
  | [] => [[]]
  | ',' :: rest => [] :: splitCommas rest
  | character :: rest =>
      match splitCommas rest with
      | first :: others => (character :: first) :: others
      | [] => [[character]]

/-- The patterns of raw entries: split at commas, trimmed, without the empty ones. -/
def normalise (raw : List String) : List String :=
  raw.flatMap fun entry =>
    (((splitCommas entry.toList).map Text.trimList).filter fun part => !part.isEmpty).map
      String.ofList

def ofRaw (includes excludes : List String) : PatternLists :=
  ⟨normalise includes, normalise excludes⟩

def isEmpty (patterns : PatternLists) : Bool :=
  patterns.includes.isEmpty && patterns.excludes.isEmpty

end PatternLists

/-- A pattern too large to be made ready for matching. -/
structure OversizedPattern where
  pattern : String
deriving Repr, DecidableEq

/-- The globs of both lists, ready for matching. -/
structure PathFilter where
  includes : List Glob
  excludes : List Glob
deriving Repr, DecidableEq

namespace PathFilter

/-- The globs of a list of patterns, or the first pattern that is too large. -/
def globs : List String → Except OversizedPattern (List Glob)
  | [] => .ok []
  | pattern :: rest =>
      match Glob.ofPattern? pattern with
      | none => .error ⟨pattern⟩
      | some glob =>
          match globs rest with
          | .ok others => .ok (glob :: others)
          | .error oversized => .error oversized

def ofPatterns (patterns : PatternLists) : Except OversizedPattern PathFilter :=
  match globs patterns.includes with
  | .error oversized => .error oversized
  | .ok includes =>
      match globs patterns.excludes with
      | .error oversized => .error oversized
      | .ok excludes => .ok ⟨includes, excludes⟩

/-- A filter that holds nothing back. -/
def permissive : PathFilter := ⟨[], []⟩

/-- Whether the path is held back. -/
def holdsBack (filter : PathFilter) (path : String) : Bool :=
  filter.excludes.any (·.accepts path) && !filter.includes.any (·.accepts path)

end PathFilter

end BuildLedger
