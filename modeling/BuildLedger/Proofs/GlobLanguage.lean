import BuildLedger.Filter
import Mathlib.Data.List.Forall2

/-!
# The language of a glob

What a pattern is read as, and what its pieces stand for, are said here without the table that
matches them. A pattern describes a path when the path without the slashes at its start is one text
after the other, each a text that the next piece stands for. The table marks exactly the suffixes
that the pieces behind it describe, so a filter holds back exactly the paths that some exclude
pattern describes and no include pattern does.
-/
namespace BuildLedger

namespace Piece

/-- Which texts a piece stands for. -/
def Covers : Piece → List Char → Prop
  | .directories, text => text = [] ∨ ∃ names, '\n' ∉ names ∧ text = names ++ ['/']
  | .anyText, text => '\n' ∉ text
  | .anyName, text => '/' ∉ text
  | .anyCharacter, text => ∃ character, character ≠ '/' ∧ text = [character]
  | .literal character, text => text = [character]

/-- A segment starts at the start of a pattern and behind a slash. -/
def SegmentStart (read : List Char) : Prop := read = [] ∨ read.getLast? = some '/'

/-- The pieces of a pattern from left to right, behind what was read already. Two stars belong
together before a single one is read. -/
inductive Reads : List Char → List Char → List Piece → Prop
  | nothing (read : List Char) : Reads read [] []
  | directories {read rest : List Char} {pieces : List Piece} (start : SegmentStart read)
      (behind : Reads (read ++ ['*', '*', '/']) rest pieces) :
      Reads read ('*' :: '*' :: '/' :: rest) (.directories :: pieces)
  | anyText {read rest : List Char} {pieces : List Piece}
      (other : ¬(SegmentStart read ∧ rest.head? = some '/'))
      (behind : Reads (read ++ ['*', '*']) rest pieces) :
      Reads read ('*' :: '*' :: rest) (.anyText :: pieces)
  | anyName {read rest : List Char} {pieces : List Piece} (single : rest.head? ≠ some '*')
      (behind : Reads (read ++ ['*']) rest pieces) :
      Reads read ('*' :: rest) (.anyName :: pieces)
  | anyCharacter {read rest : List Char} {pieces : List Piece}
      (behind : Reads (read ++ ['?']) rest pieces) :
      Reads read ('?' :: rest) (.anyCharacter :: pieces)
  | literal {read rest : List Char} {pieces : List Piece} {character : Char}
      (noStar : character ≠ '*') (noMark : character ≠ '?')
      (behind : Reads (read ++ [character]) rest pieces) :
      Reads read (character :: rest) (.literal character :: pieces)

/-- The reader's flag is all that it has to know of what was read before. -/
theorem reads_of_characters (segmentStart : Bool) (pattern read : List Char)
    (flag : segmentStart = true ↔ SegmentStart read) :
    Reads read pattern (ofCharacters segmentStart pattern) := by
  fun_induction ofCharacters segmentStart pattern generalizing read with
  | case1 rest ih =>
      refine .directories (flag.mp rfl) (ih _ ?_)
      simp [SegmentStart]
  | case2 segmentStart rest inside ih =>
      refine .anyText ?_ (.literal (by decide) (by decide) (ih _ ?_))
      · intro start
        rcases start with ⟨start, _⟩
        exact inside (flag.mpr start)
      · simp [SegmentStart]
  | case3 segmentStart rest noSlash ih =>
      refine .anyText ?_ (ih _ ?_)
      · intro both
        rcases both with ⟨_, slash⟩
        obtain ⟨tail, equal⟩ := List.head?_eq_some_iff.mp slash
        exact noSlash tail equal
      · simp [SegmentStart]
  | case4 segmentStart rest _ noStar ih =>
      refine .anyName ?_ (ih _ ?_)
      · intro star
        obtain ⟨tail, equal⟩ := List.head?_eq_some_iff.mp star
        exact noStar tail equal
      · simp [SegmentStart]
  | case5 segmentStart rest ih =>
      refine .anyCharacter (ih _ ?_)
      simp [SegmentStart]
  | case6 segmentStart character rest _ _ noStar noMark ih =>
      refine .literal noStar noMark (ih _ ?_)
      simp [SegmentStart]
  | case7 segmentStart => exact .nothing read

theorem of_characters_text {rest : List Char} (noSlash : rest.head? ≠ some '/')
    (segmentStart : Bool) :
    ofCharacters segmentStart ('*' :: '*' :: rest) = .anyText :: ofCharacters false rest := by
  rw [ofCharacters]
  intro tail slash
  subst slash
  exact noSlash rfl

theorem of_characters_name {rest : List Char} (single : rest.head? ≠ some '*')
    (segmentStart : Bool) :
    ofCharacters segmentStart ('*' :: rest) = .anyName :: ofCharacters false rest := by
  rw [ofCharacters]
  · intro tail star
    subst star
    exact single rfl
  · intro tail star
    subst star
    exact single rfl

theorem of_characters_literal {character : Char} (noStar : character ≠ '*')
    (noMark : character ≠ '?') (segmentStart : Bool) (rest : List Char) :
    ofCharacters segmentStart (character :: rest) =
      .literal character :: ofCharacters (character == '/') rest := by
  rw [ofCharacters]
  · intro _ star
    exact absurd star noStar
  · intro _ star
    exact absurd star noStar
  · exact noStar
  · exact noMark

theorem of_characters_of_reads {read pattern : List Char} {pieces : List Piece}
    (reads : Reads read pattern pieces) (segmentStart : Bool)
    (flag : segmentStart = true ↔ SegmentStart read) :
    ofCharacters segmentStart pattern = pieces := by
  induction reads generalizing segmentStart with
  | nothing read => rfl
  | directories start behind ih =>
      rw [flag.mpr start, ofCharacters, if_pos rfl, ih true (by simp [SegmentStart])]
  | @anyText read rest pieces other behind ih =>
      have next := ih false (by simp [SegmentStart])
      by_cases slash : rest.head? = some '/'
      · obtain ⟨tail, rfl⟩ := List.head?_eq_some_iff.mp slash
        have inside : segmentStart = false := by
          rw [Bool.eq_false_iff]
          intro start
          exact other ⟨flag.mp start, rfl⟩
        rw [inside, ofCharacters, if_neg (by decide), ← next,
          of_characters_literal (by decide) (by decide)]
        rfl
      · rw [of_characters_text slash, next]
  | anyName single behind ih =>
      rw [of_characters_name single, ih false (by simp [SegmentStart])]
  | anyCharacter behind ih =>
      rw [ofCharacters, ih false (by simp [SegmentStart])]
  | literal noStar noMark behind ih =>
      rw [of_characters_literal noStar noMark, ih _ (by simp [SegmentStart])]

/-- The reader finds the pieces of a pattern, and a pattern has no others. -/
theorem reads_iff (pattern : List Char) (pieces : List Piece) :
    Reads [] pattern pieces ↔ pieces = ofCharacters true pattern := by
  have flag : true = true ↔ SegmentStart [] := by simp [SegmentStart]
  constructor
  · intro reads
    exact (of_characters_of_reads reads true flag).symm
  · intro same
    subst same
    exact reads_of_characters true pattern [] flag

/-! ## The table of suffixes -/

/-- One flag for each suffix of a path, the longest first, that says whether the suffix is good. -/
def Marks (good : List Char → Prop) : List Char → List Bool → Prop
  | [], flags => ∃ flag, flags = [flag] ∧ (flag = true ↔ good [])
  | character :: rest, flags => ∃ flag later, flags = flag :: later ∧
      (flag = true ↔ good (character :: rest)) ∧ Marks good rest later

theorem marks_head {good : List Char → Prop} {path : List Char} {flags : List Bool}
    (marks : Marks good path flags) : flags.headD false = true ↔ good path := by
  cases path with
  | nil =>
      obtain ⟨flag, rfl, meaning⟩ := marks
      exact meaning
  | cons character rest =>
      obtain ⟨flag, later, rfl, meaning, _⟩ := marks
      exact meaning

/-- Behind a text without the barrier, a good suffix. -/
def Across (barrier : Char) (good : List Char → Prop) (path : List Char) : Prop :=
  ∃ text rest, path = text ++ rest ∧ barrier ∉ text ∧ good rest

theorem across_nil (barrier : Char) (good : List Char → Prop) :
    Across barrier good [] ↔ good [] := by
  constructor
  · intro across
    rcases across with ⟨text, rest, split, _, fine⟩
    obtain ⟨_, rfl⟩ := List.append_eq_nil_iff.mp split.symm
    exact fine
  · intro fine
    exact ⟨[], [], rfl, List.not_mem_nil, fine⟩

theorem across_cons (barrier : Char) (good : List Char → Prop) (character : Char)
    (rest : List Char) :
    Across barrier good (character :: rest) ↔
      good (character :: rest) ∨ character ≠ barrier ∧ Across barrier good rest := by
  constructor
  · intro across
    rcases across with ⟨text, suffix, split, free, fine⟩
    cases text with
    | nil =>
        left
        rw [split]
        exact fine
    | cons first text =>
        obtain ⟨rfl, rfl⟩ := List.cons.inj split
        rw [List.mem_cons, not_or] at free
        exact Or.inr ⟨fun same => free.1 same.symm, text, suffix, rfl, free.2, fine⟩
  · intro either
    rcases either with fine | ⟨other, text, suffix, rfl, free, fine⟩
    · exact ⟨[], _, rfl, List.not_mem_nil, fine⟩
    · refine ⟨character :: text, suffix, rfl, ?_, fine⟩
      rw [List.mem_cons, not_or]
      exact ⟨fun same => other same.symm, free⟩

/-- A slash, and a good suffix behind it. -/
def Below (good : List Char → Prop) (path : List Char) : Prop :=
  ∃ rest, path = '/' :: rest ∧ good rest

theorem below_cons (good : List Char → Prop) (character : Char) (rest : List Char) :
    Below good (character :: rest) ↔ character = '/' ∧ good rest := by
  constructor
  · intro below
    rcases below with ⟨suffix, split, fine⟩
    obtain ⟨rfl, rfl⟩ := List.cons.inj split
    exact ⟨rfl, fine⟩
  · intro both
    rcases both with ⟨rfl, fine⟩
    exact ⟨rest, rfl, fine⟩

theorem crossings_mark {good : List Char → Prop} {path : List Char} {flags : List Bool}
    (marks : Marks good path flags) :
    Marks (Across '\n' (Below good)) path (crossings path flags) := by
  induction path generalizing flags with
  | nil =>
      obtain ⟨flag, rfl, _⟩ := marks
      refine ⟨false, rfl, ?_⟩
      rw [across_nil]
      simp [Below]
  | cons character rest ih =>
      obtain ⟨flag, later, rfl, _, behind⟩ := marks
      refine ⟨_, _, rfl, ?_, ih behind⟩
      rw [across_cons, below_cons, ← marks_head behind, ← marks_head (ih behind)]
      simp

/-- A text that the piece stands for, and a good suffix behind it. -/
def Leads (piece : Piece) (good : List Char → Prop) (path : List Char) : Prop :=
  ∃ text rest, path = text ++ rest ∧ piece.Covers text ∧ good rest

theorem leads_directories (good : List Char → Prop) (path : List Char) :
    Leads .directories good path ↔ good path ∨ Across '\n' (Below good) path := by
  constructor
  · intro leads
    rcases leads with ⟨text, rest, rfl, rfl | ⟨names, free, rfl⟩, fine⟩
    · exact Or.inl fine
    · right
      refine ⟨names, '/' :: rest, ?_, free, rest, rfl, fine⟩
      rw [List.append_assoc, List.singleton_append]
  · intro either
    rcases either with fine | ⟨names, _, rfl, free, rest, rfl, fine⟩
    · exact ⟨[], path, rfl, Or.inl rfl, fine⟩
    · refine ⟨names ++ ['/'], rest, ?_, Or.inr ⟨names, free, rfl⟩, fine⟩
      rw [List.append_assoc, List.singleton_append]

theorem leads_character_cons (good : List Char → Prop) (character : Char) (rest : List Char) :
    Leads .anyCharacter good (character :: rest) ↔ character ≠ '/' ∧ good rest := by
  constructor
  · intro leads
    rcases leads with ⟨_, suffix, split, ⟨single, noSlash, rfl⟩, fine⟩
    obtain ⟨rfl, rfl⟩ := List.cons.inj split
    exact ⟨noSlash, fine⟩
  · intro both
    rcases both with ⟨noSlash, fine⟩
    exact ⟨[character], rest, rfl, ⟨character, noSlash, rfl⟩, fine⟩

theorem leads_literal_cons (good : List Char → Prop) (wanted character : Char)
    (rest : List Char) :
    Leads (.literal wanted) good (character :: rest) ↔ character = wanted ∧ good rest := by
  constructor
  · intro leads
    rcases leads with ⟨_, suffix, split, rfl, fine⟩
    obtain ⟨rfl, rfl⟩ := List.cons.inj split
    exact ⟨rfl, fine⟩
  · intro both
    rcases both with ⟨rfl, fine⟩
    exact ⟨[character], rest, rfl, rfl, fine⟩

/-- At the end of a path only the pieces that stand for the empty text lead on. -/
theorem leads_nil (piece : Piece) (good : List Char → Prop) :
    Leads piece good [] ↔ piece.Covers [] ∧ good [] := by
  constructor
  · intro leads
    rcases leads with ⟨text, rest, split, covered, fine⟩
    obtain ⟨rfl, rfl⟩ := List.append_eq_nil_iff.mp split.symm
    exact ⟨covered, fine⟩
  · intro both
    rcases both with ⟨covered, fine⟩
    exact ⟨[], [], rfl, covered, fine⟩

theorem reach_marks (piece : Piece) {good : List Char → Prop} {path : List Char}
    {flags : List Bool} (marks : Marks good path flags) :
    Marks (Leads piece good) path (reach piece path flags) := by
  induction path generalizing flags with
  | nil =>
      obtain ⟨flag, rfl, meaning⟩ := marks
      cases piece <;> refine ⟨_, rfl, ?_⟩ <;> rw [leads_nil] <;> simp [Covers, meaning]
  | cons character rest ih =>
      obtain ⟨flag, later, rfl, meaning, behind⟩ := marks
      have below := marks_head (ih behind)
      have next := marks_head behind
      refine ⟨_, _, rfl, ?_, ih behind⟩
      cases piece with
      | literal wanted =>
          rw [leads_literal_cons, ← next]
          simp
      | anyCharacter =>
          rw [leads_character_cons, ← next]
          simp
      | anyName =>
          have step := across_cons '/' good character rest
          change _ ↔ Across '/' good (character :: rest)
          change _ ↔ Across '/' good rest at below
          rw [step, ← below, ← meaning]
          simp
      | anyText =>
          have step := across_cons '\n' good character rest
          change _ ↔ Across '\n' good (character :: rest)
          change _ ↔ Across '\n' good rest at below
          rw [step, ← below, ← meaning]
          simp
      | directories =>
          have whole : Marks good (character :: rest) (flag :: later) :=
            ⟨flag, later, rfl, meaning, behind⟩
          rw [leads_directories, ← meaning, ← marks_head (crossings_mark whole)]
          simp

/-- A path as one text after the other, each a text that the next piece stands for. -/
def Composed (pieces : List Piece) (path : List Char) : Prop :=
  ∃ parts, List.Forall₂ Covers pieces parts ∧ parts.flatten = path

theorem composed_nil (path : List Char) : Composed [] path ↔ path = [] := by
  constructor
  · intro composed
    rcases composed with ⟨parts, covered, rfl⟩
    cases covered
    rfl
  · intro empty
    subst empty
    exact ⟨[], .nil, rfl⟩

theorem composed_cons (piece : Piece) (pieces : List Piece) (path : List Char) :
    Composed (piece :: pieces) path ↔ Leads piece (Composed pieces) path := by
  constructor
  · intro composed
    rcases composed with ⟨_, covered, rfl⟩
    cases covered with
    | @cons _ text _ parts first others =>
        exact ⟨text, parts.flatten, rfl, first, parts, others, rfl⟩
  · intro leads
    rcases leads with ⟨text, _, rfl, first, parts, others, rfl⟩
    exact ⟨text :: parts, .cons first others, rfl⟩

theorem end_flags_mark (path : List Char) : Marks (Composed []) path (endFlags path) := by
  induction path with
  | nil => exact ⟨true, rfl, by simp [composed_nil]⟩
  | cons character rest ih =>
      refine ⟨false, endFlags rest, rfl, ?_, ih⟩
      simp [composed_nil]

theorem table_marks (pieces : List Piece) (path : List Char) :
    Marks (Composed pieces) path
      (pieces.foldr (fun piece flags => piece.reach path flags) (endFlags path)) := by
  induction pieces with
  | nil => exact end_flags_mark path
  | cons piece pieces ih =>
      have same : Composed (piece :: pieces) = Leads piece (Composed pieces) := by
        funext suffix
        exact propext (composed_cons piece pieces suffix)
      rw [same]
      exact reach_marks piece ih

theorem matches_all_iff (pieces : List Piece) (path : List Char) :
    matchesAll pieces path = true ↔ Composed pieces path :=
  marks_head (table_marks pieces path)

end Piece

namespace Glob

/-- A pattern describes a path; neither the slashes at its own start count nor the path's. -/
def Describes (pattern path : String) : Prop :=
  ∃ pieces, Piece.Reads [] (relative pattern) pieces ∧ Piece.Composed pieces (relative path)

/-- A pattern is read in one way only. -/
theorem describes_iff (pattern path : String) :
    Describes pattern path ↔
      Piece.Composed (Piece.ofCharacters true (relative pattern)) (relative path) := by
  simp only [Describes, Piece.reads_iff, exists_eq_left]

theorem accepts_iff {pattern : String} {glob : Glob} (found : ofPattern? pattern = some glob)
    (path : String) : glob.accepts path = true ↔ Describes pattern path := by
  simp only [ofPattern?, Option.ite_none_right_eq_some, Option.some.injEq] at found
  obtain ⟨_, rfl⟩ := found
  rw [accepts, Piece.matches_all_iff, describes_iff]

end Glob

namespace PathFilter

theorem globs_found {patterns : List String} {found : List Glob}
    (compiled : globs patterns = .ok found) :
    List.Forall₂ (fun pattern glob => Glob.ofPattern? pattern = some glob) patterns found := by
  induction patterns generalizing found with
  | nil =>
      cases compiled
      exact .nil
  | cons pattern rest ih =>
      simp only [globs] at compiled
      cases first : Glob.ofPattern? pattern with
      | none =>
          rw [first] at compiled
          cases compiled
      | some glob =>
          rw [first] at compiled
          cases others : globs rest with
          | error oversized =>
              rw [others] at compiled
              cases compiled
          | ok globs =>
              rw [others] at compiled
              cases compiled
              exact .cons first (ih others)

theorem any_accepts_iff {patterns : List String} {found : List Glob}
    (compiled :
      List.Forall₂ (fun pattern glob => Glob.ofPattern? pattern = some glob) patterns found)
    (path : String) :
    found.any (·.accepts path) = true ↔ ∃ pattern ∈ patterns, Glob.Describes pattern path := by
  induction compiled with
  | nil => simp
  | cons first _ ih =>
      rw [List.any_cons, Bool.or_eq_true, ih, Glob.accepts_iff first]
      simp

/-- A filter is made of the globs of both lists. -/
theorem of_patterns_ok {patterns : PatternLists} {filter : PathFilter}
    (compiled : ofPatterns patterns = .ok filter) :
    globs patterns.includes = .ok filter.includes ∧
      globs patterns.excludes = .ok filter.excludes := by
  unfold ofPatterns at compiled
  cases includes : globs patterns.includes with
  | error oversized =>
      rw [includes] at compiled
      cases compiled
  | ok kept =>
      rw [includes] at compiled
      cases excludes : globs patterns.excludes with
      | error oversized =>
          rw [excludes] at compiled
          cases compiled
      | ok held =>
          rw [excludes] at compiled
          cases compiled
          exact ⟨rfl, rfl⟩

/-- A filter holds back what an exclude pattern describes, unless an include pattern does too. -/
theorem holds_back_iff_described {patterns : PatternLists} {filter : PathFilter}
    (compiled : ofPatterns patterns = .ok filter) (path : String) :
    filter.holdsBack path = true ↔
      (∃ pattern ∈ patterns.excludes, Glob.Describes pattern path) ∧
        ¬∃ pattern ∈ patterns.includes, Glob.Describes pattern path := by
  obtain ⟨sparing, holding⟩ := of_patterns_ok compiled
  unfold holdsBack
  rw [Bool.and_eq_true, any_accepts_iff (globs_found holding), Bool.not_eq_true',
    ← Bool.not_eq_true, any_accepts_iff (globs_found sparing)]

/-- Runs of stars that overlap, characters that mean something elsewhere, and an include pattern
that describes another path. -/
theorem overlapping_stars_hold_back :
    let patterns : PatternLists := ⟨["**/**/k?"], ["[x].(y)", "/a**/b/***"]⟩
    ofPatterns patterns = .ok ⟨[⟨[.directories, .directories, .literal 'k', .anyCharacter]⟩],
        [⟨[.literal '[', .literal 'x', .literal ']', .literal '.', .literal '(', .literal 'y',
          .literal ')']⟩,
        ⟨[.literal 'a', .anyText, .literal '/', .literal 'b', .literal '/', .anyText,
          .anyName]⟩]⟩ ∧
      (∃ pattern ∈ patterns.excludes, Glob.Describes pattern "//a1/2/b/c/d") ∧
        ¬∃ pattern ∈ patterns.includes, Glob.Describes pattern "//a1/2/b/c/d" := by
  intro patterns
  have compiled : ofPatterns patterns = .ok _ := rfl
  exact ⟨compiled, (holds_back_iff_described compiled "//a1/2/b/c/d").mp (by decide)⟩

end PathFilter

end BuildLedger
