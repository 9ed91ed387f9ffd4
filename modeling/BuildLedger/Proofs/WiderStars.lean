import BuildLedger.Proofs.GlobLanguage

/-!
# Two stars in place of one

A single star stands for any text without a slash, two stars for any text without a line end. A
pattern with two stars where it had a single one is read as before up to the star. Behind it either
nothing changes, or the slash that follows belongs to the two stars now. So the wider pattern
describes every path that the narrow one described with a text in one line at the star. A path is
lost only where the star cannot do without a line end, and only such a path passes a filter that
held it back before.
-/
namespace BuildLedger

namespace Piece

/-! ## Where a single star stands -/

/-- Stars are read two by two from the left. Whether none is left over at the end of a text. -/
def starsPaired : List Char → Bool
  | '*' :: '*' :: rest => starsPaired rest
  | ['*'] => false
  | _ :: rest => starsPaired rest
  | [] => true

/-- Whether a segment starts behind a text, when one starts before it or does not. -/
def startsBehind (segmentStart : Bool) (text : List Char) : Bool :=
  (text.getLast?.map (· == '/')).getD segmentStart

theorem starts_behind_cons (segmentStart : Bool) (character : Char) (rest : List Char) :
    startsBehind segmentStart (character :: rest) = startsBehind (character == '/') rest := by
  cases rest with
  | nil => rfl
  | cons next rest => simp [startsBehind, List.getLast?_cons]

theorem stars_paired_other {character : Char} (noStar : character ≠ '*') (rest : List Char) :
    starsPaired (character :: rest) = starsPaired rest := by
  rw [starsPaired]
  · intro tail star
    exact absurd star noStar
  · intro star
    exact absurd star noStar

/-- A star before another character is not left over. -/
theorem stars_paired_single {rest : List Char} (single : rest.head? ≠ some '*')
    (paired : starsPaired ('*' :: rest) = true) : rest ≠ [] ∧ starsPaired rest = true := by
  cases rest with
  | nil => cases paired
  | cons next rest =>
      refine ⟨List.cons_ne_nil _ _, ?_⟩
      rw [starsPaired] at paired
      · exact paired
      · intro tail _ star
        exact single (by rw [star]; rfl)
      · intro _ nothing
        cases nothing

/-- A text whose stars are paired is read before another star as it is read alone. -/
theorem of_characters_before_star (segmentStart : Bool) {before : List Char}
    (paired : starsPaired before = true) (rest : List Char) :
    ofCharacters segmentStart (before ++ '*' :: rest) =
      ofCharacters segmentStart before ++
        ofCharacters (startsBehind segmentStart before) ('*' :: rest) := by
  fun_induction ofCharacters segmentStart before with
  | case1 tail ih =>
      simp only [starts_behind_cons, List.cons_append]
      rw [ofCharacters, if_pos rfl, ih paired]
      rfl
  | case2 segmentStart tail inside ih =>
      simp only [starts_behind_cons, List.cons_append]
      rw [ofCharacters, if_neg inside, ih paired]
      rfl
  | case3 segmentStart tail noSlash ih =>
      have apart : (tail ++ '*' :: rest).head? ≠ some '/' := by
        cases tail with
        | nil => simp
        | cons next tail =>
            intro slash
            exact noSlash tail (by rw [Option.some.inj slash])
      simp only [starts_behind_cons, List.cons_append]
      rw [of_characters_text apart, ih paired]
      rfl
  | case4 segmentStart tail _ noStar ih =>
      have single : tail.head? ≠ some '*' := by
        intro star
        obtain ⟨others, equal⟩ := List.head?_eq_some_iff.mp star
        exact noStar others equal
      obtain ⟨nonempty, later⟩ := stars_paired_single single paired
      have apart : (tail ++ '*' :: rest).head? ≠ some '*' := by
        rw [List.head?_append_of_ne_nil _ nonempty]
        exact single
      simp only [starts_behind_cons, List.cons_append]
      rw [of_characters_name apart, ih later]
      rfl
  | case5 segmentStart tail ih =>
      rw [stars_paired_other (by decide)] at paired
      simp only [starts_behind_cons, List.cons_append]
      change .anyCharacter :: ofCharacters false (tail ++ '*' :: rest) = _
      rw [ih paired]
      rfl
  | case6 segmentStart character tail _ _ noStar noMark ih =>
      rw [stars_paired_other noStar] at paired
      simp only [starts_behind_cons, List.cons_append]
      rw [of_characters_literal noStar noMark, ih paired]
  | case7 segmentStart => rfl

/-- Two stars for a single one: the slash behind them may belong to them now. -/
theorem of_characters_wider {after : List Char} (single : after.head? ≠ some '*')
    (segmentStart : Bool) :
    ofCharacters segmentStart ('*' :: '*' :: after) = .anyText :: ofCharacters false after ∨
    ∃ rest, after = '/' :: rest ∧
      ofCharacters segmentStart ('*' :: '*' :: after) = .directories :: ofCharacters true rest := by
  by_cases slash : after.head? = some '/'
  · obtain ⟨rest, rfl⟩ := List.head?_eq_some_iff.mp slash
    cases segmentStart with
    | true =>
        right
        refine ⟨rest, rfl, ?_⟩
        rw [ofCharacters, if_pos rfl]
    | false =>
        left
        rw [ofCharacters, if_neg Bool.false_ne_true,
          of_characters_literal (by decide) (by decide)]
        rfl
  · left
    exact of_characters_text slash segmentStart

/-! ## What the star stands for -/

theorem composed_append (front back : List Piece) (path : List Char) :
    Composed (front ++ back) path ↔
      ∃ first last, path = first ++ last ∧ Composed front first ∧ Composed back last := by
  induction front generalizing path with
  | nil =>
      simp only [List.nil_append, composed_nil]
      constructor
      · intro composed
        exact ⟨[], path, rfl, rfl, composed⟩
      · rintro ⟨_, last, rfl, rfl, composed⟩
        exact composed
  | cons piece front ih =>
      rw [List.cons_append, composed_cons]
      constructor
      · rintro ⟨text, _, rfl, covered, behind⟩
        obtain ⟨first, last, rfl, composed, ends⟩ := (ih _).mp behind
        refine ⟨text ++ first, last, (List.append_assoc ..).symm, ?_, ends⟩
        rw [composed_cons]
        exact ⟨text, first, rfl, covered, composed⟩
      · rintro ⟨_, last, rfl, composed, ends⟩
        rw [composed_cons] at composed
        obtain ⟨text, first, rfl, covered, composed⟩ := composed
        exact ⟨text, first ++ last, List.append_assoc .., covered,
          (ih _).mpr ⟨first, last, rfl, composed, ends⟩⟩

/-- A path is cut in three: what stands before the star describes the first part, the star stands
for the middle, and what stands behind it describes the last part. -/
structure CutAtStar (before after path first name last : List Char) : Prop where
  whole : path = first ++ name ++ last
  front : Composed (ofCharacters true before) first
  middle : Covers .anyName name
  back : Composed (ofCharacters false after) last

theorem composed_at_star {before after : List Char} (paired : starsPaired before = true)
    (single : after.head? ≠ some '*') (path : List Char) :
    Composed (ofCharacters true (before ++ '*' :: after)) path ↔
      ∃ first name last, CutAtStar before after path first name last := by
  rw [of_characters_before_star true paired, of_characters_name single, composed_append]
  constructor
  · rintro ⟨first, _, rfl, front, behind⟩
    obtain ⟨name, last, rfl, middle, back⟩ := (composed_cons _ _ _).mp behind
    exact ⟨first, name, last, (List.append_assoc ..).symm, front, middle, back⟩
  · rintro ⟨first, name, last, whole, front, middle, back⟩
    refine ⟨first, name ++ last, by rw [whole, List.append_assoc], front, ?_⟩
    exact (composed_cons _ _ _).mpr ⟨name, last, rfl, middle, back⟩

/-- Text in one line at the star is text for two stars, with the slash behind it or without. -/
theorem composed_wider {before after path first name last : List Char}
    (paired : starsPaired before = true) (single : after.head? ≠ some '*')
    (cut : CutAtStar before after path first name last) (oneLine : '\n' ∉ name) :
    Composed (ofCharacters true (before ++ '*' :: '*' :: after)) path := by
  rw [of_characters_before_star true paired, composed_append]
  refine ⟨first, name ++ last, by rw [cut.whole, List.append_assoc], cut.front, ?_⟩
  rcases of_characters_wider single (startsBehind true before) with read | ⟨rest, slash, read⟩
  · rw [read, composed_cons]
    exact ⟨name, last, rfl, oneLine, cut.back⟩
  · have behind := cut.back
    rw [slash, of_characters_literal (by decide) (by decide), composed_cons] at behind
    obtain ⟨_, tail, parts, rfl, composed⟩ := behind
    rw [read, composed_cons]
    refine ⟨name ++ ['/'], tail, ?_, Or.inr ⟨name, oneLine, rfl⟩, composed⟩
    rw [parts, List.append_assoc]

end Piece

namespace Glob

/-! ## Patterns -/

/-- The pattern that has these texts around a star. -/
def starred (before after : List Char) : String := String.ofList (before ++ '*' :: after)

/-- The pattern that has two stars there. -/
def widened (before after : List Char) : String := String.ofList (before ++ '*' :: '*' :: after)

/-- A path with a line end, and wherever it is cut, the star stands for a text with a line end. -/
def StarNeedsLineEnd (before after : List Char) (path : String) : Prop :=
  '\n' ∈ path.toList ∧ ∀ first name last,
    Piece.CutAtStar (before.dropWhile (· == '/')) after (relative path) first name last →
      '\n' ∈ name

theorem relative_before_star (before rest : List Char) :
    relative (String.ofList (before ++ '*' :: rest)) =
      before.dropWhile (· == '/') ++ '*' :: rest := by
  rw [relative, String.toList_ofList, List.dropWhile_append]
  split
  · next slashes =>
    rw [List.isEmpty_iff.mp slashes]
    rfl
  · rfl

theorem stars_paired_relative {before : List Char} (paired : Piece.starsPaired before = true) :
    Piece.starsPaired (before.dropWhile (· == '/')) = true := by
  induction before with
  | nil => rfl
  | cons character before ih =>
      by_cases slash : character = '/'
      · subst slash
        rw [Piece.stars_paired_other (by decide)] at paired
        exact ih paired
      · rw [List.dropWhile_cons_of_neg (by simpa using slash)]
        exact paired

/-- With two stars for one a pattern describes all that it described but paths on which the star
needs a line end. -/
theorem widened_describes {before after : List Char} (paired : Piece.starsPaired before = true)
    (single : after.head? ≠ some '*') {path : String}
    (described : Describes (starred before after) path) :
    Describes (widened before after) path ∨ StarNeedsLineEnd before after path := by
  have stars := stars_paired_relative paired
  rw [describes_iff, starred, relative_before_star] at described
  rw [describes_iff, widened, relative_before_star]
  by_cases oneLine : ∃ first name last, Piece.CutAtStar (before.dropWhile (· == '/')) after
      (relative path) first name last ∧ '\n' ∉ name
  · obtain ⟨first, name, last, cut, free⟩ := oneLine
    exact Or.inl (Piece.composed_wider stars single cut free)
  · right
    have broken : ∀ first name last, Piece.CutAtStar (before.dropWhile (· == '/')) after
        (relative path) first name last → '\n' ∈ name := by
      intro first name last cut
      by_contra free
      exact oneLine ⟨first, name, last, cut, free⟩
    refine ⟨?_, broken⟩
    obtain ⟨first, name, last, cut⟩ := (Piece.composed_at_star stars single _).mp described
    have inside : '\n' ∈ relative path := by
      rw [cut.whole]
      simp [broken first name last cut]
    exact (List.dropWhile_sublist _).mem inside

end Glob

namespace PathFilter

/-! ## Filters -/

/-- Two stars in place of a single one, where both patterns can be made ready. The wider one accepts
every path that the narrow one accepts, and a filter that excludes by it holds back every path that
was held back, unless the star cannot do without a line end in that path. -/
theorem wider_star_loses_line_ends_only {before after : List Char}
    (paired : Piece.starsPaired before = true) (single : after.head? ≠ some '*') :
    (∀ glob wider, Glob.ofPattern? (Glob.starred before after) = some glob →
      Glob.ofPattern? (Glob.widened before after) = some wider →
      ∀ path, glob.accepts path = true →
        wider.accepts path = true ∨ Glob.StarNeedsLineEnd before after path) ∧
    ∀ includes first last filter wider,
      ofPatterns ⟨includes, first ++ Glob.starred before after :: last⟩ = .ok filter →
      ofPatterns ⟨includes, first ++ Glob.widened before after :: last⟩ = .ok wider →
      ∀ path, filter.holdsBack path = true →
        wider.holdsBack path = true ∨ Glob.StarNeedsLineEnd before after path := by
  constructor
  · intro glob wider found foundWider path accepted
    rw [Glob.accepts_iff found] at accepted
    rw [Glob.accepts_iff foundWider]
    exact Glob.widened_describes paired single accepted
  · intro includes first last filter wider compiled compiledWider path held
    obtain ⟨sparing, holding⟩ := of_patterns_ok compiled
    obtain ⟨sparingWider, holdingWider⟩ := of_patterns_ok compiledWider
    have spared : filter.includes = wider.includes :=
      Except.ok.inj (sparing.symm.trans sparingWider)
    rw [holdsBack, Bool.and_eq_true, any_accepts_iff (globs_found holding), spared] at held
    rw [holdsBack, Bool.and_eq_true, any_accepts_iff (globs_found holdingWider)]
    obtain ⟨⟨pattern, member, described⟩, kept⟩ := held
    have others : ∀ other ∈ first ++ last, Glob.Describes other path →
        ∃ pattern ∈ first ++ Glob.widened before after :: last, Glob.Describes pattern path := by
      intro other inside describes
      refine ⟨other, ?_, describes⟩
      simp only [List.mem_append, List.mem_cons] at inside ⊢
      tauto
    simp only [List.mem_append, List.mem_cons] at member
    rcases member with front | rfl | back
    · exact Or.inl ⟨others pattern (List.mem_append_left _ front) described, kept⟩
    · rcases Glob.widened_describes paired single described with still | broken
      · exact Or.inl ⟨⟨_, by simp, still⟩, kept⟩
      · exact Or.inr broken
    · exact Or.inl ⟨others pattern (List.mem_append_right _ back) described, kept⟩

/-- The slash behind the star goes over to the two stars, and the path is held back all the same. -/
theorem wider_segment_is_held_back :
    let narrow : PathFilter := ⟨[⟨[.literal 'a', .literal '/', .literal 'k']⟩],
      [⟨[.literal 'a', .literal '/', .anyName, .literal '/', .literal 'k']⟩]⟩
    let wide : PathFilter := ⟨[⟨[.literal 'a', .literal '/', .literal 'k']⟩],
      [⟨[.literal 'a', .literal '/', .directories, .literal 'k']⟩]⟩
    Piece.starsPaired ['/', 'a', '/'] = true ∧ ['/', 'k'].head? ≠ some '*' ∧
      ofPatterns ⟨["a/k"], ["/a/*/k"]⟩ = .ok narrow ∧
      ofPatterns ⟨["a/k"], ["/a/**/k"]⟩ = .ok wide ∧
      narrow.holdsBack "a/x/k" = true ∧ wide.holdsBack "a/x/k" = true := by
  intro narrow wide
  have paired : Piece.starsPaired ['/', 'a', '/'] = true := by decide
  have single : ['/', 'k'].head? ≠ some '*' := by decide
  have held : narrow.holdsBack "a/x/k" = true := by decide
  refine ⟨paired, single, rfl, rfl, held, ?_⟩
  rcases (wider_star_loses_line_ends_only paired single).2 ["a/k"] [] [] narrow wide rfl rfl
    "a/x/k" held with still | ⟨lineEnd, _⟩
  · exact still
  · exact absurd lineEnd (by decide)

/-- A star stands for a line end and two stars do not: the wider pattern lets the path through, also
as the include pattern that should spare what the narrow one holds back. -/
theorem wider_star_misses_line_end :
    Piece.starsPaired [] = true ∧ ([] : List Char).head? ≠ some '*' ∧
      Glob.ofPattern? (Glob.starred [] []) = some ⟨[.anyName]⟩ ∧
      Glob.ofPattern? (Glob.widened [] []) = some ⟨[.anyText]⟩ ∧
      Glob.accepts ⟨[.anyName]⟩ "a\nb" = true ∧ Glob.accepts ⟨[.anyText]⟩ "a\nb" = false ∧
      ofPatterns ⟨["**"], ["*"]⟩ = .ok ⟨[⟨[.anyText]⟩], [⟨[.anyName]⟩]⟩ ∧
      holdsBack ⟨[⟨[.anyText]⟩], [⟨[.anyName]⟩]⟩ "a\nb" = true ∧
      holdsBack ⟨[], [⟨[.anyText]⟩]⟩ "a\nb" = false := by
  decide

end PathFilter

end BuildLedger
