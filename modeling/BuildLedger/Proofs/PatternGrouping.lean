import BuildLedger.Batch
import BuildLedger.Proofs.Splitting
import Mathlib.Data.List.TakeWhile

/-!
# How patterns are grouped into entries

The entries of a pattern list are the pieces between commas that are not blank, each without the
blanks at its ends. Joining entries with commas keeps the pieces, so it never matters for what is
uploaded and what is held back which patterns share an entry. Lists whose pieces are all blank hold
nothing back.
-/
namespace BuildLedger

namespace PatternLists

def Blank (text : List Char) : Prop := ∀ character ∈ text, Text.isBlank character = true

instance (text : List Char) : Decidable (Blank text) :=
  inferInstanceAs (Decidable (∀ character ∈ text, Text.isBlank character = true))

/-- The texts between commas, entry by entry. -/
def pieces (raw : List String) : List (List Char) :=
  raw.flatMap fun entry => entry.toList.splitOn ','

/-- All entries in one text. -/
def joined (raw : List String) : String := ",".intercalate raw

/-- Neither end of the text is blank. -/
structure Tight (text : List Char) : Prop where
  starts : ∀ character ∈ text.head?, Text.isBlank character = false
  ends : ∀ character ∈ text.getLast?, Text.isBlank character = false

/-- A pattern that splitting and trimming leave as it is. -/
structure Normal (entry : String) : Prop where
  present : entry ≠ ""
  single : ',' ∉ entry.toList
  tight : Tight entry.toList

/-- The text is the piece without some blanks at its ends. -/
def Strips (piece text : List Char) : Prop :=
  ∃ before after, Blank before ∧ Blank after ∧ piece = before ++ text ++ after

/-- One entry for each piece that is not blank, in order. -/
def Lists (raw entries : List String) : Prop :=
  List.Forall₂ Strips ((pieces raw).filter fun piece => ¬Blank piece) (entries.map String.toList)

/-! ## Trimming -/

theorem dropped_blank (text : List Char) :
    ∃ before, Blank before ∧ text = before ++ text.dropWhile Text.isBlank := by
  refine ⟨text.takeWhile Text.isBlank, ?_, List.takeWhile_append_dropWhile.symm⟩
  intro character inside
  exact List.mem_takeWhile_imp inside

theorem visible_after_drop (text : List Char) :
    ∀ character ∈ (text.dropWhile Text.isBlank).head?, Text.isBlank character = false := by
  intro character first
  have checked := List.head?_dropWhile_not Text.isBlank text
  rw [Option.mem_def.mp first] at checked
  simpa using checked

/-- Only blanks are taken from the two ends. -/
theorem trim_strips (text : List Char) : Strips text (Text.trimList text) := by
  obtain ⟨before, leading, front⟩ := dropped_blank text
  obtain ⟨after, trailing, back⟩ := dropped_blank (text.dropWhile Text.isBlank).reverse
  refine ⟨before, after.reverse, leading, ?_, ?_⟩
  · intro character inside
    exact trailing character (List.mem_reverse.mp inside)
  · have turned := congrArg List.reverse back
    rw [List.reverse_reverse, List.reverse_append] at turned
    rw [List.append_assoc]
    exact front.trans (congrArg (before ++ ·) turned)

theorem trim_tight (text : List Char) : Tight (Text.trimList text) where
  starts := by
    -- Trimming the end leaves a beginning of the text that has lost its leading blanks.
    intro character first
    have begins : Text.trimList text <+: text.dropWhile Text.isBlank := by
      rw [← List.reverse_suffix, Text.trimList, Text.trimEndList, List.reverse_reverse]
      exact List.dropWhile_suffix _
    obtain ⟨rest, whole⟩ := begins
    apply visible_after_drop text character
    rw [← whole, List.head?_append, Option.mem_def.mp first]
    rfl
  ends := by
    intro character last
    rw [Text.trimList, Text.trimEndList, List.getLast?_reverse] at last
    exact visible_after_drop _ character last

/-- Nothing but the empty text can be stripped from a tight one. -/
theorem strips_tight {piece text : List Char} (tight : Tight piece) (strips : Strips piece text) :
    text = piece := by
  obtain ⟨before, after, leading, trailing, rfl⟩ := strips
  have none : before = [] := by
    rcases before with _ | ⟨first, rest⟩
    · rfl
    · have visible := tight.starts first (by simp)
      rw [leading first List.mem_cons_self] at visible
      cases visible
  have nothing : after = [] := by
    rcases List.eq_nil_or_concat after with empty | ⟨rest, last, rfl⟩
    · exact empty
    · have visible := tight.ends last (by simp)
      rw [trailing last (by simp)] at visible
      cases visible
  simp [none, nothing]

theorem trim_of_tight {text : List Char} (tight : Tight text) : Text.trimList text = text :=
  strips_tight tight (trim_strips text)

theorem trim_nil_iff (text : List Char) : Text.trimList text = [] ↔ Blank text := by
  have strips := trim_strips text
  constructor
  · intro empty
    obtain ⟨before, after, leading, trailing, whole⟩ := strips
    rw [empty, List.append_nil] at whole
    intro character inside
    rw [whole, List.mem_append] at inside
    exact inside.elim (leading character) (trailing character)
  · intro blank
    rcases trimmed : Text.trimList text with _ | ⟨first, rest⟩
    · rfl
    · obtain ⟨before, after, _, _, whole⟩ := strips
      have inside : first ∈ text := by
        rw [whole, trimmed]
        simp
      have visible := (trim_tight text).starts first (by simp [trimmed])
      rw [blank first inside] at visible
      cases visible

/-! ## Pieces -/

theorem split_commas_eq (text : List Char) : splitCommas text = text.splitOn ',' := by
  induction text with
  | nil => rfl
  | cons character rest ih =>
      rw [List.splitOn_cons_eq_if_modifyHead]
      by_cases comma : character = ','
      · simp [comma, splitCommas, ih]
      · rcases split : rest.splitOn ',' with _ | ⟨head, others⟩
        · exact absurd split (List.splitOn_ne_nil ',' rest)
        · simp [splitCommas, comma, ih, split]

/-- The patterns of a list depend on its pieces alone. -/
theorem normalise_pieces (raw : List String) :
    normalise raw = (((pieces raw).map Text.trimList).filter fun part => !part.isEmpty).map
      String.ofList := by
  simp only [normalise, pieces, split_commas_eq, List.map_flatMap, List.filter_flatMap]

theorem pieces_joined {raw : List String} (present : raw ≠ []) :
    pieces [joined raw] = pieces raw := by
  have parts : (joined raw).toList = [','].intercalate (raw.map String.toList) :=
    String.toList_intercalate
  rw [pieces, List.flatMap_singleton, parts, split_on_joined ',' (by simpa using present),
    List.flatMap_map]
  rfl

theorem normalise_joined (raw : List String) : normalise [joined raw] = normalise raw := by
  by_cases present : raw = []
  · subst present
    rfl
  · rw [normalise_pieces, pieces_joined present, ← normalise_pieces]

theorem normalise_append (raw more : List String) :
    normalise (raw ++ more) = normalise raw ++ normalise more :=
  List.flatMap_append

theorem normal_of_mem {raw : List String} {entry : String} (member : entry ∈ normalise raw) :
    Normal entry := by
  rw [normalise_pieces, List.mem_map] at member
  obtain ⟨part, member, rfl⟩ := member
  obtain ⟨member, present⟩ := List.mem_filter.mp member
  obtain ⟨piece, inside, rfl⟩ := List.mem_map.mp member
  obtain ⟨source, _, cut⟩ := List.mem_flatMap.mp inside
  obtain ⟨before, after, _, _, whole⟩ := trim_strips piece
  constructor
  · simpa [← String.toList_inj] using present
  · rw [String.toList_ofList]
    intro comma
    have inPiece : ',' ∈ piece := by
      rw [whole]
      simp [comma]
    exact (mem_split_on cut ',' inPiece).1 rfl
  · rw [String.toList_ofList]
    exact trim_tight piece

theorem normalise_of_normal {entries : List String} (normal : ∀ entry ∈ entries, Normal entry) :
    normalise entries = entries := by
  induction entries with
  | nil => rfl
  | cons entry rest ih =>
      have here := normal entry List.mem_cons_self
      have later := ih fun other member => normal other (List.mem_cons_of_mem _ member)
      have present : entry.toList ≠ [] := by simpa using here.present
      have alone : normalise [entry] = [entry] := by
        simp [normalise, split_commas_eq, List.splitOn_eq_singleton here.single,
          trim_of_tight here.tight, present]
      calc
        normalise (entry :: rest) = normalise [entry] ++ normalise rest :=
          normalise_append [entry] rest
        _ = entry :: rest := by rw [alone, later, List.singleton_append]

theorem lists_normalise (raw : List String) : Lists raw (normalise raw) := by
  have texts : (normalise raw).map String.toList =
      ((pieces raw).map Text.trimList).filter fun part => !part.isEmpty := by
    rw [normalise_pieces, List.map_map]
    simp
  unfold Lists
  rw [texts]
  induction pieces raw with
  | nil => exact .nil
  | cons piece rest ih =>
      by_cases blank : Blank piece
      · have empty := (trim_nil_iff piece).mpr blank
        simpa [blank, empty] using ih
      · have kept : Text.trimList piece ≠ [] := fun empty => blank ((trim_nil_iff piece).mp empty)
        simpa [blank, kept, trim_strips piece] using ih

theorem normalise_nil_iff (raw : List String) :
    normalise raw = [] ↔ ∀ piece ∈ pieces raw, Blank piece := by
  rw [normalise_pieces]
  simp [List.filter_eq_nil_iff, trim_nil_iff]

/-! ## Regrouped settings -/

/-- The entries differ at most in where one ends and the next begins. -/
def SameText (left right : List String) : Prop := joined left = joined right

theorem normalise_of_same_text {left right : List String} (same : SameText left right) :
    normalise left = normalise right := by
  unfold SameText at same
  rw [← normalise_joined left, same, normalise_joined]

end PatternLists

open PatternLists

/-- A unit's own patterns are grouped otherwise, if it has any, and its switch is the same. -/
structure UnitSettings.Regrouped (left right : UnitSettings) : Prop where
  includes : Option.Rel SameText left.includePatterns right.includePatterns
  excludes : Option.Rel SameText left.excludePatterns right.excludePatterns
  publishes : left.publishArtifacts = right.publishArtifacts

/-- The general patterns and those of all units are grouped otherwise, and the switches are the
same. -/
structure Settings.Regrouped (left right : Settings) : Prop where
  includes : SameText left.publisher.includePatterns right.publisher.includePatterns
  excludes : SameText left.publisher.excludePatterns right.publisher.excludePatterns
  publishes : left.publisher.publishArtifacts = right.publisher.publishArtifacts
  units : ∀ unit, Option.Rel UnitSettings.Regrouped (left.modules.get? unit)
    (right.modules.get? unit)

namespace Settings

variable {left right : Settings}

/-- A unit's own list where it has one, and the general list elsewhere. -/
theorem same_text_chosen {own other : Option (List String)} {general fallback : List String}
    (lists : Option.Rel SameText own other) (same : SameText general fallback) :
    SameText (own.getD general) (other.getD fallback) := by
  cases lists with
  | none => exact same
  | some list => exact list

theorem Regrouped.patterns (regrouped : Regrouped left right) (unit : String) :
    left.patternsFor unit = right.patternsFor unit := by
  have units := regrouped.units unit
  simp only [patternsFor, ofRaw, PatternLists.mk.injEq]
  generalize left.modules.get? unit = own at units
  generalize right.modules.get? unit = other at units
  cases units with
  | none =>
      exact ⟨normalise_of_same_text regrouped.includes, normalise_of_same_text regrouped.excludes⟩
  | some own =>
      exact ⟨normalise_of_same_text (same_text_chosen own.includes regrouped.includes),
        normalise_of_same_text (same_text_chosen own.excludes regrouped.excludes)⟩

theorem Regrouped.publish (regrouped : Regrouped left right) (unit : String) :
    left.publishesArtifactsOf unit = right.publishesArtifactsOf unit := by
  have units := regrouped.units unit
  simp only [publishesArtifactsOf, regrouped.publishes]
  generalize left.modules.get? unit = own at units
  generalize right.modules.get? unit = other at units
  cases units with
  | none => rfl
  | some own => simp only [Option.bind_some, own.publishes]

end Settings

namespace Batch

variable {left right : Settings}

/-- Units are judged by their patterns and their switch, and by nothing else of the settings. -/
theorem judge_all_of_same (patterns : ∀ unit, left.patternsFor unit = right.patternsFor unit)
    (publishes : ∀ unit, left.publishesArtifactsOf unit = right.publishesArtifactsOf unit)
    (judged : Judged) (units : List UnitUploads) :
    judgeAll left judged units = judgeAll right judged units := by
  induction units generalizing judged with
  | nil => rfl
  | cons own rest ih =>
      have same : judge left judged own = judge right judged own := by
        simp only [judge, patterns, publishes]
      simp only [judgeAll, same, ih]

theorem of_collection_regrouped (regrouped : left.Regrouped right) (collection : Collection) :
    ofCollection left collection = ofCollection right collection := by
  simp only [ofCollection, judge_all_of_same regrouped.patterns regrouped.publish]

end Batch

namespace PatternLists

/-- The entries are normal and tell the pieces that are not blank. Reading them again changes
nothing, and neither does writing them into one entry or reading a list in two parts. So a batch
does not depend on how patterns are grouped. A list is empty when all of its pieces are blank, and
empty lists hold nothing back. -/
theorem grouping_never_counts :
    (∀ includes excludes : List String,
      let patterns := ofRaw includes excludes
      (∀ entry ∈ patterns.includes ++ patterns.excludes, Normal entry) ∧
      Lists includes patterns.includes ∧ Lists excludes patterns.excludes ∧
      ofRaw patterns.includes patterns.excludes = patterns ∧
      ofRaw [joined includes] [joined excludes] = patterns ∧
      (∀ moreIncludes moreExcludes : List String,
        let more := ofRaw moreIncludes moreExcludes
        ofRaw (includes ++ moreIncludes) (excludes ++ moreExcludes) =
          ⟨patterns.includes ++ more.includes, patterns.excludes ++ more.excludes⟩) ∧
      (patterns.isEmpty = true ↔ ∀ piece ∈ pieces includes ++ pieces excludes, Blank piece) ∧
      (patterns.isEmpty = true → ∃ filter, PathFilter.ofPatterns patterns = .ok filter ∧
        ∀ path, filter.holdsBack path = false)) ∧
    ∀ left right : Settings, left.Regrouped right → ∀ collection,
      Batch.ofCollection left collection = Batch.ofCollection right collection := by
  refine ⟨?_, fun left right => Batch.of_collection_regrouped⟩
  intro includes excludes patterns
  have normal : ∀ entry ∈ patterns.includes ++ patterns.excludes, Normal entry := by
    intro entry member
    exact (List.mem_append.mp member).elim normal_of_mem normal_of_mem
  refine ⟨normal, lists_normalise includes, lists_normalise excludes, ?_, ?_, ?_, ?_, ?_⟩
  · rw [ofRaw, normalise_of_normal fun entry member => normal entry (List.mem_append_left _ member),
      normalise_of_normal fun entry member => normal entry (List.mem_append_right _ member)]
  · rw [ofRaw, normalise_joined, normalise_joined]
    rfl
  · intro moreIncludes moreExcludes more
    rw [ofRaw, normalise_append, normalise_append]
    rfl
  · rw [isEmpty, Bool.and_eq_true, List.isEmpty_iff, List.isEmpty_iff, List.forall_mem_append]
    exact and_congr (normalise_nil_iff includes) (normalise_nil_iff excludes)
  · intro empty
    rw [isEmpty, Bool.and_eq_true, List.isEmpty_iff, List.isEmpty_iff] at empty
    refine ⟨.permissive, ?_, fun path => rfl⟩
    rw [PathFilter.ofPatterns, empty.1, empty.2]
    rfl

/-- An entry of blanks, commas and wide blanks holds nothing back, and two excluded patterns may
share an entry. -/
theorem blank_entries_hold_nothing_back :
    let entries := [" , 　,", "	"]
    let left : Settings := { publisher := { excludePatterns := ["*.pom,lib/**"] } }
    let right : Settings := { publisher := { excludePatterns := ["*.pom", "lib/**"] } }
    (ofRaw [] entries).isEmpty = true ∧
      (∃ filter, PathFilter.ofPatterns (ofRaw [] entries) = .ok filter ∧
        ∀ path, filter.holdsBack path = false) ∧
      left.Regrouped right ∧ ∀ collection,
        Batch.ofCollection left collection = Batch.ofCollection right collection := by
  intro entries left right
  have empty : (ofRaw [] entries).isEmpty = true := by decide
  have regrouped : left.Regrouped right := {
    includes := rfl
    excludes := rfl
    publishes := rfl
    units := fun _ => .none }
  obtain ⟨_, _, _, _, _, _, _, nothingHeld⟩ := grouping_never_counts.1 [] entries
  exact ⟨empty, nothingHeld empty, regrouped, grouping_never_counts.2 left right regrouped⟩

end PatternLists

end BuildLedger
