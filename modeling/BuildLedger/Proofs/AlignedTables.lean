import BuildLedger.Command
import BuildLedger.Proofs.Splitting
import Mathlib.Data.List.Forall2
import Mathlib.Data.List.Induction
import Mathlib.Data.String.Basic

/-!
# Aligned tables

A column is as wide as its widest cell in bytes, and no text has more characters than bytes, so each
cell has room in its column. Every line therefore begins a column at the same character, whatever
stands in the columns before it. Trimming a line takes the spaces that fill up its last cell and
stops at the cell itself. Cells without line ends make lines without line ends, so the printed text
splits into the lines of the table again.
-/
namespace BuildLedger.Table

/-- Where a column begins: behind the columns before it and a gap of two behind each of them. -/
def offset (widths : List Nat) (column : Nat) : Nat :=
  (widths.take column).foldr (· + ·) 0 + 2 * column

/-- Every cell of a row stands in a line where its column begins, with nothing but spaces up to the
next one, and the line ends with the last cell. -/
structure Shows (widths : List Nat) (cells : List String) (line : String) : Prop where
  placed : ∀ column cell, cells[column]? = some cell →
    cell.toList <+: line.toList.drop (offset widths column)
  apart : ∀ column cell next, cells[column]? = some cell → cells[column + 1]? = some next →
    ∃ spaces, 2 ≤ spaces ∧
      offset widths (column + 1) = offset widths column + cell.length + spaces ∧
      List.replicate spaces ' ' <+: line.toList.drop (offset widths column + cell.length)
  ends : ∀ last, cells.getLast? = some last →
    line.length = offset widths (cells.length - 1) + last.length

/-- The width is that of the widest cell in a column, in bytes. -/
structure Widest (table : List (List String)) (column width : Nat) : Prop where
  reached : ∃ cells ∈ table, ∃ cell, cells[column]? = some cell ∧ cell.utf8ByteSize = width
  bound : ∀ cells ∈ table, ∀ cell, cells[column]? = some cell → cell.utf8ByteSize ≤ width

/-- The text is not blank and does not end in a blank. -/
structure EndsVisibly (text : String) : Prop where
  visible : Text.allBlank text = false
  ends : ∀ character ∈ text.toList.getLast?, Text.isBlank character = false

/-- Every cell has room in its column. -/
def Fits (widths : List Nat) (cells : List String) : Prop :=
  List.Forall₂ (fun width cell => cell.length ≤ width) widths cells

/-- What the separator has in a column. -/
def hyphens (width : Nat) : String := String.ofList (List.replicate width '-')

/-- The characters of a line: each cell but the last one is filled up and has a gap behind it. -/
def shown : List Nat → List String → List Char
  | width :: widths, cell :: next :: rest =>
      (fill cell width).toList ++ gap.toList ++ shown widths (next :: rest)
  | _, [cell] => cell.toList
  | _, _ => []

/-! ## Widths -/

theorem length_le_bytes (text : String) : text.length ≤ text.utf8ByteSize := by
  rw [← String.length_toList, ← String.ofList_toList (s := text), String.utf8ByteSize_ofList,
    String.toList_ofList]
  induction text.toList with
  | nil => exact Nat.le_refl 0
  | cons character rest ih =>
      have positive := character.utf8Size_pos
      rw [List.length_cons, String.utf8Len_cons]
      omega

theorem widen_length (widths : List Nat) (cells : List String) :
    (widen widths cells).length = widths.length := by
  induction widths generalizing cells with
  | nil => rfl
  | cons width widths ih =>
      cases cells with
      | nil => rfl
      | cons cell cells => simp only [widen, List.length_cons, ih]

theorem widen_get {widths : List Nat} {cells : List String} (even : cells.length = widths.length)
    (column : Nat) :
    (widen widths cells)[column]? =
      (widths[column]?).bind fun width =>
        (cells[column]?).map fun cell => max width cell.utf8ByteSize := by
  induction widths generalizing cells column with
  | nil => simp [widen]
  | cons width widths ih =>
      cases cells with
      | nil => simp at even
      | cons cell cells =>
          cases column with
          | zero => simp [widen]
          | succ column => simpa [widen] using ih (by simpa using even) column

/-- A row makes each column as wide as its own cell needs, and no wider. -/
theorem widest_of_widened {table : List (List String)} {widths : List Nat} {row : List String}
    (even : row.length = widths.length)
    (widest : ∀ column width, widths[column]? = some width → Widest table column width)
    (column width : Nat) (found : (widen widths row)[column]? = some width) :
    Widest (table ++ [row]) column width := by
  rw [widen_get even, Option.bind_eq_some_iff] at found
  obtain ⟨earlier, before, found⟩ := found
  obtain ⟨own, stands, rfl⟩ := Option.map_eq_some_iff.mp found
  obtain ⟨⟨cells, member, cell, held, size⟩, bound⟩ := widest column earlier before
  constructor
  · rcases Nat.le_total earlier own.utf8ByteSize with wider | narrower
    · exact ⟨row, by simp, own, stands, (Nat.max_eq_right wider).symm⟩
    · exact ⟨cells, by simp [member], cell, held, size.trans (Nat.max_eq_left narrower).symm⟩
  · intro others inside other holds
    rcases List.mem_append.mp inside with above | last
    · exact Nat.le_trans (bound others above other holds) (Nat.le_max_left _ _)
    · rw [List.mem_singleton.mp last, stands, Option.some.injEq] at holds
      rw [← holds]
      exact Nat.le_max_right _ _

/-- The widths of a table, by its rows: each row keeps them the widest so far. -/
theorem widths_widest {headers : List String} {rows : List (List String)}
    (even : ∀ row ∈ rows, row.length = headers.length) :
    (widths headers rows).length = headers.length ∧
      ∀ column width, (widths headers rows)[column]? = some width →
        Widest (headers :: rows) column width := by
  induction rows using List.reverseRecOn with
  | nil =>
      refine ⟨by simp [widths], ?_⟩
      intro column width found
      obtain ⟨cell, stands, rfl⟩ : ∃ cell, headers[column]? = some cell ∧
          cell.utf8ByteSize = width := by
        simpa [widths] using found
      refine ⟨⟨headers, List.mem_cons_self, cell, stands, rfl⟩, ?_⟩
      intro cells member other holds
      rw [List.mem_singleton.mp member, stands, Option.some.injEq] at holds
      exact Nat.le_of_eq (congrArg String.utf8ByteSize holds.symm)
  | append_singleton rows row ih =>
      obtain ⟨length, widest⟩ := ih fun other member => even other (List.mem_append_left _ member)
      have own : row.length = (widths headers rows).length := by
        rw [length]
        exact even row (List.mem_append_right _ List.mem_cons_self)
      have more : widths headers (rows ++ [row]) = widen (widths headers rows) row := by
        simp only [widths, List.foldl_append, List.foldl_cons, List.foldl_nil]
      rw [more, ← List.cons_append]
      exact ⟨(widen_length _ _).trans length, widest_of_widened own widest⟩

theorem widths_fit {headers : List String} {rows : List (List String)}
    (even : ∀ row ∈ rows, row.length = headers.length) :
    ∀ cells ∈ headers :: rows, Fits (widths headers rows) cells := by
  intro cells member
  obtain ⟨length, widest⟩ := widths_widest even
  have same : cells.length = headers.length := by
    rcases List.mem_cons.mp member with rfl | inside
    · rfl
    · exact even cells inside
  refine List.forall₂_iff_get.mpr ⟨length.trans same.symm, ?_⟩
  intro column wide some
  have bound := (widest column _ (List.getElem?_eq_getElem wide)).bound cells member _
    (List.getElem?_eq_getElem some)
  exact Nat.le_trans (length_le_bytes _) bound

/-! ## Lines -/

section Lines

variable {widths : List Nat} {cells : List String}

theorem fill_length {cell : String} {width : Nat} (fits : cell.length ≤ width) :
    (fill cell width).toList.length = width := by
  simp only [fill, String.toList_append, String.toList_ofList, List.length_append,
    String.length_toList, List.length_replicate]
  omega

/-- The filled cells with gaps between them are the line and the filling of its last cell. -/
theorem joined_shown (fits : Fits widths cells) :
    ∃ count, (gap.intercalate (cells.zipWith fill widths)).toList =
      shown widths cells ++ List.replicate count ' ' := by
  rw [String.toList_intercalate]
  induction fits with
  | nil => exact ⟨0, rfl⟩
  | @cons width cell widths cells room others ih =>
      cases others with
      | nil => exact ⟨width - cell.length, by simp [shown, fill]⟩
      | @cons second next widths rest =>
          obtain ⟨count, joined⟩ := ih
          simp only [List.zipWith_cons_cons, List.map_cons] at joined
          refine ⟨count, ?_⟩
          simp only [List.zipWith_cons_cons, List.map_cons, List.intercalate_cons_cons, joined,
            shown, List.append_assoc]

theorem shown_ends_with {last : String} (fits : Fits widths cells)
    (final : cells.getLast? = some last) : last.toList <:+ shown widths cells := by
  induction fits with
  | nil => cases final
  | @cons width cell widths cells room others ih =>
      cases others with
      | nil =>
          cases final
          exact List.suffix_refl _
      | @cons second next widths rest =>
          have later := ih (by simpa using final)
          exact later.trans (List.suffix_append _ _)

theorem mem_shown {character : Char} (member : character ∈ shown widths cells) :
    character = ' ' ∨ ∃ cell ∈ cells, character ∈ cell.toList := by
  induction cells generalizing widths with
  | nil => simp [shown] at member
  | cons cell cells ih =>
      cases cells with
      | nil => exact Or.inr ⟨cell, List.mem_cons_self, by simpa [shown] using member⟩
      | cons next rest =>
          cases widths with
          | nil => simp [shown] at member
          | cons width widths =>
              have parts : character ∈ cell.toList ∨ character = ' ' ∨
                  character ∈ shown widths (next :: rest) := by
                simp only [shown, fill, gap, String.toList_append, String.toList_ofList,
                  List.mem_append, List.mem_replicate] at member
                rcases member with ((own | ⟨_, filling⟩) | between) | later
                · exact Or.inl own
                · exact Or.inr (Or.inl filling)
                · exact Or.inr (Or.inl (by simpa using between))
                · exact Or.inr (Or.inr later)
              rcases parts with own | space | later
              · exact Or.inr ⟨cell, List.mem_cons_self, own⟩
              · exact Or.inl space
              · rcases ih later with space | ⟨other, inside, holds⟩
                · exact Or.inl space
                · exact Or.inr ⟨other, List.mem_cons_of_mem _ inside, holds⟩

theorem trim_end_padded {text : List Char} {last : Char} (final : text.getLast? = some last)
    (visible : Text.isBlank last = false) (count : Nat) :
    Text.trimEndList (text ++ List.replicate count ' ') = text := by
  obtain ⟨front, rfl⟩ := List.getLast?_eq_some_iff.mp final
  have filling : ∀ character ∈ List.replicate count ' ', Text.isBlank character = true := by
    intro character member
    rw [(List.mem_replicate.mp member).2]
    decide
  rw [Text.trimEndList, List.reverse_append, List.reverse_replicate,
    List.dropWhile_append_of_pos filling]
  simp [visible]

/-- Trimming takes the filling of the last cell and nothing of the cell. -/
theorem line_shown (fits : Fits widths cells)
    (visibly : ∀ last ∈ cells.getLast?, EndsVisibly last) :
    line widths cells = String.ofList (shown widths cells) := by
  cases final : cells.getLast? with
  | none =>
      cases List.getLast?_eq_none_iff.mp final
      cases fits
      rfl
  | some last =>
      obtain ⟨count, joined⟩ := joined_shown fits
      obtain ⟨visible, ends⟩ := visibly last final
      obtain ⟨character, ending⟩ : ∃ character, last.toList.getLast? = some character := by
        cases ending : last.toList.getLast? with
        | some character => exact ⟨character, rfl⟩
        | none =>
            rw [Text.allBlank, List.getLast?_eq_none_iff.mp ending] at visible
            cases visible
      have whole : (shown widths cells).getLast? = some character := by
        obtain ⟨front, parts⟩ := shown_ends_with fits final
        rw [← parts, List.getLast?_append, ending]
        rfl
      rw [line, Text.trimEnd, joined, trim_end_padded whole (ends character ending)]

theorem offset_succ (width : Nat) (widths : List Nat) (column : Nat) :
    offset (width :: widths) (column + 1) = width + 2 + offset widths column := by
  simp only [offset, List.take_succ_cons, List.foldr_cons]
  omega

section First

variable {cell next : String} {width : Nat} {rest : List String} {behind : List Char}

/-- The first cell, its filling and its gap take the width of its column and two more. -/
theorem drop_first (room : cell.length ≤ width) (count : Nat) :
    ((fill cell width).toList ++ gap.toList ++ behind).drop (width + 2 + count) =
      behind.drop count := by
  have long : ((fill cell width).toList ++ gap.toList).length = width + 2 := by
    rw [List.length_append, fill_length room]
    rfl
  rw [← long, List.drop_length_add_append]

theorem first_spaces (cell : String) (width : Nat) (behind : List Char) :
    (fill cell width).toList ++ gap.toList ++ behind =
      cell.toList ++ (List.replicate (width - cell.length + 2) ' ' ++ behind) := by
  have two : gap.toList = List.replicate 2 ' ' := rfl
  simp only [fill, two, String.toList_append, String.toList_ofList, List.append_assoc,
    List.replicate_add]

/-- A line that shows some cells still shows them behind another cell. -/
theorem shows_first (room : cell.length ≤ width)
    (shows_rest : Shows widths (next :: rest) (String.ofList behind)) :
    Shows (width :: widths) (cell :: next :: rest)
      (String.ofList ((fill cell width).toList ++ gap.toList ++ behind)) where
  placed := by
    intro column found stands
    rw [String.toList_ofList]
    cases column with
    | zero =>
        cases stands
        rw [first_spaces]
        exact List.prefix_append _ _
    | succ column =>
        rw [offset_succ, drop_first room]
        simpa using shows_rest.placed column found (by simpa using stands)
  apart := by
    intro column found other stands follows
    rw [String.toList_ofList]
    cases column with
    | zero =>
        cases stands
        have start : offset (width :: widths) 0 = 0 := rfl
        refine ⟨width - cell.length + 2, Nat.le_add_left 2 _, ?_, ?_⟩
        · rw [offset_succ, start, offset, List.take_zero, List.foldr_nil]
          omega
        · rw [first_spaces, start, Nat.zero_add, ← String.length_toList, List.drop_left]
          exact List.prefix_append _ _
    | succ column =>
        obtain ⟨spaces, many, place, blanks⟩ :=
          shows_rest.apart column found other (by simpa using stands) (by simpa using follows)
        refine ⟨spaces, many, ?_, ?_⟩
        · rw [offset_succ width widths (column + 1), offset_succ width widths column, place]
          omega
        · rw [offset_succ, Nat.add_assoc, drop_first room]
          simpa using blanks
  ends := by
    intro last final
    have later := shows_rest.ends last (by simpa using final)
    have two : gap.toList.length = 2 := rfl
    simp only [String.length_ofList, List.length_cons, Nat.add_sub_cancel, List.length_append,
      fill_length room, two] at later ⊢
    rw [later, offset_succ, Nat.add_assoc, Nat.add_assoc, Nat.add_assoc]

end First

/-- By the columns, from the last one back to the first. -/
theorem shows_shown (fits : Fits widths cells) :
    Shows widths cells (String.ofList (shown widths cells)) := by
  induction fits with
  | nil => exact ⟨by simp, by simp, by simp⟩
  | @cons width cell widths cells room others ih =>
      cases others with
      | cons narrow behind => exact shows_first room ih
      | nil =>
          refine ⟨?_, by simp, ?_⟩
          · intro column found stands
            cases column with
            | succ column => simp at stands
            | zero =>
                cases stands
                simp [offset, shown]
          · intro last final
            cases final
            simp [offset, shown]

end Lines

/-! ## Separators -/

theorem hyphens_fit (widths : List Nat) : Fits widths (widths.map hyphens) := by
  rw [Fits, List.forall₂_map_right_iff, List.forall₂_same]
  intro width _
  simp [hyphens]

theorem separator_shown (widths : List Nat) :
    separator widths = String.ofList (shown widths (widths.map hyphens)) := by
  have filled : ∀ width, fill (hyphens width) width = hyphens width := by
    intro width
    simp [fill, hyphens]
  rw [← String.toList_inj, String.toList_ofList, separator, String.toList_intercalate]
  induction widths with
  | nil => rfl
  | cons width widths ih =>
      cases widths with
      | nil => simp [shown, hyphens]
      | cons second widths =>
          simp only [List.map_cons] at ih
          simp only [List.map_cons, List.intercalate_cons_cons, ih, shown, filled]
          rfl

/-! ## Printed tables -/

theorem split_printed {lines : List String} (unbroken : ∀ line ∈ lines, '\n' ∉ line.toList) :
    (Command.Printed.complete lines).text.toList.splitOn '\n' = lines.map String.toList ++ [[]] := by
  rw [Command.Printed.text, Command.Printed.complete, String.toList_join, List.flatMap_map]
  induction lines with
  | nil => rfl
  | cons line lines ih =>
      obtain ⟨first, others⟩ := List.forall_mem_cons.mp unbroken
      have ended : (line ++ "\n").toList = line.toList ++ ['\n'] := String.toList_append
      rw [List.flatMap_cons, ended, List.append_assoc, List.singleton_append,
        List.splitOn_append_cons_self, List.splitOn_eq_singleton first, ih others]
      rfl

theorem shown_unbroken {widths : List Nat} {cells : List String}
    (unbroken : ∀ cell ∈ cells, '\n' ∉ cell.toList) :
    '\n' ∉ (String.ofList (shown widths cells)).toList := by
  rw [String.toList_ofList]
  intro member
  rcases mem_shown member with space | ⟨cell, inside, holds⟩
  · cases space
  · exact unbroken cell inside holds

/-- A table of even rows prints a line for its headers, a line of hyphens and a line for each row,
and in every line each cell stands whole where its column begins. -/
theorem table_is_aligned {headers : List String} {rows : List (List String)}
    (even : ∀ row ∈ rows, row.length = headers.length)
    (unbroken : ∀ cells ∈ headers :: rows, ∀ cell ∈ cells, '\n' ∉ cell.toList)
    (visibly : ∀ cells ∈ headers :: rows, ∀ last ∈ cells.getLast?, EndsVisibly last) :
    let widths := widths headers rows
    (widths.length = headers.length ∧ ∀ column width, widths[column]? = some width →
      Widest (headers :: rows) column width) ∧
    ∃ top rule body,
      (Command.Printed.complete (lines headers rows)).text.toList.splitOn '\n' =
        (top :: rule :: body).map String.toList ++ [[]] ∧
      Shows widths headers top ∧ Shows widths (widths.map hyphens) rule ∧
      List.Forall₂ (Shows widths) rows body := by
  intro widths
  have fits : ∀ cells ∈ headers :: rows, Fits widths cells := widths_fit even
  have shows_line : ∀ cells ∈ headers :: rows, Shows widths cells (line widths cells) := by
    intro cells member
    rw [line_shown (fits cells member) (visibly cells member)]
    exact shows_shown (fits cells member)
  have top := shows_line headers List.mem_cons_self
  have rule : Shows widths (widths.map hyphens) (separator widths) := by
    rw [separator_shown]
    exact shows_shown (hyphens_fit widths)
  have body : List.Forall₂ (Shows widths) rows (rows.map (line widths)) := by
    rw [List.forall₂_map_right_iff, List.forall₂_same]
    exact fun row member => shows_line row (List.mem_cons_of_mem _ member)
  refine ⟨widths_widest even, _, _, _, split_printed ?_, top, rule, body⟩
  have whole : ∀ cells ∈ headers :: rows, '\n' ∉ (line widths cells).toList := by
    intro cells member
    rw [line_shown (fits cells member) (visibly cells member)]
    exact shown_unbroken (unbroken cells member)
  have hyphened : '\n' ∉ (separator widths).toList := by
    rw [separator_shown]
    apply shown_unbroken
    intro cell member
    obtain ⟨width, _, rfl⟩ := List.mem_map.mp member
    simp [hyphens]
  intro line member
  change line ∈ _ :: _ :: _ at member
  simp only [List.mem_cons, List.mem_map] at member
  rcases member with rfl | rfl | ⟨row, inside, rfl⟩
  · exact whole headers List.mem_cons_self
  · exact hyphened
  · exact whole row (List.mem_cons_of_mem _ inside)

/-- Names with characters of two and four bytes, blank and empty cells, and a last column that is
wider than its header. -/
theorem wide_characters_stay_aligned :
    let headers := ["MODULE", "", "Σ"]
    let rows := [["für:é", " ", "12345"], ["", "🚀🚀", " x"], ["module:plain", "—", "0"]]
    (∀ row ∈ rows, row.length = headers.length) ∧
      (∀ cells ∈ headers :: rows, ∀ cell ∈ cells, '\n' ∉ cell.toList) ∧
      (∀ cells ∈ headers :: rows, ∀ last ∈ cells.getLast?, EndsVisibly last) ∧
      widths headers rows = [12, 8, 5] ∧
      ∃ top rule body,
        (Command.Printed.complete (lines headers rows)).text.toList.splitOn '\n' =
          (top :: rule :: body).map String.toList ++ [[]] ∧
        Shows [12, 8, 5] headers top ∧
        Shows [12, 8, 5] ["------------", "--------", "-----"] rule ∧
        List.Forall₂ (Shows [12, 8, 5]) rows body := by
  intro headers rows
  have even : ∀ row ∈ rows, row.length = headers.length := by decide
  have unbroken : ∀ cells ∈ headers :: rows, ∀ cell ∈ cells, '\n' ∉ cell.toList := by decide
  have visibly : ∀ cells ∈ headers :: rows, ∀ last ∈ cells.getLast?, EndsVisibly last := by
    have checked : ∀ cells ∈ headers :: rows, ∀ last ∈ cells.getLast?,
        Text.allBlank last = false ∧
          last.toList.getLast?.all (fun character => !Text.isBlank character) = true := by decide
    intro cells member last final
    obtain ⟨visible, ends⟩ := checked cells member last final
    refine ⟨visible, fun character found => ?_⟩
    simpa using (Option.all_eq_true _ _).mp ends character found
  have measured : widths headers rows = [12, 8, 5] := by decide
  have aligned := (table_is_aligned even unbroken visibly).2
  rw [measured] at aligned
  exact ⟨even, unbroken, visibly, measured, aligned⟩

end BuildLedger.Table
