import BuildLedger.Json.Printer
import BuildLedger.Proofs.JsonGrammar

/-!
# What written trees are read as

A field tree stands for one JSON value, whose numbers are spelled in decimal without a zero in
front. Both layouts of the printer write that value by the rules of the grammar, so the reader gets
it back from the text, and nothing of it is left over.
-/
namespace BuildLedger.Json

/-- A whole number in decimal. -/
def Numeral.ofInt (value : Int) : Numeral :=
  ⟨decide (value < 0), (Nat.toDigits 10 value.natAbs).map digitValue, none, none⟩

mutual

/-- The value that a tree is written as. -/
def ofTree : Tree → Json
  | .null => .null
  | .flag value => .flag value
  | .number value => .number (.ofInt value)
  | .text value => .text value
  | .list items => .list (ofItems items) none
  | .table entries => .table (ofEntries entries) none

def ofItems : List Tree → List Json
  | [] => []
  | item :: items => ofTree item :: ofItems items

def ofEntries : List (String × Tree) → List (Name × Json)
  | [] => []
  | (name, value) :: entries => (.ok name, ofTree value) :: ofEntries entries

end

/-! ## Texts -/

/-- The two digits of a control character are read back. -/
theorem control_digits : ∀ code < 0x20,
    fourHex? '0' '0' (Bytes.digitChar 'a' (code.toUInt8.toNat / 16))
      (Bytes.digitChar 'a' (code.toUInt8.toNat % 16)) = some code := by
  decide

theorem escaped_spells (character : Char) {characters body : List Char}
    (others : SpellsText characters body) :
    SpellsText (character :: characters) (escaped character ++ body) := by
  unfold escaped
  split
  · next same => subst same; exact .escape rfl others
  split
  · next same => subst same; exact .escape rfl others
  split
  · next same => subst same; exact .escape rfl others
  split
  · next same => subst same; exact .escape rfl others
  split
  · next same => subst same; exact .escape rfl others
  split
  · next same => subst same; exact .escape rfl others
  split
  · next same => subst same; exact .escape rfl others
  split
  · next control =>
    have digits := control_digits character.toNat control
    have notHigh : isHighSurrogate character.toNat = false := by
      simp [isHighSurrogate]
      omega
    have notLow : isLowSurrogate character.toNat = false := by
      simp [isLowSurrogate]
      omega
    have spelled := SpellsText.unit digits notHigh notLow others
    rw [Char.ofNat_toNat] at spelled
    exact spelled
  · next notQuote notBackslash _ _ _ _ _ visible =>
    exact .plain notQuote notBackslash (Nat.le_of_not_lt visible) others

theorem characters_spelled (characters : List Char) :
    SpellsText characters (characters.flatMap escaped) := by
  induction characters with
  | nil => exact .nothing
  | cons character characters ih =>
      rw [List.flatMap_cons]
      exact escaped_spells character ih

/-! ## Numbers -/

theorem small_digit : ∀ value < 10, 0 < value → Nat.digitChar value ≠ '0' := by decide

theorem digits_begin (value : Nat) (positive : 0 < value) :
    (Nat.toDigits 10 value).head? ≠ some '0' := by
  induction value using Nat.strongRecOn with
  | ind value ih =>
      by_cases small : value < 10
      · rw [Nat.toDigits_of_lt_base small]
        simpa using small_digit value small positive
      · rw [Nat.toDigits_of_base_le (by decide) (by omega)]
        have fewer := ih (value / 10) (by omega) (by omega)
        rwa [List.head?_append_of_ne_nil _ Nat.toDigits_ne_nil]

theorem whole_digits (value : Nat) : WholeDigits (Nat.toDigits 10 value) where
  present := Nat.toDigits_ne_nil
  decimal := by
    intro digit member
    have decimal := Nat.isDigit_of_mem_toDigits (by decide) (by decide) member
    simp only [Char.isDigit, Bool.and_eq_true, decide_eq_true_iff] at decimal
    exact (is_digit_iff digit).mpr decimal
  unpadded := by
    intro zero
    by_cases small : value < 10
    · rw [Nat.toDigits_of_lt_base small]
      rfl
    · exact absurd zero (digits_begin value (by omega))

theorem number_spelled (value : Int) :
    SpellsNumeral (.ofInt value) (toString value).toList := by
  cases value with
  | ofNat size =>
      have text : (toString (Int.ofNat size)).toList = Nat.toDigits 10 size :=
        String.toList_ofList
      rw [text, ← List.append_nil (Nat.toDigits 10 size)]
      exact .whole (whole_digits size) .none .none
  | negSucc size =>
      have text : (toString (Int.negSucc size)).toList = '-' :: Nat.toDigits 10 (size + 1) := by
        change ("-" ++ String.ofList (Nat.toDigits 10 (size + 1))).toList = _
        simp
      have sign : decide (Int.negSucc size < 0) = true := by simp
      rw [text, Numeral.ofInt, sign, ← List.append_nil (Nat.toDigits 10 (size + 1))]
      exact .negative (whole_digits (size + 1)) .none .none

theorem natural_digits (value : Nat) :
    Numeral.natural ((Nat.toDigits 10 value).map digitValue) = value := by
  calc
    Numeral.natural ((Nat.toDigits 10 value).map digitValue)
        = Nat.ofDigitChars 10 (Nat.toDigits 10 value) 0 := by
      simp [Numeral.natural, Nat.ofDigitChars, List.foldl_map, digitValue, Nat.mul_comm]
    _ = value := Nat.ofDigitChars_ten_toDigits

/-- A number that 64 bits hold without a sign is read as itself. -/
theorem number_quantity {value : Int} (positive : 0 ≤ value)
    (held : value.toNat < Numeral.wordLimit) :
    (Numeral.ofInt value).quantity = .ok (.whole value) := by
  obtain ⟨size, rfl⟩ := Int.eq_ofNat_of_zero_le positive
  have sign : decide ((size : Int) < 0) = false := by simp
  have held : size < Numeral.wordLimit := held
  simp [Numeral.quantity, Numeral.ofInt, natural_digits, sign, held]

/-! ## Trees -/

theorem no_space : Space [] := by
  intro character member
  cases member

theorem line_start_space (layout : Layout) (depth : Nat) : Space (layout.lineStart depth) := by
  intro character member
  cases layout with
  | compact => cases member
  | indented =>
      rcases List.mem_cons.mp member with rfl | inside
      · rfl
      · rw [(List.mem_replicate.mp inside).2]
        rfl

theorem colon_space (layout : Layout) : ∃ space, layout.colon = ':' :: space ∧ Space space := by
  cases layout with
  | compact => exact ⟨[], rfl, no_space⟩
  | indented =>
      refine ⟨[' '], rfl, ?_⟩
      intro character member
      rw [List.mem_singleton.mp member]
      rfl

/-- A written name and its value, before what is left of the table. -/
theorem member_spelled (layout : Layout) (name : String) {space one others : List Char}
    {json : Json} {members : List (Name × Json)} (blank : Space space)
    (head : ∀ gap, Space gap → Spells (.value json) (gap ++ one))
    (tail : Spells (.members false members) others) :
    Spells (.members true ((.ok name, json) :: members))
      (space ++ (written name ++ (layout.colon ++ (one ++ others)))) := by
  obtain ⟨gap, colon, gapBlank⟩ := colon_space layout
  have spelled := Spells.member blank (.read (characters_spelled name.toList)) no_space
    (head gap gapBlank) tail
  rw [String.ofList_toList] at spelled
  simpa [written, colon] using spelled

mutual

theorem write_spelled (layout : Layout) (depth : Nat) (tree : Tree) :
    ∀ space, Space space →
      Spells (.value (ofTree tree)) (space ++ write layout depth tree) := by
  intro space blank
  match tree with
  | .null => exact .null blank
  | .flag true => exact .yes blank
  | .flag false => exact .no blank
  | .number value => exact .number blank (number_spelled value)
  | .text value =>
      have spelled := Spells.text blank (characters_spelled value.toList)
      rw [String.ofList_toList] at spelled
      exact spelled
  | .list [] => exact .list blank (.listEnd no_space)
  | .list (item :: items) =>
      -- What ends the list is indented less than its items, so its space is given from outside.
      have inside := Spells.item
        (write_spelled layout (depth + 1) item _ (line_start_space layout (depth + 1)))
        (items_spelled layout (depth + 1) items _ (line_start_space layout depth))
      simpa [ofTree, ofItems, write] using Spells.list blank inside
  | .table [] => exact .table blank (.tableEnd no_space)
  | .table ((name, value) :: entries) =>
      have inside := member_spelled layout name (line_start_space layout (depth + 1))
        (write_spelled layout (depth + 1) value)
        (entries_spelled layout (depth + 1) entries _ (line_start_space layout depth))
      simpa [ofTree, ofEntries, write] using Spells.table blank inside

theorem items_spelled (layout : Layout) (depth : Nat) (items : List Tree) :
    ∀ space, Space space →
      Spells (.items false (ofItems items))
        (writeItems layout depth items ++ (space ++ [']'])) := by
  intro space blank
  match items with
  | [] => exact .listEnd blank
  | item :: items =>
      have next := Spells.item
        (write_spelled layout depth item _ (line_start_space layout depth))
        (items_spelled layout depth items space blank)
      simpa [ofItems, writeItems] using Spells.nextItem no_space next

theorem entries_spelled (layout : Layout) (depth : Nat) (entries : List (String × Tree)) :
    ∀ space, Space space →
      Spells (.members false (ofEntries entries))
        (writeEntries layout depth entries ++ (space ++ ['}'])) := by
  intro space blank
  match entries with
  | [] => exact .tableEnd blank
  | (name, value) :: entries =>
      have next := member_spelled layout name (line_start_space layout depth)
        (write_spelled layout depth value)
        (entries_spelled layout depth entries space blank)
      simpa [ofEntries, writeEntries] using Spells.nextMember no_space next

end

/-- A written tree is read as the value it stands for, to the end of the text. -/
theorem of_text_write (layout : Layout) (tree : Tree) :
    ofText (String.ofList (write layout 0 tree)) = (ofTree tree, some []) := by
  have spelled := write_spelled layout 0 tree [] no_space
  simpa using of_text_spelled spelled no_space

end BuildLedger.Json
