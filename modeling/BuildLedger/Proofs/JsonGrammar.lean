import BuildLedger.Proofs.JsonTokens
import Mathlib.Data.List.TakeWhile

/-!
# The grammar of JSON text

A phrase is a value, what is left of a list after its opening bracket, or what is left of a table
after its opening brace. Its texts are given by rules, with any space before every token. The main
statement says that the reader reads each text of a value as that value, whatever follows, as long
as what follows cannot make a number longer. Three units of fuel a character are enough.
-/
namespace BuildLedger.Json

/-- Nothing but space between tokens. -/
def Space (text : List Char) : Prop := ∀ character ∈ text, isSpace character = true

/-- A value, or the part of a list or table that is still to be read; `first` until an item or a
member was read. -/
inductive Phrase where
  | value (json : Json)
  | items (first : Bool) (items : List Json)
  | members (first : Bool) (members : List (Name × Json))

inductive Spells : Phrase → List Char → Prop
  | null {space : List Char} (blank : Space space) :
      Spells (.value .null) (space ++ ['n', 'u', 'l', 'l'])
  | yes {space : List Char} (blank : Space space) :
      Spells (.value (.flag true)) (space ++ ['t', 'r', 'u', 'e'])
  | no {space : List Char} (blank : Space space) :
      Spells (.value (.flag false)) (space ++ ['f', 'a', 'l', 's', 'e'])
  | number {space text : List Char} {numeral : Numeral} (blank : Space space)
      (spelled : SpellsNumeral numeral text) : Spells (.value (.number numeral)) (space ++ text)
  | text {space characters body : List Char} (blank : Space space)
      (spelled : SpellsText characters body) :
      Spells (.value (.text (String.ofList characters))) (space ++ '"' :: (body ++ ['"']))
  | unreadable {space body : List Char} {fault : Fault} (blank : Space space)
      (spoilt : SpoiltText fault body) :
      Spells (.value (.unreadable fault)) (space ++ '"' :: (body ++ ['"']))
  | list {space body : List Char} {items : List Json} (blank : Space space)
      (inside : Spells (.items true items) body) :
      Spells (.value (.list items none)) (space ++ '[' :: body)
  | table {space body : List Char} {members : List (Name × Json)} (blank : Space space)
      (inside : Spells (.members true members) body) :
      Spells (.value (.table members none)) (space ++ '{' :: body)
  | listEnd {space : List Char} {first : Bool} (blank : Space space) :
      Spells (.items first []) (space ++ [']'])
  | item {one others : List Char} {item : Json} {items : List Json}
      (head : Spells (.value item) one) (tail : Spells (.items false items) others) :
      Spells (.items true (item :: items)) (one ++ others)
  | nextItem {space text : List Char} {item : Json} {items : List Json} (blank : Space space)
      (next : Spells (.items true (item :: items)) text) :
      Spells (.items false (item :: items)) (space ++ ',' :: text)
  | tableEnd {space : List Char} {first : Bool} (blank : Space space) :
      Spells (.members first []) (space ++ ['}'])
  | member {space body gap one others : List Char} {name : Name} {json : Json}
      {members : List (Name × Json)} (blank : Space space) (named : SpellsName name body)
      (gapBlank : Space gap) (head : Spells (.value json) one)
      (tail : Spells (.members false members) others) :
      Spells (.members true ((name, json) :: members))
        (space ++ '"' :: (body ++ '"' :: (gap ++ ':' :: (one ++ others))))
  | nextMember {space text : List Char} {member : Name × Json} {members : List (Name × Json)}
      (blank : Space space) (next : Spells (.members true (member :: members)) text) :
      Spells (.members false (member :: members)) (space ++ ',' :: text)

/-! ## Space -/

theorem skip_space {space : List Char} (blank : Space space) {character : Char}
    (visible : isSpace character = false) (rest : List Char) :
    skipSpace (space ++ character :: rest) = character :: rest := by
  induction space with
  | nil => simp [skipSpace, visible]
  | cons head tail ih =>
      have first : isSpace head = true := blank head List.mem_cons_self
      have others := ih fun character member => blank character (List.mem_cons_of_mem _ member)
      simpa [skipSpace, first] using others

theorem skip_all_space {space : List Char} (blank : Space space) : skipSpace space = [] :=
  List.dropWhile_eq_nil_iff.mpr blank

theorem skip_space_again (characters : List Char) :
    skipSpace (skipSpace characters) = skipSpace characters := by
  induction characters with
  | nil => rfl
  | cons head tail ih =>
      cases blank : isSpace head with
      | true => simpa [skipSpace, blank] using ih
      | false => simp [skipSpace, blank]

theorem read_value_skip (fuel : Nat) (characters : List Char) :
    readValue fuel (skipSpace characters) = readValue fuel characters := by
  cases fuel with
  | zero => rfl
  | succ fuel => simp only [readValue, skip_space_again]

/-- A digit at the front begins a number and nothing else. -/
theorem read_value_digit (fuel : Nat) {digit : Char} (decimal : isDigit digit = true)
    (rest : List Char) :
    readValue (fuel + 1) (digit :: rest) = readNumber false (digit :: rest) := by
  have different : ∀ other : Char, (other.toNat < 48 ∨ 57 < other.toNat) → digit ≠ other :=
    fun other => digit_differs decimal
  have visible : skipSpace (digit :: rest) = digit :: rest := by
    have blank : isSpace digit = false := by
      simp [isSpace, different]
    simp [skipSpace, blank]
  simp [readValue, visible, different, decimal]

/-! ## One step of the reader -/

theorem read_value_token (fuel : Nat) {space : List Char} (blank : Space space) {token : Char}
    (visible : isSpace token = false) (rest : List Char) :
    readValue fuel (space ++ token :: rest) = readValue fuel (token :: rest) := by
  rw [← read_value_skip, skip_space blank visible]

theorem read_items_end (fuel : Nat) (first : Bool) {space : List Char} (blank : Space space)
    (rest : List Char) :
    readItems (fuel + 1) first (space ++ ']' :: rest) = ⟨[], none, some rest⟩ := by
  simp only [readItems, skip_space blank (show isSpace ']' = false by decide)]

theorem read_items_first (fuel : Nat) {characters after : List Char} {token : Char}
    (begins : skipSpace characters = token :: after) (more : token ≠ ']') :
    readItems (fuel + 1) true characters = readItem fuel (token :: after) := by
  simp [readItems, begins]

theorem read_items_next (fuel : Nat) {space characters after : List Char} {token : Char}
    (blank : Space space) (begins : skipSpace characters = token :: after) (more : token ≠ ']') :
    readItems (fuel + 1) false (space ++ ',' :: characters) =
      readItems (fuel + 1) true characters := by
  rw [read_items_first fuel begins more]
  simp [readItems, skip_space blank (show isSpace ',' = false by decide), begins, more]

theorem read_item (fuel : Nat) {characters rest : List Char} {item : Json} {after : Items}
    (head : readValue fuel characters = (item, some rest))
    (tail : readItems fuel false rest = after) :
    readItem (fuel + 1) (skipSpace characters) = after.cons item := by
  simp only [readItem, read_value_skip, head, tail]

theorem read_members_end (fuel : Nat) (first : Bool) {space : List Char} (blank : Space space)
    (rest : List Char) :
    readMembers (fuel + 1) first (space ++ '}' :: rest) = ⟨[], none, some rest⟩ := by
  simp only [readMembers, skip_space blank (show isSpace '}' = false by decide)]

theorem read_members_first (fuel : Nat) {space : List Char} (blank : Space space)
    (after : List Char) :
    readMembers (fuel + 1) true (space ++ '"' :: after) = readMember fuel ('"' :: after) := by
  simp [readMembers, skip_space blank (show isSpace '"' = false by decide)]

theorem read_members_next (fuel : Nat) {space gap : List Char} (blank : Space space)
    (gapBlank : Space gap) (after : List Char) :
    readMembers (fuel + 1) false (space ++ ',' :: (gap ++ '"' :: after)) =
      readMembers (fuel + 1) true (gap ++ '"' :: after) := by
  rw [read_members_first fuel gapBlank]
  simp [readMembers, skip_space blank (show isSpace ',' = false by decide),
    skip_space gapBlank (show isSpace '"' = false by decide)]

theorem read_member (fuel : Nat) {name : Name} {body gap characters rest : List Char}
    {value : Json} {after : Members} (named : SpellsName name body) (blank : Space gap)
    (head : readValue fuel characters = (value, some rest))
    (tail : readMembers fuel false rest = after) :
    readMember (fuel + 1) ('"' :: (body ++ '"' :: (gap ++ ':' :: characters))) =
      after.cons (name, value) := by
  obtain ⟨letters, read, rfl⟩ := read_name named (gap ++ ':' :: characters)
  simp only [readMember, read, skip_space blank (show isSpace ':' = false by decide), head, tail]

/-! ## Whole phrases -/

/-- A numeral begins with its sign or a digit. -/
theorem numeral_begins {numeral : Numeral} {text : List Char}
    (spelled : SpellsNumeral numeral text) :
    ∃ token after, text = token :: after ∧ (token = '-' ∨ isDigit token = true) := by
  cases spelled with
  | negative => exact ⟨_, _, rfl, Or.inl rfl⟩
  | whole spelled =>
      obtain ⟨digit, others, rfl⟩ := List.exists_cons_of_ne_nil spelled.present
      exact ⟨digit, _, rfl, Or.inr (spelled.decimal digit List.mem_cons_self)⟩

theorem sign_or_digit_visible {token : Char} (kind : token = '-' ∨ isDigit token = true) :
    isSpace token = false ∧ token ≠ ']' := by
  rcases kind with rfl | decimal
  · decide
  · have different : ∀ other : Char, (other.toNat < 48 ∨ 57 < other.toNat) → token ≠ other :=
      fun other => digit_differs decimal
    exact ⟨by simp [isSpace, different], different ']' (Or.inr (by decide))⟩

/-- A value begins with a token that does not end a list. -/
theorem value_begins {json : Json} {text : List Char} (spelled : Spells (.value json) text) :
    ∃ token after, token ≠ ']' ∧ ∀ rest, skipSpace (text ++ rest) = token :: (after ++ rest) := by
  have shown : ∀ {space : List Char} {token : Char} (after : List Char), Space space →
      isSpace token = false → ∀ rest, skipSpace ((space ++ token :: after) ++ rest) =
        token :: (after ++ rest) := by
    intro space token after blank visible rest
    rw [List.append_assoc, List.cons_append, skip_space blank visible]
  cases spelled with
  | null blank => exact ⟨'n', _, by decide, shown _ blank (by decide)⟩
  | yes blank => exact ⟨'t', _, by decide, shown _ blank (by decide)⟩
  | no blank => exact ⟨'f', _, by decide, shown _ blank (by decide)⟩
  | text blank spelled => exact ⟨'"', _, by decide, shown _ blank (by decide)⟩
  | unreadable blank spoilt => exact ⟨'"', _, by decide, shown _ blank (by decide)⟩
  | list blank inside => exact ⟨'[', _, by decide, shown _ blank (by decide)⟩
  | table blank inside => exact ⟨'{', _, by decide, shown _ blank (by decide)⟩
  | number blank spelled =>
      obtain ⟨token, after, rfl, kind⟩ := numeral_begins spelled
      obtain ⟨visible, more⟩ := sign_or_digit_visible kind
      exact ⟨token, after, more, shown after blank visible⟩

theorem spells_present {phrase : Phrase} {text : List Char} (spelled : Spells phrase text) :
    0 < text.length := by
  induction spelled with
  | number blank spelled =>
      obtain ⟨token, after, rfl, _⟩ := numeral_begins spelled
      simp only [List.length_append, List.length_cons]
      omega
  | item head tail ih others =>
      rw [List.length_append]
      omega
  | _ =>
      simp only [List.length_append, List.length_cons]
      omega

theorem space_stops {space : List Char} (blank : Space space) : Stops space := by
  intro character first
  have visible := blank character (List.mem_of_mem_head? first)
  simp only [isSpace, Bool.or_eq_true, beq_iff_eq] at visible
  rcases visible with ((rfl | rfl) | rfl) | rfl <;> decide

/-- What is left of a list or a table does not go on with a digit. -/
theorem stops_of_token {space : List Char} (blank : Space space) {token : Char}
    (ends : token = ',' ∨ token = ']' ∨ token = '}') (rest : List Char) :
    Stops (space ++ token :: rest) := by
  intro character first
  cases space with
  | nil =>
      cases first
      rcases ends with rfl | rfl | rfl <;> decide
  | cons head tail =>
      exact space_stops blank character first

theorem items_stop {items : List Json} {text : List Char}
    (spelled : Spells (.items false items) text) (rest : List Char) : Stops (text ++ rest) := by
  cases spelled with
  | listEnd blank =>
      rw [List.append_assoc]
      exact stops_of_token blank (Or.inr (Or.inl rfl)) _
  | nextItem blank next =>
      rw [List.append_assoc]
      exact stops_of_token blank (Or.inl rfl) _

theorem members_stop {members : List (Name × Json)} {text : List Char}
    (spelled : Spells (.members false members) text) (rest : List Char) :
    Stops (text ++ rest) := by
  cases spelled with
  | tableEnd blank =>
      rw [List.append_assoc]
      exact stops_of_token blank (Or.inr (Or.inr rfl)) _
  | nextMember blank next =>
      rw [List.append_assoc]
      exact stops_of_token blank (Or.inl rfl) _

/-- The reader finds the phrase at the front of the characters and leaves the rest. -/
def Reads : Phrase → List Char → Prop
  | .value json, characters => ∀ fuel rest, Stops rest → 3 * characters.length ≤ fuel →
      readValue fuel (characters ++ rest) = (json, some rest)
  | .items first items, characters => ∀ fuel rest, 3 * characters.length ≤ fuel →
      readItems fuel first (characters ++ rest) = ⟨items, none, some rest⟩
  | .members first members, characters => ∀ fuel rest, 3 * characters.length ≤ fuel →
      readMembers fuel first (characters ++ rest) = ⟨members, none, some rest⟩

/-- A value whose first token is told by one step of the reader. -/
theorem reads_token {json : Json} {space after : List Char} {token : Char} (blank : Space space)
    (visible : isSpace token = false)
    (step : ∀ fuel rest, Stops rest → 3 * after.length ≤ fuel →
      readValue (fuel + 1) (token :: (after ++ rest)) = (json, some rest)) :
    Reads (.value json) (space ++ token :: after) := by
  intro fuel rest stops enough
  rw [List.length_append, List.length_cons] at enough
  obtain ⟨fuel, rfl⟩ : ∃ less, fuel = less + 1 := ⟨fuel - 1, by omega⟩
  rw [List.append_assoc, List.cons_append, read_value_token _ blank visible]
  exact step fuel rest stops (by omega)

theorem reads_numeral {numeral : Numeral} {space text : List Char} (blank : Space space)
    (spelled : SpellsNumeral numeral text) : Reads (.value (.number numeral)) (space ++ text) := by
  cases spelled with
  | negative spelled fractional scaled =>
      apply reads_token blank (by decide)
      intro fuel rest stops enough
      rw [List.append_assoc, List.append_assoc]
      exact read_number true spelled fractional scaled stops
  | whole spelled fractional scaled =>
      obtain ⟨digit, others, rfl⟩ := List.exists_cons_of_ne_nil spelled.present
      have decimal := spelled.decimal digit List.mem_cons_self
      apply reads_token blank (sign_or_digit_visible (Or.inr decimal)).1
      intro fuel rest stops enough
      rw [read_value_digit fuel decimal]
      simpa using read_number false spelled fractional scaled stops

/-- An item is read before what is left of its list. -/
theorem reads_item {one others : List Char} {item : Json} {items : List Json}
    (head : Spells (.value item) one) (tail : Spells (.items false items) others)
    (headReads : Reads (.value item) one) (tailReads : Reads (.items false items) others) :
    Reads (.items true (item :: items)) (one ++ others) := by
  intro fuel rest enough
  have some := spells_present head
  have more := spells_present tail
  rw [List.length_append] at enough
  -- One step sees that the list goes on and one reads the item; each text has a character to pay.
  obtain ⟨fuel, rfl⟩ : ∃ less, fuel = less + 2 := ⟨fuel - 2, by omega⟩
  obtain ⟨token, after, notEnd, begins⟩ := value_begins head
  have first := headReads fuel (others ++ rest) (items_stop tail rest) (by omega)
  have next := tailReads fuel rest (by omega)
  have start := begins (others ++ rest)
  rw [List.append_assoc, read_items_first (fuel + 1) start notEnd, ← start,
    read_item fuel first next]
  rfl

/-- After a comma the next items are read as the first ones are. -/
theorem reads_next_item {space text : List Char} {item : Json} {items : List Json}
    (blank : Space space) (next : Spells (.items true (item :: items)) text)
    (reads : Reads (.items true (item :: items)) text) :
    Reads (.items false (item :: items)) (space ++ ',' :: text) := by
  intro fuel rest enough
  rw [List.length_append, List.length_cons] at enough
  have same := reads fuel rest (by omega)
  obtain ⟨fuel, rfl⟩ : ∃ less, fuel = less + 1 := ⟨fuel - 1, by omega⟩
  cases next with
  | item head tail =>
      obtain ⟨token, after, notEnd, begins⟩ := value_begins head
      rw [List.append_assoc, List.cons_append]
      rw [List.append_assoc] at same ⊢
      rw [read_items_next fuel blank (begins _) notEnd]
      exact same

theorem reads_member {space body gap one others : List Char} {name : Name} {json : Json}
    {members : List (Name × Json)} (blank : Space space) (named : SpellsName name body)
    (gapBlank : Space gap) (tail : Spells (.members false members) others)
    (headReads : Reads (.value json) one) (tailReads : Reads (.members false members) others) :
    Reads (.members true ((name, json) :: members))
      (space ++ '"' :: (body ++ '"' :: (gap ++ ':' :: (one ++ others)))) := by
  intro fuel rest enough
  simp only [List.length_append, List.length_cons] at enough
  obtain ⟨fuel, rfl⟩ : ∃ less, fuel = less + 2 := ⟨fuel - 2, by omega⟩
  have first := headReads fuel (others ++ rest) (members_stop tail rest) (by omega)
  have next := tailReads fuel rest (by omega)
  simp only [List.append_assoc, List.cons_append]
  rw [read_members_first (fuel + 1) blank, read_member fuel named gapBlank first next]
  rfl

theorem reads_next_member {space text : List Char} {member : Name × Json}
    {members : List (Name × Json)} (blank : Space space)
    (next : Spells (.members true (member :: members)) text)
    (reads : Reads (.members true (member :: members)) text) :
    Reads (.members false (member :: members)) (space ++ ',' :: text) := by
  intro fuel rest enough
  rw [List.length_append, List.length_cons] at enough
  have same := reads fuel rest (by omega)
  obtain ⟨fuel, rfl⟩ : ∃ less, fuel = less + 1 := ⟨fuel - 1, by omega⟩
  cases next with
  | member gapBlank named innerBlank head tail =>
      simp only [List.append_assoc, List.cons_append] at same ⊢
      rw [read_members_next fuel blank gapBlank]
      exact same

theorem reads_of_spells {phrase : Phrase} {text : List Char} (spelled : Spells phrase text) :
    Reads phrase text := by
  -- By the rules of the grammar: each rule is one step of the reader, or two for items and members.
  induction spelled with
  | null blank => exact reads_token blank (by decide) fun _ _ _ _ => rfl
  | yes blank => exact reads_token blank (by decide) fun _ _ _ _ => rfl
  | no blank => exact reads_token blank (by decide) fun _ _ _ _ => rfl
  | number blank spelled => exact reads_numeral blank spelled
  | text blank spelled =>
      apply reads_token blank (by decide)
      intro fuel rest _ _
      rw [List.append_assoc]
      exact read_text_value spelled rest
  | unreadable blank spoilt =>
      apply reads_token blank (by decide)
      intro fuel rest _ _
      rw [List.append_assoc]
      exact read_unreadable spoilt rest
  | list blank inside ih =>
      apply reads_token blank (by decide)
      intro fuel rest _ enough
      have items := ih fuel rest enough
      change ((Json.list (readItems fuel true _).items (readItems fuel true _).ending),
        (readItems fuel true _).rest) = _
      rw [items]
  | table blank inside ih =>
      apply reads_token blank (by decide)
      intro fuel rest _ enough
      have members := ih fuel rest enough
      change ((Json.table (readMembers fuel true _).members (readMembers fuel true _).ending),
        (readMembers fuel true _).rest) = _
      rw [members]
  | listEnd blank =>
      intro fuel rest enough
      rw [List.length_append, List.length_singleton] at enough
      obtain ⟨fuel, rfl⟩ : ∃ less, fuel = less + 1 := ⟨fuel - 1, by omega⟩
      rw [List.append_assoc]
      exact read_items_end fuel _ blank rest
  | item head tail headReads tailReads => exact reads_item head tail headReads tailReads
  | nextItem blank next ih => exact reads_next_item blank next ih
  | tableEnd blank =>
      intro fuel rest enough
      rw [List.length_append, List.length_singleton] at enough
      obtain ⟨fuel, rfl⟩ : ∃ less, fuel = less + 1 := ⟨fuel - 1, by omega⟩
      rw [List.append_assoc]
      exact read_members_end fuel _ blank rest
  | member blank named gapBlank head tail headReads tailReads =>
      exact reads_member blank named gapBlank tail headReads tailReads
  | nextMember blank next ih => exact reads_next_member blank next ih

/-- Each text of a value is read as that value when nothing follows but space. -/
theorem of_text_spelled {json : Json} {characters space : List Char}
    (spelled : Spells (.value json) characters) (blank : Space space) :
    ofText (String.ofList (characters ++ space)) = (json, some space) := by
  rw [ofText, String.toList_ofList]
  apply reads_of_spells spelled _ _ (space_stops blank)
  simp only [fuelFor, List.length_append]
  omega

/-! ## Values that are passed over -/

def Phrase.skipFault : Phrase → Option Fault
  | .value json => json.skipFault
  | .items _ rest => itemsSkipFault rest
  | .members _ rest => membersSkipFault rest

/-- A value that was spelled out can be passed over, also where it cannot be read. -/
theorem spells_skipped {phrase : Phrase} {text : List Char} (spelled : Spells phrase text) :
    phrase.skipFault = none := by
  induction spelled with
  | null | yes | no | number | text | unreadable | listEnd | tableEnd =>
      simp only [Phrase.skipFault, skipFault, itemsSkipFault, membersSkipFault]
  | list blank inside ih | table blank inside ih =>
      simp only [Phrase.skipFault] at ih
      simp [Phrase.skipFault, skipFault, ih]
  | item head tail first others | member blank named gapBlank head tail first others =>
      simp only [Phrase.skipFault] at first others
      simp [Phrase.skipFault, itemsSkipFault, membersSkipFault, first, others]
  | nextItem blank next ih | nextMember blank next ih => exact ih

end BuildLedger.Json
