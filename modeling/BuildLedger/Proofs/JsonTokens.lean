import BuildLedger.Json.Reader
import BuildLedger.Proofs.Splitting

/-!
# Texts and numbers of JSON

The spellings of texts and numbers are given by rules, and the reader finds each spelling at the
front of the characters. Every escape of four hexadecimal digits may stand in a text. Half of a
surrogate pair spoils the text for whoever needs its characters, but not where it ends.
-/
namespace BuildLedger.Json

/-! ## Texts -/

/-- The characters between the quotes, and what they are read as. -/
inductive SpellsText : List Char → List Char → Prop
  | nothing : SpellsText [] []
  | plain {character : Char} {characters body : List Char} (notQuote : character ≠ '"')
      (notBackslash : character ≠ '\\') (visible : 0x20 ≤ character.toNat)
      (others : SpellsText characters body) :
      SpellsText (character :: characters) (character :: body)
  | escape {character letter : Char} {characters body : List Char}
      (meaning : simpleEscape? letter = some character) (others : SpellsText characters body) :
      SpellsText (character :: characters) ('\\' :: letter :: body)
  | unit {a b c d : Char} {unit : Nat} {characters body : List Char}
      (digits : fourHex? a b c d = some unit) (notHigh : isHighSurrogate unit = false)
      (notLow : isLowSurrogate unit = false) (others : SpellsText characters body) :
      SpellsText (Char.ofNat unit :: characters) ('\\' :: 'u' :: a :: b :: c :: d :: body)
  | pair {a b c d e f g h : Char} {high low : Nat} {characters body : List Char}
      (first : fourHex? a b c d = some high) (isHigh : isHighSurrogate high = true)
      (second : fourHex? e f g h = some low) (isLow : isLowSurrogate low = true)
      (others : SpellsText characters body) :
      SpellsText (paired high low :: characters)
        ('\\' :: 'u' :: a :: b :: c :: d :: '\\' :: 'u' :: e :: f :: g :: h :: body)

/-- The characters between the quotes of any text, with every escape as good as another. -/
inductive QuotedText : List Char → Prop
  | nothing : QuotedText []
  | plain {character : Char} {body : List Char} (notQuote : character ≠ '"')
      (notBackslash : character ≠ '\\') (visible : 0x20 ≤ character.toNat)
      (others : QuotedText body) : QuotedText (character :: body)
  | escape {character letter : Char} {body : List Char}
      (meaning : simpleEscape? letter = some character) (others : QuotedText body) :
      QuotedText ('\\' :: letter :: body)
  | unit {a b c d : Char} {unit : Nat} {body : List Char}
      (digits : fourHex? a b c d = some unit) (others : QuotedText body) :
      QuotedText ('\\' :: 'u' :: a :: b :: c :: d :: body)

/-- A text that begins with half of a surrogate pair, and what is wrong with it. -/
inductive HalfPair : Fault → List Char → Prop
  | low {a b c d : Char} {unit : Nat} {body : List Char} (digits : fourHex? a b c d = some unit)
      (isLow : isLowSurrogate unit = true) (others : QuotedText body) :
      HalfPair .loneSurrogate ('\\' :: 'u' :: a :: b :: c :: d :: body)
  | highBeforeUnit {a b c d e f g h : Char} {high unit : Nat} {body : List Char}
      (first : fourHex? a b c d = some high) (isHigh : isHighSurrogate high = true)
      (second : fourHex? e f g h = some unit) (notLow : isLowSurrogate unit = false)
      (others : QuotedText body) :
      HalfPair .loneSurrogate
        ('\\' :: 'u' :: a :: b :: c :: d :: '\\' :: 'u' :: e :: f :: g :: h :: body)
  | high {a b c d : Char} {unit : Nat} {body : List Char} (digits : fourHex? a b c d = some unit)
      (isHigh : isHighSurrogate unit = true) (others : QuotedText body)
      (noUnit : ¬['\\', 'u'] <+: body) :
      HalfPair .escapeCutShort ('\\' :: 'u' :: a :: b :: c :: d :: body)

/-- A text that can be read up to the half of a pair. -/
inductive SpoiltText (fault : Fault) : List Char → Prop
  | intro {characters front back : List Char} (readable : SpellsText characters front)
      (half : HalfPair fault back) : SpoiltText fault (front ++ back)

/-- A member's name between its quotes. -/
inductive SpellsName : Name → List Char → Prop
  | read {characters body : List Char} (spelled : SpellsText characters body) :
      SpellsName (.ok (String.ofList characters)) body
  | spoilt {fault : Fault} {body : List Char} (spoilt : SpoiltText fault body) :
      SpellsName (.error fault) body

theorem cons_front (character : Char) (characters : List Char) (after : Delimited) :
    Delimited.cons character { after with value := after.value.map (characters ++ ·) } =
      { after with value := after.value.map (character :: characters ++ ·) } := by
  obtain ⟨value, rest⟩ := after
  cases value <;> rfl

theorem escape_not_unit {character letter : Char}
    (meaning : simpleEscape? letter = some character) : letter ≠ 'u' := by
  rintro rfl
  cases meaning

/-- What can be read of a text does not depend on how the text goes on. -/
theorem read_text_front {characters front : List Char} (spelled : SpellsText characters front)
    (after : List Char) :
    readText (front ++ after) =
      { readText after with value := (readText after).value.map (characters ++ ·) } := by
  induction spelled with
  | nothing =>
      simp only [List.nil_append]
      cases readText after with
      | mk value rest => cases value <;> rfl
  | plain notQuote notBackslash visible others ih =>
      have notControl := Nat.not_lt.mpr visible
      rw [← cons_front, ← ih]
      simp [readText, notBackslash, notControl]
  | escape meaning others ih =>
      rw [← cons_front, ← ih]
      simp [readText, escape_not_unit meaning, meaning]
  | unit digits notHigh notLow others ih =>
      rw [← cons_front, ← ih]
      simp [readText, digits, notHigh, notLow]
  | pair first isHigh second isLow others ih =>
      rw [← cons_front, ← ih]
      simp [readText, first, isHigh, lowEscape?, second, isLow]

theorem read_text_spelled {characters body : List Char} (spelled : SpellsText characters body)
    (rest : List Char) : readText (body ++ '"' :: rest) = ⟨.ok characters, .ok rest⟩ := by
  rw [read_text_front spelled]
  simp [readText, Except.map]

/-- A high surrogate without a low one after it. -/
theorem read_high_alone {a b c d : Char} {unit : Nat} (digits : fourHex? a b c d = some unit)
    (isHigh : isHighSurrogate unit = true) {after : List Char} (alone : lowEscape? after = none) :
    readText ('\\' :: 'u' :: a :: b :: c :: d :: after) =
      (readText after).spoiled (unpaired after) := by
  simp [readText, digits, isHigh, alone]

theorem low_escape_unit {body rest : List Char} {low : Nat} (quoted : QuotedText body)
    (found : lowEscape? (body ++ '"' :: rest) = some low) :
    ∃ a b c d others, body = '\\' :: 'u' :: a :: b :: c :: d :: others ∧ QuotedText others := by
  cases quoted with
  | nothing => simp [lowEscape?] at found
  | plain _ notBackslash => simp [lowEscape?, notBackslash] at found
  | escape meaning => simp [lowEscape?, escape_not_unit meaning] at found
  | unit digits others => exact ⟨_, _, _, _, _, rfl, others⟩

/-- Each text ends at its closing quote, whether or not it can be read. -/
theorem quoted_text_ends {body : List Char} (quoted : QuotedText body) (rest : List Char) :
    (readText (body ++ '"' :: rest)).rest = .ok rest := by
  -- A surrogate pair takes two escapes in one step, so the induction is on the length.
  induction size : body.length using Nat.strongRecOn generalizing body with
  | ind size ih =>
  subst size
  cases quoted with
  | nothing => rfl
  | plain notQuote notBackslash visible others =>
      have notControl := Nat.not_lt.mpr visible
      simpa [readText, notBackslash, notControl, Delimited.cons] using ih _ (by simp) others rfl
  | @escape character letter body meaning others =>
      have shorter : body.length < ('\\' :: letter :: body).length := by
        simp only [List.length_cons]
        omega
      simpa [readText, escape_not_unit meaning, meaning, Delimited.cons] using
        ih _ shorter others rfl
  | @unit a b c d unit body digits others =>
      have shorter : body.length < ('\\' :: 'u' :: a :: b :: c :: d :: body).length := by
        simp only [List.length_cons]
        omega
      have ends := ih _ shorter others rfl
      cases isHigh : isHighSurrogate unit with
      | false =>
          cases isLow : isLowSurrogate unit with
          | false => simpa [readText, digits, isHigh, isLow, Delimited.cons] using ends
          | true => simpa [readText, digits, isHigh, isLow, Delimited.spoiled] using ends
      | true =>
          cases pair : lowEscape? (body ++ '"' :: rest) with
          | none =>
              simp only [List.cons_append, read_high_alone digits isHigh pair]
              exact ends
          | some low =>
              obtain ⟨e, f, g, h, after, rfl, quotedAfter⟩ := low_escape_unit others pair
              simp only [List.cons_append] at pair
              have endsAfter := ih after.length (by simp only [List.length_cons]; omega)
                quotedAfter rfl
              simpa [readText, digits, isHigh, pair, Delimited.cons] using endsAfter

theorem low_not_high {unit : Nat} (isLow : isLowSurrogate unit = true) :
    isHighSurrogate unit = false := by
  simp only [isLowSurrogate, isHighSurrogate, Bool.and_eq_true, Bool.and_eq_false_iff,
    decide_eq_true_iff, decide_eq_false_iff_not] at isLow ⊢
  omega

/-- An escape that is not a low surrogate does not complete a high one. -/
theorem unpaired_by_unit {a b c d : Char} {unit : Nat} (digits : fourHex? a b c d = some unit)
    (notLow : isLowSurrogate unit = false) (after : List Char) :
    lowEscape? ('\\' :: 'u' :: a :: b :: c :: d :: after) = none ∧
      unpaired ('\\' :: 'u' :: a :: b :: c :: d :: after) = .loneSurrogate := by
  simp [lowEscape?, unpaired, digits, notLow]

/-- After a high surrogate that no escape follows. -/
theorem unpaired_cut_short {body : List Char} (quoted : QuotedText body)
    (noUnit : ¬['\\', 'u'] <+: body) (rest : List Char) :
    lowEscape? (body ++ '"' :: rest) = none ∧
      unpaired (body ++ '"' :: rest) = .escapeCutShort := by
  cases quoted with
  | nothing => simp [lowEscape?, unpaired]
  | plain _ notBackslash => simp [lowEscape?, unpaired, notBackslash]
  | escape meaning => simp [lowEscape?, unpaired, escape_not_unit meaning]
  | unit digits others => exact absurd (by simp) noUnit

theorem read_half_pair {fault : Fault} {body : List Char} (half : HalfPair fault body)
    (rest : List Char) : readText (body ++ '"' :: rest) = ⟨.error fault, .ok rest⟩ := by
  cases half with
  | low digits isLow others =>
      simp [readText, digits, low_not_high isLow, isLow, Delimited.spoiled,
        quoted_text_ends others]
  | highBeforeUnit first isHigh second notLow others =>
      have ends := quoted_text_ends (.unit second others) rest
      obtain ⟨alone, lone⟩ := unpaired_by_unit second notLow (_ ++ '"' :: rest)
      simp only [List.cons_append] at ends ⊢
      rw [read_high_alone first isHigh alone, Delimited.spoiled, ends, lone]
  | high digits isHigh others noUnit =>
      obtain ⟨alone, cut⟩ := unpaired_cut_short others noUnit rest
      simp only [List.cons_append]
      rw [read_high_alone digits isHigh alone, Delimited.spoiled, quoted_text_ends others, cut]

theorem read_text_spoilt {fault : Fault} {body : List Char} (spoilt : SpoiltText fault body)
    (rest : List Char) : readText (body ++ '"' :: rest) = ⟨.error fault, .ok rest⟩ := by
  obtain ⟨readable, half⟩ := spoilt
  rw [List.append_assoc, read_text_front readable, read_half_pair half]
  rfl

theorem read_text_value {characters body : List Char} (spelled : SpellsText characters body)
    (rest : List Char) :
    readTextValue (body ++ '"' :: rest) = (.text (String.ofList characters), some rest) := by
  simp only [readTextValue, read_text_spelled spelled]

theorem read_unreadable {fault : Fault} {body : List Char} (spoilt : SpoiltText fault body)
    (rest : List Char) : readTextValue (body ++ '"' :: rest) = (.unreadable fault, some rest) := by
  simp only [readTextValue, read_text_spoilt spoilt]

theorem read_name {name : Name} {body : List Char} (named : SpellsName name body)
    (rest : List Char) :
    ∃ value, readText (body ++ '"' :: rest) = ⟨value, .ok rest⟩ ∧
      value.map String.ofList = name := by
  cases named with
  | read spelled => exact ⟨_, read_text_spelled spelled rest, rfl⟩
  | spoilt spoilt => exact ⟨_, read_text_spoilt spoilt rest, rfl⟩

/-! ## Numbers -/

structure Digits (digits : List Char) : Prop where
  present : digits ≠ []
  decimal : ∀ digit ∈ digits, isDigit digit = true

/-- At least one digit, and no zero before another digit. -/
structure WholeDigits (digits : List Char) : Prop extends Digits digits where
  unpadded : digits.head? = some '0' → digits.length = 1

inductive SpellsFraction : Option (List Nat) → List Char → Prop
  | none : SpellsFraction none []
  | some {digits : List Char} (spelled : Digits digits) :
      SpellsFraction (some (digits.map digitValue)) ('.' :: digits)

/-- The sign before an exponent, and whether it is a minus. -/
inductive SpellsSign : Bool → List Char → Prop
  | none : SpellsSign false []
  | plus : SpellsSign false ['+']
  | minus : SpellsSign true ['-']

inductive SpellsExponent : Option (Bool × List Nat) → List Char → Prop
  | none : SpellsExponent none []
  | some {letter : Char} {below : Bool} {sign digits : List Char}
      (marked : letter = 'e' ∨ letter = 'E') (signed : SpellsSign below sign)
      (spelled : Digits digits) :
      SpellsExponent (some (below, digits.map digitValue)) (letter :: (sign ++ digits))

inductive SpellsNumeral : Numeral → List Char → Prop
  | whole {digits point power : List Char} {fraction : Option (List Nat)}
      {exponent : Option (Bool × List Nat)} (spelled : WholeDigits digits)
      (fractional : SpellsFraction fraction point) (scaled : SpellsExponent exponent power) :
      SpellsNumeral ⟨false, digits.map digitValue, fraction, exponent⟩ (digits ++ (point ++ power))
  | negative {digits point power : List Char} {fraction : Option (List Nat)}
      {exponent : Option (Bool × List Nat)} (spelled : WholeDigits digits)
      (fractional : SpellsFraction fraction point) (scaled : SpellsExponent exponent power) :
      SpellsNumeral ⟨true, digits.map digitValue, fraction, exponent⟩
        ('-' :: (digits ++ (point ++ power)))

/-- What follows cannot make a number longer. -/
def Stops (rest : List Char) : Prop :=
  ∀ character ∈ rest.head?,
    isDigit character = false ∧ character ≠ '.' ∧ character ≠ 'e' ∧ character ≠ 'E'

theorem is_digit_iff (character : Char) :
    isDigit character = true ↔ 48 ≤ character.toNat ∧ character.toNat ≤ 57 := by
  simp only [isDigit, Bool.and_eq_true, decide_eq_true_iff]
  exact Iff.rfl

theorem digit_differs {digit other : Char} (decimal : isDigit digit = true)
    (outside : other.toNat < 48 ∨ 57 < other.toNat) : digit ≠ other := by
  rintro rfl
  have bounds := (is_digit_iff digit).mp decimal
  omega

theorem digit_zero {digit : Char} (decimal : isDigit digit = true)
    (zero : digitValue digit = 0) : digit = '0' := by
  have bounds := (is_digit_iff digit).mp decimal
  have code : digit.toNat = '0'.toNat := by
    have limit : digit.toNat ≤ 48 := Nat.sub_eq_zero_iff_le.mp zero
    exact Nat.le_antisymm limit bounds.1
  exact Char.toNat_inj.mp code

theorem take_digits {digits rest : List Char} (decimal : ∀ digit ∈ digits, isDigit digit = true)
    (stops : ∀ character ∈ rest.head?, isDigit character = false) :
    takeDigits (digits ++ rest) = (digits.map digitValue, rest) := by
  obtain ⟨taken, left⟩ := run_cut decimal stops
  rw [takeDigits, taken, left]

theorem Digits.values_present {digits : List Char} (spelled : Digits digits) :
    (digits.map digitValue).isEmpty = false := by
  simpa using spelled.present

theorem exponent_begins {exponent : Option (Bool × List Nat)} {power rest : List Char}
    (scaled : SpellsExponent exponent power) (stops : Stops rest) :
    ∀ character ∈ (power ++ rest).head?, isDigit character = false ∧ character ≠ '.' := by
  intro character first
  cases scaled with
  | none => exact ⟨(stops character first).1, (stops character first).2.1⟩
  | some marked signed spelled =>
      cases first
      rcases marked with rfl | rfl <;> decide

theorem read_fraction_stops (numeral : Numeral) {rest : List Char} (stops : Stops rest) :
    readFraction numeral rest = .ok (numeral, rest) := by
  cases rest with
  | nil => rfl
  | cons head tail =>
      obtain ⟨_, notPoint, notSmall, notLarge⟩ := stops head rfl
      simp [readFraction, notPoint, notSmall, notLarge]

theorem read_exponent (numeral : Numeral) {below : Bool} {sign digits rest : List Char}
    (signed : SpellsSign below sign) (spelled : Digits digits) (stops : Stops rest) :
    readExponent numeral (sign ++ (digits ++ rest)) =
      .ok ({ numeral with exponent := some (below, digits.map digitValue) }, rest) := by
  have taken := take_digits spelled.decimal fun character first => (stops character first).1
  have present := spelled.values_present
  cases signed with
  | plus => simp [readExponent, taken, present]
  | minus => simp [readExponent, taken, present]
  | none =>
      obtain ⟨digit, others, rfl⟩ := List.exists_cons_of_ne_nil spelled.present
      have decimal := spelled.decimal digit List.mem_cons_self
      have notMinus : digit ≠ '-' := digit_differs decimal (Or.inl (by decide))
      have notPlus : digit ≠ '+' := digit_differs decimal (Or.inl (by decide))
      simp only [List.cons_append] at taken
      simp [readExponent, taken, notMinus, notPlus]

/-- After the digits of a fraction a number goes on as it does without one. -/
theorem read_point (numeral : Numeral) {digits after : List Char} (spelled : Digits digits)
    (begins : ∀ character ∈ after.head?, isDigit character = false ∧ character ≠ '.') :
    readFraction numeral ('.' :: (digits ++ after)) =
      readFraction { numeral with fraction := some (digits.map digitValue) } after := by
  have taken := take_digits spelled.decimal fun character first => (begins character first).1
  have present := spelled.present
  cases after with
  | nil =>
      rw [List.append_nil] at taken
      simp [readFraction, taken, present]
  | cons head tail =>
      have notPoint := (begins head rfl).2
      -- Only the two letters of an exponent are told apart from here on.
      by_cases marked : head = 'e' ∨ head = 'E'
      · rcases marked with rfl | rfl <;> simp [readFraction, taken, present]
      · obtain ⟨notSmall, notLarge⟩ := not_or.mp marked
        simp [readFraction, taken, present, notPoint, notSmall, notLarge]

theorem read_power (numeral : Numeral) (unscaled : numeral.exponent = none)
    {exponent : Option (Bool × List Nat)} {power rest : List Char}
    (scaled : SpellsExponent exponent power) (stops : Stops rest) :
    readFraction numeral (power ++ rest) =
      .ok ({ numeral with exponent := exponent }, rest) := by
  cases scaled with
  | none =>
      rw [← unscaled]
      exact read_fraction_stops numeral stops
  | some marked signed spelled =>
      have exponent := read_exponent numeral signed spelled stops
      rcases marked with rfl | rfl <;> simpa [readFraction] using exponent

/-- A number goes on with its fraction and its exponent, if it has them. -/
theorem read_fraction (negative : Bool) (whole : List Nat) {fraction : Option (List Nat)}
    {exponent : Option (Bool × List Nat)} {point power rest : List Char}
    (fractional : SpellsFraction fraction point) (scaled : SpellsExponent exponent power)
    (stops : Stops rest) :
    readFraction ⟨negative, whole, none, none⟩ (point ++ (power ++ rest)) =
      .ok (⟨negative, whole, fraction, exponent⟩, rest) := by
  cases fractional with
  | none => exact read_power _ rfl scaled stops
  | some spelled =>
      rw [List.cons_append, read_point _ spelled (exponent_begins scaled stops)]
      exact read_power _ rfl scaled stops

theorem unpadded_values {digits : List Char} (spelled : WholeDigits digits) :
    ((digits.map digitValue).head? == some 0 && decide (1 < (digits.map digitValue).length)) =
      false := by
  rw [Bool.and_eq_false_iff]
  by_cases zero : (digits.map digitValue).head? = some 0
  · right
    obtain ⟨digit, first, value⟩ : ∃ digit, digits.head? = some digit ∧ digitValue digit = 0 := by
      simpa using zero
    have member : digit ∈ digits := List.mem_of_mem_head? first
    rw [digit_zero (spelled.decimal digit member) value] at first
    simp [spelled.unpadded first]
  · left
    simpa using zero

theorem fraction_begins {fraction : Option (List Nat)} {exponent : Option (Bool × List Nat)}
    {point power rest : List Char} (fractional : SpellsFraction fraction point)
    (scaled : SpellsExponent exponent power) (stops : Stops rest) :
    ∀ character ∈ (point ++ (power ++ rest)).head?, isDigit character = false := by
  intro character first
  cases fractional with
  | none => exact (exponent_begins scaled stops character first).1
  | some spelled =>
      cases first
      decide

theorem read_number {digits point power rest : List Char} {fraction : Option (List Nat)}
    {exponent : Option (Bool × List Nat)} (negative : Bool) (spelled : WholeDigits digits)
    (fractional : SpellsFraction fraction point) (scaled : SpellsExponent exponent power)
    (stops : Stops rest) :
    readNumber negative (digits ++ (point ++ (power ++ rest))) =
      (.number ⟨negative, digits.map digitValue, fraction, exponent⟩, some rest) := by
  simp only [readNumber, readNumeral,
    take_digits spelled.decimal (fraction_begins fractional scaled stops),
    spelled.values_present, unpadded_values spelled, read_fraction _ _ fractional scaled stops]
  rfl

end BuildLedger.Json
