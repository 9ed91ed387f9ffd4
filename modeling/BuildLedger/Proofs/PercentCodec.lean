import BuildLedger.Url.Percent

/-!
# Percent encoding and back

Whatever characters are kept, as long as `%` is not among them, an encoded text decodes to the text
it was made from. It is made of kept characters and of triplets, so a delimiter that is neither kept
nor a part of a triplet does not occur in it.
-/
namespace BuildLedger

namespace Bytes

/-- An upper-case hexadecimal digit. -/
def IsUpperDigit (character : Char) : Prop := character ∈ "0123456789ABCDEF".toList

instance (character : Char) : Decidable (IsUpperDigit character) :=
  inferInstanceAs (Decidable (character ∈ "0123456789ABCDEF".toList))

theorem digit_char_upper : ∀ value < 16, IsUpperDigit (digitChar 'A' value) := by decide

theorem hex_value_digit_char : ∀ value < 16, hexValue? (digitChar 'A' value) = some value := by
  decide

end Bytes

namespace Url

open Bytes

variable {kept : Char → Bool}

/-- Kept characters of ASCII, and triplets with upper-case digits. -/
inductive Encoded (kept : Char → Bool) : List Char → Prop
  | nothing : Encoded kept []
  | plain {character : Char} {rest : List Char} (ascii : character.toNat < 128)
      (stands : kept character = true) (others : Encoded kept rest) :
      Encoded kept (character :: rest)
  | triplet {high low : Char} {rest : List Char} (first : IsUpperDigit high)
      (second : IsUpperDigit low) (others : Encoded kept rest) :
      Encoded kept ('%' :: high :: low :: rest)

/-! ## Bytes -/

/-- A byte stands for a kept character or becomes a triplet. -/
theorem encode_byte_cases (kept : Char → Bool) (byte : UInt8) :
    (byte.toNat < 128 ∧ kept (Char.ofNat byte.toNat) = true ∧
      encodeByte kept byte = [Char.ofNat byte.toNat]) ∨
    encodeByte kept byte =
      ['%', digitChar 'A' (byte.toNat / 16), digitChar 'A' (byte.toNat % 16)] := by
  unfold encodeByte
  simp only [Bool.and_eq_true, decide_eq_true_eq]
  split
  · next stands => exact .inl ⟨stands.1, stands.2, rfl⟩
  · exact .inr rfl

theorem small_character {value : Nat} (small : value < 128) : (Char.ofNat value).toNat = value := by
  have valid : value.isValidChar := Or.inl (by omega)
  unfold Char.ofNat
  rw [dif_pos valid]
  rfl

theorem decode_plain {character : Char} (other : character ≠ '%') (rest : List Char) :
    decodeList (character :: rest) = String.utf8EncodeChar character ++ decodeList rest := by
  apply decodeList.eq_3
  intro high low rest' percent
  exact absurd percent other

theorem decode_triplet {high low : Char} {left right : Nat} (first : hexValue? high = some left)
    (second : hexValue? low = some right) (rest : List Char) :
    decodeList ('%' :: high :: low :: rest) =
      UInt8.ofNat (left * 16 + right) :: decodeList rest := by
  rw [decodeList, first, second]

theorem utf8_of_ascii {character : Char} (ascii : character.toNat < 128) :
    String.utf8EncodeChar character = [UInt8.ofNat character.toNat] := by
  have small : character.val.toNat ≤ 127 := Nat.lt_succ_iff.mp ascii
  unfold String.utf8EncodeChar
  exact if_pos small

theorem decode_encode_byte (percent : kept '%' = false) (byte : UInt8) (rest : List Char) :
    decodeList (encodeByte kept byte ++ rest) = byte :: decodeList rest := by
  have size : byte.toNat < 256 := byte.toNat_lt
  rcases encode_byte_cases kept byte with ⟨ascii, stands, spelled⟩ | spelled
  · have other : Char.ofNat byte.toNat ≠ '%' := by
      intro same
      rw [same, percent] at stands
      cases stands
    have value := small_character ascii
    rw [spelled, List.singleton_append, decode_plain other, utf8_of_ascii (by omega), value,
      UInt8.ofNat_toNat, List.singleton_append]
  · have whole : byte.toNat / 16 * 16 + byte.toNat % 16 = byte.toNat := by omega
    rw [spelled, List.cons_append, List.cons_append, List.singleton_append,
      decode_triplet (hex_value_digit_char _ (by omega)) (hex_value_digit_char _ (by omega)), whole,
      UInt8.ofNat_toNat]

theorem decode_encode_bytes (percent : kept '%' = false) (bytes : List UInt8) :
    decodeList (encodeBytes kept bytes) = bytes := by
  induction bytes with
  | nil => rfl
  | cons byte rest ih =>
      have both : encodeBytes kept (byte :: rest) = encodeByte kept byte ++ encodeBytes kept rest :=
        List.flatMap_cons
      rw [both, decode_encode_byte percent, ih]

theorem encoded_bytes (kept : Char → Bool) (bytes : List UInt8) :
    Encoded kept (encodeBytes kept bytes) := by
  induction bytes with
  | nil => exact .nothing
  | cons byte rest ih =>
      have size : byte.toNat < 256 := byte.toNat_lt
      have both : encodeBytes kept (byte :: rest) = encodeByte kept byte ++ encodeBytes kept rest :=
        List.flatMap_cons
      rw [both]
      rcases encode_byte_cases kept byte with ⟨ascii, stands, spelled⟩ | spelled
      · rw [spelled]
        exact .plain (by rw [small_character ascii]; exact ascii) stands ih
      · rw [spelled]
        exact .triplet (digit_char_upper _ (by omega)) (digit_char_upper _ (by omega)) ih

/-! ## Texts -/

theorem bytes_of_characters (text : String) :
    bytesOf text = text.toList.flatMap String.utf8EncodeChar := by
  have encoded : text.toUTF8 = text.toList.utf8Encode := String.utf8Encode_toList.symm
  unfold bytesOf
  rw [encoded, List.utf8Encode]
  simp

/-- A text is what its encoding decodes to. -/
theorem decode_encode (percent : kept '%' = false) (text : String) :
    decodeText? (encodeText kept text) = some text := by
  have back : String.fromUTF8? text.toUTF8 = some text := dif_pos text.isValidUTF8
  unfold decodeText? encodeText
  rw [String.toList_ofList, decode_encode_bytes percent]
  exact back

theorem encoded_text (kept : Char → Bool) (text : String) :
    Encoded kept (encodeText kept text).toList := by
  unfold encodeText
  rw [String.toList_ofList]
  exact encoded_bytes kept (bytesOf text)

/-- Whatever occurs in an encoded text is kept, or belongs to a triplet. -/
theorem mem_encoded {characters : List Char} (encoded : Encoded kept characters)
    {character : Char} (member : character ∈ characters) :
    (character.toNat < 128 ∧ kept character = true) ∨ character = '%' ∨ IsUpperDigit character := by
  induction encoded with
  | nothing => cases member
  | plain ascii stands _ ih =>
      rcases List.mem_cons.mp member with rfl | later
      · exact .inl ⟨ascii, stands⟩
      · exact ih later
  | triplet first second _ ih =>
      simp only [List.mem_cons] at member
      rcases member with rfl | rfl | rfl | later
      · exact .inr (.inl rfl)
      · exact .inr (.inr first)
      · exact .inr (.inr second)
      · exact ih later

/-! ## Texts by their characters -/

def encodeCharacter (kept : Char → Bool) (character : Char) : List Char :=
  encodeBytes kept (String.utf8EncodeChar character)

theorem encode_text_characters (kept : Char → Bool) (text : String) :
    (encodeText kept text).toList = text.toList.flatMap (encodeCharacter kept) := by
  unfold encodeText
  rw [String.toList_ofList, bytes_of_characters, encodeBytes, List.flatMap_assoc]
  rfl

theorem encode_kept_character {character : Char} (ascii : character.toNat < 128)
    (stands : kept character = true) : encodeCharacter kept character = [character] := by
  have value : (UInt8.ofNat character.toNat).toNat = character.toNat := by
    simp
    omega
  have same : Char.ofNat character.toNat = character := Char.ofNat_toNat character
  unfold encodeCharacter encodeBytes encodeByte
  rw [utf8_of_ascii ascii]
  simp [value, same, ascii, stands]

/-- A text that needs no encoding stays as it is. -/
theorem encode_kept_text {text : String}
    (stands : ∀ character ∈ text.toList, character.toNat < 128 ∧ kept character = true) :
    encodeText kept text = text := by
  apply String.toList_inj.mp
  rw [encode_text_characters]
  calc
    text.toList.flatMap (encodeCharacter kept) =
        (text.toList.map fun character => [character]).flatten := by
      rw [List.flatMap_def, List.map_congr_left fun character member =>
        encode_kept_character (stands character member).1 (stands character member).2]
    _ = text.toList := by rw [← List.flatMap_def, List.flatMap_singleton']

/-- A character of a text is not split up with the ones around it. -/
theorem encode_text_cut {text : String} {before after : List Char} {delimiter : Char}
    (ascii : delimiter.toNat < 128) (stands : kept delimiter = true)
    (spelled : text.toList = before ++ delimiter :: after) :
    (encodeText kept text).toList = (encodeText kept (String.ofList before)).toList ++
      delimiter :: (encodeText kept (String.ofList after)).toList := by
  simp only [encode_text_characters, String.toList_ofList, spelled, List.flatMap_append,
    List.flatMap_cons, encode_kept_character ascii stands, List.singleton_append]

/-- All bytes of a character that is not of ASCII are large. -/
theorem small_byte_of_character {character : Char} {byte : UInt8}
    (member : byte ∈ String.utf8EncodeChar character) (small : byte.toNat < 128) :
    Char.ofNat byte.toNat = character := by
  by_cases ascii : character.toNat < 128
  · rw [utf8_of_ascii ascii, List.mem_singleton] at member
    have value : byte.toNat = character.toNat := by
      rw [member]
      simp
      omega
    rw [value, Char.ofNat_toNat]
  · have large : ¬character.val.toNat ≤ 127 := by
      have : character.toNat = character.val.toNat := rfl
      omega
    unfold String.utf8EncodeChar at member
    simp only [large, if_false] at member
    split at member
    · simp at member
      rcases member with rfl | rfl <;> simp at small <;> omega
    · split at member
      · simp at member
        rcases member with rfl | rfl | rfl <;> simp at small <;> omega
      · simp at member
        rcases member with rfl | rfl | rfl | rfl <;> simp at small <;> omega

/-- A delimiter that belongs to no triplet occurs where the text has it, and nowhere else. -/
theorem mem_encode_text {text : String} {delimiter : Char} (percent : delimiter ≠ '%')
    (digit : ¬IsUpperDigit delimiter) (member : delimiter ∈ (encodeText kept text).toList) :
    delimiter ∈ text.toList ∧ kept delimiter = true := by
  rw [encode_text_characters, List.mem_flatMap] at member
  obtain ⟨character, inside, member⟩ := member
  obtain ⟨byte, part, member⟩ := List.mem_flatMap.mp member
  have size : byte.toNat < 256 := byte.toNat_lt
  rcases encode_byte_cases kept byte with ⟨ascii, stands, spelled⟩ | spelled
  · rw [spelled, List.mem_singleton] at member
    rw [small_byte_of_character part ascii] at member stands
    rw [member]
    exact ⟨inside, stands⟩
  · rw [spelled] at member
    simp only [List.mem_cons, List.not_mem_nil, or_false] at member
    rcases member with same | same | same
    · exact absurd same percent
    · rw [same] at digit
      exact absurd (digit_char_upper _ (by omega)) digit
    · rw [same] at digit
      exact absurd (digit_char_upper _ (by omega)) digit

end Url

end BuildLedger
