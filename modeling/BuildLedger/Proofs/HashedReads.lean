import BuildLedger.Plan

/-!
# Hashes of files that are read in parts

A hasher depends on the bytes that arrived and not on the parts in which they did: it has absorbed
all complete blocks and keeps the rest. So the hash of a file is the digest of its whole content,
whatever the reads give up to the one that finds the end, and its text has two lower-case digits for
each byte of the digest.
-/
namespace BuildLedger

namespace Bytes

namespace Sha256

/-- Bytes after the absorbed blocks do not count. -/
theorem absorb_blocks_append (count : Nat) (state : State) (bytes later : List UInt8)
    (enough : 64 * count ≤ bytes.length) :
    absorbBlocks count state (bytes ++ later) = absorbBlocks count state bytes := by
  induction count generalizing state bytes with
  | zero => rfl
  | succ count ih =>
      have first : 64 ≤ bytes.length := by omega
      have others : 64 * count ≤ (bytes.drop 64).length := by
        rw [List.length_drop]
        omega
      simp only [absorbBlocks, List.take_append_of_le_length first,
        List.drop_append_of_le_length first]
      exact ih (absorb state (bytes.take 64)) (bytes.drop 64) others

theorem absorb_blocks_add (first second : Nat) (state : State) (bytes : List UInt8) :
    absorbBlocks (first + second) state bytes =
      absorbBlocks second (absorbBlocks first state bytes) (bytes.drop (64 * first)) := by
  induction first generalizing state bytes with
  | zero => simp [absorbBlocks]
  | succ first ih =>
      have split : 64 * (first + 1) = 64 + 64 * first := by omega
      rw [Nat.add_right_comm, absorbBlocks, ih, absorbBlocks, List.drop_drop, split]

/-- The complete blocks of a message can be absorbed before the rest of it arrives. -/
theorem absorb_in_parts (state : State) (early late : List UInt8) :
    let blocks := early.length / 64
    let held := early.drop (64 * blocks) ++ late
    absorbBlocks ((early ++ late).length / 64) state (early ++ late) =
      absorbBlocks (held.length / 64) (absorbBlocks blocks state early) held := by
  intro blocks held
  have inside : 64 * blocks ≤ early.length := Nat.mul_div_le early.length 64
  have lengths : (early ++ late).length = held.length + 64 * blocks := by
    simp only [held, List.length_append, List.length_drop]
    omega
  have counts : (early ++ late).length / 64 = blocks + held.length / 64 := by
    rw [lengths, Nat.add_mul_div_left _ _ (by decide), Nat.add_comm]
  have rest : (early ++ late).drop (64 * blocks) = held :=
    List.drop_append_of_le_length inside
  rw [counts, absorb_blocks_add, absorb_blocks_append _ _ _ _ inside, rest]

namespace Hasher

/-- The hasher of a message of which some bytes arrived, in whatever parts. -/
def having (taken : List UInt8) : Hasher where
  state := absorbBlocks (taken.length / 64) initial taken
  waiting := taken.drop (64 * (taken.length / 64))
  length := taken.length

theorem update_having (taken bytes : List UInt8) :
    (having taken).update bytes = having (taken ++ bytes) := by
  have inside : 64 * (taken.length / 64) ≤ taken.length := Nat.mul_div_le taken.length 64
  -- the complete blocks of all bytes are those that were absorbed and those of what is held
  have rest : (taken ++ bytes).drop (64 * ((taken ++ bytes).length / 64)) =
      (taken.drop (64 * (taken.length / 64)) ++ bytes).drop
        (64 * ((taken.drop (64 * (taken.length / 64)) ++ bytes).length / 64)) := by
    rw [← List.drop_append_of_le_length inside, List.drop_drop]
    congr 1
    simp only [List.length_append, List.length_drop]
    omega
  unfold update having
  rw [Hasher.mk.injEq]
  exact ⟨(absorb_in_parts initial taken bytes).symm, rest.symm, List.length_append.symm⟩

theorem finish_having (taken : List UInt8) : (having taken).finish = digest taken := by
  simp only [finish, digest, having, absorb_in_parts initial taken]

/-- Reads that give something are taken, and the first one that gives nothing ends it. -/
theorem take_reads_having (taken : List UInt8) {reads : List (List UInt8)}
    (some : ∀ read ∈ reads, read ≠ []) (later : List (List UInt8)) :
    (having taken).takeReads (reads ++ [] :: later) = having (taken ++ reads.flatten) := by
  induction reads generalizing taken with
  | nil => simp [takeReads]
  | cons read reads ih =>
      have full : read.isEmpty = false := by simpa using some read List.mem_cons_self
      have others := ih (taken ++ read) fun read member => some read (List.mem_cons_of_mem _ member)
      simp only [List.cons_append, takeReads, full, Bool.false_eq_true, if_false, update_having,
        others, List.append_assoc, List.flatten_cons]

end Hasher

end Sha256

/-- However a content is cut into reads, its hash is that of the whole. -/
theorem hash_reads_whole (content : ByteArray) {reads : List (List UInt8)}
    (some : ∀ read ∈ reads, read ≠ []) (whole : reads.flatten = content.data.toList)
    (later : List (List UInt8)) : hashReads (reads ++ [] :: later) = sha256Hex content := by
  have start : ({} : Sha256.Hasher) = .having [] := rfl
  rw [hashReads, start, Sha256.Hasher.take_reads_having [] some later, List.nil_append, whole,
    Sha256.Hasher.finish_having, sha256Hex]

example : hashReads ["a".toUTF8.data.toList, "bc".toUTF8.data.toList, []] =
    "ba7816bf8f01cfea414140de5dae2223b00361a396177a9cb410ff61f20015ad" := by decide +kernel

/-! ## Digits -/

def lowerDigits : List Char := "0123456789abcdef".toList

theorem digit_char_lower : ∀ value < 16, digitChar 'a' value ∈ lowerDigits := by decide

theorem hex_value_lower : ∀ value < 16, hexValue? (digitChar 'a' value) = some value := by decide

theorem to_hex_lower (bytes : List UInt8) :
    ∀ character ∈ (toHex bytes).toList, character ∈ lowerDigits := by
  intro character member
  rw [toHex, String.toList_ofList, List.mem_flatMap] at member
  obtain ⟨byte, _, inside⟩ := member
  have bound := byte.toNat_lt
  rcases List.mem_cons.mp inside with rfl | low
  · exact digit_char_lower _ (by omega)
  · rw [List.mem_singleton.mp low]
    exact digit_char_lower _ (by omega)

theorem of_hex_to_hex (bytes : List UInt8) : ofHex? (toHex bytes).toList = some bytes := by
  rw [toHex, String.toList_ofList]
  induction bytes with
  | nil => rfl
  | cons byte rest ih =>
      have bound := byte.toNat_lt
      have whole : byte.toNat / 16 * 16 + byte.toNat % 16 = byte.toNat := by omega
      simp only [List.flatMap_cons, hexPair, List.cons_append, List.nil_append, ofHex?,
        hex_value_lower _ (show byte.toNat / 16 < 16 by omega),
        hex_value_lower _ (show byte.toNat % 16 < 16 by omega), ih, whole, UInt8.ofNat_toNat]

/-- A text is the hash of a content: the digest of the whole in lower-case digits, which is also what
any reads give that end where the content does. -/
structure IsHash (content : ByteArray) (hash : String) : Prop where
  digits : ∀ character ∈ hash.toList, character ∈ lowerDigits
  digest : ofHex? hash.toList = some (Sha256.digest content.data.toList)
  reads : ∀ (reads later : List (List UInt8)), (∀ read ∈ reads, read ≠ []) →
    reads.flatten = content.data.toList → hashReads (reads ++ [] :: later) = hash

theorem sha256_hex_is_hash (content : ByteArray) : IsHash content (sha256Hex content) where
  digits := to_hex_lower _
  digest := of_hex_to_hex _
  reads := fun _ later some whole => hash_reads_whole content some whole later

end Bytes

namespace Plan

/-- Enough reads give all that is left of a file, and then nothing. -/
theorem reads_of_cut (count : Nat) (left : List UInt8) (enough : left.length ≤ readSize * count) :
    ∃ reads later, readsOf (count + 1) left = reads ++ [] :: later ∧
      (∀ read ∈ reads, read ≠ []) ∧ reads.flatten = left := by
  -- by the reads that may give something; there is one more, which finds the end
  induction count generalizing left with
  | zero =>
      have nothing : left = [] := List.eq_nil_of_length_eq_zero (by omega)
      subst nothing
      exact ⟨[], [], rfl, nofun, rfl⟩
  | succ count ih =>
      cases left with
      | nil => exact ⟨[], readsOf (count + 1) [], rfl, nofun, rfl⟩
      | cons byte left =>
          have shorter : ((byte :: left).drop readSize).length ≤ readSize * count := by
            rw [List.length_drop]
            rw [Nat.mul_succ] at enough
            omega
          obtain ⟨reads, later, parts, some, whole⟩ := ih _ shorter
          refine ⟨(byte :: left).take readSize :: reads, later, ?_, ?_, ?_⟩
          · rw [readsOf, parts, List.cons_append]
          · intro read member
            rcases List.mem_cons.mp member with rfl | inside
            · simp [readSize]
            · exact some read inside
          · rw [List.flatten_cons, whole, List.take_append_drop]

theorem hash_at_ok {disk : Disk} {file : Path} {content : ByteArray}
    (found : disk.contentAt file = .ok content) :
    hashAt disk file = .ok (Bytes.sha256Hex content) := by
  have enough : content.data.toList.length ≤
      readSize * (content.data.toList.length / readSize + 1) := by
    have rest := Nat.mod_lt content.data.toList.length (show 0 < readSize by decide)
    have parts := Nat.div_add_mod content.data.toList.length readSize
    rw [Nat.mul_succ]
    omega
  obtain ⟨reads, later, parts, some, whole⟩ := reads_of_cut _ _ enough
  rw [hashAt, found]
  simp only [parts, Bytes.hash_reads_whole content some whole later]

theorem hash_at_error {disk : Disk} {file : Path} {problem : DiskError}
    (failed : disk.contentAt file = .error problem) :
    hashAt disk file = .error (.disk problem) := by
  rw [hashAt, failed]

end Plan

end BuildLedger
