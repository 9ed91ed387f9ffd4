import BuildLedger.Bytes.Hex

/-!
# SHA-256

The digest of a byte string by FIPS 180-4: the message is padded to whole blocks of 64 bytes, each
block is expanded to 64 words, and 64 rounds stir the words into a state of eight words. A message
may also arrive in parts; then every block is absorbed as soon as it is complete.
-/
namespace BuildLedger.Bytes.Sha256

/-- The first 32 bits of the fractional parts of the cube roots of the first 64 primes. -/
def roundConstants : List UInt32 := [
  0x428a2f98, 0x71374491, 0xb5c0fbcf, 0xe9b5dba5, 0x3956c25b, 0x59f111f1, 0x923f82a4, 0xab1c5ed5,
  0xd807aa98, 0x12835b01, 0x243185be, 0x550c7dc3, 0x72be5d74, 0x80deb1fe, 0x9bdc06a7, 0xc19bf174,
  0xe49b69c1, 0xefbe4786, 0x0fc19dc6, 0x240ca1cc, 0x2de92c6f, 0x4a7484aa, 0x5cb0a9dc, 0x76f988da,
  0x983e5152, 0xa831c66d, 0xb00327c8, 0xbf597fc7, 0xc6e00bf3, 0xd5a79147, 0x06ca6351, 0x14292967,
  0x27b70a85, 0x2e1b2138, 0x4d2c6dfc, 0x53380d13, 0x650a7354, 0x766a0abb, 0x81c2c92e, 0x92722c85,
  0xa2bfe8a1, 0xa81a664b, 0xc24b8b70, 0xc76c51a3, 0xd192e819, 0xd6990624, 0xf40e3585, 0x106aa070,
  0x19a4c116, 0x1e376c08, 0x2748774c, 0x34b0bcb5, 0x391c0cb3, 0x4ed8aa4a, 0x5b9cca4f, 0x682e6ff3,
  0x748f82ee, 0x78a5636f, 0x84c87814, 0x8cc70208, 0x90befffa, 0xa4506ceb, 0xbef9a3f7, 0xc67178f2]

/-- The eight working words. -/
structure State where
  a : UInt32
  b : UInt32
  c : UInt32
  d : UInt32
  e : UInt32
  f : UInt32
  g : UInt32
  h : UInt32
deriving Repr, DecidableEq

/-- The first 32 bits of the fractional parts of the square roots of the first eight primes. -/
def initial : State :=
  ⟨0x6a09e667, 0xbb67ae85, 0x3c6ef372, 0xa54ff53a, 0x510e527f, 0x9b05688c, 0x1f83d9ab, 0x5be0cd19⟩

def rotateRight (word count : UInt32) : UInt32 :=
  (word >>> count) ||| (word <<< (32 - count))

def mixLow (word : UInt32) : UInt32 :=
  rotateRight word 7 ^^^ rotateRight word 18 ^^^ (word >>> 3)

def mixHigh (word : UInt32) : UInt32 :=
  rotateRight word 17 ^^^ rotateRight word 19 ^^^ (word >>> 10)

/-- The sixteen words of a block, most significant byte first. -/
def blockWords : List UInt8 → List UInt32
  | first :: second :: third :: fourth :: rest =>
      (first.toUInt32 <<< 24 ||| second.toUInt32 <<< 16 ||| third.toUInt32 <<< 8 |||
        fourth.toUInt32) :: blockWords rest
  | _ => []

/-- Extend the schedule by one word from the words 2, 7, 15 and 16 places back. -/
def extend (schedule : Array UInt32) : Array UInt32 :=
  let size := schedule.size
  let back := fun places => schedule.getD (size - places) 0
  schedule.push (mixHigh (back 2) + back 7 + mixLow (back 15) + back 16)

def schedule (words : List UInt32) : Array UInt32 :=
  (List.range 48).foldl (fun expanded _ => extend expanded) words.toArray

def round (state : State) (constant word : UInt32) : State :=
  let choice := (state.e &&& state.f) ^^^ ((~~~ state.e) &&& state.g)
  let majority := (state.a &&& state.b) ^^^ (state.a &&& state.c) ^^^ (state.b &&& state.c)
  let stirE := rotateRight state.e 6 ^^^ rotateRight state.e 11 ^^^ rotateRight state.e 25
  let stirA := rotateRight state.a 2 ^^^ rotateRight state.a 13 ^^^ rotateRight state.a 22
  let first := state.h + stirE + choice + constant + word
  let second := stirA + majority
  ⟨first + second, state.a, state.b, state.c, state.d + first, state.e, state.f, state.g⟩

def State.add (left right : State) : State :=
  ⟨left.a + right.a, left.b + right.b, left.c + right.c, left.d + right.d,
    left.e + right.e, left.f + right.f, left.g + right.g, left.h + right.h⟩

def absorb (state : State) (block : List UInt8) : State :=
  let words := (schedule (blockWords block)).toList
  let stir (stirred : State) (pair : UInt32 × UInt32) : State := round stirred pair.1 pair.2
  state.add ((roundConstants.zip words).foldl stir state)

/-- Big-endian bytes of a number, as many as asked for. -/
def bigEndian : Nat → Nat → List UInt8
  | 0, _ => []
  | count + 1, value => bigEndian count (value / 256) ++ [UInt8.ofNat value]

/-- A one bit, zeros up to eight bytes before a block's end, and the length in bits. -/
def padding (length : Nat) : List UInt8 :=
  let zeros := (119 - length % 64) % 64
  0x80 :: List.replicate zeros 0 ++ bigEndian 8 (8 * length)

/-- Absorb block by block; `count` is the number of whole blocks. -/
def absorbBlocks : Nat → State → List UInt8 → State
  | 0, state, _ => state
  | count + 1, state, bytes => absorbBlocks count (absorb state (bytes.take 64)) (bytes.drop 64)

def wordBytes (word : UInt32) : List UInt8 := bigEndian 4 word.toNat

def State.bytes (state : State) : List UInt8 :=
  wordBytes state.a ++ wordBytes state.b ++ wordBytes state.c ++ wordBytes state.d ++
    wordBytes state.e ++ wordBytes state.f ++ wordBytes state.g ++ wordBytes state.h

def digest (message : List UInt8) : List UInt8 :=
  let full := message ++ padding message.length
  (absorbBlocks (full.length / 64) initial full).bytes

/-! ## In parts -/

/-- What is kept of a message while it arrives. -/
structure Hasher where
  state : State := initial
  /-- The bytes after the last complete block. -/
  waiting : List UInt8 := []
  /-- How many bytes arrived. -/
  length : Nat := 0
deriving Repr, DecidableEq

/-- More bytes arrive; the blocks that they complete are absorbed. -/
def Hasher.update (hasher : Hasher) (bytes : List UInt8) : Hasher :=
  let held := hasher.waiting ++ bytes
  let blocks := held.length / 64
  {
    state := absorbBlocks blocks hasher.state held
    waiting := held.drop (64 * blocks)
    length := hasher.length + bytes.length
  }

/-- The digest of all that arrived. -/
def Hasher.finish (hasher : Hasher) : List UInt8 :=
  let rest := hasher.waiting ++ padding hasher.length
  (absorbBlocks (rest.length / 64) hasher.state rest).bytes

/-- Take what the reads of a file give, up to the first one that gives nothing. -/
def Hasher.takeReads (hasher : Hasher) : List (List UInt8) → Hasher
  | [] => hasher
  | read :: later => if read.isEmpty then hasher else (hasher.update read).takeReads later

end BuildLedger.Bytes.Sha256

namespace BuildLedger.Bytes

/-- The SHA-256 digest in lower-case hexadecimal. -/
def sha256Hex (content : ByteArray) : String :=
  toHex (Sha256.digest content.data.toList)

/-- The same of a file that is read piece by piece. -/
def hashReads (reads : List (List UInt8)) : String :=
  toHex (({} : Sha256.Hasher).takeReads reads).finish

end BuildLedger.Bytes
