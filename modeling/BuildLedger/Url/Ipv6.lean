import BuildLedger.Bytes.Hex
import BuildLedger.Url.Fault

/-!
# Internet addresses of eight pieces

An address is eight hexadecimal pieces with colons between them. Two colons stand once for as many
zero pieces as are missing, at least one. The last two pieces may be written as four decimal bytes.
When an address is written, the first of the longest runs of two or more zeros becomes two colons.
-/
namespace BuildLedger.Url

structure Ipv6 where
  pieces : List Nat
deriving Repr, DecidableEq

namespace Ipv6

/-- One to four hexadecimal digits. -/
def piece? (digits : List Char) : Option Nat :=
  if digits.isEmpty || 4 < digits.length then none
  else digits.foldl (fun total digit => do
    return (← total) * 16 + (← Bytes.hexValue? digit)) (some 0)

/-- A decimal byte without a zero in front. -/
def byte? (digits : List Char) : Option Nat :=
  let padded := digits.head? == some '0' && 1 < digits.length
  if digits.isEmpty || 3 < digits.length || padded then none
  else
    match digits.foldl (fun total digit => do
      let value ← Bytes.hexValue? digit
      if value < 10 then return (← total) * 10 + value else none) (some 0) with
    | some value => if value ≤ 255 then some value else none
    | none => none

/-- Four decimal bytes as two pieces. -/
def dotted? (text : List Char) : Option (List Nat) :=
  match (text.splitOn '.').mapM byte? with
  | some [first, second, third, fourth] => some [first * 256 + second, third * 256 + fourth]
  | _ => none

/-- The pieces of a list of groups; only the last group may be dotted, and only if allowed. -/
def groups? (dottedEnd : Bool) : List (List Char) → Option (List Nat)
  | [] => some []
  | [last] => if dottedEnd && last.contains '.' then dotted? last else (piece? last).map ([·])
  | group :: rest =>
      match piece? group, groups? dottedEnd rest with
      | some piece, some pieces => some (piece :: pieces)
      | _, _ => none

/-- The pieces of one side of the two colons; an empty side has none. -/
def side? (dottedEnd : Bool) (text : List Char) : Option (List Nat) :=
  if text.isEmpty then some [] else groups? dottedEnd (text.splitOn ':')

/-- What stands before and after the first two colons that follow each other. -/
def cut? : List Char → Option (List Char × List Char)
  | ':' :: ':' :: rest => some ([], rest)
  | character :: rest => (cut? rest).map fun (before, behind) => (character :: before, behind)
  | [] => none

def ofText (text : List Char) : Except Fault Ipv6 :=
  let pieces := match cut? text with
    | none => (side? true text).bind fun all => if all.length = 8 then some all else none
    | some (before, behind) =>
        match side? false before, side? true behind with
        | some left, some right =>
            let given := left.length + right.length
            if given ≤ 7 then some (left ++ List.replicate (8 - given) 0 ++ right) else none
        | _, _ => none
  match pieces with
  | some pieces => .ok ⟨pieces⟩
  | none => .error .invalidIpv6

/-- How many zeros a list begins with. -/
def zeroCount (pieces : List Nat) : Nat := (pieces.takeWhile (· == 0)).length

/-- The place and length of the first of the longest runs of zeros. -/
def longestRun (pieces : List Nat) : Nat × Nat :=
  (List.range pieces.length).foldl (fun best start =>
    let count := zeroCount (pieces.drop start)
    if best.2 < count then (start, count) else best) (0, 0)

def joined (pieces : List Nat) : String :=
  ":".intercalate (pieces.map fun piece => String.ofList (Nat.toDigits 16 piece))

def text (address : Ipv6) : String :=
  let (start, count) := longestRun address.pieces
  if count < 2 then joined address.pieces
  else joined (address.pieces.take start) ++ "::" ++ joined (address.pieces.drop (start + count))

end Ipv6

end BuildLedger.Url
