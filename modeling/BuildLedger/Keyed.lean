/-!
# Tables sorted by key

A table holds at most one value for each text key and lists its entries by rising key. The order of
texts is by code point, which is also the order of their UTF-8 bytes. The order is part of the
type, so two tables with the same look-ups are equal, and what is written from a table never
depends on how the table was filled.
-/
namespace BuildLedger

/-- Entries are in strictly rising key order. -/
def KeysRise {Value : Type} (entries : List (String × Value)) : Prop :=
  entries.Pairwise fun earlier later => earlier.1 < later.1

/-- A finite map from texts to values. -/
structure Keyed (Value : Type) where
  entries : List (String × Value)
  rising : KeysRise entries

namespace Keyed

variable {Value : Type}

instance [DecidableEq Value] : DecidableEq (Keyed Value) := fun left right =>
  if same : left.entries = right.entries then
    isTrue (by cases left; cases right; simp_all)
  else isFalse (by intro equal; exact same (by rw [equal]))

def empty : Keyed Value := ⟨[], List.Pairwise.nil⟩

instance : EmptyCollection (Keyed Value) := ⟨empty⟩

instance : Inhabited (Keyed Value) := ⟨empty⟩

def isEmpty (table : Keyed Value) : Bool := table.entries.isEmpty

def keys (table : Keyed Value) : List String := table.entries.map Prod.fst

def values (table : Keyed Value) : List Value := table.entries.map Prod.snd

/-- The value at a key in a list of entries: the first one. -/
def find (key : String) : List (String × Value) → Option Value
  | [] => none
  | (name, value) :: rest => if name = key then some value else find key rest

def get? (table : Keyed Value) (key : String) : Option Value := find key table.entries

/-- Put a value at its place by key, in place of an earlier one with the same key. -/
def place (key : String) (value : Value) : List (String × Value) → List (String × Value)
  | [] => [(key, value)]
  | (name, held) :: rest =>
    if key < name then (key, value) :: (name, held) :: rest
    else if key = name then (key, value) :: rest
    else (name, held) :: place key value rest

theorem mem_place {key : String} {value : Value} {entries : List (String × Value)}
    {entry : String × Value} (found : entry ∈ place key value entries) :
    entry = (key, value) ∨ entry ∈ entries := by
  induction entries with
  | nil => simpa [place] using found
  | cons head rest ih =>
      obtain ⟨name, held⟩ := head
      simp only [place] at found
      split at found
      · simpa using found
      · split at found
        · rcases List.mem_cons.mp found with equal | tail
          · exact Or.inl equal
          · exact Or.inr (List.mem_cons_of_mem _ tail)
        · rcases List.mem_cons.mp found with equal | tail
          · exact Or.inr (by simp [equal])
          · rcases ih tail with equal | inside
            · exact Or.inl equal
            · exact Or.inr (List.mem_cons_of_mem _ inside)

theorem place_rises {key : String} {value : Value} {entries : List (String × Value)}
    (rising : KeysRise entries) : KeysRise (place key value entries) := by
  induction entries with
  | nil => exact List.pairwise_singleton _ _
  | cons head rest ih =>
      obtain ⟨name, held⟩ := head
      have parts := List.pairwise_cons.mp rising
      simp only [place]
      split
      · next smaller =>
        refine List.pairwise_cons.mpr ⟨?_, rising⟩
        intro entry inside
        rcases List.mem_cons.mp inside with equal | tail
        · simpa [equal] using smaller
        · exact String.lt_trans smaller (parts.1 entry tail)
      · next notSmaller =>
        split
        · next same =>
          refine List.pairwise_cons.mpr ⟨?_, parts.2⟩
          intro entry inside
          simpa [same] using parts.1 entry inside
        · next different =>
          refine List.pairwise_cons.mpr ⟨?_, ih parts.2⟩
          intro entry inside
          rcases mem_place inside with equal | tail
          · have larger : name < key := by
              rcases String.le_total name key with le | le
              · exact Decidable.byContradiction fun notLess =>
                  different (String.le_antisymm (String.not_lt.mp notLess) le)
              · exact absurd (Decidable.byContradiction fun notLess =>
                  different (String.le_antisymm le (String.not_lt.mp notLess))) notSmaller
            simpa [equal] using larger
          · exact parts.1 entry tail

/-- The table with a value at a key, whatever was there before. -/
def insert (table : Keyed Value) (key : String) (value : Value) : Keyed Value :=
  ⟨place key value table.entries, place_rises table.rising⟩

/-- The table with every listed entry put in, in order: of two with one key the later stays. -/
def insertAll (table : Keyed Value) : List (String × Value) → Keyed Value
  | [] => table
  | (key, value) :: rest => (table.insert key value).insertAll rest

/-- Entries in any order; of two with one key the later stays. -/
def ofList (entries : List (String × Value)) : Keyed Value :=
  empty.insertAll entries

/-- The table without a key. -/
def erase (table : Keyed Value) (key : String) : Keyed Value :=
  ⟨table.entries.filter fun entry => entry.1 != key, table.rising.filter _⟩

/-- Both tables' entries; where both have a key, the second table's value. -/
def override (base upper : Keyed Value) : Keyed Value :=
  base.insertAll upper.entries

end Keyed

/-- Names with a text each, as records, modules and uploads carry them. -/
abbrev Properties := Keyed String

end BuildLedger
