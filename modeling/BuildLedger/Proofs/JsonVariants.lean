import BuildLedger.Proofs.JsonRoundTrip

/-!
# All JSON values that stand for a value

A codec writes one JSON value for each of its values and reads many others as the same. In a record
the members may come in any order and among unknown ones, a field with its default may be left out,
and one without a value may be null. Here the JSON values that stand for a value are described by
themselves, without a reader. Outside of them all is a record that has a declared field twice: it
does not fit, however deep it stands.
-/
namespace BuildLedger.Json

variable {Value Record : Type}

/-! ## Members of a table -/

/-- The values of the members with a name. -/
def valuesAt (name : String) (members : List (Name × Json)) : List Json :=
  members.filterMap fun member => if member.1 = .ok name then some member.2 else none

theorem values_at_same (name : String) (value : Json) (members : List (Name × Json)) :
    valuesAt name ((.ok name, value) :: members) = value :: valuesAt name members := by
  simp [valuesAt]

theorem values_at_other {name : String} {member : Name × Json} (other : member.1 ≠ .ok name)
    (members : List (Name × Json)) :
    valuesAt name (member :: members) = valuesAt name members := by
  simp [valuesAt, other]

theorem values_at_none {name : String} {members : List (Name × Json)}
    (others : ∀ member ∈ members, member.1 ≠ .ok name) : valuesAt name members = [] := by
  simpa [valuesAt] using others

theorem mem_values_at {name : String} {value : Json} {members : List (Name × Json)} :
    value ∈ valuesAt name members ↔ (.ok name, value) ∈ members := by
  simp only [valuesAt, List.mem_filterMap, Option.ite_none_right_eq_some, Option.some.injEq]
  constructor
  · rintro ⟨⟨_, _⟩, member, rfl, rfl⟩
    exact member
  · intro member
    exact ⟨_, member, rfl, rfl⟩

/-! ## Variants -/

/-- Which JSON values stand for a value. -/
abbrev Variants (Value : Type) := Value → Json → Prop

/-- What the table of a record may have for one of its fields. -/
structure Slot (Record : Type) where
  name : String
  /-- The values that may stand there. -/
  admits : Variants Record
  /-- Whether the field may be left out. -/
  omits : Record → Prop

namespace Slot

def mandatory (name : String) (variants : Variants Value) (get : Record → Value) : Slot Record :=
  ⟨name, fun record => variants (get record), fun _ => False⟩

/-- A field with its default may be left out. -/
def defaulted (name : String) (variants : Variants Value) (default : Value)
    (get : Record → Value) : Slot Record :=
  ⟨name, fun record => variants (get record), fun record => get record = default⟩

/-- A field without a value may be left out or null. -/
def optional (name : String) (variants : Variants Value) (get : Record → Option Value) :
    Slot Record :=
  ⟨name,
    fun record json =>
      match get record with
      | some value => variants value json
      | none => json = .null,
    fun record => get record = none⟩

end Slot

/-- The declared members of a record, in the order of its fields. -/
inductive Declared (record : Record) : List (Slot Record) → List (Name × Json) → Prop
  | nil : Declared record [] []
  | given {slot : Slot Record} {slots : List (Slot Record)} {json : Json}
      {members : List (Name × Json)} (admitted : slot.admits record json)
      (others : Declared record slots members) :
      Declared record (slot :: slots) ((.ok slot.name, json) :: members)
  | omitted {slot : Slot Record} {slots : List (Slot Record)} {members : List (Name × Json)}
      (allowed : slot.omits record) (others : Declared record slots members) :
      Declared record (slot :: slots) members

/-- A member whose name is a text that is not declared, with any well-formed value. -/
structure Extension (slots : List (Slot Record)) (member : Name × Json) : Prop where
  undeclared : ∃ name, member.1 = .ok name ∧ name ∉ slots.map Slot.name
  formed : ∃ text, Spells (.value member.2) text

namespace Variants

def text : Variants String := fun value json => json = .text value

def flag : Variants Bool := fun value json => json = .flag value

def word64 : Variants UInt64 := fun value json => json = .number (.ofInt value.toNat)

def list (item : Variants Value) : Variants (List Value) := fun values json =>
  ∃ items, json = .list items none ∧ List.Forall₂ item values items

/-- The entries of a table may come in any order. -/
def keyed (variants : Variants Value) : Variants (Keyed Value) := fun table json =>
  ∃ entries members, json = .table members none ∧ entries.Perm table.entries ∧
    List.Forall₂ (fun entry member => member.1 = .ok entry.1 ∧ variants entry.2 member.2)
      entries members

/-- Declared members and extensions in any order. -/
def record (slots : List (Slot Record)) : Variants Record := fun value json =>
  ∃ members declared extensions, json = .table members none ∧
    members.Perm (declared ++ extensions) ∧ Declared value slots declared ∧
    ∀ member ∈ extensions, Extension slots member

end Variants

/-- Somewhere the table of a record has a declared field more than once. -/
inductive Repeats : Shape → Json → Prop
  | twice {record name : String} {fields : Fields} {members : List (Name × Json)}
      {ending : Option Trouble} (declared : (fields.find? name).isSome)
      (more : 1 < (valuesAt name members).length) :
      Repeats (.record record fields) (.table members ending)
  | field {record name : String} {fields : Fields} {members : List (Name × Json)}
      {ending : Option Trouble} {shape : Shape} {value : Json}
      (declared : fields.find? name = some shape) (member : (.ok name, value) ∈ members)
      (inside : Repeats shape value) : Repeats (.record record fields) (.table members ending)
  | given {shape : Shape} {value : Json} (inside : Repeats shape value) :
      Repeats (.optional shape) value
  | item {shape : Shape} {items : List Json} {ending : Option Trouble} {item : Json}
      (member : item ∈ items) (inside : Repeats shape item) :
      Repeats (.list shape) (.list items ending)
  | entry {shape : Shape} {members : List (Name × Json)} {ending : Option Trouble} {name : Name}
      {value : Json} (member : (name, value) ∈ members) (inside : Repeats shape value) :
      Repeats (.dictionary shape) (.table members ending)

/-! ## What fits -/

theorem ok_of_bind {First Second : Type} {step : Except Problem First}
    {next : First → Except Problem Second} {result : Second} (done : step >>= next = .ok result) :
    ∃ middle, step = .ok middle ∧ next middle = .ok result := by
  cases step with
  | error problem => cases done
  | ok middle => exact ⟨middle, rfl, done⟩

theorem fit_items_each {fit : Json → Except Problem Tree} {items : List Json} {trees : List Tree}
    (fitted : fitItems fit items = .ok trees) : ∀ item ∈ items, ∃ tree, fit item = .ok tree := by
  induction items generalizing trees with
  | nil =>
      intro item member
      cases member
  | cons first items ih =>
      obtain ⟨tree, here, next⟩ := ok_of_bind fitted
      obtain ⟨others, rest, _⟩ := ok_of_bind next
      intro item member
      rcases List.mem_cons.mp member with rfl | inside
      · exact ⟨tree, here⟩
      · exact ih rest item inside

theorem fit_entries_each {fit : Json → Except Problem Tree} {members : List (Name × Json)}
    {entries : List (String × Tree)} (fitted : fitEntries fit members = .ok entries) :
    ∀ member ∈ members, ∃ tree, fit member.2 = .ok tree := by
  induction members generalizing entries with
  | nil =>
      intro member inside
      cases inside
  | cons first members ih =>
      obtain ⟨name | name, value⟩ := first
      · cases fitted
      · obtain ⟨tree, here, next⟩ := ok_of_bind fitted
        obtain ⟨others, rest, _⟩ := ok_of_bind next
        intro member inside
        rcases List.mem_cons.mp inside with rfl | later
        · exact ⟨tree, here⟩
        · exact ih rest member later

section Members

variable {fit? : String → Option (Json → Except Problem Tree)} {present : List String}
  {members : List (Name × Json)}

/-- A fitted record has each known field at most once, and under its name what its value is
fitted to. -/
theorem fitted_values {entries : List (String × Tree)}
    (fitted : fitMembers fit? present members = .ok entries) {name : String}
    {fit : Json → Except Problem Tree} (known : fit? name = some fit) :
    (name ∈ present → valuesAt name members = []) ∧
      (valuesAt name members).map fit = (Tree.entry? name entries).toList.map .ok := by
  induction members generalizing present entries with
  | nil =>
      cases fitted
      exact ⟨fun _ => rfl, rfl⟩
  | cons first members ih =>
      obtain ⟨key | key, value⟩ := first
      · cases fitted
      · rw [fitMembers] at fitted
        cases found : fit? key with
        | none =>
            have other : key ≠ name := by
              rintro rfl
              cases known.symm.trans found
            simp only [found] at fitted
            obtain ⟨_, _, rest⟩ := ok_of_bind fitted
            rw [values_at_other (by simpa using other)]
            exact ih rest
        | some own =>
            simp only [found] at fitted
            split at fitted
            · cases fitted
            · next unseen =>
              obtain ⟨tree, here, next⟩ := ok_of_bind fitted
              obtain ⟨others, rest, done⟩ := ok_of_bind next
              cases done
              obtain ⟨later, same⟩ := ih rest
              by_cases own : key = name
              · subst own
                cases known.symm.trans found
                have once := later List.mem_cons_self
                refine ⟨fun before => absurd (by simpa using before) unseen, ?_⟩
                rw [values_at_same, once, Tree.entry?, if_pos rfl, List.map_cons, here]
                rfl
              · rw [values_at_other (by simpa using own), Tree.entry?, if_neg own]
                exact ⟨fun before => later (List.mem_cons_of_mem _ before), same⟩

/-- Known fields that come once and fit, among unknown members that can be passed over. -/
theorem fit_members_ok
    (unknown : ∀ member ∈ members, ∃ name, member.1 = .ok name ∧
      (fit? name = none → member.2.skipFault = none))
    (known : ∀ name fit, fit? name = some fit → (name ∈ present → valuesAt name members = []) ∧
      (valuesAt name members).length ≤ 1 ∧
      ∀ value ∈ valuesAt name members, ∃ tree, fit value = .ok tree) :
    ∃ entries, fitMembers fit? present members = .ok entries := by
  induction members generalizing present with
  | nil => exact ⟨[], rfl⟩
  | cons first members ih =>
      obtain ⟨key, value⟩ := first
      obtain ⟨key, rfl, passed⟩ := unknown _ List.mem_cons_self
      have others := fun member inside => unknown member (List.mem_cons_of_mem _ inside)
      rw [fitMembers]
      cases found : fit? key with
      | none =>
          have rest : ∃ entries, fitMembers fit? present members = .ok entries := by
            apply ih others
            intro name fit here
            have other : key ≠ name := by
              rintro rfl
              cases here.symm.trans found
            have facts := known name fit here
            rwa [values_at_other (by simpa using other)] at facts
          obtain ⟨entries, rest⟩ := rest
          refine ⟨entries, ?_⟩
          simp only [skip, passed found, rest]
          rfl
      | some own =>
          obtain ⟨unseen, once, fits⟩ := known key own found
          rw [values_at_same] at unseen once fits
          have new : present.contains key = false := by
            have fresh : key ∉ present := fun before => absurd (unseen before) (by simp)
            simpa using fresh
          obtain ⟨tree, here⟩ := fits value List.mem_cons_self
          have alone : valuesAt key members = [] := by
            rw [← List.length_eq_zero_iff]
            rw [List.length_cons] at once
            omega
          have rest : ∃ entries, fitMembers fit? (key :: present) members = .ok entries := by
            apply ih others
            intro name fit named
            by_cases same : key = name
            · subst same
              simp [alone]
            · have facts := known name fit named
              rw [values_at_other (by simpa using same)] at facts
              refine ⟨fun before => facts.1 ?_, facts.2⟩
              exact (List.mem_cons.mp before).resolve_left (Ne.symm same)
          obtain ⟨entries, rest⟩ := rest
          refine ⟨(key, tree) :: entries, ?_⟩
          simp only [new, here, rest]
          rfl

end Members

theorem fit_present {shape : Shape} {json : Json} (present : json ≠ .null) :
    fit (.optional shape) json = fit shape json := by
  rw [fit]
  exact present

theorem Repeats.present {shape : Shape} {json : Json} (repeated : Repeats shape json) :
    json ≠ .null := by
  induction repeated with
  | given inside ih => exact ih
  | _ => exact Json.noConfusion

/-- A repeated field does not fit, however deep it stands. -/
theorem repeats_unfit {shape : Shape} {json : Json} (repeated : Repeats shape json) (tree : Tree) :
    fit shape json ≠ .ok tree := by
  induction repeated generalizing tree with
  | @twice _ name _ _ _ declared more =>
      intro fitted
      rw [fit] at fitted
      obtain ⟨entries, members, _⟩ := ok_of_bind fitted
      obtain ⟨shape, found⟩ := Option.isSome_iff_exists.mp declared
      have values := (fitted_values members (fit_found found)).2
      have counted := congrArg List.length values
      have few : (Tree.entry? name entries).toList.length ≤ 1 := by
        cases Tree.entry? name entries <;> simp
      rw [List.length_map, List.length_map] at counted
      omega
  | @field _ name _ _ _ shape value declared member inside ih =>
      intro fitted
      rw [fit] at fitted
      obtain ⟨entries, members, _⟩ := ok_of_bind fitted
      have values := (fitted_values members (fit_found declared)).2
      have here : fit shape value ∈ (Tree.entry? name entries).toList.map .ok := by
        rw [← values]
        exact List.mem_map_of_mem (mem_values_at.mpr member)
      obtain ⟨one, _, same⟩ := List.mem_map.mp here
      exact ih one same.symm
  | given inside ih =>
      intro fitted
      have present := inside.present
      rw [fit_present present] at fitted
      exact ih tree fitted
  | item member inside ih =>
      intro fitted
      rw [fit] at fitted
      obtain ⟨trees, items, _⟩ := ok_of_bind fitted
      obtain ⟨one, here⟩ := fit_items_each items _ member
      exact ih one here
  | entry member inside ih =>
      intro fitted
      rw [fit] at fitted
      obtain ⟨entries, members, _⟩ := ok_of_bind fitted
      obtain ⟨one, here⟩ := fit_entries_each members _ member
      exact ih one here

end BuildLedger.Json
