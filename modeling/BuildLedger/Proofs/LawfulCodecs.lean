import BuildLedger.Codec
import BuildLedger.Proofs.TableLookup

/-!
# Lawful codecs

A codec is lawful when the tree of every value has the codec's shape and decodes to that value. The
combinators keep the law. For a record the law comes down to its table of fields: their names
differ, each is written in the shape it has, and the way back finds what was written under each
name.
-/
namespace BuildLedger

/-- A tree that a reader takes for a shape as it stands. -/
inductive Shape.Admits : Shape → Tree → Prop
  | text (value : String) : Admits .text (.text value)
  | path (value : String) : Admits .path (.text value)
  | flag (value : Bool) : Admits .flag (.flag value)
  | whole {width : Width} {value : Int} (positive : 0 ≤ value)
      (held : width.holds value.toNat = true) : Admits (.whole width) (.number value)
  | choice {names : List String} {name : String} (listed : name ∈ names) :
      Admits (.choice names) (.text name)
  | absent (inner : Shape) : Admits (.optional inner) .null
  | given {inner : Shape} {tree : Tree} (inside : Admits inner tree) :
      Admits (.optional inner) tree
  | list {item : Shape} {items : List Tree} (each : ∀ tree ∈ items, Admits item tree) :
      Admits (.list item) (.list items)
  | dictionary {value : Shape} {entries : List (String × Tree)}
      (each : ∀ entry ∈ entries, Admits value entry.2) :
      Admits (.dictionary value) (.table entries)
  | record {name : String} {fields : Fields} {entries : List (String × Tree)}
      (distinct : (entries.map Prod.fst).Nodup)
      (known : ∀ entry ∈ entries, (fields.find? entry.1).isSome)
      (each : ∀ entry ∈ entries, ∀ shape, fields.find? entry.1 = some shape →
        Admits shape entry.2)
      (complete : ∀ required ∈ fields.requiredNames, required ∈ entries.map Prod.fst) :
      Admits (.record name fields) (.table entries)

namespace Codec

structure Lawful {Value : Type} (codec : Codec Value) : Prop where
  admitted : ∀ value, codec.shape.Admits (codec.encode value)
  decoded : ∀ value, codec.decode (codec.encode value) = some value
  /-- The missing value stands for nothing but an absent one. -/
  present : ∀ value, codec.encode value ≠ .null

variable {Value Record : Type}

/-! ## Single values and collections -/

theorem text_lawful : Lawful text where
  admitted := .text
  decoded _ := rfl
  present _ := Tree.noConfusion

theorem path_lawful : Lawful path where
  admitted := .path
  decoded _ := rfl
  present _ := Tree.noConfusion

theorem flag_lawful : Lawful flag where
  admitted := .flag
  decoded _ := rfl
  present _ := Tree.noConfusion

theorem natural_number {width : Width} {value : Nat} (held : width.holds value = true) :
    natural width (.number value) = some value := by
  simp [natural, held]

/-- A word is written as its number and read back from it, if the width holds every word. -/
theorem word_lawful {Word : Type} {width : Width} {toNat : Word → Nat} {ofNat : Nat → Word}
    (held : ∀ word, width.holds (toNat word) = true) (back : ∀ word, ofNat (toNat word) = word) :
    Lawful ⟨.whole width, fun word => .number (toNat word),
      fun tree => (natural width tree).map ofNat⟩ where
  admitted word := .whole (Int.natCast_nonneg _) (held word)
  decoded word := by
    dsimp only
    rw [natural_number (held word), Option.map_some, back]
  present _ := Tree.noConfusion

theorem word16_lawful : Lawful word16 :=
  word_lawful (fun word => decide_eq_true word.toNat_lt) fun _ => UInt16.ofNat_toNat

theorem word32_lawful : Lawful word32 :=
  word_lawful (fun word => decide_eq_true word.toNat_lt) fun _ => UInt32.ofNat_toNat

theorem word64_held (word : UInt64) : Width.w64.holds word.toNat = true :=
  decide_eq_true word.toNat_lt

theorem word64_lawful : Lawful word64 :=
  word_lawful word64_held fun _ => UInt64.ofNat_toNat

theorem decode_all_encoded {item : Codec Value} (lawful : Lawful item) (values : List Value) :
    decodeAll item.decode (values.map item.encode) = some values := by
  induction values with
  | nil => rfl
  | cons value values ih => simp only [List.map_cons, decodeAll, lawful.decoded, ih]

theorem list_lawful {item : Codec Value} (lawful : Lawful item) : Lawful (list item) where
  admitted values := by
    apply Shape.Admits.list
    intro tree member
    obtain ⟨value, _, rfl⟩ := List.mem_map.mp member
    exact lawful.admitted value
  decoded := decode_all_encoded lawful
  present _ := Tree.noConfusion

theorem decode_entries_encoded {value : Codec Value} (lawful : Lawful value)
    (entries : List (String × Value)) :
    decodeEntries value.decode (entries.map fun entry => (entry.1, value.encode entry.2)) =
      some entries := by
  induction entries with
  | nil => rfl
  | cons entry entries ih => simp only [List.map_cons, decodeEntries, lawful.decoded, ih]

theorem keyed_lawful {value : Codec Value} (lawful : Lawful value) : Lawful (keyed value) where
  admitted table := by
    apply Shape.Admits.dictionary
    intro entry member
    obtain ⟨held, _, rfl⟩ := List.mem_map.mp member
    exact lawful.admitted held.2
  decoded table := by
    change (decodeEntries value.decode _).map Keyed.ofList = some table
    rw [decode_entries_encoded lawful, Option.map_some, Keyed.of_list_entries]
  present _ := Tree.noConfusion

/-! ## Fields -/

/-- What is written for a field has its shape, and something is written where it must be. -/
structure Field.Sound (field : Field Record) : Prop where
  admitted : ∀ record tree, field.write record = some tree → field.shape.Admits tree
  complete : field.required = true → ∀ record, (field.write record).isSome

section Fields

variable {codec : Codec Value} {name : String} {get : Record → Value}

@[simp] theorem mandatory_name : (Field.mandatory name codec get).name = name := rfl

@[simp] theorem defaulted_name : (Field.defaulted name codec get).name = name := rfl

@[simp] theorem written_unless_name {skip : Value → Bool} :
    (Field.writtenUnless name codec skip get).name = name := rfl

@[simp] theorem optional_name {get : Record → Option Value} :
    (Field.optional name codec get).name = name := rfl

theorem mandatory_sound (lawful : Lawful codec) : (Field.mandatory name codec get).Sound where
  admitted record tree written := by
    cases written
    exact lawful.admitted (get record)
  complete _ _ := rfl

theorem defaulted_sound (lawful : Lawful codec) : (Field.defaulted name codec get).Sound where
  admitted record tree written := by
    cases written
    exact lawful.admitted (get record)
  complete _ _ := rfl

theorem written_unless_sound (lawful : Lawful codec) {skip : Value → Bool} :
    (Field.writtenUnless name codec skip get).Sound where
  admitted record tree written := by
    obtain ⟨_, same⟩ := Option.ite_none_left_eq_some.mp written
    cases same
    exact lawful.admitted (get record)
  complete required := nomatch required

theorem optional_sound (lawful : Lawful codec) {get : Record → Option Value} :
    (Field.optional name codec get).Sound where
  admitted record tree written := by
    obtain ⟨value, _, rfl⟩ := Option.map_eq_some_iff.mp written
    exact .given (lawful.admitted value)
  complete required := nomatch required

/-! The way back finds what a field has written under its name. -/

variable {entries : List (String × Tree)} {record : Record}

theorem require_written (lawful : Lawful codec)
    (found : Tree.entry? name entries = (Field.mandatory name codec get).write record) :
    require entries name codec = some (get record) := by
  rw [require, found]
  exact lawful.decoded (get record)

theorem fallback_written (lawful : Lawful codec) {default : Value}
    (found : Tree.entry? name entries = (Field.defaulted name codec get).write record) :
    fallback entries name codec default = some (get record) := by
  rw [fallback, found]
  exact lawful.decoded (get record)

/-- What is left out has to be the default. -/
theorem fallback_unless (lawful : Lawful codec) {skip : Value → Bool} {default : Value}
    (skipped : ∀ value, skip value = true → value = default)
    (found : Tree.entry? name entries = (Field.writtenUnless name codec skip get).write record) :
    fallback entries name codec default = some (get record) := by
  rw [fallback, found]
  cases left : skip (get record) with
  | true =>
      have same := skipped (get record) left
      simp [Field.writtenUnless, left, ← same]
  | false => simpa [Field.writtenUnless, left] using lawful.decoded (get record)

theorem maybe_written (lawful : Lawful codec) {get : Record → Option Value}
    (found : Tree.entry? name entries = (Field.optional name codec get).write record) :
    maybe entries name codec = some (get record) := by
  rw [maybe, found]
  cases held : get record with
  | none => simp [Field.optional, held]
  | some value =>
      have present := lawful.present value
      simp [Field.optional, held, lawful.decoded value]

end Fields

/-! ## Records -/

section Records

variable {fields : List (Field Record)}

/-- The fields as a shape lists them. -/
def listed (fields : List (Field Record)) : Fields :=
  Fields.ofList (fields.map fun field => (field.name, field.required, field.shape))

theorem name_differs {first field : Field Record} {others : List (Field Record)}
    (fresh : first.name ∉ others.map Field.name) (inside : field ∈ others) :
    first.name ≠ field.name := by
  intro same
  exact fresh (same ▸ List.mem_map_of_mem inside)

theorem find_listed (distinct : (fields.map Field.name).Nodup) {field : Field Record}
    (member : field ∈ fields) : (listed fields).find? field.name = some field.shape := by
  induction fields with
  | nil => cases member
  | cons first others ih =>
      obtain ⟨fresh, rest⟩ := List.nodup_cons.mp distinct
      rcases List.mem_cons.mp member with rfl | inside
      · simp [listed, Fields.ofList, Fields.find?]
      · have different := name_differs fresh inside
        simpa [listed, Fields.ofList, Fields.find?, different] using ih rest inside

theorem listed_found {name : String} {shape : Shape}
    (found : (listed fields).find? name = some shape) :
    ∃ field ∈ fields, field.name = name ∧ field.shape = shape := by
  induction fields with
  | nil => cases found
  | cons first others ih =>
      by_cases same : first.name = name
      · refine ⟨first, List.mem_cons_self, same, ?_⟩
        simpa [listed, Fields.ofList, Fields.find?, same] using found
      · have inside : (listed others).find? name = some shape := by
          simpa [listed, Fields.ofList, Fields.find?, same] using found
        obtain ⟨field, member, facts⟩ := ih inside
        exact ⟨field, List.mem_cons_of_mem _ member, facts⟩

theorem required_listed {name : String} (required : name ∈ (listed fields).requiredNames) :
    ∃ field ∈ fields, field.name = name ∧ field.required = true := by
  induction fields with
  | nil => cases required
  | cons first others ih =>
      cases needed : first.required with
      | false =>
          have inside : name ∈ (listed others).requiredNames := by
            simpa [listed, Fields.ofList, Fields.requiredNames, needed] using required
          obtain ⟨field, member, facts⟩ := ih inside
          exact ⟨field, List.mem_cons_of_mem _ member, facts⟩
      | true =>
          have split : name = first.name ∨ name ∈ (listed others).requiredNames := by
            simpa [listed, Fields.ofList, Fields.requiredNames, needed] using required
          rcases split with rfl | inside
          · exact ⟨first, List.mem_cons_self, rfl, needed⟩
          · obtain ⟨field, member, facts⟩ := ih inside
            exact ⟨field, List.mem_cons_of_mem _ member, facts⟩

theorem mem_written {record : Record} {entry : String × Tree} :
    entry ∈ writeFields fields record ↔
      ∃ field ∈ fields, field.name = entry.1 ∧ field.write record = some entry.2 := by
  rw [writeFields, List.mem_filterMap]
  constructor
  · rintro ⟨field, member, written⟩
    obtain ⟨tree, holds, rfl⟩ := Option.map_eq_some_iff.mp written
    exact ⟨field, member, rfl, holds⟩
  · rintro ⟨field, member, named, written⟩
    exact ⟨field, member, by rw [written, Option.map_some, named]⟩

/-- The written names are some of the fields' names, in their order. -/
theorem written_names (fields : List (Field Record)) (record : Record) :
    ((writeFields fields record).map Prod.fst).Sublist (fields.map Field.name) := by
  induction fields with
  | nil => exact .slnil
  | cons first others ih =>
      cases written : first.write record with
      | none => simpa [writeFields, written] using ih.cons first.name
      | some tree => simpa [writeFields, written] using ih.cons_cons first.name

theorem entry_unnamed {name : String} {entries : List (String × Tree)}
    (fresh : name ∉ entries.map Prod.fst) : Tree.entry? name entries = none := by
  induction entries with
  | nil => rfl
  | cons entry entries ih =>
      simp only [List.map_cons, List.mem_cons, not_or] at fresh
      rw [Tree.entry?, if_neg (Ne.symm fresh.1), ih fresh.2]

/-- Under each field's name stands what that field has written. -/
theorem entry_written (distinct : (fields.map Field.name).Nodup) (record : Record) :
    ∀ field ∈ fields,
      Tree.entry? field.name (writeFields fields record) = field.write record := by
  induction fields with
  | nil =>
      intro field member
      cases member
  | cons first others ih =>
      obtain ⟨fresh, rest⟩ := List.nodup_cons.mp distinct
      intro field member
      rcases List.mem_cons.mp member with rfl | inside
      · cases written : field.write record with
        | none =>
            -- A field that is left out must not find what a later field has written.
            have unwritten : field.name ∉ (writeFields others record).map Prod.fst :=
              fun named => fresh ((written_names others record).subset named)
            simpa [writeFields, written] using entry_unnamed unwritten
        | some tree => simp [writeFields, written, Tree.entry?]
      · have different := name_differs fresh inside
        have found := ih rest field inside
        cases written : first.write record with
        | none => simpa [writeFields, written] using found
        | some tree => simpa [writeFields, written, Tree.entry?, different] using found

/-- A record's codec is lawful when its fields are, and its way back needs nothing but what each
field has written. -/
theorem record_lawful {name : String} {build : List (String × Tree) → Option Record}
    (distinct : (fields.map Field.name).Nodup) (sound : ∀ field ∈ fields, field.Sound)
    (built : ∀ record entries,
      (∀ field ∈ fields, Tree.entry? field.name entries = field.write record) →
        build entries = some record) :
    Lawful (Codec.record name fields build) where
  admitted record := by
    apply Shape.Admits.record
    · exact distinct.sublist (written_names fields record)
    · intro entry member
      obtain ⟨field, listed, named, _⟩ := mem_written.mp member
      have found := find_listed distinct listed
      rw [named] at found
      exact Option.isSome_of_eq_some found
    · intro entry member shape found
      obtain ⟨field, listed, named, written⟩ := mem_written.mp member
      have same := find_listed distinct listed
      rw [named] at same
      cases found.symm.trans same
      exact (sound field listed).admitted record entry.2 written
    · intro required needed
      obtain ⟨field, member, rfl, must⟩ := required_listed needed
      obtain ⟨tree, written⟩ := Option.isSome_iff_exists.mp
        ((sound field member).complete must record)
      have entry : (field.name, tree) ∈ writeFields fields record :=
        mem_written.mpr ⟨field, member, rfl, written⟩
      exact List.mem_map_of_mem entry
  decoded record := built record _ (entry_written distinct record)
  present _ := Tree.noConfusion

end Records

end Codec

end BuildLedger
