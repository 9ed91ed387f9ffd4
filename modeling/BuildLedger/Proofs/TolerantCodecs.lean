import BuildLedger.Proofs.JsonVariants

/-!
# Codecs that take all variants

A codec is tolerant when it reads every JSON value that stands for a value as that value, and writes
one of them. The combinators keep this. For a record it comes down to its fields, each beside the
slot that says what may stand for it: nothing but the members' names and values counts, so neither
their order nor what stands between them matters.
-/
namespace BuildLedger.Codec

open Json (Name Slot Declared Extension Variants fit fitItems fitEntries fitMembers fitField? ofTree
  ofItems ofEntries valuesAt)

variable {Value Record : Type}

structure Tolerant (codec : Codec Value) (variants : Variants Value) : Prop where
  reads : ∀ value json, variants value json →
    ∃ tree, fit codec.shape json = .ok tree ∧ codec.decode tree = some value
  written : ∀ value, variants value (ofTree (codec.encode value))
  /-- The missing value stands for nothing but an absent one. -/
  present : ∀ value, ¬variants value .null
  nothing : codec.decode .null = none

/-! ## Single values and collections -/

theorem text_tolerant : Tolerant text Variants.text where
  reads value json variant := by
    cases variant
    exact ⟨.text value, by rw [text, fit], rfl⟩
  written value := by
    change ofTree (.text value) = _
    rw [ofTree]
  present _ := Json.noConfusion
  nothing := rfl

theorem flag_tolerant : Tolerant flag Variants.flag where
  reads value json variant := by
    cases variant
    exact ⟨.flag value, by rw [flag, fit], rfl⟩
  written value := by
    change ofTree (.flag value) = _
    rw [ofTree]
  present _ := Json.noConfusion
  nothing := rfl

theorem word64_tolerant : Tolerant word64 Variants.word64 where
  reads value json variant := by
    cases variant
    refine ⟨.number value.toNat, ?_, word64_lawful.decoded value⟩
    rw [word64, fit]
    exact Json.fit_whole (Int.natCast_nonneg _) (word64_held value)
  written value := by
    change ofTree (.number value.toNat) = _
    rw [ofTree]
  present _ := Json.noConfusion
  nothing := rfl

section Collections

variable {codec : Codec Value} {variants : Variants Value}

theorem items_read (tolerant : Tolerant codec variants) {values : List Value} {items : List Json}
    (each : List.Forall₂ variants values items) :
    ∃ trees, fitItems (fit codec.shape) items = .ok trees ∧
      decodeAll codec.decode trees = some values := by
  induction each with
  | nil => exact ⟨[], rfl, rfl⟩
  | cons first _ ih =>
      obtain ⟨tree, fitted, decoded⟩ := tolerant.reads _ _ first
      obtain ⟨trees, others, rest⟩ := ih
      refine ⟨tree :: trees, ?_, ?_⟩
      · simp only [fitItems, fitted, others]
        rfl
      · simp only [decodeAll, decoded, rest]

theorem items_written (tolerant : Tolerant codec variants) (values : List Value) :
    List.Forall₂ variants values (ofItems (values.map codec.encode)) := by
  induction values with
  | nil => exact .nil
  | cons value values ih => exact .cons (tolerant.written value) ih

theorem list_tolerant (tolerant : Tolerant codec variants) :
    Tolerant (list codec) (Variants.list variants) where
  reads values json variant := by
    obtain ⟨items, rfl, each⟩ := variant
    obtain ⟨trees, fitted, decoded⟩ := items_read tolerant each
    refine ⟨.list trees, ?_, decoded⟩
    rw [list, fit]
    simp only [fitted]
    rfl
  written values := ⟨_, by rw [list, ofTree], items_written tolerant values⟩
  present values variant := by
    obtain ⟨items, same, _⟩ := variant
    cases same
  nothing := rfl

theorem entries_read (tolerant : Tolerant codec variants) {entries : List (String × Value)}
    {members : List (Name × Json)}
    (each : List.Forall₂ (fun entry member => member.1 = .ok entry.1 ∧ variants entry.2 member.2)
      entries members) :
    ∃ trees, fitEntries (fit codec.shape) members = .ok trees ∧
      decodeEntries codec.decode trees = some entries := by
  induction each with
  | nil => exact ⟨[], rfl, rfl⟩
  | @cons entry member _ _ first _ ih =>
      obtain ⟨name, json⟩ := member
      obtain ⟨rfl, variant⟩ := first
      obtain ⟨tree, fitted, decoded⟩ := tolerant.reads _ _ variant
      obtain ⟨trees, others, rest⟩ := ih
      refine ⟨(entry.1, tree) :: trees, ?_, ?_⟩
      · simp only [fitEntries, fitted, others]
        rfl
      · simp only [decodeEntries, decoded, rest]

theorem entries_written (tolerant : Tolerant codec variants) (entries : List (String × Value)) :
    List.Forall₂ (fun entry member => member.1 = .ok entry.1 ∧ variants entry.2 member.2) entries
      (ofEntries (entries.map fun entry => (entry.1, codec.encode entry.2))) := by
  induction entries with
  | nil => exact .nil
  | cons entry entries ih => exact .cons ⟨rfl, tolerant.written entry.2⟩ ih

theorem keyed_tolerant (tolerant : Tolerant codec variants) :
    Tolerant (keyed codec) (Variants.keyed variants) where
  reads table json variant := by
    obtain ⟨entries, members, rfl, perm, each⟩ := variant
    obtain ⟨trees, fitted, decoded⟩ := entries_read tolerant each
    refine ⟨.table trees, ?_, ?_⟩
    · rw [keyed, fit]
      simp only [fitted]
      rfl
    · change (decodeEntries codec.decode trees).map Keyed.ofList = some table
      rw [decoded, Option.map_some, Keyed.of_list_perm perm]
  written table :=
    ⟨table.entries, _, by rw [keyed, ofTree], .refl _, entries_written tolerant table.entries⟩
  present table variant := by
    obtain ⟨entries, members, same, _⟩ := variant
    cases same
  nothing := rfl

end Collections

/-! ## Fields -/

/-- A field is written, read and found again as its slot allows; `found` says what the way back
finds among the entries of a record. -/
structure Suits (field : Field Record) (slot : Slot Record)
    (found : Record → List (String × Tree) → Prop) : Prop where
  named : field.name = slot.name
  given : ∀ record json, slot.admits record json → ∃ tree, fit field.shape json = .ok tree ∧
    ∀ entries, Tree.entry? field.name entries = some tree → found record entries
  omitted : ∀ record, slot.omits record → field.required = false ∧
    ∀ entries, Tree.entry? field.name entries = none → found record entries
  written : ∀ record tree, field.write record = some tree → slot.admits record (ofTree tree)
  unwritten : ∀ record, field.write record = none → slot.omits record

section Fields

variable {codec : Codec Value} {variants : Variants Value} {name : String}

theorem mandatory_suits (tolerant : Tolerant codec variants) {get : Record → Value} :
    Suits (.mandatory name codec get) (.mandatory name variants get)
      fun record entries => require entries name codec = some (get record) where
  named := rfl
  given record json admitted := by
    obtain ⟨tree, fitted, decoded⟩ := tolerant.reads _ _ admitted
    refine ⟨tree, fitted, ?_⟩
    intro entries entry
    rw [require, show Tree.entry? name entries = some tree from entry]
    exact decoded
  omitted _ never := nomatch never
  written record tree same := by
    cases same
    exact tolerant.written (get record)
  unwritten _ never := nomatch never

/-- What is left out has to be the default. -/
theorem unless_suits (tolerant : Tolerant codec variants) {get : Record → Value}
    {skip : Value → Bool} {default : Value}
    (skipped : ∀ value, skip value = true → value = default) :
    Suits (.writtenUnless name codec skip get) (.defaulted name variants default get)
      fun record entries => fallback entries name codec default = some (get record) where
  named := rfl
  given record json admitted := by
    obtain ⟨tree, fitted, decoded⟩ := tolerant.reads _ _ admitted
    refine ⟨tree, fitted, ?_⟩
    intro entries entry
    rw [fallback, show Tree.entry? name entries = some tree from entry]
    exact decoded
  omitted record same := by
    refine ⟨rfl, ?_⟩
    intro entries entry
    rw [fallback, show Tree.entry? name entries = none from entry]
    exact congrArg some same.symm
  written record tree written := by
    obtain ⟨_, same⟩ := Option.ite_none_left_eq_some.mp written
    cases same
    exact tolerant.written (get record)
  unwritten record nothing := by
    apply skipped
    by_contra kept
    simp [Field.writtenUnless, kept] at nothing

theorem defaulted_suits (tolerant : Tolerant codec variants) {get : Record → Value}
    {default : Value} :
    Suits (.defaulted name codec get) (.defaulted name variants default get)
      fun record entries => fallback entries name codec default = some (get record) := by
  have kept : ∀ value : Value, (fun _ => false) value = true → value = default := nofun
  exact unless_suits tolerant kept

theorem optional_suits (tolerant : Tolerant codec variants) {get : Record → Option Value} :
    Suits (.optional name codec get) (.optional name variants get)
      fun record entries => maybe entries name codec = some (get record) where
  named := rfl
  given record json admitted := by
    cases held : get record with
    | none =>
        simp only [Slot.optional, held] at admitted
        subst admitted
        refine ⟨.null, by rw [Field.optional, fit], ?_⟩
        intro entries entry
        rw [maybe, show Tree.entry? name entries = some .null from entry]
    | some value =>
        simp only [Slot.optional, held] at admitted
        have present : json ≠ .null := by
          rintro rfl
          exact tolerant.present value admitted
        obtain ⟨tree, fitted, decoded⟩ := tolerant.reads _ _ admitted
        refine ⟨tree, (Json.fit_present present).trans fitted, ?_⟩
        intro entries entry
        have other : tree ≠ .null := by
          rintro rfl
          cases tolerant.nothing.symm.trans decoded
        rw [maybe, show Tree.entry? name entries = some tree from entry]
        simp [decoded]
  omitted record nothing := by
    refine ⟨rfl, ?_⟩
    intro entries entry
    rw [maybe, show Tree.entry? name entries = none from entry]
    exact congrArg some (Eq.symm nothing)
  written record tree written := by
    obtain ⟨value, held, rfl⟩ := Option.map_eq_some_iff.mp written
    simpa [Slot.optional, held] using tolerant.written value
  unwritten record nothing := Option.map_eq_none_iff.mp nothing

end Fields

/-! ## Records -/

/-- Fields beside their slots, one by one, and what the way back finds altogether. -/
inductive Paired : List (Field Record) → List (Slot Record) →
    (Record → List (String × Tree) → Prop) → Prop
  | nil : Paired [] [] fun _ _ => True
  | cons {field : Field Record} {slot : Slot Record} {fields : List (Field Record)}
      {slots : List (Slot Record)} {found others : Record → List (String × Tree) → Prop}
      (first : Suits field slot found) (rest : Paired fields slots others) :
      Paired (field :: fields) (slot :: slots)
        fun record entries => found record entries ∧ others record entries

/-- At most one value, and none only where the slot may be left out. -/
inductive Filled (slot : Slot Record) (record : Record) : List Json → Prop
  | given {json : Json} (admitted : slot.admits record json) : Filled slot record [json]
  | omitted (allowed : slot.omits record) : Filled slot record []

section Records

variable {fields : List (Field Record)} {slots : List (Slot Record)}
  {found : Record → List (String × Tree) → Prop} {record : Record} {members : List (Name × Json)}

theorem Paired.names (paired : Paired fields slots found) :
    fields.map Field.name = slots.map Slot.name := by
  induction paired with
  | nil => rfl
  | cons first rest ih => rw [List.map_cons, List.map_cons, first.named, ih]

/-- Each field has its slot, with the same name. -/
theorem Paired.slot (paired : Paired fields slots found) {field : Field Record}
    (member : field ∈ fields) : ∃ slot ∈ slots, ∃ one, Suits field slot one := by
  induction paired with
  | nil => cases member
  | cons first rest ih =>
      rcases List.mem_cons.mp member with rfl | inside
      · exact ⟨_, List.mem_cons_self, _, first⟩
      · obtain ⟨slot, listed, suits⟩ := ih inside
        exact ⟨slot, List.mem_cons_of_mem _ listed, suits⟩

/-- The way back finds all fields of a record whose slots are filled. -/
theorem Paired.finds (paired : Paired fields slots found) {entries : List (String × Tree)}
    (filled : ∀ slot ∈ slots, Filled slot record (valuesAt slot.name members))
    (fitted : ∀ field ∈ fields, (valuesAt field.name members).map (fit field.shape) =
      (Tree.entry? field.name entries).toList.map .ok) : found record entries := by
  induction paired with
  | nil => trivial
  | @cons field slot fields slots _ _ first rest ih =>
      refine ⟨?_, ih (fun slot inside => filled slot (List.mem_cons_of_mem _ inside))
        fun field inside => fitted field (List.mem_cons_of_mem _ inside)⟩
      have values := filled slot List.mem_cons_self
      have entry := fitted field List.mem_cons_self
      rw [← first.named] at values
      generalize valuesAt field.name members = json at values entry
      cases values with
      | given admitted =>
          obtain ⟨tree, here, finds⟩ := first.given _ _ admitted
          apply finds
          cases held : Tree.entry? field.name entries with
          | none => simp [held] at entry
          | some other => simpa [held, here, eq_comm] using entry
      | omitted allowed =>
          apply (first.omitted _ allowed).2
          cases held : Tree.entry? field.name entries with
          | none => rfl
          | some other => simp [held] at entry

theorem declared_names (declared : Declared record slots members) :
    ∀ member ∈ members, ∃ name ∈ slots.map Slot.name, member.1 = .ok name := by
  induction declared with
  | nil => exact fun _ member => nomatch member
  | given admitted others ih =>
      intro member inside
      rcases List.mem_cons.mp inside with rfl | later
      · exact ⟨_, List.mem_cons_self, rfl⟩
      · obtain ⟨name, listed, same⟩ := ih member later
        exact ⟨name, List.mem_cons_of_mem _ listed, same⟩
  | omitted allowed others ih =>
      intro member inside
      obtain ⟨name, listed, same⟩ := ih member inside
      exact ⟨name, List.mem_cons_of_mem _ listed, same⟩

theorem undeclared_values (declared : Declared record slots members) {name : String}
    (fresh : name ∉ slots.map Slot.name) : valuesAt name members = [] := by
  apply Json.values_at_none
  intro member inside same
  obtain ⟨other, listed, named⟩ := declared_names declared member inside
  cases named.symm.trans same
  exact fresh listed

/-- Names that differ are filled by what is declared for each. -/
theorem declared_filled (declared : Declared record slots members)
    (distinct : (slots.map Slot.name).Nodup) :
    ∀ slot ∈ slots, Filled slot record (valuesAt slot.name members) := by
  induction declared with
  | nil => exact fun _ member => nomatch member
  | @given first slots json members admitted others ih =>
      obtain ⟨fresh, rest⟩ := List.nodup_cons.mp distinct
      intro slot member
      rcases List.mem_cons.mp member with rfl | inside
      · rw [Json.values_at_same, undeclared_values others fresh]
        exact .given admitted
      · have other : first.name ≠ slot.name := by
          intro same
          exact fresh (same ▸ List.mem_map_of_mem inside)
        rw [Json.values_at_other (by simpa using other)]
        exact ih rest slot inside
  | @omitted first slots members allowed others ih =>
      obtain ⟨fresh, rest⟩ := List.nodup_cons.mp distinct
      intro slot member
      rcases List.mem_cons.mp member with rfl | inside
      · rw [undeclared_values others fresh]
        exact .omitted allowed
      · exact ih rest slot inside

/-- Neither the order of the members nor the extensions among them change what fills a slot. -/
theorem variant_filled {declared extensions : List (Name × Json)}
    (perm : members.Perm (declared ++ extensions)) (declares : Declared record slots declared)
    (extended : ∀ member ∈ extensions, Extension slots member)
    (distinct : (slots.map Slot.name).Nodup) :
    ∀ slot ∈ slots, Filled slot record (valuesAt slot.name members) := by
  intro slot member
  have apart : valuesAt slot.name extensions = [] := by
    apply Json.values_at_none
    intro other inside same
    obtain ⟨name, named, fresh⟩ := (extended other inside).undeclared
    cases named.symm.trans same
    exact fresh (List.mem_map_of_mem member)
  have same : (valuesAt slot.name members).Perm (valuesAt slot.name declared) := by
    have all : (valuesAt slot.name members).Perm (valuesAt slot.name (declared ++ extensions)) :=
      perm.filterMap _
    rwa [valuesAt, valuesAt, List.filterMap_append, ← valuesAt, ← valuesAt, ← valuesAt, apart,
      List.append_nil] at all
  have filled := declared_filled declares distinct slot member
  generalize valuesAt slot.name declared = values at same filled
  cases filled with
  | given admitted =>
      rw [List.perm_singleton.mp same]
      exact .given admitted
  | omitted allowed =>
      rw [same.eq_nil]
      exact .omitted allowed

theorem variant_passed {declared extensions : List (Name × Json)}
    (perm : members.Perm (declared ++ extensions)) (declares : Declared record slots declared)
    (extended : ∀ member ∈ extensions, Extension slots member) :
    ∀ member ∈ members, ∃ name, member.1 = .ok name ∧
      (name ∉ slots.map Slot.name → member.2.skipFault = none) := by
  intro member inside
  rcases List.mem_append.mp (perm.mem_iff.mp inside) with own | added
  · obtain ⟨name, listed, named⟩ := declared_names declares member own
    exact ⟨name, named, fun fresh => absurd listed fresh⟩
  · obtain ⟨name, named, _⟩ := (extended member added).undeclared
    obtain ⟨text, formed⟩ := (extended member added).formed
    exact ⟨name, named, fun _ => Json.spells_skipped formed⟩

theorem fields_written (paired : Paired fields slots found) (record : Record) :
    Declared record slots (ofEntries (writeFields fields record)) := by
  induction paired with
  | nil => exact .nil
  | @cons field slot fields slots _ _ first rest ih =>
      cases written : field.write record with
      | none => simpa [writeFields, written] using ih.omitted (first.unwritten record written)
      | some tree =>
          have given := ih.given (first.written record tree written)
          rw [← first.named] at given
          simpa [writeFields, written, ofEntries] using given

/-- Each field has one value, which fits, or none and is not required. -/
theorem field_values (paired : Paired fields slots found)
    (filled : ∀ slot ∈ slots, Filled slot record (valuesAt slot.name members))
    {field : Field Record} (member : field ∈ fields) :
    (∃ json tree, valuesAt field.name members = [json] ∧ fit field.shape json = .ok tree) ∨
      (valuesAt field.name members = [] ∧ field.required = false) := by
  obtain ⟨slot, inside, one, suits⟩ := paired.slot member
  have values := filled slot inside
  rw [← suits.named] at values
  generalize valuesAt field.name members = json at values
  cases values with
  | given admitted =>
      obtain ⟨tree, fitted, _⟩ := suits.given _ _ admitted
      exact Or.inl ⟨_, tree, rfl, fitted⟩
  | omitted allowed => exact Or.inr ⟨rfl, (suits.omitted _ allowed).1⟩

/-- A table that fills the slots fits the record's shape, and under each field's name stands what
its value is fitted to. -/
theorem filled_fits {name : String} (paired : Paired fields slots found)
    (distinct : (fields.map Field.name).Nodup)
    (filled : ∀ slot ∈ slots, Filled slot record (valuesAt slot.name members))
    (passed : ∀ member ∈ members, ∃ name, member.1 = .ok name ∧
      (name ∉ slots.map Slot.name → member.2.skipFault = none)) :
    ∃ entries, fit (.record name (listed fields)) (.table members none) = .ok (.table entries) ∧
      ∀ field ∈ fields, (valuesAt field.name members).map (fit field.shape) =
        (Tree.entry? field.name entries).toList.map .ok := by
  have known : ∀ name fits, fitField? (listed fields) name = some fits →
      (name ∈ [] → valuesAt name members = []) ∧ (valuesAt name members).length ≤ 1 ∧
        ∀ value ∈ valuesAt name members, ∃ tree, fits value = .ok tree := by
    intro name fits declared
    rw [Json.fit_field, Option.map_eq_some_iff] at declared
    obtain ⟨shape, found, rfl⟩ := declared
    obtain ⟨field, member, rfl, rfl⟩ := listed_found found
    refine ⟨nofun, ?_⟩
    rcases field_values paired filled member with ⟨json, tree, values, fitted⟩ | ⟨values, _⟩
    · simpa [values] using ⟨tree, fitted⟩
    · simp [values]
  have unknown : ∀ member ∈ members, ∃ name, member.1 = .ok name ∧
      (fitField? (listed fields) name = none → member.2.skipFault = none) := by
    intro member inside
    obtain ⟨name, named, skipped⟩ := passed member inside
    refine ⟨name, named, fun undeclared => skipped ?_⟩
    rw [← paired.names]
    intro declared
    obtain ⟨field, listed, rfl⟩ := List.mem_map.mp declared
    rw [Json.fit_found (find_listed distinct listed)] at undeclared
    cases undeclared
  obtain ⟨entries, fitted⟩ := Json.fit_members_ok unknown known
  have held : ∀ field ∈ fields, (valuesAt field.name members).map (fit field.shape) =
      (Tree.entry? field.name entries).toList.map .ok := fun field member =>
    (Json.fitted_values fitted (Json.fit_found (find_listed distinct member))).2
  have complete : ∀ required ∈ (listed fields).requiredNames, required ∈ entries.map Prod.fst := by
    intro required needed
    obtain ⟨field, member, rfl, must⟩ := required_listed needed
    rcases field_values paired filled member with ⟨json, tree, values, _⟩ | ⟨_, optional⟩
    · by_contra absent
      have entry := held field member
      simp [values, entry_unnamed absent] at entry
    · cases must.symm.trans optional
  refine ⟨entries, ?_, held⟩
  rw [fit, fitted]
  change Json.completeRecord (listed fields) none entries = _
  rw [Json.completeRecord, Json.nothing_missing complete]
  rfl

/-- A record's codec is tolerant when each field suits its slot and the way back needs nothing but
what the fields find. -/
theorem record_tolerant {name : String} {build : List (String × Tree) → Option Record}
    (paired : Paired fields slots found) (distinct : (fields.map Field.name).Nodup)
    (built : ∀ record entries, found record entries → build entries = some record) :
    Tolerant (Codec.record name fields build) (Variants.record slots) where
  reads record json variant := by
    obtain ⟨members, declared, extensions, rfl, perm, declares, extended⟩ := variant
    have filled := variant_filled perm declares extended (paired.names ▸ distinct)
    obtain ⟨entries, fitted, held⟩ :=
      filled_fits paired distinct filled (variant_passed perm declares extended)
    exact ⟨.table entries, fitted, built record entries (paired.finds filled held)⟩
  written record := by
    refine ⟨_, _, [], by rw [Codec.record, ofTree], ?_, fields_written paired record, nofun⟩
    rw [List.append_nil]
  present record variant := by
    obtain ⟨members, declared, extensions, same, _⟩ := variant
    cases same
  nothing := rfl

end Records

/-! ## Whole texts -/

/-- A tolerant codec reads each text of each variant, with any space around it. -/
theorem Tolerant.parse {codec : Codec Value} {variants : Variants Value}
    (tolerant : Tolerant codec variants) {value : Value} {json : Json}
    (variant : variants value json) {characters space : List Char}
    (spelled : Json.Spells (.value json) characters) (blank : Json.Space space) :
    Json.parse codec (String.ofList (characters ++ space)) = .ok value := by
  obtain ⟨tree, fitted, decoded⟩ := tolerant.reads value json variant
  have read : Json.parseTree codec.shape (String.ofList (characters ++ space)) = .ok tree := by
    rw [Json.parseTree, Json.of_text_spelled spelled blank]
    simp only [fitted, Option.map_some, Json.skip_all_space blank]
  simp only [Json.parse, read, decoded]

/-- No codec reads a text with a repeated field. -/
theorem parse_repeated (codec : Codec Value) {json : Json}
    (repeated : Json.Repeats codec.shape json) {characters space : List Char}
    (spelled : Json.Spells (.value json) characters) (blank : Json.Space space) :
    ∃ problem, Json.parse codec (String.ofList (characters ++ space)) = .error problem := by
  rw [Json.parse, Json.parseTree, Json.of_text_spelled spelled blank]
  cases fitted : fit codec.shape json with
  | ok tree => exact absurd fitted (Json.repeats_unfit repeated tree)
  | error problem => exact ⟨problem, by simp only [fitted]⟩

end BuildLedger.Codec
