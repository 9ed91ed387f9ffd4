import BuildLedger.Json.Conform
import BuildLedger.Proofs.JsonPrinting
import BuildLedger.Proofs.LawfulCodecs

/-!
# Values through JSON text and back

A tree that a shape admits is fitted to the shape unchanged, so a value of a lawful codec survives
both layouts of the printer.
-/
namespace BuildLedger.Json

theorem of_tree_null {tree : Tree} (missing : ofTree tree = .null) : tree = .null := by
  cases tree with
  | null => rfl
  | _ => cases missing

/-! ## Fitting -/

theorem fit_whole {width : Width} {value : Int} (positive : 0 ≤ value)
    (held : width.holds value.toNat = true) :
    fitWhole width (.number (.ofInt value)) = .ok (.number value) := by
  have small : value.toNat < Numeral.wordLimit := by
    have bound : value.toNat < Nat.pow 2 width.bits := of_decide_eq_true held
    have widest : Nat.pow 2 width.bits ≤ Numeral.wordLimit := by
      cases width <;> decide
    omega
  have read : found (.number (.ofInt value)) = .ok (.whole value) := by
    rw [found, number_quantity positive small]
    rfl
  simp only [fitWhole, read, positive, held, and_self, if_true]

theorem fit_items {fit : Json → Except Problem Tree} {items : List Tree}
    (each : ∀ tree ∈ items, fit (ofTree tree) = .ok tree) :
    fitItems fit (ofItems items) = .ok items := by
  induction items with
  | nil => rfl
  | cons item items ih =>
      have first := each item List.mem_cons_self
      have others := ih fun tree member => each tree (List.mem_cons_of_mem _ member)
      simp only [ofItems, fitItems, first, others]
      rfl

theorem fit_entries {fit : Json → Except Problem Tree} {entries : List (String × Tree)}
    (each : ∀ entry ∈ entries, fit (ofTree entry.2) = .ok entry.2) :
    fitEntries fit (ofEntries entries) = .ok entries := by
  induction entries with
  | nil => rfl
  | cons entry entries ih =>
      have first := each entry List.mem_cons_self
      have others := ih fun entry member => each entry (List.mem_cons_of_mem _ member)
      simp only [ofEntries, fitEntries, first, others]
      rfl

/-- Known members with new names are fitted one by one. -/
theorem fit_members {fit? : String → Option (Json → Except Problem Tree)}
    {entries : List (String × Tree)} {present : List String}
    (distinct : (entries.map Prod.fst).Nodup)
    (fresh : ∀ entry ∈ entries, entry.1 ∉ present)
    (each : ∀ entry ∈ entries, ∃ fit, fit? entry.1 = some fit ∧
      fit (ofTree entry.2) = .ok entry.2) :
    fitMembers fit? present (ofEntries entries) = .ok entries := by
  induction entries generalizing present with
  | nil => rfl
  | cons entry entries ih =>
      obtain ⟨new, rest⟩ := List.nodup_cons.mp distinct
      obtain ⟨fit, known, first⟩ := each entry List.mem_cons_self
      have notYet : present.contains entry.1 = false := by
        simpa using fresh entry List.mem_cons_self
      have others : fitMembers fit? (entry.1 :: present) (ofEntries entries) = .ok entries := by
        apply ih rest
        · intro other member
          have unseen := fresh other (List.mem_cons_of_mem _ member)
          have different : other.1 ≠ entry.1 := by
            intro same
            exact new (same ▸ List.mem_map_of_mem member)
          exact List.not_mem_cons_of_ne_of_not_mem different unseen
        · exact fun other member => each other (List.mem_cons_of_mem _ member)
      simp only [ofEntries, fitMembers, known, notYet, first, others]
      rfl

theorem fit_field (fields : Fields) (name : String) :
    fitField? fields name = (fields.find? name).map fit := by
  induction fields using Fields.find?.induct name with
  | case1 => rfl
  | case2 required shape rest => simp [fitField?, Fields.find?]
  | case3 field required shape rest different ih => simp [fitField?, Fields.find?, different, ih]

theorem fit_found {fields : Fields} {name : String} {shape : Shape}
    (found : fields.find? name = some shape) : fitField? fields name = some (fit shape) := by
  rw [fit_field, found, Option.map_some]

theorem nothing_missing {fields : Fields} {present : List String}
    (complete : ∀ required ∈ fields.requiredNames, required ∈ present) :
    missing? present fields = none := by
  rw [missing?, List.find?_eq_none]
  intro required needed
  simpa using complete required needed

theorem fit_admitted {shape : Shape} {tree : Tree} (admitted : shape.Admits tree) :
    fit shape (ofTree tree) = .ok tree := by
  induction admitted with
  | text value => rw [ofTree, fit]
  | path value => rw [ofTree, fit]
  | flag value => rw [ofTree, fit]
  | whole positive held =>
      rw [ofTree, fit]
      exact fit_whole positive held
  | choice listed => simp [ofTree, fit, listed]
  | absent inner => rw [ofTree, fit]
  | @given inner tree inside ih =>
      -- The missing value is taken before the inner shape is asked, which may admit it as well.
      by_cases missing : tree = .null
      · subst missing
        rw [ofTree, fit]
      · have other : ofTree tree ≠ .null := fun null => missing (of_tree_null null)
        rw [fit]
        · exact ih
        · exact other
  | list each ih =>
      simp only [ofTree, fit, fit_items ih]
      rfl
  | dictionary each ih =>
      simp only [ofTree, fit, fit_entries ih]
      rfl
  | @record name fields entries distinct known each complete ih =>
      have members : fitMembers (fitField? fields) [] (ofEntries entries) = .ok entries := by
        apply fit_members distinct
        · intro entry _ seen
          cases seen
        · intro entry member
          obtain ⟨shape, found⟩ := Option.isSome_iff_exists.mp (known entry member)
          exact ⟨fit shape, fit_found found, ih entry member shape found⟩
      simp only [ofTree, fit, members]
      change completeRecord fields none entries = _
      rw [completeRecord, nothing_missing complete]
      rfl

/-! ## Whole texts -/

variable {Value : Type} {codec : Codec Value}

/-- A value of a lawful codec is read back from what is written for it. -/
theorem parse_written (lawful : codec.Lawful) (layout : Layout) (value : Value) :
    parse codec (String.ofList (write layout 0 (codec.encode value))) = .ok value := by
  have tree : parseTree codec.shape (String.ofList (write layout 0 (codec.encode value))) =
      .ok (codec.encode value) := by
    rw [parseTree, of_text_write]
    simp only [fit_admitted (lawful.admitted value)]
    rfl
  simp only [parse, tree, lawful.decoded]

end BuildLedger.Json
