import BuildLedger.Proofs.ExactCollection

/-!
# Properties of the record

The properties of the record are those of the settings, put under the resolved properties of one
module after the other. A resolved module has the general value of every key that it does not set
itself, so a key of the general settings goes back to its general value with each module that does
not set it: only the last module that did work decides. A key that the general settings do not have
keeps the value of the last module that sets it.
-/
namespace BuildLedger

namespace Collection

/-- What a unit itself says about a key, when its module is known. -/
def unitValue (settings : Settings) (extractor : Extractor) (unit : UnitId) (key : String) :
    Option String :=
  match extractor.moduleOf unit with
  | .ok (some bare) => ownValue settings unit bare key
  | _ => none

/-- Of several tables put over one another the last one that knows a key decides. -/
theorem override_all_get (base : Properties) (contributions : List Contribution) (key : String) :
    (contributions.foldl (fun properties contribution =>
        properties.override contribution.entry.properties) base).get? key =
      ((contributions.reverse.findSome? fun contribution =>
        contribution.entry.properties.get? key)).or (base.get? key) := by
  induction contributions generalizing base with
  | nil => rfl
  | cons contribution rest ih =>
      rw [List.foldl_cons, ih, Keyed.get_override, List.reverse_cons, List.findSome?_append,
        List.findSome?_singleton, Option.or_assoc]

variable {settings : Settings} {header : Record} {started : Instant} {graph : List UnitId}
  {snapshot : Snapshot} {extractor : Extractor}

/-- Each module passes on the general value of a key that it does not set itself. -/
theorem collect_properties_get {collection : Collection}
    (collected : collect settings header started graph snapshot extractor = .ok collection)
    (key : String) :
    collection.record.properties.get? key =
      ((snapshot.worked graph).reverse.findSome? fun unit =>
        (unitValue settings extractor unit key).or (settings.publisher.properties.get? key)).or
      (settings.publisher.properties.get? key) := by
  obtain ⟨found, contributed, rfl⟩ := collect_ok_iff.mp collected
  have values : List.Forall₂ (fun unit contribution =>
      (unitValue settings extractor unit key).or (settings.publisher.properties.get? key) =
        contribution.entry.properties.get? key) (snapshot.worked graph) found := by
    refine (contributions_ok_iff.mp contributed).imp ?_
    intro unit contribution fine
    obtain ⟨bare, offered, tells, rfl⟩ := contribution_ok_iff.mp fine
    rw [(contribution_resolved settings _ unit bare offered).values, moduleValue, unitValue,
      tells.1]
  have same : (snapshot.worked graph).map (fun unit =>
      (unitValue settings extractor unit key).or (settings.publisher.properties.get? key)) =
        found.map fun contribution => contribution.entry.properties.get? key := by
    rw [← List.forall₂_eq_eq_eq, List.forall₂_map_left_iff, List.forall₂_map_right_iff]
    exact values
  have firsts := congrArg (fun values => values.reverse.findSome? id) same
  simp only [← List.map_reverse, List.findSome?_map, Function.id_comp] at firsts
  simp only [recordProperties, override_all_get]
  rw [firsts]

theorem first_of_always {α : Type} (values : List α) (f : α → String) :
    values.findSome? (fun value => some (f value)) = values.head?.map f := by
  cases values <;> rfl

/-- A key without a general value keeps the value of the last unit that sets it. A key with one has,
after the last unit that did work, what that unit says, else the general value again. -/
theorem record_property_values {collection : Collection}
    (collected : collect settings header started graph snapshot extractor = .ok collection)
    (key : String) :
    let worked := graph.filter fun unit => snapshot.FirstWorked unit
    let own := fun unit => unitValue settings extractor unit key
    collection.record.properties.get? key =
      match settings.publisher.properties.get? key with
      | none => worked.reverse.findSome? own
      | some general => some ((worked.getLast?.bind own).getD general) := by
  intro worked own
  have same : worked = snapshot.worked graph := (snapshot.worked_eq_filter graph).symm
  rw [collect_properties_get collected, ← same]
  cases settings.publisher.properties.get? key with
  | none => simp only [Option.or_none, own]
  | some general =>
      have filled : (fun unit => (unitValue settings extractor unit key).or (some general)) =
          fun unit => some ((own unit).getD general) := by
        funext unit
        cases value : unitValue settings extractor unit key <;> simp [own, value]
      rw [filled, first_of_always, List.head?_reverse]
      cases worked.getLast? <;> rfl

/-- The first unit sets a key that the general settings do not have, and the second does not. -/
theorem earlier_value_stays :
    let settings : Settings := {
      modules := Keyed.ofList [(":a", { properties := Keyed.ofList [("owner", "module-a")] })] }
    let header : Record := { name := "app", number := "7", started := "start" }
    let snapshot : Snapshot := [⟨":a", true, true⟩, ⟨":b", true, true⟩]
    let extractor : Extractor := ⟨fun unit => .ok (some { id := unit }), fun _ => .ok []⟩
    ∃ collection, collect settings header ⟨0, 0⟩ snapshot.ids snapshot extractor = .ok collection ∧
      collection.record.properties.get? "owner" = some "module-a" := by
  intro settings header snapshot extractor
  have collected : collect settings header ⟨0, 0⟩ snapshot.ids snapshot extractor = .ok _ := rfl
  exact ⟨_, collected, (record_property_values collected "owner").trans (by decide)⟩

/-- A unit that sets a key does not keep it when a later one leaves it to the general settings: the
first of two units says who owns it, the second says nothing, and the record has the general owner.
-/
theorem general_value_returns :
    let settings : Settings := {
      publisher := { properties := Keyed.ofList [("owner", "root")] }
      modules := Keyed.ofList [(":a", { properties := Keyed.ofList [("owner", "module-a")] })] }
    let header : Record :=
      { name := "app", number := "7", started := "2024-01-01T00:00:00.000+0000" }
    let snapshot : Snapshot := [⟨":a", true, true⟩, ⟨":b", true, true⟩]
    let extractor : Extractor := ⟨fun unit => .ok (some { id := unit }), fun _ => .ok []⟩
    let own := fun unit => unitValue settings extractor unit "owner"
    ∃ collection, collect settings header ⟨1704067200, 123000000⟩ snapshot.ids snapshot extractor =
        .ok collection ∧
      (snapshot.worked snapshot.ids).reverse.findSome? own = some "module-a" ∧
      own ":b" = none ∧
      collection.record.properties.get? "owner" = some "root" := by
  intro settings header snapshot extractor own
  refine ⟨_, rfl, ?_, ?_, ?_⟩
  · decide
  · decide
  · decide

end Collection

end BuildLedger
