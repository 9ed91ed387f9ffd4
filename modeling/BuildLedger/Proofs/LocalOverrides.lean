import BuildLedger.Proofs.ListedUploads

/-!
# Settings of a unit are local

The settings of one unit decide only on what that unit wants. Every other copy of a path goes out or
stays behind whatever they say, and collapsing copies by path never looks at copies of other paths.
So of the paths that the unit does not want the batch has the same copies in the same order, and the
same of them are filtered.
-/
namespace BuildLedger

/-- The settings say the same but for the settings of one unit. -/
structure Settings.SameBut (unit : UnitId) (left right : Settings) : Prop where
  others : ∀ other, other ≠ unit → left.modules.get? other = right.modules.get? other
  general : { left with modules := ∅ } = { right with modules := ∅ }

theorem Settings.SameBut.publisher {unit : UnitId} {left right : Settings}
    (same : left.SameBut unit right) : left.publisher = right.publisher := by
  have parts := congrArg Settings.publisher same.general
  exact parts

namespace Batch

/-- Whether a unit wants a path. -/
def reports (unit : UnitId) (units : List UnitUploads) (path : String) : Bool :=
  units.any fun own => own.unit == unit && own.uploads.any fun upload => upload.path == path

/-- Of the paths outside a set the batches hold the same. -/
structure AgreeOutside (inside : String → Bool) (batch other : Batch) : Prop where
  /-- The same copy of a path goes out, if one does. -/
  copy : ∀ path, inside path = false →
    batch.chosen.find? (fun upload => upload.path == path) =
      other.chosen.find? fun upload => upload.path == path
  held : ∀ path, inside path = false → (path ∈ batch.filtered ↔ path ∈ other.filtered)
  order : (batch.chosen.filter fun upload => !inside upload.path) =
    other.chosen.filter fun upload => !inside upload.path
  heldOrder : (batch.filtered.filter fun path => !inside path) =
    other.filtered.filter fun path => !inside path

/-! ## Collapsing -/

section Collapsing

variable {Item : Type} (key : Item → String)

/-- Of items with one key only the first. -/
def firstBy (seen : List String) : List Item → List Item
  | [] => []
  | item :: rest =>
      if seen.contains (key item) then firstBy seen rest
      else item :: firstBy (key item :: seen) rest

/-- Items whose keys are not kept leave no trace among those whose keys are. -/
theorem first_by_filter (keep : String → Bool) {seen known : List String}
    (agree : ∀ text, keep text = true → (text ∈ seen ↔ text ∈ known)) (items : List Item) :
    (firstBy key seen items).filter (keep ∘ key) =
      firstBy key known (items.filter (keep ∘ key)) := by
  induction items generalizing seen known with
  | nil => rfl
  | cons item rest ih =>
      by_cases kept : keep (key item) = true
      · have same := agree (key item) kept
        rw [List.filter_cons_of_pos (p := keep ∘ key) kept, firstBy, firstBy]
        by_cases already : key item ∈ seen
        · rw [if_pos (by simpa using already), if_pos (by simpa using same.mp already), ih agree]
        · have new : key item ∉ known := fun member => already (same.mpr member)
          rw [if_neg (by simpa using already), if_neg (by simpa using new),
            List.filter_cons_of_pos (p := keep ∘ key) kept, ih]
          intro text wanted
          rw [List.mem_cons, List.mem_cons, agree text wanted]
      · rw [List.filter_cons_of_neg (p := keep ∘ key) kept, firstBy]
        by_cases already : key item ∈ seen
        · rw [if_pos (by simpa using already), ih agree]
        · rw [if_neg (by simpa using already), List.filter_cons_of_neg (p := keep ∘ key) kept, ih]
          intro text wanted
          have apart : text ≠ key item := by
            rintro rfl
            exact kept wanted
          rw [List.mem_cons, or_iff_right apart, agree text wanted]

/-- What is left agrees outside a set of keys when the items and the seen keys do. -/
theorem first_by_outside {inside : String → Bool} {seen known : List String}
    {items others : List Item}
    (agree : ∀ text, inside text = false → (text ∈ seen ↔ text ∈ known))
    (same : (items.filter fun item => !inside (key item)) =
      others.filter fun item => !inside (key item)) :
    ((firstBy key seen items).filter fun item => !inside (key item)) =
      (firstBy key known others).filter fun item => !inside (key item) := by
  have outside : ∀ text, (!inside text) = true → (text ∈ seen ↔ text ∈ known) :=
    fun text kept => agree text (by simpa using kept)
  calc
    (firstBy key seen items).filter (fun item => !inside (key item))
        = firstBy key known (items.filter fun item => !inside (key item)) :=
      first_by_filter key (fun text => !inside text) outside items
    _ = firstBy key known (others.filter fun item => !inside (key item)) := by rw [same]
    _ = (firstBy key known others).filter fun item => !inside (key item) :=
      (first_by_filter key (fun text => !inside text) (fun _ _ => Iff.rfl) others).symm

end Collapsing

theorem first_by_path_eq (seen : List String) (uploads : List Upload) :
    Collection.firstByPath seen uploads = firstBy (fun upload => upload.path) seen uploads := by
  induction uploads generalizing seen with
  | nil => rfl
  | cons upload rest ih => simp only [Collection.firstByPath, firstBy, ih]

theorem distinct_eq (seen texts : List String) :
    distinct seen texts = firstBy (fun text => text) seen texts := by
  induction texts generalizing seen with
  | nil => rfl
  | cons text rest ih => simp only [distinct, firstBy, ih]

theorem find_outside {inside : String → Bool} {path : String} (outside : inside path = false)
    (uploads : List Upload) :
    (uploads.filter fun upload => !inside upload.path).find? (fun upload => upload.path == path) =
      uploads.find? fun upload => upload.path == path := by
  rw [List.find?_filter]
  congr 1
  funext upload
  by_cases same : upload.path = path
  · simp [same, outside]
  · simp [same]

theorem mem_iff_of_outside {inside : String → Bool} {path : String} (outside : inside path = false)
    {left right : List String}
    (same : (left.filter fun path => !inside path) = right.filter fun path => !inside path) :
    path ∈ left ↔ path ∈ right := by
  have kept : ∀ paths : List String, path ∈ (paths.filter fun path => !inside path) ↔
      path ∈ paths := by
    intro paths
    simp [outside]
  rw [← kept left, same, kept]

/-- Batches agree outside a set of paths when the copies they come from do. -/
theorem agree_outside_of_same {inside : String → Bool} {accepted others : List Upload}
    {held withheld : List String}
    (sameAccepted : (accepted.filter fun upload => !inside upload.path) =
      others.filter fun upload => !inside upload.path)
    (sameHeld : (held.filter fun path => !inside path) =
      withheld.filter fun path => !inside path) :
    let chosen := Collection.firstByPath [] accepted
    let picked := Collection.firstByPath [] others
    AgreeOutside inside
      { chosen, filtered := distinct (chosen.map (·.path)) held }
      { chosen := picked, filtered := distinct (picked.map (·.path)) withheld } := by
  intro chosen picked
  have order : (chosen.filter fun upload => !inside upload.path) =
      picked.filter fun upload => !inside upload.path := by
    simp only [chosen, picked, first_by_path_eq]
    exact first_by_outside _ (fun _ _ => Iff.rfl) sameAccepted
  have paths : ((chosen.map (·.path)).filter fun path => !inside path) =
      (picked.map (·.path)).filter fun path => !inside path := by
    rw [List.filter_map, List.filter_map]
    exact congrArg _ order
  have heldOrder : ((distinct (chosen.map (·.path)) held).filter fun path => !inside path) =
      (distinct (picked.map (·.path)) withheld).filter fun path => !inside path := by
    rw [distinct_eq, distinct_eq]
    exact first_by_outside _ (fun path outside => mem_iff_of_outside outside paths) sameHeld
  constructor
  · intro path outside
    rw [← find_outside outside, order, find_outside outside]
  · exact fun path outside => mem_iff_of_outside outside heldOrder
  · exact order
  · exact heldOrder

/-! ## Copies of other units -/

/-- The unit publishes artifacts and its own patterns hold the upload back. -/
def Offer.staysBack (settings : Settings) (offer : Offer) : Bool :=
  settings.publishesArtifactsOf offer.unit && !offer.isAccepted settings

theorem held_are_wishes (settings : Settings) (units : List UnitUploads) :
    heldOf settings units =
      ((wishes units).filter fun offer => offer.staysBack settings).map (·.upload.path) := by
  rw [heldOf, offers_are_wishes, List.filter_filter]
  simp only [Offer.staysBack, Bool.and_comm]

theorem wish_elsewhere {unit : UnitId} {units : List UnitUploads} {offer : Offer}
    (wanted : offer ∈ wishes units) (outside : reports unit units offer.upload.path = false) :
    offer.unit ≠ unit := by
  rintro rfl
  obtain ⟨own, member, inside⟩ := List.mem_flatMap.mp wanted
  obtain ⟨upload, one, rfl⟩ := List.mem_map.mp inside
  have reported : reports own.unit units upload.path = true := by
    simp only [reports, List.any_eq_true, Bool.and_eq_true, beq_iff_eq]
    exact ⟨own, member, rfl, upload, one, rfl⟩
  rw [reported] at outside
  cases outside

section Overrides

variable {unit : UnitId} {left right : Settings}

theorem judged_elsewhere (same : left.SameBut unit right) {offer : Offer}
    (apart : offer.unit ≠ unit) :
    offer.goesOut left = offer.goesOut right ∧ offer.staysBack left = offer.staysBack right := by
  have own := same.others offer.unit apart
  have publishes : left.publishesArtifactsOf offer.unit =
      right.publishesArtifactsOf offer.unit := by
    simp only [Settings.publishesArtifactsOf, own, same.publisher]
  have patterns : left.patternsFor offer.unit = right.patternsFor offer.unit := by
    simp only [Settings.patternsFor, own, same.publisher]
  simp only [Offer.goesOut, Offer.staysBack, Offer.isAccepted, publishes, patterns, and_self]

/-- A judgement that does not depend on the unit's settings elsewhere finds the same copies of the
paths that the unit does not want. -/
theorem wishes_outside {units : List UnitUploads} {judge other : Offer → Bool}
    (elsewhere : ∀ offer, offer.unit ≠ unit → judge offer = other offer) :
    (((wishes units).filter judge).filter fun offer => !reports unit units offer.upload.path) =
      ((wishes units).filter other).filter fun offer => !reports unit units offer.upload.path := by
  rw [List.filter_filter, List.filter_filter]
  apply List.filter_congr
  intro offer wanted
  cases outside : reports unit units offer.upload.path with
  | true => rfl
  | false => rw [elsewhere offer (wish_elsewhere wanted outside)]

theorem first_sent_outside (same : left.SameBut unit right) {units : List UnitUploads}
    {path : String} (outside : reports unit units path = false) :
    firstSent left units path = firstSent right units path := by
  have copies : ((wishes units).filter fun offer =>
        offer.goesOut left && offer.upload.path == path) =
      (wishes units).filter fun offer => offer.goesOut right && offer.upload.path == path := by
    apply List.filter_congr
    intro offer wanted
    by_cases here : offer.upload.path = path
    · have apart := wish_elsewhere wanted (here.symm ▸ outside)
      rw [(judged_elsewhere same apart).1]
    · rw [beq_false_of_ne here, Bool.and_false, Bool.and_false]
  rw [firstSent, firstSent, ← List.head?_filter, copies, List.head?_filter]

end Overrides

theorem of_collection_eq {settings : Settings} {collection : Collection}
    (compile : PatternsCompile settings collection.units) :
    let chosen := Collection.firstByPath [] (acceptedOf settings collection.units)
    ofCollection settings collection = .ok {
      chosen
      filtered := distinct (chosen.map (·.path)) (heldOf settings collection.units) } := by
  intro chosen
  unfold ofCollection
  rw [judge_all_offers compile]
  rfl

/-- Changing the settings of one unit changes nothing about the paths that it does not want: the
same copies of them go out, from the same units and in the same order, and the same of them are
filtered. -/
theorem overrides_are_local (unit : UnitId) (left right : Settings) (collection : Collection)
    (same : left.SameBut unit right) (compiles : PatternsCompile left collection.units)
    (alsoCompiles : PatternsCompile right collection.units) :
    ∃ batch other, ofCollection left collection = .ok batch ∧
      ofCollection right collection = .ok other ∧
      AgreeOutside (reports unit collection.units) batch other ∧
      (∀ upload ∈ batch.chosen, ∃ offer,
        firstSent left collection.units upload.path = some offer ∧ offer.upload = upload) ∧
      ∀ path, reports unit collection.units path = false →
        firstSent left collection.units path = firstSent right collection.units path := by
  have judged : ∀ offer : Offer, offer.unit ≠ unit → _ := fun offer => judged_elsewhere same
  refine ⟨_, _, of_collection_eq compiles, of_collection_eq alsoCompiles, ?_, ?_, ?_⟩
  · apply agree_outside_of_same
    · rw [accepted_are_wishes, accepted_are_wishes, List.filter_map, List.filter_map]
      exact congrArg _ (wishes_outside fun offer apart => (judged offer apart).1)
    · rw [held_are_wishes, held_are_wishes, List.filter_map, List.filter_map]
      exact congrArg _ (wishes_outside fun offer apart => (judged offer apart).2)
  · exact fun upload => chosen_is_first_sent (of_collection_eq compiles)
  · exact fun path => first_sent_outside same

/-- The second unit loses its own patterns and then publishes nothing: the shared file changes its
sender, and of the other files nothing changes. -/
theorem silenced_unit_leaves_others :
    let upload := fun unit : UnitId => fun path : String =>
      ({ path, repository := "libs", file := unit } : Upload)
    let settings := fun own : UnitSettings => ({
      publisher := { excludePatterns := ["*.asc"] }
      modules := Keyed.ofList [("a", { excludePatterns := some ["a.jar"] }), ("b", own)] } :
        Settings)
    let left := settings { includePatterns := some ["b.asc"] }
    let right := settings { publishArtifacts := some false }
    let collection : Collection := {
      record := { name := "app", number := "7", started := "start" }
      units := [
        ⟨"a", ["a.jar", "a.asc"].map (upload "a")⟩,
        ⟨"b", ["shared.jar", "b.asc", "b.jar"].map (upload "b")⟩,
        ⟨"c", ["c.jar", "shared.jar", "c.asc", "a.jar"].map (upload "c")⟩] }
    left.SameBut "b" right ∧ PatternsCompile left collection.units ∧
      PatternsCompile right collection.units ∧ ∃ batch other,
        ofCollection left collection = .ok batch ∧ ofCollection right collection = .ok other ∧
        AgreeOutside (reports "b" collection.units) batch other ∧
        (batch.chosen.map fun upload => (upload.path, upload.file)) =
          [("a.asc", "a"), ("shared.jar", "b"), ("b.asc", "b"), ("b.jar", "b"), ("c.jar", "c"),
            ("a.jar", "c")] ∧
        (other.chosen.map fun upload => (upload.path, upload.file)) =
          [("a.asc", "a"), ("c.jar", "c"), ("shared.jar", "c"), ("a.jar", "c")] := by
  intro upload settings left right collection
  have same : left.SameBut "b" right := by
    refine ⟨?_, rfl⟩
    intro other apart
    have last : ∀ own, (settings own).modules.get? other =
        (Keyed.ofList [("a", { excludePatterns := some ["a.jar"] })]).get? other :=
      fun own => (Keyed.get_insert _ "b" other own).trans (if_neg (Ne.symm apart))
    rw [last, last]
  have compiles : PatternsCompile left collection.units := by decide +kernel
  have alsoCompiles : PatternsCompile right collection.units := by decide +kernel
  obtain ⟨batch, other, batched, alsoBatched, agree, _⟩ :=
    overrides_are_local "b" left right collection same compiles alsoCompiles
  refine ⟨same, compiles, alsoCompiles, batch, other, batched, alsoBatched, agree, ?_, ?_⟩
  · have found : ofCollection left collection = .ok _ := rfl
    rw [found] at batched
    cases batched
    decide
  · have found : ofCollection right collection = .ok _ := rfl
    rw [found] at alsoBatched
    cases alsoBatched
    decide

end Batch

end BuildLedger
