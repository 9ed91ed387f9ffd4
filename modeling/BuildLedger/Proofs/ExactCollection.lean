import BuildLedger.Collection
import BuildLedger.Proofs.TableLookup
import Mathlib.Data.List.Basic
import Mathlib.Data.List.Forall2

/-!
# A collection is exact, or there is none

The units that did work are asked one after the other. When all of them tell their module and their
uploads, the record has one module for each of them and nothing else, and every key of every module
and upload has the value of the innermost layer that knows it. The first unit that does not tell
decides the failure. Units that did no work are never asked: what they would say changes nothing.
-/
namespace BuildLedger

/-! ## Lists of results -/

section Results

variable {Item Result Problem : Type} {told : Item → Except Problem Result} {items : List Item}

theorem mapM_ok_iff {results : List Result} :
    items.mapM told = .ok results ↔
      List.Forall₂ (fun item result => told item = .ok result) items results := by
  induction items generalizing results with
  | nil => simp [pure, Except.pure, eq_comm]
  | cons item items ih =>
      rw [List.mapM_cons, List.forall₂_cons_left_iff]
      cases first : told item with
      | error problem => simp [bind, Except.bind]
      | ok result =>
          simp only [bind, Except.bind, ← ih]
          cases items.mapM told with
          | error problem => simp
          | ok others => simp [pure, Except.pure, eq_comm]

/-- The first item that fails decides the failure. -/
theorem mapM_error_iff {problem : Problem} :
    items.mapM told = .error problem ↔
      ∃ before item after, items = before ++ item :: after ∧
        (∀ earlier ∈ before, ∃ result, told earlier = .ok result) ∧
        told item = .error problem := by
  constructor
  · intro failed
    induction items with
    | nil => cases failed
    | cons item items ih =>
        rw [List.mapM_cons] at failed
        cases first : told item with
        | error found =>
            rw [first] at failed
            cases failed
            exact ⟨[], item, items, rfl, nofun, first⟩
        | ok result =>
            have others : items.mapM told = .error problem := by
              rw [first] at failed
              cases rest : items.mapM told with
              | error found =>
                  simp only [rest, bind, Except.bind] at failed
                  cases failed
                  rfl
              | ok results =>
                  simp only [rest, bind, Except.bind] at failed
                  cases failed
            obtain ⟨before, spoiled, after, rfl, fine, failure⟩ := ih others
            refine ⟨item :: before, spoiled, after, rfl, ?_, failure⟩
            simp only [List.forall_mem_cons]
            exact ⟨⟨result, first⟩, fine⟩
  · rintro ⟨before, item, after, rfl, fine, failure⟩
    induction before with
    | nil => simp [failure, bind, Except.bind]
    | cons earlier before ih =>
        obtain ⟨result, first⟩ := fine earlier List.mem_cons_self
        have others := ih fun other member => fine other (List.mem_cons_of_mem _ member)
        simp [first, others, bind, Except.bind]

end Results

namespace Snapshot

/-- The entry that counts for a name is the first one, and its unit did work. -/
def FirstWorked (snapshot : Snapshot) (id : UnitId) : Prop :=
  ∃ before status after, snapshot = before ++ status :: after ∧
    (∀ earlier ∈ before, earlier.id ≠ id) ∧ status.id = id ∧ status.didWork = true

theorem shows_work_iff (snapshot : Snapshot) (id : UnitId) :
    snapshot.showsWork id = true ↔ snapshot.FirstWorked id := by
  unfold showsWork lookup
  constructor
  · intro shown
    cases found : List.find? (fun status => status.id == id) snapshot with
    | none => simp [found] at shown
    | some status =>
        rw [found] at shown
        obtain ⟨same, before, after, parts, others⟩ := List.find?_eq_some_iff_append.mp found
        exact ⟨before, status, after, parts, by simpa using others, by simpa using same, shown⟩
  · rintro ⟨before, status, after, parts, others, same, work⟩
    have found : List.find? (fun status => status.id == id) snapshot = some status :=
      List.find?_eq_some_iff_append.mpr
        ⟨by simpa using same, before, after, parts, by simpa using others⟩
    rw [found]
    exact work

instance (snapshot : Snapshot) (id : UnitId) : Decidable (snapshot.FirstWorked id) :=
  decidable_of_iff _ (shows_work_iff snapshot id)

theorem worked_eq_filter (snapshot : Snapshot) (graph : List UnitId) :
    snapshot.worked graph = graph.filter fun unit => snapshot.FirstWorked unit := by
  unfold worked
  apply List.filter_congr
  intro unit _
  rw [Bool.eq_iff_iff, shows_work_iff, decide_eq_true_iff]

end Snapshot

namespace Collection

/-- A unit tells all there is to know of it. -/
def Tells (extractor : Extractor) (unit : UnitId) (bare : Module) (offered : List Upload) : Prop :=
  extractor.moduleOf unit = .ok (some bare) ∧ extractor.uploadsOf unit = .ok offered

/-- A unit keeps something back, and this is the failure. The module is asked for first. -/
inductive Spoils (extractor : Extractor) (unit : UnitId) : Failure → Prop
  | module {failure : Failure} (failed : extractor.moduleOf unit = .error failure) :
      Spoils extractor unit failure
  | missing (absent : extractor.moduleOf unit = .ok none) :
      Spoils extractor unit (.missingFragment unit)
  | uploads {bare : Module} {failure : Failure}
      (found : extractor.moduleOf unit = .ok (some bare))
      (failed : extractor.uploadsOf unit = .error failure) : Spoils extractor unit failure

/-! ## Values of keys -/

/-- What a unit itself says about a key: in its module, else in the settings for the unit. -/
def ownValue (settings : Settings) (unit : UnitId) (bare : Module) (key : String) : Option String :=
  (bare.properties.get? key).or
    ((settings.modules.get? unit).bind fun own => own.properties.get? key)

def moduleValue (settings : Settings) (unit : UnitId) (bare : Module) (key : String) :
    Option String :=
  (ownValue settings unit bare key).or (settings.publisher.properties.get? key)

/-- What every upload of the run is told. -/
def runValue (header : Record) (started : Instant) (key : String) : Option String :=
  if key = "build.name" then some header.name
  else if key = "build.number" then some header.number
  else if key = "build.timestamp" then some (toString started.millis)
  else none

/-- The entry of the record is the module that was told, but for the resolved properties. -/
structure Resolved (settings : Settings) (unit : UnitId) (bare entry : Module) : Prop where
  kept : entry = { bare with properties := entry.properties }
  values : ∀ key, entry.properties.get? key = moduleValue settings unit bare key

/-- An upload is the one that was told, but for the properties that were missing. -/
structure Completed (settings : Settings) (header : Record) (started : Instant) (unit : UnitId)
    (bare : Module) (offered wanted : Upload) : Prop where
  kept : wanted = { offered with properties := wanted.properties }
  values : ∀ key, wanted.properties.get? key = (offered.properties.get? key).or
    ((moduleValue settings unit bare key).or (runValue header started key))

theorem properties_for_get (settings : Settings) (unit : UnitId) (key : String) :
    (settings.propertiesFor unit).get? key =
      ((settings.modules.get? unit).bind fun own => own.properties.get? key).or
        (settings.publisher.properties.get? key) := by
  unfold Settings.propertiesFor
  cases settings.modules.get? unit with
  | none => rfl
  | some own => exact Keyed.get_override _ _ key

theorem run_properties_get (header : Record) (started : Instant) (key : String) :
    (runProperties header started).get? key = runValue header started key := by
  have nothing : (Keyed.empty : Properties).get? key = none := rfl
  simp only [runProperties, Keyed.ofList, Keyed.insertAll, Keyed.get_insert, nothing, runValue]
  by_cases name : key = "build.name"
  · subst name
    simp
  · by_cases number : key = "build.number"
    · subst number
      simp
    · simp only [eq_comm, if_neg name, if_neg number]

/-! ## One unit -/

/-- What a unit contributes when it tells everything. -/
def contributionFrom (settings : Settings) (common : Properties) (unit : UnitId) (bare : Module)
    (offered : List Upload) : Contribution :=
  let properties := (settings.propertiesFor unit).override bare.properties
  ⟨{ bare with properties }, ⟨unit, offered.map (·.withDefaults (common.override properties))⟩⟩

theorem contribution_of_tells {settings : Settings} {extractor : Extractor} {unit : UnitId}
    {bare : Module} {offered : List Upload} (common : Properties)
    (tells : Tells extractor unit bare offered) :
    contributionOf settings common extractor unit =
      .ok (contributionFrom settings common unit bare offered) := by
  unfold contributionOf
  rw [tells.1]
  simp only [tells.2]
  rfl

theorem contribution_of_spoils {extractor : Extractor} {unit : UnitId} {failure : Failure}
    (settings : Settings) (common : Properties) (spoils : Spoils extractor unit failure) :
    contributionOf settings common extractor unit = .error failure := by
  unfold contributionOf
  cases spoils with
  | module failed => rw [failed]
  | missing absent => rw [absent]
  | uploads found failed =>
      rw [found]
      simp only [failed]

theorem tells_or_spoils (extractor : Extractor) (unit : UnitId) :
    (∃ bare offered, Tells extractor unit bare offered) ∨
      ∃ failure, Spoils extractor unit failure := by
  cases told : extractor.moduleOf unit with
  | error failure => exact Or.inr ⟨failure, .module told⟩
  | ok found =>
      cases found with
      | none => exact Or.inr ⟨_, .missing told⟩
      | some bare =>
          cases wanted : extractor.uploadsOf unit with
          | error failure => exact Or.inr ⟨failure, .uploads told wanted⟩
          | ok offered => exact Or.inl ⟨bare, offered, told, wanted⟩

theorem contribution_ok_iff {settings : Settings} {common : Properties} {extractor : Extractor}
    {unit : UnitId} {contribution : Contribution} :
    contributionOf settings common extractor unit = .ok contribution ↔
      ∃ bare offered, Tells extractor unit bare offered ∧
        contribution = contributionFrom settings common unit bare offered := by
  constructor
  · intro contributed
    rcases tells_or_spoils extractor unit with ⟨bare, offered, tells⟩ | ⟨failure, spoils⟩
    · rw [contribution_of_tells common tells] at contributed
      cases contributed
      exact ⟨bare, offered, tells, rfl⟩
    · rw [contribution_of_spoils settings common spoils] at contributed
      cases contributed
  · rintro ⟨bare, offered, tells, rfl⟩
    exact contribution_of_tells common tells

theorem contribution_error_iff {settings : Settings} {common : Properties} {extractor : Extractor}
    {unit : UnitId} {failure : Failure} :
    contributionOf settings common extractor unit = .error failure ↔
      Spoils extractor unit failure := by
  constructor
  · intro failed
    rcases tells_or_spoils extractor unit with ⟨bare, offered, tells⟩ | ⟨other, spoils⟩
    · rw [contribution_of_tells common tells] at failed
      cases failed
    · rw [contribution_of_spoils settings common spoils] at failed
      cases failed
      exact spoils
  · exact contribution_of_spoils settings common

theorem contributes_iff_tells {settings : Settings} {common : Properties} {extractor : Extractor}
    {unit : UnitId} :
    (∃ contribution, contributionOf settings common extractor unit = .ok contribution) ↔
      ∃ bare offered, Tells extractor unit bare offered := by
  constructor
  · rintro ⟨contribution, fine⟩
    obtain ⟨bare, offered, tells, _⟩ := contribution_ok_iff.mp fine
    exact ⟨bare, offered, tells⟩
  · rintro ⟨bare, offered, tells⟩
    exact ⟨_, contribution_of_tells common tells⟩

theorem contribution_resolved (settings : Settings) (common : Properties) (unit : UnitId)
    (bare : Module) (offered : List Upload) :
    Resolved settings unit bare (contributionFrom settings common unit bare offered).entry where
  kept := rfl
  values := by
    intro key
    simp only [contributionFrom, Keyed.get_override, properties_for_get, moduleValue, ownValue,
      Option.or_assoc]

theorem contribution_completed (settings : Settings) (header : Record) (started : Instant)
    (unit : UnitId) (bare : Module) (offered : List Upload) :
    List.Forall₂ (Completed settings header started unit bare) offered
      (contributionFrom settings (runProperties header started) unit bare offered).uploads.uploads
      := by
  simp only [contributionFrom, List.forall₂_map_right_iff, List.forall₂_same]
  intro upload _
  constructor
  · rfl
  · intro key
    simp only [Upload.withDefaults, Keyed.get_override, properties_for_get, run_properties_get,
      moduleValue, ownValue, Option.or_assoc]

/-! ## All units -/

section All

variable {settings : Settings} {common : Properties} {extractor : Extractor} {units : List UnitId}

theorem contributions_eq_mapM :
    contributions settings common extractor units =
      units.mapM (contributionOf settings common extractor) := by
  induction units with
  | nil => rfl
  | cons unit rest ih =>
      rw [contributions, ih, List.mapM_cons]
      cases contributionOf settings common extractor unit with
      | error failure => rfl
      | ok contribution =>
          cases rest.mapM (contributionOf settings common extractor) <;> rfl

theorem contributions_ok_iff {found : List Contribution} :
    contributions settings common extractor units = .ok found ↔
      List.Forall₂ (fun unit contribution =>
        contributionOf settings common extractor unit = .ok contribution) units found := by
  rw [contributions_eq_mapM, mapM_ok_iff]

/-- The first unit whose contribution fails decides the failure. -/
theorem contributions_error_iff {failure : Failure} :
    contributions settings common extractor units = .error failure ↔
      ∃ before unit after, units = before ++ unit :: after ∧
        (∀ earlier ∈ before, ∃ contribution,
          contributionOf settings common extractor earlier = .ok contribution) ∧
        contributionOf settings common extractor unit = .error failure := by
  rw [contributions_eq_mapM, mapM_error_iff]

theorem contributions_of_agreeing {other : Extractor}
    (agree : ∀ unit ∈ units, other.moduleOf unit = extractor.moduleOf unit ∧
      other.uploadsOf unit = extractor.uploadsOf unit) :
    contributions settings common other units = contributions settings common extractor units := by
  induction units with
  | nil => rfl
  | cons unit rest ih =>
      obtain ⟨sameModule, sameUploads⟩ := agree unit List.mem_cons_self
      have same : contributionOf settings common other unit =
          contributionOf settings common extractor unit := by
        unfold contributionOf
        rw [sameModule, sameUploads]
      have tail := ih fun unit member => agree unit (List.mem_cons_of_mem _ member)
      simp only [contributions, same, tail]

end All

section Collect

variable {settings : Settings} {header : Record} {started : Instant} {graph : List UnitId}
  {snapshot : Snapshot} {extractor : Extractor}

theorem collect_ok_iff {collection : Collection} :
    collect settings header started graph snapshot extractor = .ok collection ↔
      ∃ found, contributions settings (runProperties header started) extractor
          (snapshot.worked graph) = .ok found ∧
        collection = {
          record := { header with
            modules := found.map (·.entry)
            properties := recordProperties settings found }
          units := found.map (·.uploads) } := by
  unfold collect
  cases contributions settings (runProperties header started) extractor (snapshot.worked graph) with
  | error failure => simp
  | ok found => simp [eq_comm]

theorem collect_tells {collection : Collection}
    (collected : collect settings header started graph snapshot extractor = .ok collection) :
    ∀ unit ∈ snapshot.worked graph, ∃ bare offered, Tells extractor unit bare offered := by
  obtain ⟨found, contributed, _⟩ := collect_ok_iff.mp collected
  have told := (contributions_ok_iff.mp contributed).imp fun unit contribution fine =>
    show (∃ bare offered, Tells extractor unit bare offered) ∧ True from
      ⟨contributes_iff_tells.mp ⟨contribution, fine⟩, trivial⟩
  exact ((List.forall₂_and_left _ _).mp told).1

theorem collect_error_iff {failure : Failure} :
    collect settings header started graph snapshot extractor = .error failure ↔
      ∃ before unit after, snapshot.worked graph = before ++ unit :: after ∧
        (∀ earlier ∈ before, ∃ bare offered, Tells extractor earlier bare offered) ∧
        Spoils extractor unit failure := by
  have same : collect settings header started graph snapshot extractor = .error failure ↔
      contributions settings (runProperties header started) extractor (snapshot.worked graph) =
        .error failure := by
    unfold collect
    cases contributions settings (runProperties header started) extractor
      (snapshot.worked graph) <;> simp
  rw [same, contributions_error_iff]
  simp only [contributes_iff_tells, contribution_error_iff]

/-- Where every unit tells, nothing can spoil the collection. -/
theorem collect_succeeds
    (told : ∀ unit ∈ snapshot.worked graph, ∃ bare offered, Tells extractor unit bare offered) :
    ∃ collection, collect settings header started graph snapshot extractor = .ok collection := by
  cases collected : collect settings header started graph snapshot extractor with
  | ok collection => exact ⟨collection, rfl⟩
  | error failure =>
      obtain ⟨before, unit, after, parts, _, spoils⟩ := collect_error_iff.mp collected
      obtain ⟨bare, offered, tells⟩ := told unit (by simp [parts])
      have contributed := @contribution_of_tells settings _ _ _ _ ∅ tells
      rw [contribution_of_spoils settings ∅ spoils] at contributed
      cases contributed

theorem collect_modules {collection : Collection}
    (collected : collect settings header started graph snapshot extractor = .ok collection) :
    List.Forall₂ (fun unit entry => ∃ bare offered, Tells extractor unit bare offered ∧
      Resolved settings unit bare entry) (snapshot.worked graph) collection.record.modules := by
  obtain ⟨found, contributed, rfl⟩ := collect_ok_iff.mp collected
  rw [List.forall₂_map_right_iff]
  refine (contributions_ok_iff.mp contributed).imp ?_
  intro unit contribution fine
  obtain ⟨bare, offered, tells, rfl⟩ := contribution_ok_iff.mp fine
  exact ⟨bare, offered, tells, contribution_resolved settings _ unit bare offered⟩

theorem collect_uploads {collection : Collection}
    (collected : collect settings header started graph snapshot extractor = .ok collection) :
    List.Forall₂ (fun unit wanted => wanted.unit = unit ∧
      ∃ bare offered, Tells extractor unit bare offered ∧
        List.Forall₂ (Completed settings header started unit bare) offered wanted.uploads)
      (snapshot.worked graph) collection.units := by
  obtain ⟨found, contributed, rfl⟩ := collect_ok_iff.mp collected
  rw [List.forall₂_map_right_iff]
  refine (contributions_ok_iff.mp contributed).imp ?_
  intro unit contribution fine
  obtain ⟨bare, offered, tells, rfl⟩ := contribution_ok_iff.mp fine
  exact ⟨rfl, bare, offered, tells,
    contribution_completed settings header started unit bare offered⟩

theorem collect_of_agreeing {other : Extractor}
    (agree : ∀ unit ∈ snapshot.worked graph, other.moduleOf unit = extractor.moduleOf unit ∧
      other.uploadsOf unit = extractor.uploadsOf unit) :
    collect settings header started graph snapshot other =
      collect settings header started graph snapshot extractor := by
  unfold collect
  rw [contributions_of_agreeing agree]

end Collect

/-- A collection succeeds exactly when every unit that did work tells its module and its uploads, and
the first unit that does not decides the failure. Other units are not asked. -/
theorem collection_is_exact (settings : Settings) (header : Record) (started : Instant)
    (graph : List UnitId) (snapshot : Snapshot) (extractor : Extractor) :
    let worked := graph.filter fun unit => snapshot.FirstWorked unit
    let collected := collect settings header started graph snapshot extractor
    ((∃ collection, collected = .ok collection) ↔
      ∀ unit ∈ worked, ∃ bare offered, Tells extractor unit bare offered) ∧
    (∀ failure, collected = .error failure ↔
      ∃ before unit after, worked = before ++ unit :: after ∧
        (∀ earlier ∈ before, ∃ bare offered, Tells extractor earlier bare offered) ∧
        Spoils extractor unit failure) ∧
    (∀ other : Extractor,
      (∀ unit ∈ worked, other.moduleOf unit = extractor.moduleOf unit ∧
        other.uploadsOf unit = extractor.uploadsOf unit) →
      collect settings header started graph snapshot other = collected) ∧
    ∀ collection, collected = .ok collection →
      { collection.record with modules := header.modules, properties := header.properties } =
          header ∧
        List.Forall₂ (fun unit entry => ∃ bare offered, Tells extractor unit bare offered ∧
          Resolved settings unit bare entry) worked collection.record.modules ∧
        List.Forall₂ (fun unit wanted => wanted.unit = unit ∧
          ∃ bare offered, Tells extractor unit bare offered ∧
            List.Forall₂ (Completed settings header started unit bare) offered wanted.uploads)
          worked collection.units := by
  intro worked collected
  have same : worked = snapshot.worked graph := (snapshot.worked_eq_filter graph).symm
  rw [same]
  refine ⟨⟨?_, collect_succeeds⟩, fun failure => collect_error_iff, fun other => collect_of_agreeing,
    ?_⟩
  · rintro ⟨collection, found⟩
    exact collect_tells found
  · intro collection found
    refine ⟨?_, collect_modules found, collect_uploads found⟩
    obtain ⟨contributed, _, rfl⟩ := collect_ok_iff.mp found
    rfl

end Collection

end BuildLedger
