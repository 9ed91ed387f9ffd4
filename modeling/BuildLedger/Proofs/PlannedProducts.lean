import BuildLedger.Proofs.HashedReads
import BuildLedger.Proofs.PlannedRun

/-!
# Module and uploads of one unit

A unit of a plan goes through its products twice: once for the artifacts of its module and once for
its uploads. Both times the same files are read from the same directory, in the same order, so both
stop at the same file, or both come to their ends and tell the same paths and hashes. A record that
was published therefore has no artifact that its unit did not also want to upload.
-/
namespace BuildLedger

namespace Plan

/-- The file of a product cannot be read, and those of the earlier products can. -/
def FirstUnreadable (disk : Disk) (base : Path) (products : List Product) (problem : DiskError) :
    Prop :=
  ∃ before product after, products = before ++ product :: after ∧
    (∀ earlier ∈ before, ∃ content,
      disk.contentAt (Path.join base earlier.file) = .ok content) ∧
    disk.contentAt (Path.join base product.file) = .error problem

/-- An artifact and an upload tell of the same product: they have its path and the hash of its file. -/
structure Product.ToldBy (product : Product) (disk : Disk) (base : Path)
    (repository : Option String) (artifact : Artifact) (upload : Upload) : Prop where
  file : upload.file = Path.join base product.file
  uploadPath : upload.path = product.path
  artifactPath : artifact.path = some upload.path
  name : artifact.name = (Path.fileName? upload.file).getD upload.path
  kind : artifact.kind = product.kind
  repository : upload.repository = (product.repository.or repository).getD ""
  properties : upload.properties = product.properties
  hash : ∃ content hash, disk.contentAt upload.file = .ok content ∧ Bytes.IsHash content hash ∧
    artifact.sha256 = some hash ∧ upload.checksums.sha256 = some hash

/-- One artifact and one upload for each of some products, in their order. -/
structure InStep (disk : Disk) (base : Path) (repository : Option String) (products : List Product)
    (artifacts : List Artifact) (uploads : List Upload) : Prop where
  artifactCount : artifacts.length = products.length
  uploadCount : uploads.length = products.length
  told : ∀ (index : Nat) (product : Product) (artifact : Artifact) (upload : Upload),
    products[index]? = some product → artifacts[index]? = some artifact →
    uploads[index]? = some upload → product.ToldBy disk base repository artifact upload

/-- Every artifact of a module is among the uploads of its unit, with the same path and hash. -/
def Covers (found : Module) (wanted : UnitUploads) : Prop :=
  ∀ artifact ∈ found.artifacts, ∃ upload ∈ wanted.uploads, artifact.path = some upload.path ∧
    ∃ hash, artifact.sha256 = some hash ∧ upload.checksums.sha256 = some hash

/-! ## Products whose files are hashed -/

section Products

variable {disk : Disk} {base : Path} {Result : Type} {make : Product → String → Result}
  (told : Product → Except Failure Result)
  (form : ∀ product, told product = (hashAt disk (Path.join base product.file)).map (make product))

include form

theorem hashed_ok_iff {product : Product} {result : Result} :
    told product = .ok result ↔ ∃ content,
      disk.contentAt (Path.join base product.file) = .ok content ∧
        result = make product (Bytes.sha256Hex content) := by
  rw [form]
  cases found : disk.contentAt (Path.join base product.file) with
  | error problem => simp [hash_at_error found, Except.map]
  | ok content => simp [hash_at_ok found, Except.map, eq_comm]

theorem hashed_error_iff {product : Product} {cause : Failure} :
    told product = .error cause ↔ ∃ problem, cause = .disk problem ∧
      disk.contentAt (Path.join base product.file) = .error problem := by
  rw [form]
  cases found : disk.contentAt (Path.join base product.file) with
  | error problem => simp [hash_at_error found, Except.map, eq_comm]
  | ok content => simp [hash_at_ok found, Except.map]

theorem hashed_all_error_iff {products : List Product} {cause : Failure} :
    products.mapM told = .error cause ↔
      ∃ problem, cause = .disk problem ∧ FirstUnreadable disk base products problem := by
  have readable : ∀ product, (∃ result, told product = .ok result) ↔
      ∃ content, disk.contentAt (Path.join base product.file) = .ok content := by
    intro product
    simp only [hashed_ok_iff told form]
    constructor
    · rintro ⟨_, content, found, _⟩
      exact ⟨content, found⟩
    · rintro ⟨content, found⟩
      exact ⟨_, content, found, rfl⟩
  simp only [mapM_error_iff, readable, hashed_error_iff told form, FirstUnreadable]
  constructor
  · rintro ⟨before, product, after, parts, fine, problem, rfl, failed⟩
    exact ⟨problem, rfl, before, product, after, parts, fine, failed⟩
  · rintro ⟨problem, rfl, before, product, after, parts, fine, failed⟩
    exact ⟨before, product, after, parts, fine, problem, rfl, failed⟩

end Products

/-! ## Units -/

variable {plan : Plan} {disk : Disk} {base : Path} {repository : Option String} {entry : Entry}

theorem products_in_step {products : List Product} {artifacts : List Artifact}
    {uploads : List Upload}
    (made : products.mapM (Product.artifact · disk base) = .ok artifacts)
    (wanted : (products.mapM fun product => product.upload disk base repository) = .ok uploads) :
    InStep disk base repository products artifacts uploads := by
  have made := mapM_ok_iff.mp made
  have wanted := mapM_ok_iff.mp wanted
  refine ⟨made.length_eq.symm, wanted.length_eq.symm, ?_⟩
  intro index product artifact upload listed artifactThere uploadThere
  obtain ⟨inside, rfl⟩ := List.getElem?_eq_some_iff.mp listed
  obtain ⟨inArtifacts, rfl⟩ := List.getElem?_eq_some_iff.mp artifactThere
  obtain ⟨inUploads, rfl⟩ := List.getElem?_eq_some_iff.mp uploadThere
  obtain ⟨content, found, artifactMade⟩ :=
    (hashed_ok_iff (Product.artifact · disk base) fun _ => rfl).mp (made.get inside inArtifacts)
  obtain ⟨again, foundAgain, uploadMade⟩ :=
    (hashed_ok_iff (Product.upload · disk base repository) fun _ => rfl).mp
      (wanted.get inside inUploads)
  simp only [List.get_eq_getElem] at found foundAgain artifactMade uploadMade
  rw [found] at foundAgain
  cases foundAgain
  rw [artifactMade, uploadMade]
  exact {
    file := rfl
    uploadPath := rfl
    artifactPath := rfl
    name := rfl
    kind := rfl
    repository := rfl
    properties := rfl
    hash := ⟨content, _, found, Bytes.sha256_hex_is_hash content, rfl, rfl⟩
  }

theorem in_step_covers {products : List Product} {artifacts : List Artifact}
    {uploads : List Upload} (told : InStep disk base repository products artifacts uploads) :
    ∀ artifact ∈ artifacts, ∃ upload ∈ uploads, artifact.path = some upload.path ∧
      ∃ hash, artifact.sha256 = some hash ∧ upload.checksums.sha256 = some hash := by
  intro artifact member
  obtain ⟨index, inside, rfl⟩ := List.mem_iff_getElem.mp member
  have inProducts : index < products.length := told.artifactCount ▸ inside
  have inUploads : index < uploads.length := told.uploadCount ▸ inProducts
  have both := told.told index products[index] artifacts[index] uploads[index]
    (List.getElem?_eq_getElem inProducts) (List.getElem?_eq_getElem inside)
    (List.getElem?_eq_getElem inUploads)
  obtain ⟨content, hash, _, _, artifactHash, uploadHash⟩ := both.hash
  exact ⟨uploads[index], List.getElem_mem inUploads, both.artifactPath, hash, artifactHash,
    uploadHash⟩

theorem module_of_entry {id : UnitId} {part : Part} (found : plan.entry? id = some entry)
    (described : entry.part = some part) :
    plan.moduleOf disk base id =
      (entry.products.mapM (Product.artifact · disk base)).map fun artifacts =>
        some ⟨part.id, part.properties, part.dependencies, artifacts⟩ := by
  simp only [moduleOf, found, described]

theorem uploads_of_entry {id : UnitId} (found : plan.entry? id = some entry) :
    plan.uploadsOf disk base repository id =
      entry.products.mapM fun product => product.upload disk base repository := by
  simp only [uploadsOf, found]

theorem module_error_iff {id : UnitId} {part : Part} (found : plan.entry? id = some entry)
    (described : entry.part = some part) {cause : Failure} :
    plan.moduleOf disk base id = .error cause ↔
      ∃ problem, cause = .disk problem ∧ FirstUnreadable disk base entry.products problem := by
  rw [module_of_entry found described,
    ← hashed_all_error_iff (Product.artifact · disk base) fun _ => rfl]
  cases entry.products.mapM (Product.artifact · disk base) <;> simp [Except.map]

theorem uploads_error_iff {id : UnitId} (found : plan.entry? id = some entry) {cause : Failure} :
    plan.uploadsOf disk base repository id = .error cause ↔
      ∃ problem, cause = .disk problem ∧ FirstUnreadable disk base entry.products problem := by
  rw [uploads_of_entry found]
  exact hashed_all_error_iff (Product.upload · disk base repository) fun _ => rfl

/-- A unit with a module tells its module if and only if it tells its uploads. -/
theorem told_together {id : UnitId} {part : Part} (asked : plan.entry? id = some entry)
    (described : entry.part = some part) (repository : Option String) :
    (∃ found, plan.moduleOf disk base id = .ok found) ↔
      ∃ uploads, plan.uploadsOf disk base repository id = .ok uploads := by
  have fails : ∀ cause, plan.moduleOf disk base id = .error cause ↔
      plan.uploadsOf disk base repository id = .error cause :=
    fun cause => (module_error_iff asked described).trans (uploads_error_iff asked).symm
  cases told : plan.moduleOf disk base id with
  | error cause => simp [(fails cause).mp told]
  | ok found =>
      cases wanted : plan.uploadsOf disk base repository id with
      | error cause =>
          rw [(fails cause).mpr wanted] at told
          cases told
      | ok uploads => simp

theorem told_in_step {id : UnitId} {part : Part} {found : Option Module} {uploads : List Upload}
    (asked : plan.entry? id = some entry) (described : entry.part = some part)
    (told : plan.moduleOf disk base id = .ok found)
    (wanted : plan.uploadsOf disk base repository id = .ok uploads) :
    ∃ bare, found = some bare ∧ bare.id = part.id ∧
      InStep disk base repository entry.products bare.artifacts uploads := by
  rw [module_of_entry asked described] at told
  rw [uploads_of_entry asked] at wanted
  cases made : entry.products.mapM (Product.artifact · disk base) with
  | error cause =>
      rw [made] at told
      cases told
  | ok artifacts =>
      rw [made] at told
      cases told
      exact ⟨_, rfl, rfl, products_in_step made wanted⟩

theorem tells_in_step {id : UnitId} {bare : Module} {offered : List Upload}
    (tells : Collection.Tells (plan.extractor disk base repository) id bare offered) :
    ∃ teller, plan.entry? id = some teller ∧
      InStep disk base repository teller.products bare.artifacts offered := by
  obtain ⟨teller, asked, part, _, _, _, made⟩ := module_described tells.1
  have wanted : plan.uploadsOf disk base repository id = .ok offered := tells.2
  rw [uploads_of_entry asked] at wanted
  exact ⟨teller, asked, products_in_step made wanted⟩

/-! ## Runs -/

/-- The settings fill in properties and change neither paths nor hashes. -/
theorem contribution_covers {settings : Settings} {common : Properties} {unit : UnitId}
    {contribution : Collection.Contribution}
    (contributed : Collection.contributionOf settings common
      (plan.extractor disk base repository) unit = .ok contribution) :
    Covers contribution.entry contribution.uploads := by
  obtain ⟨bare, offered, tells, rfl⟩ := Collection.contribution_ok_iff.mp contributed
  obtain ⟨teller, _, told⟩ := tells_in_step tells
  intro artifact member
  obtain ⟨upload, inside, path, hash⟩ := in_step_covers told artifact member
  exact ⟨_, List.mem_map.mpr ⟨upload, inside, rfl⟩, path, hash⟩

theorem collection_covers {settings : Settings} {header : Record} {started : Instant}
    {graph : List UnitId} {snapshot : Snapshot} {collection : Collection}
    (collected : Collection.collect settings header started graph snapshot
      (plan.extractor disk base repository) = .ok collection) :
    List.Forall₂ Covers collection.record.modules collection.units := by
  obtain ⟨found, contributed, rfl⟩ := Collection.collect_ok_iff.mp collected
  simp only [List.forall₂_map_left_iff, List.forall₂_map_right_iff, List.forall₂_same]
  have told := (Collection.contributions_ok_iff.mp contributed).flip.imp
    fun contribution unit fine =>
      show Covers contribution.entry contribution.uploads ∧ True from
        ⟨contribution_covers fine, trivial⟩
  exact ((List.forall₂_and_left _ _).mp told).1

variable {State : Type} {client : Repository State} {info : RunInfo} {settings : Settings}
  {world later : World State} {report : Report}

/-- With distinct names a run that has a report published it after all units ended. -/
theorem driven_published (distinct : plan.names.Nodup) {extractor : Extractor}
    (done : Command.drive client extractor plan.entries none plan.start (.opened info settings)
      world = (.ok (some report), later)) :
    (({ settings } : Publication).publish client info plan.names (plan.shown plan.entries) extractor
      world).1 = .ok (some report) := by
  have present : plan.entries ≠ [] := by
    intro none
    rw [none] at done
    cases done
  have more : plan.missing [] ≠ [] := by simpa [missing_nothing, names] using present
  obtain ⟨before, entry, after, result, publication, last, parts, publishes, drives⟩ :=
    publishes_at (reached_start plan info settings) (List.nil_append plan.entries).symm more
      client extractor world
  rw [show Command.drive client extractor plan.entries none plan.start (.opened info settings)
    world = _ from drives none] at done
  cases result with
  | error cause => cases done
  | ok reported =>
      cases done
      exact congrArg Prod.fst (publishes_at_end distinct parts publishes)

/-- The files of a unit with a module decide whether it tells its module and whether it tells its
uploads; the first file that cannot be read is the reason for both failures. Otherwise there is one
artifact and one upload for each product, of one path and one hash, so a record that was published
has no artifact that its unit did not want to upload. -/
theorem module_and_uploads_agree (plan : Plan) (distinct : plan.names.Nodup) (disk : Disk)
    (base : Path) (repository : Option String) :
    (∀ entry ∈ plan.entries, ∀ part, entry.part = some part →
      let told := plan.moduleOf disk base entry.id
      let wanted := plan.uploadsOf disk base repository entry.id
      ((∃ found, told = .ok found) ↔ ∃ uploads, wanted = .ok uploads) ∧
      (∀ cause, told = .error cause ↔
        ∃ problem, cause = .disk problem ∧ FirstUnreadable disk base entry.products problem) ∧
      (∀ cause, wanted = .error cause ↔
        ∃ problem, cause = .disk problem ∧ FirstUnreadable disk base entry.products problem) ∧
      ∀ found uploads, told = .ok found → wanted = .ok uploads →
        ∃ bare, found = some bare ∧ bare.id = part.id ∧
          InStep disk base repository entry.products bare.artifacts uploads) ∧
    ∀ {State : Type} (client : Repository State) (info : RunInfo) (settings : Settings)
      (world : World State) (report : Report) (later : World State),
      let extractor := plan.extractor disk base repository
      Command.drive client extractor plan.entries none plan.start (.opened info settings) world =
        (.ok (some report), later) →
      ∃ collection, Collection.collect settings (Publication.header settings info world.now)
          info.started plan.names (plan.shown plan.entries) extractor = .ok collection ∧
        report.record = collection.record ∧
        List.Forall₂ (Describes disk base) (plan.entries.filter (·.didWork))
          report.record.modules ∧
        List.Forall₂ (fun entry wanted => wanted.unit = entry.id)
          (plan.entries.filter (·.didWork)) collection.units ∧
        List.Forall₂ Covers report.record.modules collection.units := by
  constructor
  · intro entry member part described told wanted
    have asked : plan.entry? entry.id = some entry := latest_of_distinct distinct member
    exact ⟨told_together asked described repository, fun cause => module_error_iff asked described,
      fun cause => uploads_error_iff asked, fun found uploads => told_in_step asked described⟩
  · intro State client info settings world report later extractor done
    have published := driven_published distinct done
    obtain ⟨collection, collected, record⟩ := Publication.published_record published
    refine ⟨collection, collected, record, modules_of_distinct distinct published, ?_, ?_⟩
    · have units := Collection.collect_uploads collected
      rw [worked_entries, working_of_distinct distinct, List.forall₂_map_left_iff] at units
      exact units.imp fun entry wanted told => told.1
    · rw [record]
      exact collection_covers collected

/-- A unit with one file beside the plan and one elsewhere, and an idle unit whose file is missing. -/
def jarPlan : Plan :=
  ⟨"shop", [
    { id := "api"
      part := some { id := "shop:api" }
      products := [
        { file := "api.jar", path := "libs/api.jar" },
        { file := "/store/api.pom", path := "libs/api.pom", repository := some "poms" }] },
    { id := "docs"
      didWork := false
      part := some { id := "shop:docs" }
      products := [{ file := "docs.zip", path := "libs/docs.zip" }] }]⟩

def jarWorld : World Unit where
  disk := { Disk.blank ["work"] with
    directories := [["work"], ["store"]]
    files := Keyed.ofList [("/work/api.jar", "abc".toUTF8), ("/store/api.pom", "<pom/>".toUTF8)] }
  remote := ()
  now := ⟨0, 0⟩

/-- The missing file fails the module and the uploads of its unit. That unit did no work, so the run
ends with a report of the other one. -/
theorem idle_unit_lacks_its_file :
    let disk := jarWorld.disk
    let extractor := jarPlan.extractor disk "." (some "libs")
    let done := Command.drive .willing extractor jarPlan.entries none jarPlan.start
      (.opened ⟨"shop", ⟨0, 0⟩⟩ {}) jarWorld
    jarPlan.names.Nodup ∧
      (∃ bare uploads, extractor.moduleOf "api" = .ok (some bare) ∧
        extractor.uploadsOf "api" = .ok uploads ∧
        InStep disk "." (some "libs") jarPlan.entries[0].products bare.artifacts uploads) ∧
      extractor.moduleOf "docs" = .error (.disk .notFound) ∧
      extractor.uploadsOf "docs" = .error (.disk .notFound) ∧
      ∃ (report : Report) (units : List UnitUploads), done.1 = .ok (some report) ∧
        units.map (·.unit) = ["api"] ∧ List.Forall₂ Covers report.record.modules units := by
  have distinct : jarPlan.names.Nodup := by decide
  have readable : (jarPlan.moduleOf jarWorld.disk "." "api").isOk = true := by decide +kernel
  have missing : jarWorld.disk.contentAt (Path.join "." "docs.zip") = .error .notFound := by
    decide +kernel
  have succeeds : (Command.drive .willing (jarPlan.extractor jarWorld.disk "." (some "libs"))
      jarPlan.entries none jarPlan.start (.opened ⟨"shop", ⟨0, 0⟩⟩ {}) jarWorld).1.toOption.join.isSome
        = true := by decide +kernel
  generalize jarWorld = world at readable missing succeeds ⊢
  intro disk extractor done
  change (jarPlan.moduleOf disk "." "api").isOk = true at readable
  obtain ⟨units, runs⟩ := module_and_uploads_agree jarPlan distinct disk "." (some "libs")
  obtain ⟨together, _, _, alike⟩ := units jarPlan.entries[0] (by decide) _ rfl
  obtain ⟨_, moduleFails, uploadsFail, _⟩ := units jarPlan.entries[1] (by decide) _ rfl
  have unreadable : FirstUnreadable disk "." jarPlan.entries[1].products .notFound :=
    ⟨[], ⟨"docs.zip", "libs/docs.zip", none, none, ∅⟩, [], rfl, nofun, missing⟩
  refine ⟨distinct, ?_, (moduleFails _).mpr ⟨_, rfl, unreadable⟩,
    (uploadsFail _).mpr ⟨_, rfl, unreadable⟩, ?_⟩
  · cases told : jarPlan.moduleOf disk "." "api" with
    | error cause =>
        rw [told] at readable
        cases readable
    | ok found =>
        obtain ⟨uploads, wanted⟩ := together.mp ⟨found, told⟩
        obtain ⟨bare, rfl, _, inStep⟩ := alike found uploads told wanted
        exact ⟨bare, uploads, told, wanted, inStep⟩
  · change done.1.toOption.join.isSome = true at succeeds
    rcases finished : done with ⟨fault | _ | report, later⟩
    · rw [finished] at succeeds
      cases succeeds
    · rw [finished] at succeeds
      cases succeeds
    · obtain ⟨collection, _, _, _, named, covered⟩ := runs .willing _ _ _ report later finished
      refine ⟨report, collection.units, rfl, ?_, covered⟩
      change List.Forall₂ _ [jarPlan.entries[0]] collection.units at named
      obtain ⟨wanted, _, same, rest, listed⟩ := List.forall₂_cons_left_iff.mp named
      rw [listed, List.forall₂_nil_left_iff.mp rest, List.map_cons, same]
      rfl

end Plan

end BuildLedger
