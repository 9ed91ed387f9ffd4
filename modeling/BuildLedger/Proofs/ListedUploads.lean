import BuildLedger.Proofs.ManifestCoverage
import BuildLedger.Proofs.ManifestRoundTrip
import BuildLedger.Proofs.UploadedBatch

/-!
# What a manifest says of the uploads

Of the copies of a path the manifest has the first that any unit wants, and uploaded is the first
that goes out: its unit publishes artifacts, and the unit's own patterns do not hold it back. So a
manifest has every upload as it was sent, but for those whose path an earlier unit wants for a copy
that stays behind. Of such a path it has that copy.
-/
namespace BuildLedger

namespace Batch

variable {settings : Settings} {collection : Collection} {batch : Batch} {upload : Upload}

/-- The uploads that all units want, also of those that publish no artifacts. -/
def wishes (units : List UnitUploads) : List Offer :=
  units.flatMap fun own => own.uploads.map (Offer.mk own.unit)

/-- The unit publishes artifacts and its own patterns let the upload pass. -/
def Offer.goesOut (settings : Settings) (offer : Offer) : Bool :=
  settings.publishesArtifactsOf offer.unit && offer.isAccepted settings

def firstWish (units : List UnitUploads) (path : String) : Option Offer :=
  (wishes units).find? fun offer => offer.upload.path == path

def firstSent (settings : Settings) (units : List UnitUploads) (path : String) : Option Offer :=
  (wishes units).find? fun offer => offer.goesOut settings && offer.upload.path == path

theorem candidates_are_wishes (collection : Collection) :
    collection.candidates = (wishes collection.units).map (·.upload) := by
  simp only [Collection.candidates, wishes, List.map_flatMap, List.map_map, Function.comp_def,
    List.map_id']

theorem offers_are_wishes (settings : Settings) (units : List UnitUploads) :
    offers settings units =
      (wishes units).filter fun offer => settings.publishesArtifactsOf offer.unit := by
  induction units with
  | nil => rfl
  | cons own rest ih =>
      have split : wishes (own :: rest) = own.uploads.map (Offer.mk own.unit) ++ wishes rest := rfl
      rw [split, List.filter_append, List.filter_map, Function.comp_def]
      by_cases publishes : settings.publishesArtifactsOf own.unit = true
      · rw [offers_cons_of_publishing rest publishes, ih]
        simp only [publishes, List.filter_true]
      · rw [offers_cons_of_silent rest publishes, ih]
        simp only [publishes, List.filter_false, List.map_nil, List.nil_append]

theorem accepted_are_wishes (settings : Settings) (units : List UnitUploads) :
    acceptedOf settings units =
      ((wishes units).filter fun offer => offer.goesOut settings).map (·.upload) := by
  rw [acceptedOf, offers_are_wishes, List.filter_filter]
  simp only [Offer.goesOut, Bool.and_comm]

theorem chosen_is_first_sent (batched : ofCollection settings collection = .ok batch)
    (chosen : upload ∈ batch.chosen) :
    ∃ offer, firstSent settings collection.units upload.path = some offer ∧
      offer.upload = upload := by
  have first := ((union_of_batched batched).chosen upload).mp chosen
  rw [accepted_are_wishes, List.find?_map, List.find?_filter] at first
  simp only [Bool.decide_and, Bool.decide_eq_true, Function.comp_apply] at first
  exact Option.map_eq_some_iff.mp first

theorem first_wish_path {units : List UnitUploads} {path : String} {first : Offer}
    (found : firstWish units path = some first) : first.upload.path = path := by
  have matched := List.find?_some found
  exact beq_iff_eq.mp matched

theorem listed_is_first_wish {first : Offer} {path : String}
    (found : firstWish collection.units path = some first) :
    first.upload ∈ collection.manifest := by
  have copies := Collection.first_by_path_copies collection.candidates
  apply (copies.first first.upload).mpr
  rw [candidates_are_wishes, List.find?_map, first_wish_path found]
  exact congrArg (Option.map (·.upload)) found

theorem first_sent_of_first_wish {units : List UnitUploads} {path : String} {first : Offer}
    (found : firstWish units path = some first) (out : first.goesOut settings = true) :
    firstSent settings units path = some first := by
  obtain ⟨same, before, behind, order, others⟩ := List.find?_eq_some_iff_append.mp found
  apply List.find?_eq_some_iff_append.mpr
  constructor
  · rw [out, same]
    rfl
  · -- What stands before the first copy of a path is no copy of it, whether or not it goes out.
    refine ⟨before, behind, order, ?_⟩
    intro offer member
    simp only [Bool.not_and, others offer member, Bool.or_true]

end Batch

/-- What the manifest of a collection has for an upload: one entry with its path, for the first copy
that any unit wants. Uploaded is the first copy that goes out, and often the two are one. -/
structure Describes (settings : Settings) (collection : Collection) (upload : Upload) : Prop where
  once : collection.ListsOnce upload.path
  sent : ∃ offer, Batch.firstSent settings collection.units upload.path = some offer ∧
    offer.upload = upload
  entry : ∃ first, Batch.firstWish collection.units upload.path = some first ∧
    first.upload.path = upload.path ∧ first.upload ∈ collection.manifest ∧
    (first.goesOut settings = true → first.upload = upload)

namespace Publication

variable {State : Type} {repository : Repository State} {settings : Settings}
  {collection : Collection} {batch : Batch} {world later : World State} {report : Report}
  {target : Path}

theorem chosen_described (batched : Batch.ofCollection settings collection = .ok batch)
    {upload : Upload} (chosen : upload ∈ batch.chosen) :
    Describes settings collection upload := by
  have once := Batch.batch_paths_listed batched (Or.inl (List.mem_map_of_mem chosen))
  obtain ⟨sent, found, same⟩ := Batch.chosen_is_first_sent batched chosen
  constructor
  · exact once
  · exact ⟨sent, found, same⟩
  · have wanted := Collection.lists_once_iff.mp once
    rw [Batch.candidates_are_wishes, List.map_map] at wanted
    obtain ⟨wish, member, path⟩ := List.mem_map.mp wanted
    cases first : Batch.firstWish collection.units upload.path with
    | none =>
        have other := List.find?_eq_none.mp first wish member
        exact absurd (beq_iff_eq.mpr path) other
    | some offer =>
        refine ⟨offer, rfl, Batch.first_wish_path first, Batch.listed_is_first_wish first, ?_⟩
        intro out
        have again := Batch.first_sent_of_first_wish first out
        rw [found] at again
        cases again
        exact same

theorem asked_writing {path : Option Path} {text : String} {deeds : List Deed}
    {result : Except Failure Unit} (asked : path = some target)
    (writing : Writing path text deeds result) (fine : result = .ok ()) :
    deeds = [.wrote target text (.ok ())] := by
  cases writing with
  | unasked missing => cases asked.symm.trans missing
  | @tried other written given =>
      cases asked.symm.trans given
      cases written with
      | error problem => cases fine
      | ok value => rfl

/-- A publication that succeeds writes the manifest as the last of its course. -/
theorem manifest_written_last {collected : Except Failure Collection} {deeds : List Deed}
    (output : settings.build.deployManifestOutput = some target)
    (course : Course settings collected deeds (.ok report)) :
    ∃ collection earlier, collected = .ok collection ∧ deeds = earlier ++
      [.wrote target (Json.indented (Manifest.codec.encode collection.manifest)) (.ok ())] := by
  generalize outcome : Except.ok report = result at course
  cases course with
  | stopped stop => cases outcome
  | @arrived collection arriving _ _ _ _ arrival finale =>
      cases finale with
      | @ends saving sending closing recording _ _ recorded listed sent _ _ _ _ lists =>
          cases sent <;> cases recorded <;> cases listed <;> cases outcome
          rw [asked_writing output lists rfl, ← List.append_assoc]
          exact ⟨collection, _, rfl, rfl⟩

theorem written_manifest_loaded {manifest : Manifest} {earlier : List Deed}
    (done : Deeds repository settings world (earlier ++
      [.wrote target (Json.indented (Manifest.codec.encode manifest)) (.ok ())]) later) :
    Manifest.load target later.disk = .ok manifest := by
  obtain ⟨middle, _, last⟩ := deeds_split done
  cases last with
  | deed step nothing =>
      cases nothing
      rcases wrote : middle.disk.writeAtomically target
        (Json.indented (Manifest.codec.encode manifest)).toUTF8 with ⟨result, disk⟩
      simp only [Deed.Leads, World.onDisk, wrote, Prod.mk.injEq] at step
      obtain ⟨rfl, rfl⟩ := step
      exact Disk.load_written Manifest.uploads_lawful wrote

/-- Removing the file of the run's properties leaves a manifest that is another file. -/
theorem manifest_kept {manifest : Manifest} (repository : Repository State)
    (apart : ∀ path ∈ settings.propsFile.toList, world.disk.Apart path target)
    (loaded : Manifest.load target world.disk = .ok manifest) :
    Manifest.load target (removeProperties settings world).disk = .ok manifest := by
  obtain ⟨removal, removes, done⟩ := removal_deeds repository settings world
  have directories : (removeProperties settings world).disk.directories =
      world.disk.directories := by
    unfold removeProperties
    cases settings.propsFile with
    | none => rfl
    | some path => exact Disk.remove_directories path world.disk
  have file : (removeProperties settings world).disk.fileAt target = world.disk.fileAt target := by
    apply deeds_same done
    · intro path text written member
      cases removes <;> simp at member
    · intro deed member path changes
      apply apart
      rw [← removal_paths removes]
      exact List.mem_filterMap.mpr ⟨deed, member, changes_path changes⟩
  apply Disk.load_kept _ loaded
  intro content read
  exact Disk.content_kept directories (deeds_current done) file read

section Published

variable {info : RunInfo} {graph : List UnitId} {snapshot : Snapshot} {extractor : Extractor}
  {publication : Publication}

theorem report_of_some {done : Except Failure (Option Report) × Publication × World State}
    (reported : done.1.toOption.join.isSome = true) :
    ∃ report publication later, done = (.ok (some report), publication, later) := by
  rcases done with ⟨_ | _ | report, publication, later⟩
  · cases reported
  · cases reported
  · exact ⟨report, publication, later, rfl⟩

theorem published_manifest (output : settings.build.deployManifestOutput = some target)
    (done : ({ settings } : Publication).publish repository info graph snapshot extractor world =
      (.ok (some report), publication, later)) :
    ∃ collection ended,
      Collection.collect settings (header settings info world.now) info.started graph snapshot
        extractor = .ok collection ∧
      ended.disk.current = world.disk.current ∧ later = removeProperties settings ended ∧
      Manifest.load target ended.disk = .ok collection.manifest := by
  obtain ⟨deeds, ended, removed, happened, course⟩ := published_course done
  obtain ⟨collection, earlier, collected, order⟩ := manifest_written_last output course
  rw [order] at happened
  exact ⟨collection, ended, collected, deeds_current happened, removed,
    written_manifest_loaded happened⟩

/-- What is uploaded is described by the manifest that is left in the file. -/
theorem uploads_are_described (output : settings.build.deployManifestOutput = some target)
    (done : ({ settings } : Publication).publish repository info graph snapshot extractor world =
      (.ok (some report), publication, later)) :
    ∃ collection ended calls,
      Collection.collect settings (header settings info world.now) info.started graph snapshot
        extractor = .ok collection ∧
      later = removeProperties settings ended ∧
      Manifest.load target ended.disk = .ok collection.manifest ∧
      ((∀ path ∈ settings.propsFile.toList, world.disk.Apart path target) →
        Manifest.load target later.disk = .ok collection.manifest) ∧
      later.calls = world.calls ++ calls ∧
      ∀ upload, Call.deploy upload ∈ calls → Describes settings collection upload := by
  obtain ⟨collection, ended, collected, current, removed, loaded⟩ := published_manifest output done
  obtain ⟨calls, told, uploads⟩ := publish_uploads done
  refine ⟨collection, ended, calls, collected, removed, loaded, ?_, told, ?_⟩
  · intro apart
    rw [removed]
    apply manifest_kept repository _ loaded
    intro path given
    exact apart_kept current (apart path given)
  · intro upload called
    have attempted : upload ∈ attemptedBy calls := List.mem_filterMap.mpr ⟨_, called, rfl⟩
    rcases uploads with none | ⟨other, batch, found, batched, first⟩
    · rw [none] at attempted
      cases attempted
    · rw [collected] at found
      cases found
      exact chosen_described batched (first.mem attempted)

/-- All three units want one path. The first of them is silent and has its copy in the manifest; the
copy of the second is uploaded. -/
theorem first_copies_are_described :
    let upload := fun file : Path =>
      fun path : String => ({ path, repository := "libs", file } : Upload)
    let settings : Settings := {
      publisher := { contextUrl := some "http://repository", excludePatterns := ["*.asc"] }
      build := { deployManifestOutput := some "out/uploads.json" }
      modules := Keyed.ofList [("a", { publishArtifacts := some false })]
      propsFile := some "out/run.properties" }
    let snapshot : Snapshot := [⟨"a", true, true⟩, ⟨"b", true, true⟩, ⟨"c", true, true⟩]
    let extractor : Extractor :=
      ⟨fun unit => .ok (some { id := unit }),
        fun unit => .ok ((if unit = "c" then ["shared.jar", "common.jar"]
          else ["common.jar", "app.asc"]).map (upload unit))⟩
    let world : World Unit := { disk := Disk.blank ["work"], remote := (), now := ⟨0, 0⟩ }
    settings.build.deployManifestOutput = some "out/uploads.json" ∧
      ∃ report publication later, ({ settings } : Publication).publish .willing ⟨"root", ⟨0, 0⟩⟩
          snapshot.ids snapshot extractor world = (.ok (some report), publication, later) ∧
        (attemptedBy later.calls).map (·.path) = ["common.jar", "shared.jar"] ∧
        ∃ collection, Manifest.load "out/uploads.json" later.disk = .ok collection.manifest ∧
          ∀ upload ∈ attemptedBy later.calls, Describes settings collection upload := by
  intro upload settings snapshot extractor world
  have published : (({ settings } : Publication).publish .willing ⟨"root", ⟨0, 0⟩⟩ snapshot.ids
      snapshot extractor world).1.toOption.join.isSome = true := by decide +kernel
  have uploaded : (attemptedBy (({ settings } : Publication).publish .willing ⟨"root", ⟨0, 0⟩⟩
      snapshot.ids snapshot extractor world).2.2.calls).map (·.path) =
        ["common.jar", "shared.jar"] := by decide +kernel
  obtain ⟨report, publication, later, done⟩ := report_of_some published
  rw [done] at uploaded
  obtain ⟨collection, _, calls, _, _, _, kept, told, described⟩ := uploads_are_described rfl done
  refine ⟨rfl, report, publication, later, done, uploaded, collection, kept (by decide), ?_⟩
  intro upload attempted
  obtain ⟨call, called, named⟩ := List.mem_filterMap.mp attempted
  rw [told] at called
  cases call <;> cases named
  exact described upload called

/-- The first unit holds its copy back, and the manifest has it in place of the uploaded one. -/
theorem held_copy_is_listed :
    let copy := fun file : Path => ({ path := "shared.jar", repository := "libs", file } : Upload)
    let settings : Settings := {
      publisher := { contextUrl := some "http://repository" }
      build := { deployManifestOutput := some "uploads.json" }
      modules := Keyed.ofList [("a", { excludePatterns := some ["shared.jar"] })] }
    let snapshot : Snapshot := [⟨"a", true, true⟩, ⟨"b", true, true⟩]
    let extractor : Extractor :=
      ⟨fun unit => .ok (some { id := unit }), fun unit => .ok [copy (unit ++ "/shared.jar")]⟩
    let world : World Unit := { disk := Disk.blank ["work"], remote := (), now := ⟨0, 0⟩ }
    let places := List.map fun upload : Upload => (upload.path, upload.file)
    ∃ report publication later, ({ settings } : Publication).publish .willing ⟨"root", ⟨0, 0⟩⟩
        snapshot.ids snapshot extractor world = (.ok (some report), publication, later) ∧
      places (attemptedBy later.calls) = [("shared.jar", "b/shared.jar")] ∧
      ∃ manifest, Manifest.load "uploads.json" later.disk = .ok manifest ∧
        places manifest = [("shared.jar", "a/shared.jar")] := by
  intro copy settings snapshot extractor world places
  have published : (({ settings } : Publication).publish .willing ⟨"root", ⟨0, 0⟩⟩ snapshot.ids
      snapshot extractor world).1.toOption.join.isSome = true := by decide +kernel
  have uploaded : places (attemptedBy (({ settings } : Publication).publish .willing
      ⟨"root", ⟨0, 0⟩⟩ snapshot.ids snapshot extractor world).2.2.calls) =
        [("shared.jar", "b/shared.jar")] := by decide +kernel
  have listed : (Collection.collect settings (header settings ⟨"root", ⟨0, 0⟩⟩ world.now) ⟨0, 0⟩
      snapshot.ids snapshot extractor).map (fun collection => places collection.manifest) =
        .ok [("shared.jar", "a/shared.jar")] := by decide +kernel
  obtain ⟨report, publication, later, done⟩ := report_of_some published
  rw [done] at uploaded
  obtain ⟨collection, ended, collected, _, removed, loaded⟩ := published_manifest rfl done
  rw [collected] at listed
  subst removed
  exact ⟨report, publication, later, done, uploaded, collection.manifest, loaded,
    Except.ok.inj listed⟩

end Published

end Publication

end BuildLedger
