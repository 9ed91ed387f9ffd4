import BuildLedger.Command
import BuildLedger.Proofs.Conversation
import BuildLedger.Proofs.Deeds
import Mathlib.Data.List.Pairwise

/-!
# The files of a publication

A publication that does not get past its uploads writes no file. One that does writes the file that
comes before sending, sends the record, closes the connection, and writes the record and the
manifest, whatever came of sending. It is said here as a grammar of deeds, and every publication
follows it. Where the settings name different files, each of them holds what was written to it and
is otherwise left alone; the file of the run's properties goes last.
-/
namespace BuildLedger

variable {State : Type}

namespace Publication

/-- A text that is written where the settings ask for it, and how that ended. -/
inductive Writing (path : Option Path) (text : String) : List Deed → Except Failure Unit → Prop
  | unasked (missing : path = none) : Writing path text [] (.ok ())
  | tried {target : Path} {result : Except DiskError Unit} (given : path = some target) :
      Writing path text [.wrote target text result] (result.mapError (.writing target))

/-- Sending comes after the file before it, and there is no sending when that file fails. -/
inductive Sending (settings : Settings) (record : Record) (connected : Bool) :
    Except Failure Unit → List Deed → Except Failure Bool → Prop
  | unsaved (failure : Failure) :
      Sending settings record connected (.error failure) [] (.error failure)
  | unwanted (off : settings.publisher.publishBuildInfo = false ∨ connected = false) :
      Sending settings record connected (.ok ()) [] (.ok false)
  | sent {answer : Except Failure Unit} (wanted : settings.publisher.publishBuildInfo = true)
      (connects : connected = true) :
      Sending settings record connected (.ok ()) [.said (recordCall settings record) answer]
        (answer.map fun _ => true)

/-- An open connection is closed, however that ends. -/
inductive Closing : Bool → List Deed → Prop
  | closed (answer : Except Failure Unit) : Closing true [.said .close answer]
  | unopened : Closing false []

/-- The file that comes before sending, if the record is to be published. -/
def exportPath (settings : Settings) : Option Path :=
  if settings.publisher.publishBuildInfo then settings.build.exportFile else none

/-- The manifest is written unless the record before it could not be. -/
def manifestPath (settings : Settings) (recorded : Except Failure Unit) : Option Path :=
  match recorded with
  | .ok _ => settings.build.deployManifestOutput
  | .error _ => none

/-- What comes behind the uploads. The first of the failures to save, to send, to write the record
and to write the manifest is the result. -/
inductive Ending (settings : Settings) (collection : Collection) (connected : Bool)
    (report : Report) : List Deed → Except Failure Report → Prop
  | ends {saving sending closing recording listing : List Deed}
      {saved recorded listed : Except Failure Unit} {sent : Except Failure Bool}
      (saves : Writing (exportPath settings) collection.record.text saving saved)
      (sends : Sending settings collection.record connected saved sending sent)
      (closes : Closing connected closing)
      (records : Writing settings.build.buildInfoOutput collection.record.text recording recorded)
      (lists : Writing (manifestPath settings recorded)
        (Json.indented (Manifest.codec.encode collection.manifest)) listing listed) :
      Ending settings collection connected report
        (saving ++ sending ++ closing ++ recording ++ listing)
        (do
          let published ← sent
          recorded
          listed
          return { report with
            published
            exported := settings.build.buildInfoOutput.toList ++
              settings.build.deployManifestOutput.toList })

/-- Collecting, connecting or uploading fails, and the open connection is closed. -/
inductive Stopped (settings : Settings) : Except Failure Collection → List Deed → Failure → Prop
  | collecting (failure : Failure) : Stopped settings (.error failure) [] failure
  | connecting {collection : Collection} {endpoint : Endpoint} {failure : Failure}
      (address : settings.endpoint = some endpoint) :
      Stopped settings (.ok collection) [.said (.connect endpoint) (.error failure)] failure
  | batching {collection : Collection} {endpoint : Endpoint} {failure : Failure}
      {closing : Except Failure Unit} (address : settings.endpoint = some endpoint)
      (refused : Batch.ofCollection settings collection = .error failure) :
      Stopped settings (.ok collection)
        [.said (.connect endpoint) (.ok ()), .said .close closing] failure
  | uploading {collection : Collection} {endpoint : Endpoint} {failure : Failure}
      {closing : Except Failure Unit} {batch : Batch} {before rest : List Upload} {upload : Upload}
      (address : settings.endpoint = some endpoint)
      (batched : Batch.ofCollection settings collection = .ok batch)
      (policy : settings.failurePolicy = .abort)
      (order : batch.chosen = before ++ upload :: rest) :
      Stopped settings (.ok collection)
        (.said (.connect endpoint) (.ok ()) ::
          before.map (fun upload => .said (.deploy upload) (.ok ())) ++
          [.said (.deploy upload) (.error failure), .said .close closing]) failure

/-- There is nothing to connect for, or the whole batch is attempted over a connection. -/
inductive Arrived (settings : Settings) (collection : Collection) :
    List Deed → Bool → Report → Prop
  | unconnected (nothing : NothingToSay settings (.ok collection)) :
      Arrived settings collection [] false { record := collection.record }
  | uploaded {endpoint : Endpoint} {batch : Batch} {attempts : List Attempt}
      (address : settings.endpoint = some endpoint)
      (batched : Batch.ofCollection settings collection = .ok batch)
      (order : attempts.map Prod.fst = batch.chosen)
      (policy : settings.failurePolicy = .abort → ∀ attempt ∈ attempts, attempt.2 = .ok ()) :
      Arrived settings collection
        (.said (.connect endpoint) (.ok ()) ::
          attempts.map fun attempt => .said (.deploy attempt.1) attempt.2) true
        (noteAttempts { record := collection.record, filtered := batch.filtered } attempts)

/-- All that a publication does, but for the file of the run's properties, and its result. -/
inductive Course (settings : Settings) :
    Except Failure Collection → List Deed → Except Failure Report → Prop
  | stopped {collected : Except Failure Collection} {deeds : List Deed} {failure : Failure}
      (stop : Stopped settings collected deeds failure) :
      Course settings collected deeds (.error failure)
  | arrived {collection : Collection} {arriving ending : List Deed} {connected : Bool}
      {report : Report} {result : Except Failure Report}
      (arrival : Arrived settings collection arriving connected report)
      (finale : Ending settings collection connected report ending result) :
      Course settings (.ok collection) (arriving ++ ending) result

/-- The file of the run's properties is removed if the settings name one. -/
inductive Removal (settings : Settings) : List Deed → Prop
  | unnamed (missing : settings.propsFile = none) : Removal settings []
  | removed {path : Path} (result : Except DiskError Bool)
      (given : settings.propsFile = some path) : Removal settings [.removed path result]

/-- The three files that a publication may write. -/
def outputs (settings : Settings) : List Path :=
  settings.build.exportFile.toList ++ settings.build.buildInfoOutput.toList ++
    settings.build.deployManifestOutput.toList

/-- What a publication did between two worlds, and what that left of the files. -/
structure Account (repository : Repository State) (settings : Settings)
    (collected : Except Failure Collection) (before : World State) (deeds removal : List Deed)
    (result : Except Failure Report) (after : World State) : Prop where
  done : Deeds repository settings before (deeds ++ removal) after
  course : Course settings collected deeds result
  removes : Removal settings removal
  /-- A publication that stops early leaves the files that it would have written. -/
  stopped : ∀ failure, Stopped settings collected deeds failure →
    ∀ path ∈ outputs settings, after.disk.fileAt path = before.disk.fileAt path
  written : ∀ path ∈ outputs settings, ∀ text, Deed.wrote path text (.ok ()) ∈ deeds →
    after.disk.fileAt path = some text.toUTF8
  /-- A file that no write reached is as it was, but for a scratch file in its place. -/
  spared : ∀ path ∈ outputs settings, (∀ text, Deed.wrote path text (.ok ()) ∉ deeds) →
    before.disk.Spares after.disk (before.disk.goal path).key
  reported : ∀ report, result = .ok report → ∃ collection, collected = .ok collection ∧
    report.record = collection.record ∧
    report.exported = settings.build.buildInfoOutput.toList ++
      settings.build.deployManifestOutput.toList
  removed : ∀ path, settings.propsFile = some path →
    (Deed.removed path (.ok true) ∈ removal → after.disk.fileAt path = none) ∧
    (Deed.removed path (.ok true) ∉ removal →
      before.disk.Spares after.disk (before.disk.goal path).key)

/-! ## Every publication follows the grammar -/

variable {repository : Repository State} {settings : Settings} {collection : Collection}
  {world later : World State}

theorem save_leads {Value : Type} (codec : Codec Value) (value : Value) (target : Path)
    (world : World State) :
    ∃ result, (world.disk.save codec value target).1 = result.mapError (.writing target) ∧
      (Deed.wrote target (Json.indented (codec.encode value)) result).Leads repository settings
        world { world with disk := (world.disk.save codec value target).2 } := by
  unfold Disk.save
  cases wrote : world.disk.writeAtomically target (Json.indented (codec.encode value)).toUTF8 with
  | mk result disk =>
      refine ⟨result, ?_, ?_⟩
      · cases result <;> rfl
      · cases result <;> simp only [Deed.Leads, World.onDisk, wrote]

theorem save_if_writes {Value : Type} (codec : Codec Value) (value : Value) {path : Option Path}
    {result : Except Failure (List Path)}
    (done : saveIf path (fun target disk => disk.save codec value target) world =
      (result, later)) :
    ∃ deeds written, Deeds repository settings world deeds later ∧
      Writing path (Json.indented (codec.encode value)) deeds written ∧
      result = written.map fun _ => path.toList := by
  rcases save_if_cases done with ⟨missing, outcome, rfl⟩ | ⟨target, given, outcome, rfl⟩
  · refine ⟨[], .ok (), .nothing _, .unasked missing, ?_⟩
    rw [outcome, missing]
    rfl
  · obtain ⟨written, told, step⟩ := save_leads codec value target world
    refine ⟨_, _, deeds_single step, .tried given, ?_⟩
    rw [outcome, told, given]
    cases written <;> rfl

theorem transmit_leads {record : Record} {result : Except Failure Bool}
    (incremental : record.incremental = settings.build.incremental)
    (done : transmit repository settings record world = (result, later)) :
    ∃ answer, result = answer.map (fun _ => true) ∧
      (Deed.said (recordCall settings record) answer).Leads repository settings world later := by
  unfold transmit at done
  rw [incremental] at done
  unfold recordCall
  by_cases adding : settings.build.incremental = true
  · simp only [if_pos adding] at done ⊢
    cases done
    exact ⟨_, rfl, rfl⟩
  · simp only [if_neg adding] at done ⊢
    cases done
    exact ⟨_, rfl, rfl⟩

theorem send_record_deeds {record : Record} {connected : Bool} {result : Except Failure Bool}
    (incremental : record.incremental = settings.build.incremental)
    (done : sendRecord repository settings connected record world = (result, later)) :
    ∃ saving sending saved, Deeds repository settings world (saving ++ sending) later ∧
      Writing (exportPath settings) record.text saving saved ∧
      Sending settings record connected saved sending result := by
  unfold sendRecord at done
  by_cases wanted : settings.publisher.publishBuildInfo = true
  · rw [if_pos wanted] at done
    have given : exportPath settings = settings.build.exportFile := if_pos wanted
    cases saves : saveIf settings.build.exportFile record.save world with
    | mk outcome saved =>
        obtain ⟨saving, written, deeds, writing, told⟩ := save_if_writes Record.codec record saves
        rw [← given] at writing
        rw [saves] at done
        cases written with
        | error failure =>
            subst told
            cases done
            refine ⟨saving, [], _, ?_, writing, .unsaved failure⟩
            rw [List.append_nil]
            exact deeds
        | ok value =>
            subst told
            cases connected with
            | false =>
                cases done
                refine ⟨saving, [], _, ?_, writing, .unwanted (Or.inr rfl)⟩
                rw [List.append_nil]
                exact deeds
            | true =>
                have sends : transmit repository settings record saved = (result, later) := done
                obtain ⟨answer, rfl, step⟩ := transmit_leads incremental sends
                exact ⟨saving, _, _, deeds_append deeds (deeds_single step), writing,
                  .sent wanted rfl⟩
  · rw [if_neg wanted] at done
    cases done
    have off := Bool.eq_false_iff.mpr wanted
    exact ⟨[], [], _, .nothing _, .unasked (if_neg wanted), .unwanted (Or.inl off)⟩

theorem closing_deeds (repository : Repository State) (settings : Settings) (connected : Bool)
    (world : World State) :
    ∃ closing, Closing connected closing ∧
      Deeds repository settings world closing
        (if connected then world.release repository else world) := by
  cases connected with
  | false => exact ⟨[], .unopened, .nothing world⟩
  | true =>
      refine ⟨_, .closed (world.close repository).1, deeds_single ?_⟩
      rfl

theorem export_files_deeds {result : Except Failure (List Path)}
    (done : exportFiles settings collection world = (result, later)) :
    ∃ recording listing recorded listed,
      Deeds repository settings world (recording ++ listing) later ∧
      Writing settings.build.buildInfoOutput collection.record.text recording recorded ∧
      Writing (manifestPath settings recorded)
        (Json.indented (Manifest.codec.encode collection.manifest)) listing listed ∧
      result = (do
        recorded
        listed
        return settings.build.buildInfoOutput.toList ++
          settings.build.deployManifestOutput.toList) := by
  unfold exportFiles at done
  cases records : saveIf settings.build.buildInfoOutput collection.record.save world with
  | mk outcome saved =>
      obtain ⟨recording, recorded, first, writing, told⟩ :=
        save_if_writes Record.codec collection.record records
      rw [records] at done
      subst told
      cases recorded with
      | error failure =>
          cases done
          refine ⟨recording, [], _, .ok (), ?_, writing, .unasked rfl, rfl⟩
          rw [List.append_nil]
          exact first
      | ok value =>
          cases lists : saveIf settings.build.deployManifestOutput collection.manifest.save
              saved with
          | mk outcome written =>
              obtain ⟨listing, listed, second, writings, told⟩ :=
                save_if_writes Manifest.codec collection.manifest lists
              subst told
              simp only [Except.map, lists] at done
              refine ⟨recording, listing, _, listed, ?_, writing, writings, ?_⟩
              · cases listed <;> cases done <;> exact deeds_append first second
              · cases listed <;> cases done <;> rfl

theorem finish_deeds {connected : Bool} {report : Report} {result : Except Failure Report}
    (incremental : collection.record.incremental = settings.build.incremental)
    (done : finish repository settings connected collection report world = (result, later)) :
    ∃ deeds, Deeds repository settings world deeds later ∧
      Ending settings collection connected report deeds result := by
  unfold finish at done
  cases sends : sendRecord repository settings connected collection.record world with
  | mk sent spoken =>
      obtain ⟨saving, sending, saved, first, saves, sendings⟩ :=
        send_record_deeds incremental sends
      obtain ⟨closing, closes, second⟩ := closing_deeds repository settings connected spoken
      rw [sends] at done
      simp only at done
      cases exports : exportFiles settings collection
          (if connected then spoken.release repository else spoken) with
      | mk exported written =>
          obtain ⟨recording, listing, recorded, listed, third, records, lists, told⟩ :=
            export_files_deeds exports
          have ending : Ending settings collection connected report _ _ :=
            .ends saves sendings closes records lists
          have deeds := deeds_append (deeds_append first second) third
          rw [← List.append_assoc] at deeds
          subst told
          rw [exports] at done
          cases sent <;> cases recorded <;> cases listed <;> cases done <;>
            exact ⟨_, deeds, ending⟩

/-- A batch that is uploaded leads to the end, or is where the publication stops. -/
theorem deploy_deeds {report : Report} {uploaded : Except Failure Report}
    (done : deploy repository settings collection report world = (uploaded, later)) :
    (∃ failure, Batch.ofCollection settings collection = .error failure ∧
      uploaded = .error failure ∧ later = world) ∨
    ∃ batch attempts, Batch.ofCollection settings collection = .ok batch ∧
      Deeds repository settings world
        (attempts.map fun attempt : Attempt => .said (.deploy attempt.1) attempt.2) later ∧
      ((attempts.map Prod.fst = batch.chosen ∧
          uploaded = .ok (noteAttempts { report with filtered := batch.filtered } attempts) ∧
          (settings.failurePolicy = .abort → ∀ attempt ∈ attempts, attempt.2 = .ok ())) ∨
        ∃ before upload rest failure, settings.failurePolicy = .abort ∧
          batch.chosen = before ++ upload :: rest ∧
          attempts = before.map (fun upload => (upload, .ok ())) ++ [(upload, .error failure)] ∧
          uploaded = .error failure) := by
  unfold deploy at done
  cases batched : Batch.ofCollection settings collection with
  | error failure =>
      left
      rw [batched] at done
      cases done
      exact ⟨failure, rfl, rfl, rfl⟩
  | ok batch =>
      right
      rw [batched] at done
      obtain ⟨attempts, talks, disk, ends⟩ := upload_all_cases done
      have deeds := deeds_of_talks talks disk
      rw [List.map_map] at deeds
      exact ⟨batch, attempts, rfl, deeds, ends⟩

theorem sequence_course {info : RunInfo} {graph : List UnitId} {snapshot : Snapshot}
    {extractor : Extractor} {result : Except Failure Report}
    (done : sequence repository settings info graph snapshot extractor world = (result, later)) :
    ∃ deeds, Deeds repository settings world deeds later ∧
      Course settings (Collection.collect settings (header settings info world.now) info.started
        graph snapshot extractor) deeds result := by
  unfold sequence at done
  cases collected : Collection.collect settings (header settings info world.now) info.started graph
      snapshot extractor with
  | error failure =>
      rw [collected] at done
      cases done
      exact ⟨[], .nothing world, .stopped (.collecting failure)⟩
  | ok collection =>
      have incremental := collect_incremental collected
      rw [collected] at done
      simp only at done
      cases connects : connect repository settings world with
      | mk outcome connected =>
          rw [connects] at done
          rcases connect_cases collection connects with
            ⟨nothing, rfl, rfl⟩ | ⟨_, endpoint, answer, address, rfl, disk, talks⟩
          · obtain ⟨deeds, ends, ending⟩ := finish_deeds incremental done
            exact ⟨deeds, ends, .arrived (.unconnected nothing) ending⟩
          · have opening := deeds_of_talks talks disk
            cases answer with
            | error failure =>
                cases done
                exact ⟨_, opening, .stopped (.connecting address)⟩
            | ok value =>
                cases uploads : deploy repository settings collection
                    { record := collection.record } connected with
                | mk uploaded deployed =>
                    simp only [Except.map, uploads] at done
                    obtain ⟨closing, closes, closed⟩ :=
                      closing_deeds repository settings true deployed
                    cases closes with
                    | closed last =>
                    rcases deploy_deeds uploads with ⟨failure, refused, rfl, rfl⟩ |
                      ⟨batch, attempts, batched, talking, ends⟩
                    · cases done
                      exact ⟨_, deeds_append opening closed, .stopped (.batching address refused)⟩
                    · rcases ends with ⟨order, rfl, policy⟩ |
                        ⟨before, upload, rest, failure, policy, order, rfl, rfl⟩
                      · obtain ⟨deeds, ending, follows⟩ := finish_deeds incremental done
                        exact ⟨_, deeds_append (deeds_append opening talking) ending,
                          .arrived (.uploaded address batched order policy) follows⟩
                      · cases done
                        refine ⟨_, deeds_append opening (deeds_append talking closed), .stopped ?_⟩
                        have stop := @Stopped.uploading settings collection endpoint failure last
                          batch before rest upload address batched policy order
                        simpa [Deed.ofExchange, Function.comp_def] using stop

theorem removal_deeds (repository : Repository State) (settings : Settings) (world : World State) :
    ∃ removal, Removal settings removal ∧
      Deeds repository settings world removal (removeProperties settings world) := by
  unfold removeProperties
  cases given : settings.propsFile with
  | none => exact ⟨[], .unnamed given, .nothing world⟩
  | some path =>
      refine ⟨_, .removed (world.onDisk (Disk.removeIfPresent path)).1 given, deeds_single ?_⟩
      rfl

/-! ## The files that the deeds are about -/

theorem writing_paths {path : Option Path} {text : String} {deeds : List Deed}
    {written : Except Failure Unit} (writing : Writing path text deeds written) :
    (deeds.filterMap Deed.path?).Sublist path.toList := by
  cases writing with
  | unasked missing => exact List.nil_sublist _
  | tried given =>
      rw [given]
      exact List.Sublist.refl _

theorem stopped_unwritten {collected : Except Failure Collection} {deeds : List Deed}
    {failure : Failure} (stop : Stopped settings collected deeds failure) :
    deeds.filterMap Deed.path? = [] := by
  cases stop <;> simp [Deed.path?, List.filterMap_cons, Function.comp_def]

theorem arrived_unwritten {deeds : List Deed} {connected : Bool} {report : Report}
    (arrival : Arrived settings collection deeds connected report) :
    deeds.filterMap Deed.path? = [] := by
  cases arrival <;> simp [Deed.path?, List.filterMap_cons, Function.comp_def]

theorem ending_paths {connected : Bool} {report : Report} {deeds : List Deed}
    {result : Except Failure Report}
    (ending : Ending settings collection connected report deeds result) :
    (deeds.filterMap Deed.path?).Sublist (outputs settings) := by
  cases ending with
  | @ends saving sending closing recording listing saved recorded listed sent saves sends closes
      records lists =>
    have exports : (exportPath settings).toList.Sublist settings.build.exportFile.toList := by
      unfold exportPath
      split
      · exact List.Sublist.refl _
      · exact List.nil_sublist _
    have manifests : (manifestPath settings recorded).toList.Sublist
        settings.build.deployManifestOutput.toList := by
      unfold manifestPath
      cases recorded with
      | ok value => exact List.Sublist.refl _
      | error failure => exact List.nil_sublist _
    have sent : sending.filterMap Deed.path? = [] := by cases sends <;> rfl
    have closed : closing.filterMap Deed.path? = [] := by cases closes <;> rfl
    simp only [List.filterMap_append, sent, closed, List.append_nil]
    exact (((writing_paths saves).trans exports).append (writing_paths records)).append
      ((writing_paths lists).trans manifests)

/-- Only the file of the run's properties is removed, and that is no part of the course. -/
theorem course_unremoved {collected : Except Failure Collection} {deeds : List Deed}
    {result : Except Failure Report} (course : Course settings collected deeds result)
    (path : Path) (removal : Except DiskError Bool) : Deed.removed path removal ∉ deeds := by
  have unremoved : ∀ {path text deeds written}, Writing path text deeds written →
      ∀ target removal, Deed.removed target removal ∉ deeds := by
    intro path text deeds written writing target removal
    cases writing <;> simp
  cases course with
  | stopped stop => cases stop <;> simp
  | @arrived _ arriving _ _ _ _ arrival finale =>
      have first : Deed.removed path removal ∉ arriving := by cases arrival <;> simp
      cases finale with
      | @ends _ sending closing _ _ _ _ _ _ saves sends closes records lists =>
          have sent : Deed.removed path removal ∉ sending := by cases sends <;> simp
          have closed : Deed.removed path removal ∉ closing := by cases closes <;> simp
          simp only [List.mem_append, not_or]
          exact ⟨first, ⟨⟨⟨unremoved saves path removal, sent⟩, closed⟩,
            unremoved records path removal⟩, unremoved lists path removal⟩

theorem course_paths {collected : Except Failure Collection} {deeds : List Deed}
    {result : Except Failure Report} (course : Course settings collected deeds result) :
    (deeds.filterMap Deed.path?).Sublist (outputs settings) := by
  cases course with
  | stopped stop =>
      rw [stopped_unwritten stop]
      exact List.nil_sublist _
  | arrived arrival finale =>
      rw [List.filterMap_append, arrived_unwritten arrival]
      exact ending_paths finale

theorem removal_paths {removal : List Deed} (removes : Removal settings removal) :
    removal.filterMap Deed.path? = settings.propsFile.toList := by
  cases removes with
  | unnamed missing =>
      rw [missing]
      rfl
  | removed result given =>
      rw [given]
      rfl

/-- Of two files that the settings name, a deed that changes one spares the other. -/
theorem others_apart {deeds : List Deed} {path : Path}
    (apart : (Command.settingsFiles settings).Pairwise world.disk.Apart)
    (named : ∀ target ∈ deeds.filterMap Deed.path?, target ∈ Command.settingsFiles settings)
    (given : path ∈ Command.settingsFiles settings)
    (unchanged : ∀ deed ∈ deeds, ¬deed.Changes path) :
    ∀ deed ∈ deeds, ∀ target, deed.Changes target → world.disk.Apart target path := by
  intro deed member target changes
  have inside := named target (List.mem_filterMap.mpr ⟨deed, member, changes_path changes⟩)
  have different : target ≠ path := by
    intro same
    subst same
    exact unchanged deed member changes
  exact apart.forall inside given different

theorem course_reported {collected : Except Failure Collection} {deeds : List Deed}
    {report : Report} (course : Course settings collected deeds (.ok report)) :
    ∃ collection, collected = .ok collection ∧ report.record = collection.record ∧
      report.exported = settings.build.buildInfoOutput.toList ++
        settings.build.deployManifestOutput.toList := by
  generalize outcome : Except.ok report = result at course
  cases course with
  | stopped stop => cases outcome
  | @arrived collection _ _ _ begun _ arrival finale =>
      refine ⟨collection, rfl, ?_⟩
      have record : begun.record = collection.record := by cases arrival <;> rfl
      cases finale with
      | @ends _ _ _ _ _ _ recorded listed sent _ _ _ _ _ =>
        cases sent <;> cases recorded <;> cases listed <;> cases outcome
        exact ⟨record, rfl⟩

/-- A publication follows its course, and removes the file of the run's properties last. -/
theorem publish_course {info : RunInfo} {graph : List UnitId} {snapshot : Snapshot}
    {extractor : Extractor} {outcome : Except Failure (Option Report)} {publication : Publication}
    (done : ({ settings } : Publication).publish repository info graph snapshot extractor world =
      (outcome, publication, later)) :
    ∃ deeds result ended, outcome = result.map some ∧ later = removeProperties settings ended ∧
      Deeds repository settings world deeds ended ∧
      Course settings (Collection.collect settings (header settings info world.now) info.started
        graph snapshot extractor) deeds result := by
  unfold publish at done
  cases ends : sequence repository settings info graph snapshot extractor world with
  | mk result ended =>
      obtain ⟨deeds, happened, course⟩ := sequence_course ends
      simp only [ends] at done
      cases done
      exact ⟨deeds, result, ended, rfl, rfl, happened, course⟩

theorem published_course {info : RunInfo} {graph : List UnitId} {snapshot : Snapshot}
    {extractor : Extractor} {report : Report} {publication : Publication}
    (done : ({ settings } : Publication).publish repository info graph snapshot extractor world =
      (.ok (some report), publication, later)) :
    ∃ deeds ended, later = removeProperties settings ended ∧
      Deeds repository settings world deeds ended ∧
      Course settings (Collection.collect settings (header settings info world.now) info.started
        graph snapshot extractor) deeds (.ok report) := by
  obtain ⟨deeds, result, ended, told, removed, happened, course⟩ := publish_course done
  cases result with
  | error failure => cases told
  | ok reported =>
      cases told
      exact ⟨deeds, ended, removed, happened, course⟩

/-- A report holds the record that was collected. -/
theorem published_record {info : RunInfo} {graph : List UnitId} {snapshot : Snapshot}
    {extractor : Extractor} {report : Report}
    (published : (({ settings } : Publication).publish repository info graph snapshot extractor
      world).1 = .ok (some report)) :
    ∃ collection, Collection.collect settings (header settings info world.now) info.started graph
        snapshot extractor = .ok collection ∧ report.record = collection.record := by
  obtain ⟨deeds, ended, _, _, course⟩ := published_course (Prod.ext published rfl)
  obtain ⟨collection, collected, record, _⟩ := course_reported course
  exact ⟨collection, collected, record⟩

/-! ## What is left of the files -/

theorem account_of_course {collected : Except Failure Collection} {deeds removal : List Deed}
    {result : Except Failure Report}
    (apart : (Command.settingsFiles settings).Pairwise world.disk.Apart)
    (course : Course settings collected deeds result) (removes : Removal settings removal)
    (done : Deeds repository settings world (deeds ++ removal) later) :
    Account repository settings collected world deeds removal result later := by
  have paths : ((deeds ++ removal).filterMap Deed.path?).Sublist
      (Command.settingsFiles settings) := by
    rw [List.filterMap_append, removal_paths removes]
    exact (course_paths course).append_right _
  have named : ∀ target ∈ (deeds ++ removal).filterMap Deed.path?,
      target ∈ Command.settingsFiles settings := fun target member => paths.mem member
  have output : ∀ path ∈ outputs settings, path ∈ Command.settingsFiles settings :=
    fun path member => List.mem_append_left _ member
  have distinct : ∀ path ∈ outputs settings, path ∉ settings.propsFile.toList :=
    fun path given removed => (List.pairwise_append.mp apart).2.2 path given path removed rfl
  have kept : ∀ path ∈ outputs settings, ∀ deed ∈ removal, ¬deed.Changes path := by
    intro path given deed member changes
    apply distinct path given
    rw [← removal_paths removes]
    exact List.mem_filterMap.mpr ⟨deed, member, changes_path changes⟩
  exact {
    done := done
    course := course
    removes := removes
    stopped := by
      intro failure stop path given
      have silent := stopped_unwritten stop
      have unwritten : ∀ target text written, Deed.wrote target text written ∉ deeds := by
        intro target text written member
        have inside : target ∈ deeds.filterMap Deed.path? :=
          List.mem_filterMap.mpr ⟨_, member, rfl⟩
        rw [silent] at inside
        cases inside
      refine deeds_same done ?_ (others_apart apart named (output path given) ?_)
      · intro target text written member
        rcases List.mem_append.mp member with first | last
        · exact unwritten target text written first
        · cases removes <;> simp at last
      · intro deed member changes
        rcases List.mem_append.mp member with first | last
        · have inside : path ∈ deeds.filterMap Deed.path? :=
            List.mem_filterMap.mpr ⟨deed, first, changes_path changes⟩
          rw [silent] at inside
          cases inside
        · exact kept path given deed last changes
    written := by
      intro path given text wrote
      exact deeds_wrote done (apart.sublist paths) (List.mem_append_left _ wrote)
    spared := by
      intro path given unwritten
      refine deeds_spare done (others_apart apart named (output path given) ?_)
      intro deed member changes
      rcases List.mem_append.mp member with first | last
      · cases changes with
        | wrote text => exact unwritten text first
        | removed => exact course_unremoved course path _ first
      · exact kept path given deed last changes
    reported := by
      intro report reported
      subst reported
      exact course_reported course
    removed := by
      intro path given
      have listed : path ∈ settings.propsFile.toList := by simp [given]
      constructor
      · intro member
        cases removes with
        | unnamed missing => cases member
        | removed outcome named =>
            rw [List.mem_singleton] at member
            rw [← member] at done
            obtain ⟨_, _, last⟩ := deeds_split done
            cases last with
            | deed step nothing =>
                cases nothing
                exact leads_removed step
      · intro unremoved
        refine deeds_spare done (others_apart apart named (List.mem_append_right _ listed) ?_)
        intro deed member changes
        rcases List.mem_append.mp member with first | last
        · have output := (course_paths course).mem
            (List.mem_filterMap.mpr ⟨deed, first, changes_path changes⟩)
          exact distinct path output listed
        · cases removes with
          | unnamed missing => cases last
          | removed outcome named =>
              rw [List.mem_singleton] at last
              subst last
              cases changes
              exact unremoved List.mem_cons_self
  }

/-- Every publication gives an account of its files. -/
theorem publication_leaves_files (repository : Repository State) (settings : Settings)
    (info : RunInfo) (graph : List UnitId) (snapshot : Snapshot) (extractor : Extractor)
    (world : World State)
    (apart : (Command.settingsFiles settings).Pairwise world.disk.Apart) :
    let collected := Collection.collect settings (header settings info world.now) info.started graph
      snapshot extractor
    let done := ({ settings } : Publication).publish repository info graph snapshot extractor world
    ∃ deeds removal result, done.1 = result.map some ∧
      Account repository settings collected world deeds removal result done.2.2 := by
  intro collected
  cases ends : sequence repository settings info graph snapshot extractor world with
  | mk result ended =>
      obtain ⟨deeds, first, course⟩ := sequence_course ends
      obtain ⟨removal, removes, last⟩ := removal_deeds repository settings ended
      simp only [publish, ends]
      exact ⟨deeds, removal, result, rfl,
        account_of_course apart course removes (deeds_append first last)⟩

/-- Sending fails, and the record is written all the same. -/
theorem record_is_written_unsent :
    let settings : Settings := {
      publisher := { contextUrl := some "http://repository" }
      build := {
        exportFile := some "early.json"
        buildInfoOutput := some "out/build.json"
        deployManifestOutput := some "out/uploads.json" }
      propsFile := some "run.properties" }
    let repository : Repository Unit := {
      connect := fun _ _ state => (.ok (), state)
      deploy := fun _ _ state => (.ok (), state)
      append := fun _ state => (.ok (), state)
      send := fun _ _ _ state => (.error (.publish "down"), state)
      close := fun state => (.ok (), state) }
    let info : RunInfo := ⟨"root", ⟨0, 0⟩⟩
    let snapshot : Snapshot := [⟨":a", true, true⟩]
    let extractor : Extractor :=
      ⟨fun unit => .ok (some { id := unit }),
        fun _ => .ok [{ path := "a.jar", repository := "libs", file := "a.jar" }]⟩
    let world : World Unit := { disk := Disk.blank ["work"], remote := (), now := ⟨0, 0⟩ }
    (Command.settingsFiles settings).Pairwise world.disk.Apart ∧
      ∃ publication later, ({ settings } : Publication).publish repository info snapshot.ids snapshot
          extractor world = (.error (.publish "down"), publication, later) ∧
        (later.disk.fileAt "out/build.json").isSome = true ∧
        ∃ deeds removal, Account repository settings
          (Collection.collect settings (header settings info world.now) info.started snapshot.ids
            snapshot extractor)
          world deeds removal (.error (.publish "down")) later := by
  intro settings repository info snapshot extractor world
  have apart : (Command.settingsFiles settings).Pairwise world.disk.Apart := by decide
  have told :=
    publication_leaves_files repository settings info snapshot.ids snapshot extractor world apart
  have refused : (({ settings } : Publication).publish repository info snapshot.ids snapshot
      extractor world).1 = .error (.publish "down") := by decide +kernel
  have there : ((({ settings } : Publication).publish repository info snapshot.ids snapshot
      extractor world).2.2.disk.fileAt "out/build.json").isSome = true := by decide +kernel
  generalize ({ settings } : Publication).publish repository info snapshot.ids snapshot extractor
    world = done at told refused there ⊢
  obtain ⟨outcome, publication, later⟩ := done
  obtain ⟨deeds, removal, result, same, account⟩ := told
  simp only at refused
  subst refused
  cases result with
  | ok report => cases same
  | error failure =>
      cases same
      exact ⟨apart, publication, later, rfl, there, deeds, removal, account⟩

end Publication

end BuildLedger
