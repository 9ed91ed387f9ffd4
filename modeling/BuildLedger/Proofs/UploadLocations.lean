import BuildLedger.Http.Client
import BuildLedger.Proofs.ManifestCoverage
import BuildLedger.Proofs.UploadedBatch
import Mathlib.Data.List.TakeWhile

/-!
# Where uploads go

Filters and addresses read a path without the slashes at its start, but copies are known by the
whole text of the path. So a publication uploads to one location twice when it has two paths that
differ in those slashes alone, and for no other reason. Where no two candidates differ so, nothing is
uploaded twice.
-/
namespace BuildLedger

/-- The repository and the path in it, as filters and addresses read the path. -/
def Upload.location (upload : Upload) : String × List Char :=
  (upload.repository, Glob.relative upload.path)

/-- Two texts that differ in the number of slashes at the start, and in nothing else. -/
def SlashVariants (first second : String) : Prop :=
  ∃ (few many : Nat) (rest : List Char), few ≠ many ∧
    first.toList = List.replicate few '/' ++ rest ∧ second.toList = List.replicate many '/' ++ rest

theorem relative_of_slashes {text : String} {count : Nat} {rest : List Char}
    (spelled : text.toList = List.replicate count '/' ++ rest) :
    Glob.relative text = rest.dropWhile (· == '/') := by
  rw [Glob.relative, spelled]
  apply List.dropWhile_append_of_pos
  intro character member
  rw [List.eq_of_mem_replicate member]
  rfl

theorem slashes_before_relative (text : String) :
    ∃ count, text.toList = List.replicate count '/' ++ Glob.relative text := by
  have slashes : ∀ character ∈ text.toList.takeWhile (· == '/'), character = '/' := by
    intro character member
    simpa using List.mem_takeWhile_imp member
  refine ⟨(text.toList.takeWhile (· == '/')).length, ?_⟩
  rw [← List.eq_replicate_of_mem slashes]
  exact List.takeWhile_append_dropWhile.symm

theorem slash_variants_iff {first second : String} :
    SlashVariants first second ↔
      first ≠ second ∧ Glob.relative first = Glob.relative second := by
  constructor
  · rintro ⟨few, many, rest, different, fewer, more⟩
    constructor
    · rintro rfl
      have length := congrArg List.length (fewer.symm.trans more)
      simp only [List.length_append, List.length_replicate] at length
      omega
    · rw [relative_of_slashes fewer, relative_of_slashes more]
  · rintro ⟨different, same⟩
    obtain ⟨few, fewer⟩ := slashes_before_relative first
    obtain ⟨many, more⟩ := slashes_before_relative second
    rw [← same] at more
    refine ⟨few, many, Glob.relative first, ?_, fewer, more⟩
    -- As many slashes before the same rest are the same text.
    rintro rfl
    exact different (String.toList_inj.mp (fewer.trans more.symm))

instance (first second : String) : Decidable (SlashVariants first second) :=
  decidable_of_iff _ slash_variants_iff.symm

theorem holds_back_of_location {first second : Upload} (same : first.location = second.location)
    (filter : PathFilter) : filter.holdsBack first.path = filter.holdsBack second.path := by
  have relative : Glob.relative first.path = Glob.relative second.path := congrArg Prod.snd same
  simp only [PathFilter.holdsBack, Glob.accepts, relative]

theorem upload_url_of_location {first second : Upload} (same : first.location = second.location)
    (properties : first.properties = second.properties) (client : Http.Client) :
    client.uploadUrl first = client.uploadUrl second := by
  have relative : Glob.relative first.path = Glob.relative second.path := congrArg Prod.snd same
  have trimmed : Text.dropLeading '/' first.path = Text.dropLeading '/' second.path :=
    congrArg String.ofList relative
  have repository : first.repository = second.repository := congrArg Prod.fst same
  simp only [Http.Client.uploadUrl, repository, trimmed, properties]

theorem locations_distinct_iff {uploads : List Upload} (distinct : (uploads.map (·.path)).Nodup) :
    (uploads.map (·.location)).Nodup ↔ uploads.Pairwise fun first second =>
      first.repository = second.repository → ¬SlashVariants first.path second.path := by
  rw [List.Nodup, List.pairwise_map] at distinct ⊢
  constructor
  · intro apart
    apply apart.imp
    intro first second other repository variants
    exact other (Prod.ext repository (slash_variants_iff.mp variants).2)
  · intro apart
    apply (apart.and distinct).imp
    rintro first second ⟨plain, different⟩ same
    exact plain (congrArg Prod.fst same)
      (slash_variants_iff.mpr ⟨different, congrArg Prod.snd same⟩)

theorem chosen_is_candidate {settings : Settings} {collection : Collection} {batch : Batch}
    (batched : Batch.ofCollection settings collection = .ok batch) {upload : Upload}
    (chosen : upload ∈ batch.chosen) : upload ∈ collection.candidates := by
  have first := ((Batch.union_of_batched batched).chosen upload).mp chosen
  have accepted := List.mem_of_find?_eq_some first
  obtain ⟨offer, passed, rfl⟩ := List.mem_map.mp accepted
  exact Batch.offered_is_candidate (List.mem_filter.mp passed).1

namespace Publication

variable {State : Type}

/-- Uploads to one location are alike for every filter and every address. Of one publication no two
have the same path, and two go to one location exactly when their paths are variants. -/
theorem only_slashes_repeat_locations (repository : Repository State) (settings : Settings)
    (info : RunInfo) (graph : List UnitId) (snapshot : Snapshot) (extractor : Extractor)
    (world : World State) :
    (∀ first second : Upload, first.location = second.location →
      (∀ filter : PathFilter, filter.holdsBack first.path = filter.holdsBack second.path) ∧
      (first.properties = second.properties →
        ∀ client : Http.Client, client.uploadUrl first = client.uploadUrl second)) ∧
    ∃ calls,
      (({ settings } : Publication).publish repository info graph snapshot extractor world).2.2.calls =
        world.calls ++ calls ∧
      ((attemptedBy calls).map (·.path)).Nodup ∧
      (((attemptedBy calls).map (·.location)).Nodup ↔
        (attemptedBy calls).Pairwise fun first second =>
          first.repository = second.repository → ¬SlashVariants first.path second.path) ∧
      ∀ collection, Collection.collect settings (header settings info world.now) info.started graph
          snapshot extractor = .ok collection →
        (∀ first ∈ collection.candidates, ∀ second ∈ collection.candidates,
          ¬SlashVariants first.path second.path) →
        ((attemptedBy calls).map (·.location)).Nodup := by
  constructor
  · intro first second same
    exact ⟨holds_back_of_location same, upload_url_of_location same⟩
  · rcases done : ({ settings } : Publication).publish repository info graph snapshot extractor
      world with ⟨outcome, publication, later⟩
    obtain ⟨calls, told, uploads⟩ := publish_uploads done
    have distinct : ((attemptedBy calls).map (·.path)).Nodup := by
      rcases uploads with none | ⟨collection, batch, _, batched, first⟩
      · rw [none]
        exact List.nodup_nil
      · exact (batch_paths_distinct batched).sublist (first.sublist.map _)
    refine ⟨calls, told, distinct, locations_distinct_iff distinct, ?_⟩
    intro collection collected plain
    have wanted : ∀ upload ∈ attemptedBy calls, upload ∈ collection.candidates := by
      intro upload attempted
      rcases uploads with none | ⟨other, batch, found, batched, first⟩
      · rw [none] at attempted
        cases attempted
      · rw [collected] at found
        cases found
        exact chosen_is_candidate batched (first.mem attempted)
    apply (locations_distinct_iff distinct).mpr
    apply List.pairwise_of_forall_mem_list
    intro first member second inside _
    exact plain first (wanted first member) second (wanted second inside)

/-- Two units want one path with a slash before it, which is one location for one upload. -/
theorem plain_paths_keep_apart :
    let upload := fun path : String => ({ path, repository := "libs", file := path } : Upload)
    let settings : Settings := { publisher := { contextUrl := some "http://repository" } }
    let snapshot : Snapshot := [⟨"a", true, true⟩, ⟨"b", true, true⟩]
    let extractor : Extractor :=
      ⟨fun unit => .ok (some { id := unit }),
        fun unit => .ok [upload "/lib.jar", upload (unit ++ ".jar")]⟩
    let world : World Unit := { disk := Disk.blank ["work"], remote := (), now := ⟨0, 0⟩ }
    let record := header settings ⟨"root", ⟨0, 0⟩⟩ world.now
    let sent := fun path => (upload path).withDefaults (Collection.runProperties record ⟨0, 0⟩)
    let collection : Collection := {
      record := { record with modules := [{ id := "a" }, { id := "b" }] }
      units := [⟨"a", [sent "/lib.jar", sent "a.jar"]⟩, ⟨"b", [sent "/lib.jar", sent "b.jar"]⟩] }
    Collection.collect settings record ⟨0, 0⟩ snapshot.ids snapshot extractor = .ok collection ∧
      (∀ first ∈ collection.candidates, ∀ second ∈ collection.candidates,
        ¬SlashVariants first.path second.path) ∧
      ∃ calls,
        (({ settings } : Publication).publish .willing ⟨"root", ⟨0, 0⟩⟩ snapshot.ids snapshot
          extractor world).2.2.calls = calls ∧
        (attemptedBy calls).length = 3 ∧ ((attemptedBy calls).map (·.location)).Nodup := by
  intro upload settings snapshot extractor world record sent collection
  have collected : Collection.collect settings record ⟨0, 0⟩ snapshot.ids snapshot extractor =
      .ok collection := by decide +kernel
  have plain : ∀ first ∈ collection.candidates, ∀ second ∈ collection.candidates,
      ¬SlashVariants first.path second.path := by decide +kernel
  have count : (attemptedBy (({ settings } : Publication).publish .willing ⟨"root", ⟨0, 0⟩⟩
      snapshot.ids snapshot extractor world).2.2.calls).length = 3 := by decide +kernel
  obtain ⟨_, calls, told, _, _, apart⟩ := only_slashes_repeat_locations .willing settings
    ⟨"root", ⟨0, 0⟩⟩ snapshot.ids snapshot extractor world
  rw [told] at count
  exact ⟨collected, plain, calls, told, count, apart collection collected plain⟩

/-- Both spellings of a path are uploaded, the second over the first. -/
theorem spellings_share_location :
    let upload := fun path : String => ({ path, repository := "libs", file := path } : Upload)
    let settings : Settings := { publisher := { contextUrl := some "http://repository" } }
    let snapshot : Snapshot := [⟨"a", true, true⟩]
    let extractor : Extractor :=
      ⟨fun unit => .ok (some { id := unit }), fun _ => .ok [upload "lib.jar", upload "/lib.jar"]⟩
    let world : World Unit := { disk := Disk.blank ["work"], remote := (), now := ⟨0, 0⟩ }
    let uploads := attemptedBy (({ settings } : Publication).publish .willing ⟨"root", ⟨0, 0⟩⟩
      snapshot.ids snapshot extractor world).2.2.calls
    uploads.map (·.path) = ["lib.jar", "/lib.jar"] ∧
      uploads.map (·.location) = List.replicate 2 ("libs", "lib.jar".toList) ∧
      ¬(uploads.map (·.location)).Nodup := by
  decide +kernel

end Publication

end BuildLedger
