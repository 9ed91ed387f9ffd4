import BuildLedger.Plan
import BuildLedger.Proofs.ExactCollection
import BuildLedger.Proofs.FileEffects
import BuildLedger.Proofs.TrackerHistory
import Mathlib.Data.List.Nodup

/-!
# The host of a planned run

The units of a plan end in its order. Where units share a name, the host keeps all that is known of
the name at the first of them: whether it ended, and whether the latest one that ended did work. So
a name is finished once any unit of that name ended, and what the tracker still misses are the
entries whose name has not appeared.
-/
namespace BuildLedger

namespace Snapshot

theorem finish_ids (snapshot : Snapshot) (id : UnitId) (didWork : Bool) :
    (snapshot.finish id didWork).ids = snapshot.ids := by
  induction snapshot with
  | nil => rfl
  | cons status rest ih =>
      unfold finish
      split
      · next same => simp [ids, same]
      · simpa [ids] using ih

theorem finish_lookup (snapshot : Snapshot) (id : UnitId) (didWork : Bool) (other : UnitId) :
    (snapshot.finish id didWork).lookup other =
      if other = id then (snapshot.lookup id).map fun _ => ⟨id, didWork, true⟩
      else snapshot.lookup other := by
  induction snapshot with
  | nil => simp [finish, lookup]
  | cons status rest ih =>
      unfold lookup at ih ⊢
      unfold finish
      by_cases same : status.id = id
      · rw [if_pos same]
        by_cases asked : other = id
        · simp [asked, same]
        · have missed : id ≠ other := fun equal => asked equal.symm
          simp [asked, same, missed]
      · rw [if_neg same]
        by_cases asked : status.id = other
        · have missed : other ≠ id := fun equal => same (asked.trans equal)
          simp [asked, missed]
        · simp [asked, same, ih]

end Snapshot

namespace Plan

/-- The names of all entries, in order and with repetitions. -/
def names (plan : Plan) : List UnitId := plan.entries.map (·.id)

/-- The host's snapshot when some entries have ended. -/
def shown (plan : Plan) (ended : List Entry) : Snapshot :=
  ended.foldl (fun snapshot entry => entry.finish snapshot) plan.start

/-- Of some entries the last one with a name. -/
def latest (entries : List Entry) (id : UnitId) : Option Entry :=
  entries.reverse.find? fun entry => entry.id == id

/-- The entries whose name is not among those that ended. -/
def missing (plan : Plan) (ended : List Entry) : List UnitId :=
  plan.names.filter fun id => id ∉ ended.map (·.id)

variable {plan : Plan} {ended : List Entry} {id : UnitId}

theorem shown_snoc (plan : Plan) (ended : List Entry) (entry : Entry) :
    plan.shown (ended ++ [entry]) = entry.finish (plan.shown ended) := by
  simp only [shown, List.foldl_append, List.foldl_cons, List.foldl_nil]

theorem shown_ids (plan : Plan) (ended : List Entry) : (plan.shown ended).ids = plan.names := by
  induction ended using List.reverseRecOn with
  | nil => simp [shown, start, Snapshot.ids, names, UnitStatus.pending, Function.comp_def]
  | append_singleton ended entry ih =>
      rw [shown_snoc, Entry.finish, Snapshot.finish_ids]
      exact ih

theorem latest_snoc (entries : List Entry) (entry : Entry) (id : UnitId) :
    latest (entries ++ [entry]) id = if entry.id = id then some entry else latest entries id := by
  unfold latest
  rw [List.reverse_append]
  by_cases same : entry.id = id
  · simp [same]
  · simp [same]

theorem latest_none_iff : latest ended id = none ↔ id ∉ ended.map (·.id) := by
  simp only [latest, List.find?_eq_none, List.mem_reverse, beq_iff_eq, List.mem_map, not_exists,
    not_and]

theorem latest_mem {entry : Entry} (found : latest ended id = some entry) :
    entry ∈ ended ∧ entry.id = id := by
  have member := List.mem_of_find?_eq_some found
  have named := List.find?_some found
  exact ⟨List.mem_reverse.mp member, by simpa using named⟩

/-- What the host knows of a name, by the latest entry of that name. -/
def statusOf (ended : List Entry) (id : UnitId) : UnitStatus :=
  match latest ended id with
  | some entry => ⟨id, entry.didWork, true⟩
  | none => .pending id

theorem shown_lookup (known : id ∈ plan.names) (ended : List Entry) :
    (plan.shown ended).lookup id = some (statusOf ended id) := by
  induction ended using List.reverseRecOn with
  | nil =>
      obtain ⟨entry, member, rfl⟩ := List.mem_map.mp known
      have found : ((plan.start).lookup entry.id).isSome = true := by
        rw [Snapshot.lookup, List.find?_isSome]
        exact ⟨.pending entry.id, List.mem_map.mpr ⟨entry, member, rfl⟩,
          by simp [UnitStatus.pending]⟩
      obtain ⟨status, found⟩ := Option.isSome_iff_exists.mp found
      have inside := List.mem_of_find?_eq_some found
      have named := List.find?_some found
      obtain ⟨other, _, rfl⟩ := List.mem_map.mp inside
      have same : other.id = entry.id := by simpa [UnitStatus.pending] using named
      rw [same] at found
      exact found
  | append_singleton ended entry ih =>
      rw [shown_snoc, Entry.finish, Snapshot.finish_lookup]
      unfold statusOf at ih ⊢
      rw [latest_snoc]
      by_cases same : id = entry.id
      · subst same
        simp [ih]
      · have other : entry.id ≠ id := fun equal => same equal.symm
        simp [same, other, ih]

theorem shown_finished_iff (known : id ∈ plan.names) (ended : List Entry) :
    (plan.shown ended).FirstFinished id ↔ id ∈ ended.map (·.id) := by
  rw [← Snapshot.shows_finished_iff, Snapshot.showsFinished, shown_lookup known]
  unfold statusOf
  cases found : latest ended id with
  | none => simpa [UnitStatus.pending] using latest_none_iff.mp found
  | some entry =>
      obtain ⟨member, rfl⟩ := latest_mem found
      simpa using ⟨entry, member, rfl⟩

/-- A name did work if the latest entry of that name did. -/
def worksLatest (ended : List Entry) (id : UnitId) : Bool := (latest ended id).any (·.didWork)

theorem shown_worked (plan : Plan) (ended : List Entry) :
    (plan.shown ended).worked plan.names = plan.names.filter (worksLatest ended) := by
  apply List.filter_congr
  intro id known
  rw [Snapshot.showsWork, shown_lookup known]
  unfold statusOf worksLatest
  cases latest ended id <;> rfl

theorem worked_entries (plan : Plan) (ended : List Entry) :
    (plan.shown ended).worked plan.names =
      (plan.entries.filter fun entry => worksLatest ended entry.id).map (·.id) := by
  rw [shown_worked, names, List.filter_map]
  rfl

/-! ## Names of a single entry -/

/-- No other entry has the name of this one. -/
def Single (plan : Plan) (entry : Entry) : Prop :=
  ∀ other ∈ plan.entries, other.id = entry.id → other = entry

theorem latest_of_single {entry : Entry} (single : plan.Single entry)
    (inside : ∀ other ∈ ended, other ∈ plan.entries) (named : entry.id ∈ ended.map (·.id)) :
    latest ended entry.id = some entry := by
  cases found : latest ended entry.id with
  | none => exact absurd named (latest_none_iff.mp found)
  | some other =>
      obtain ⟨member, same⟩ := latest_mem found
      rw [single other (inside other member) same]

theorem single_of_distinct {entry : Entry} (distinct : plan.names.Nodup)
    (member : entry ∈ plan.entries) : plan.Single entry := by
  intro other inside same
  exact List.inj_on_of_nodup_map distinct inside member same

theorem latest_of_distinct {entry : Entry} (distinct : plan.names.Nodup)
    (member : entry ∈ plan.entries) : latest plan.entries entry.id = some entry :=
  latest_of_single (single_of_distinct distinct member) (fun _ inside => inside)
    (List.mem_map.mpr ⟨entry, member, rfl⟩)

/-- With distinct names an entry works if it says so. -/
theorem working_of_distinct (distinct : plan.names.Nodup) :
    (plan.entries.filter fun entry => worksLatest plan.entries entry.id) =
      plan.entries.filter (·.didWork) := by
  apply List.filter_congr
  intro entry member
  simp only [worksLatest, latest_of_distinct distinct member, Option.any_some]

/-! ## Missing names -/

theorem mem_missing : id ∈ plan.missing ended ↔ id ∈ plan.names ∧ id ∉ ended.map (·.id) := by
  simp [missing]

theorem missing_all (plan : Plan) : plan.missing plan.entries = [] := by
  rw [List.eq_nil_iff_forall_not_mem]
  intro id member
  obtain ⟨known, absent⟩ := mem_missing.mp member
  exact absent known

theorem missing_nothing (plan : Plan) : plan.missing [] = plan.names := by
  simp [missing]

theorem named_of_missing (all : plan.missing ended = []) (known : id ∈ plan.names) :
    id ∈ ended.map (·.id) := by
  by_contra absent
  have member := mem_missing.mpr ⟨known, absent⟩
  rw [all] at member
  cases member

/-- Where nothing is missing any more, the entry that just ended was the first of its name. -/
theorem fresh_of_missing {entry : Entry} (before : plan.missing ended ≠ [])
    (after : plan.missing (ended ++ [entry]) = []) : entry.id ∉ ended.map (·.id) := by
  obtain ⟨id, member⟩ := List.exists_mem_of_ne_nil _ before
  obtain ⟨known, absent⟩ := mem_missing.mp member
  have ends := named_of_missing after known
  rw [List.map_append, List.mem_append] at ends
  rcases ends with earlier | last
  · exact absurd earlier absent
  · have same : id = entry.id := by simpa using last
    rw [← same]
    exact absent

/-! ## The modules of the record -/

/-- A module of the record is the one that an entry describes, with the files that the entry names
as they are on a disk. -/
def Describes (disk : Disk) (base : Path) (entry : Entry) (found : Module) : Prop :=
  ∃ part, entry.part = some part ∧ found.id = part.id ∧ found.dependencies = part.dependencies ∧
    entry.products.mapM (Product.artifact · disk base) = .ok found.artifacts

theorem entry_latest (plan : Plan) (id : UnitId) : plan.entry? id = latest plan.entries id := rfl

theorem module_described {disk : Disk} {base : Path} {bare : Module}
    (told : plan.moduleOf disk base id = .ok (some bare)) :
    ∃ entry, plan.entry? id = some entry ∧ Describes disk base entry bare := by
  unfold moduleOf at told
  cases found : plan.entry? id with
  | none =>
      rw [found] at told
      cases told
  | some entry =>
      rw [found] at told
      simp only at told
      cases described : entry.part with
      | none =>
          rw [described] at told
          cases told
      | some part =>
          rw [described] at told
          simp only at told
          cases made : entry.products.mapM (Product.artifact · disk base) with
          | error failure =>
              rw [made] at told
              cases told
          | ok artifacts =>
              rw [made] at told
              cases told
              exact ⟨entry, rfl, part, described, rfl, rfl, made⟩

/-- The record of a run that publishes when some entries have ended has a module for each entry
whose name did work by then, and it is the one that the last entry of that name describes. -/
theorem published_modules {State : Type} {repository : Repository State} {settings : Settings}
    {info : RunInfo} {disk : Disk} {base : Path} {key : Option String} {world : World State}
    {report : Report}
    (published : (({ settings } : Publication).publish repository info plan.names
      (plan.shown ended) (plan.extractor disk base key) world).1 = .ok (some report)) :
    List.Forall₂ (fun entry found => ∃ teller, plan.entry? entry.id = some teller ∧
        Describes disk base teller found)
      (plan.entries.filter fun entry => worksLatest ended entry.id) report.record.modules := by
  obtain ⟨collection, collected, record⟩ := Publication.published_record published
  have modules := Collection.collect_modules collected
  rw [worked_entries, List.forall₂_map_left_iff] at modules
  rw [record]
  refine modules.imp ?_
  rintro entry found ⟨bare, offered, tells, resolved⟩
  obtain ⟨teller, asked, part, described, id, dependencies, artifacts⟩ := module_described tells.1
  rw [resolved.kept]
  exact ⟨teller, asked, part, described, id, dependencies, artifacts⟩

end Plan

end BuildLedger
