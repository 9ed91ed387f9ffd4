import BuildLedger.Proofs.Exchanges
import BuildLedger.Proofs.UntouchedFiles
import Mathlib.Data.List.Basic

/-!
# Calls and files in one order

What a publication does to a world is a list of deeds: calls with their answers, writes and removals
with their results, in the order in which they happen. After a list of deeds that concern different
files, a file has the text of the write that succeeded, or is gone after the removal that succeeded,
or is as it was.
-/
namespace BuildLedger

variable {State : Type}

/-- One change of a world, and how it ended. -/
inductive Deed where
  | said (call : Call) (answer : Except Failure Unit)
  | wrote (path : Path) (text : String) (result : Except DiskError Unit)
  | removed (path : Path) (result : Except DiskError Bool)

namespace Deed

/-- The file that a deed is about. -/
def path? : Deed → Option Path
  | .said _ _ => none
  | .wrote path _ _ | .removed path _ => some path

/-- The deed happens in the first world and leaves the second. -/
def Leads (repository : Repository State) (settings : Settings) (before after : World State) :
    Deed → Prop
  | .said call answer =>
      before.call call (repository.react settings before.disk before.now call) = (answer, after)
  | .wrote path text result =>
      before.onDisk (Disk.writeAtomically path text.toUTF8) = (result, after)
  | .removed path result => before.onDisk (Disk.removeIfPresent path) = (result, after)

/-- A write or removal that succeeds at a path. -/
inductive Changes (path : Path) : Deed → Prop
  | wrote (text : String) : Changes path (.wrote path text (.ok ()))
  | removed : Changes path (.removed path (.ok true))

end Deed

/-- Deeds that happen one after the other, from a first world to a last. -/
inductive Deeds (repository : Repository State) (settings : Settings) :
    World State → List Deed → World State → Prop
  | nothing (world : World State) : Deeds repository settings world [] world
  | deed {before middle last : World State} {deed : Deed} {rest : List Deed}
      (first : deed.Leads repository settings before middle)
      (others : Deeds repository settings middle rest last) :
      Deeds repository settings before (deed :: rest) last

variable {repository : Repository State} {settings : Settings}

theorem deeds_append {first middle last : World State} {earlier later : List Deed}
    (before : Deeds repository settings first earlier middle)
    (after : Deeds repository settings middle later last) :
    Deeds repository settings first (earlier ++ later) last := by
  induction before with
  | nothing world => exact after
  | deed step _ ih => exact .deed step (ih after)

theorem deeds_single {before after : World State} {deed : Deed}
    (step : deed.Leads repository settings before after) :
    Deeds repository settings before [deed] after :=
  .deed step (.nothing after)

theorem deeds_split {first last : World State} {earlier later : List Deed}
    (deeds : Deeds repository settings first (earlier ++ later) last) :
    ∃ middle, Deeds repository settings first earlier middle ∧
      Deeds repository settings middle later last := by
  induction earlier generalizing first with
  | nil => exact ⟨first, .nothing first, deeds⟩
  | cons deed rest ih =>
      cases deeds with
      | deed step others =>
          obtain ⟨middle, before, after⟩ := ih others
          exact ⟨middle, .deed step before, after⟩

/-- An exchange as a deed. -/
def Deed.ofExchange (exchange : Exchange) : Deed := .said exchange.1 exchange.2

/-- A talk during which no file changes is a list of deeds. -/
theorem deeds_of_talks {world later : World State} {talk : List Exchange}
    (talks : Talks (repository.react settings world.disk world.now) world talk later)
    (disk : later.disk = world.disk) :
    Deeds repository settings world (talk.map Deed.ofExchange) later := by
  obtain ⟨answered, noted, meanwhile⟩ := talks
  obtain ⟨laterDisk, laterRemote, laterCalls, laterNow⟩ := later
  obtain ⟨worldDisk, worldRemote, worldCalls, worldNow⟩ := world
  simp only at answered noted meanwhile disk
  subst noted meanwhile disk
  induction talk generalizing worldRemote worldCalls with
  | nil =>
      cases answered
      simp only [List.map_nil, List.append_nil]
      exact .nothing _
  | cons exchange rest ih =>
      cases answered with
      | @call _ _ _ call _ _ answer others =>
          have tail := ih _ (worldCalls ++ [call]) others
          rw [List.append_assoc] at tail
          refine .deed ?_ tail
          simp only [Deed.Leads, Deed.ofExchange, World.call, answer]

/-! ## Files -/

theorem leads_current {before after : World State} {deed : Deed}
    (step : deed.Leads repository settings before after) :
    after.disk.current = before.disk.current := by
  cases deed with
  | said call answer =>
      simp only [Deed.Leads, World.call] at step
      cases step
      rfl
  | wrote path text result =>
      simp only [Deed.Leads, World.onDisk] at step
      cases step
      exact (Disk.write_changes (Prod.eta _).symm).1
  | removed path result =>
      simp only [Deed.Leads, World.onDisk] at step
      cases step
      exact (Disk.remove_cases (Prod.eta _).symm).1

theorem deeds_current {before after : World State} {deeds : List Deed}
    (done : Deeds repository settings before deeds after) :
    after.disk.current = before.disk.current := by
  induction done with
  | nothing world => rfl
  | deed step _ ih => exact ih.trans (leads_current step)

theorem goal_kept {before after : Disk} (current : after.current = before.current) (path : Path) :
    after.goal path = before.goal path := by
  simp only [Disk.goal, current]

theorem apart_kept {before after : Disk} (current : after.current = before.current)
    {left right : Path} (apart : before.Apart left right) : after.Apart left right := by
  simpa only [Disk.Apart, goal_kept current] using apart

theorem apart_symm {disk : Disk} {left right : Path} (apart : disk.Apart left right) :
    disk.Apart right left :=
  fun same => apart same.symm

instance (disk : Disk) : Std.Symm disk.Apart := ⟨fun _ _ apart => apart_symm apart⟩

theorem spares_trans {first middle last : Disk} {key : String} (before : first.Spares middle key)
    (after : middle.Spares last key) : first.Spares last key := by
  rcases before with same | fresh
  · rcases after with kept | ⟨missing, scratch⟩
    · exact Or.inl (kept.trans same)
    · exact Or.inr ⟨same.symm.trans missing, scratch⟩
  · exact Or.inr fresh

/-- A deed that writes nothing and removes only files apart from a path changes nothing there. -/
theorem leads_same {before after : World State} {deed : Deed} {path : Path}
    (step : deed.Leads repository settings before after)
    (unwritten : ∀ target text result, deed ≠ .wrote target text result)
    (others : ∀ target, deed.Changes target → before.disk.Apart target path) :
    after.disk.files.get? (before.disk.goal path).key =
      before.disk.files.get? (before.disk.goal path).key := by
  cases deed with
  | said call answer =>
      simp only [Deed.Leads, World.call] at step
      cases step
      rfl
  | wrote target text result => exact absurd rfl (unwritten target text result)
  | removed target result =>
      simp only [Deed.Leads, World.onDisk] at step
      cases step
      rcases (Disk.remove_cases (Prod.eta _).symm).2.2 with ⟨done, _, erased⟩ | ⟨_, kept, _⟩
      · have apart : before.disk.Apart target path := by
          apply others target
          rw [done]
          exact .removed
        rw [erased, Keyed.get_erase, if_neg apart]
      · rw [kept]

/-- A deed that changes only files apart from a path spares the file there. -/
theorem leads_spares {before after : World State} {deed : Deed} {path : Path}
    (step : deed.Leads repository settings before after)
    (others : ∀ target, deed.Changes target → before.disk.Apart target path) :
    before.disk.Spares after.disk (before.disk.goal path).key := by
  cases deed with
  | said call answer => exact Or.inl (leads_same step (by simp) others)
  | removed target result => exact Or.inl (leads_same step (by simp) others)
  | wrote target text result =>
      simp only [Deed.Leads, World.onDisk] at step
      cases step
      rcases (Disk.write_changes (Prod.eta _).symm).2 with ⟨done, _, kept⟩ | ⟨_, spares⟩
      · left
        apply kept
        refine apart_symm (others target ?_)
        rw [done]
        exact .wrote text
      · exact spares _

theorem deeds_same {before after : World State} {deeds : List Deed} {path : Path}
    (done : Deeds repository settings before deeds after)
    (unwritten : ∀ target text result, Deed.wrote target text result ∉ deeds)
    (others : ∀ deed ∈ deeds, ∀ target, deed.Changes target → before.disk.Apart target path) :
    after.disk.fileAt path = before.disk.fileAt path := by
  induction done with
  | nothing world => rfl
  | deed step _ ih =>
      have current := leads_current step
      have first := leads_same step
        (fun target text result same => unwritten target text result (by simp [same]))
        (others _ List.mem_cons_self)
      have rest := ih
        (fun target text result member =>
          unwritten target text result (List.mem_cons_of_mem _ member))
        (fun deed member target changes =>
          apart_kept current (others deed (List.mem_cons_of_mem _ member) target changes))
      rw [rest]
      unfold Disk.fileAt
      rw [goal_kept current]
      exact first

theorem deeds_spare {before after : World State} {deeds : List Deed} {path : Path}
    (done : Deeds repository settings before deeds after)
    (others : ∀ deed ∈ deeds, ∀ target, deed.Changes target → before.disk.Apart target path) :
    before.disk.Spares after.disk (before.disk.goal path).key := by
  induction done with
  | nothing world => exact Or.inl rfl
  | deed step _ ih =>
      have first := leads_spares step (others _ List.mem_cons_self)
      have current := leads_current step
      have rest := ih fun deed member target changes =>
        apart_kept current (others deed (List.mem_cons_of_mem _ member) target changes)
      rw [goal_kept current] at rest
      exact spares_trans first rest

/-- A file that is there stays as it is when later deeds change only files apart from it. -/
theorem deeds_keep {before after : World State} {deeds : List Deed} {path : Path}
    {content : ByteArray} (done : Deeds repository settings before deeds after)
    (others : ∀ deed ∈ deeds, ∀ target, deed.Changes target → before.disk.Apart target path)
    (held : before.disk.fileAt path = some content) : after.disk.fileAt path = some content := by
  unfold Disk.fileAt at held ⊢
  rw [goal_kept (deeds_current done)]
  rcases deeds_spare done others with same | ⟨missing, _⟩
  · exact same.trans held
  · exact absurd (missing.symm.trans held) (by simp)

theorem leads_wrote {before after : World State} {path : Path} {text : String}
    (step : (Deed.wrote path text (.ok ())).Leads repository settings before after) :
    after.disk.fileAt path = some text.toUTF8 := by
  rcases done : before.disk.writeAtomically path text.toUTF8 with ⟨result, disk⟩
  simp only [Deed.Leads, World.onDisk, done, Prod.mk.injEq] at step
  obtain ⟨rfl, rfl⟩ := step
  rcases (Disk.write_changes done).2 with ⟨_, holds, _⟩ | ⟨⟨_, failed⟩, _⟩
  · exact holds
  · cases failed

theorem leads_removed {before after : World State} {path : Path}
    (step : (Deed.removed path (.ok true)).Leads repository settings before after) :
    after.disk.fileAt path = none := by
  rcases done : before.disk.removeIfPresent path with ⟨result, disk⟩
  simp only [Deed.Leads, World.onDisk, done, Prod.mk.injEq] at step
  obtain ⟨rfl, rfl⟩ := step
  obtain ⟨current, _, ⟨_, _, erased⟩ | ⟨failed, _⟩⟩ := Disk.remove_cases done
  · simp only [Disk.fileAt, goal_kept current, Disk.file?, erased, Keyed.get_erase, if_true]
  · exact absurd rfl failed

theorem changes_path {deed : Deed} {path : Path} (changes : deed.Changes path) :
    deed.path? = some path := by
  cases changes <;> rfl

/-- Where deeds concern different files, a file holds what was written to it. -/
theorem deeds_wrote {before after : World State} {deeds : List Deed} {path : Path} {text : String}
    (done : Deeds repository settings before deeds after)
    (apart : (deeds.filterMap Deed.path?).Pairwise before.disk.Apart)
    (wrote : Deed.wrote path text (.ok ()) ∈ deeds) :
    after.disk.fileAt path = some text.toUTF8 := by
  obtain ⟨earlier, later, rfl⟩ := List.append_of_mem wrote
  obtain ⟨middle, first, last⟩ := deeds_split done
  rw [List.filterMap_append, List.filterMap_cons] at apart
  have rest := (List.pairwise_cons.mp (List.pairwise_append.mp apart).2.1).1
  have current := deeds_current first
  cases last with
  | deed step others =>
      refine deeds_keep others ?_ (leads_wrote step)
      intro deed member target changes
      apply apart_kept ((leads_current step).trans current)
      apply apart_symm
      exact rest target (List.mem_filterMap.mpr ⟨deed, member, changes_path changes⟩)

end BuildLedger
