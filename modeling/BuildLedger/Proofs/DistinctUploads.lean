import BuildLedger.Proofs.Conversation
import Mathlib.Data.List.Nodup

/-!
# No path is uploaded twice

The batch keeps one upload of each path. A conversation attempts every upload of the batch at most
once, so one conversation connects, sends and closes at most once each, and uploads each path at
most once.
-/
namespace BuildLedger

namespace Collection

/-- No path is kept twice, and none that was seen before. -/
theorem first_by_path_distinct (seen : List String) (uploads : List Upload) :
    ((firstByPath seen uploads).map (·.path)).Nodup ∧
      ∀ upload ∈ firstByPath seen uploads, upload.path ∉ seen := by
  induction uploads generalizing seen with
  | nil => simp [firstByPath]
  | cons upload rest ih =>
      unfold firstByPath
      by_cases known : seen.contains upload.path = true
      · rw [if_pos known]
        exact ih seen
      · rw [if_neg known]
        have fresh : upload.path ∉ seen := by simpa using known
        obtain ⟨distinct, unseen⟩ := ih (upload.path :: seen)
        constructor
        · rw [List.map_cons, List.nodup_cons]
          constructor
          · intro member
            obtain ⟨copy, inside, same⟩ := List.mem_map.mp member
            apply unseen copy inside
            rw [same]
            exact List.mem_cons_self
          · exact distinct
        · intro other member
          rcases List.mem_cons.mp member with same | inside
          · rw [same]
            exact fresh
          · intro old
            exact unseen other inside (List.mem_cons_of_mem _ old)

end Collection

theorem batch_paths_distinct {settings : Settings} {collection : Collection} {batch : Batch}
    (batched : Batch.ofCollection settings collection = .ok batch) :
    (batch.chosen.map (·.path)).Nodup := by
  unfold Batch.ofCollection at batched
  split at batched
  · cases batched
  · cases batched
    exact (Collection.first_by_path_distinct [] _).1

namespace Call

def isConnect : Call → Bool
  | .connect _ => true
  | _ => false

/-- A call that sends a record, to add to one that is there or as a whole. -/
def isSend : Call → Bool
  | .append _ | .send _ _ => true
  | _ => false

def isClose : Call → Bool
  | .close => true
  | _ => false

def isDeployOf (path : String) : Call → Bool
  | .deploy upload => upload.path == path
  | _ => false

end Call

/-- Each kind of call at most once, and for uploads at most once for each path. -/
structure OnceEach (calls : List Call) : Prop where
  connects : calls.countP Call.isConnect ≤ 1
  sends : calls.countP Call.isSend ≤ 1
  closes : calls.countP Call.isClose ≤ 1
  deploys : ∀ path, calls.countP (Call.isDeployOf path) ≤ 1

theorem once_each_of_sublist {fewer calls : List Call} (sublist : fewer.Sublist calls)
    (once : OnceEach calls) : OnceEach fewer where
  connects := Nat.le_trans sublist.countP_le once.connects
  sends := Nat.le_trans sublist.countP_le once.sends
  closes := Nat.le_trans sublist.countP_le once.closes
  deploys := fun path => Nat.le_trans sublist.countP_le (once.deploys path)

theorem once_each_nil : OnceEach [] where
  connects := Nat.zero_le 1
  sends := Nat.zero_le 1
  closes := Nat.zero_le 1
  deploys := fun _ => Nat.zero_le 1

theorem count_of_deploys (kind : Call → Bool) (other : ∀ upload, kind (.deploy upload) = false)
    (uploads : List Upload) : (uploads.map Call.deploy).countP kind = 0 := by
  rw [List.countP_eq_zero]
  intro call member
  obtain ⟨upload, _, same⟩ := List.mem_map.mp member
  rw [← same, other upload]
  decide

theorem count_of_deploys_of (path : String) (uploads : List Upload) :
    (uploads.map Call.deploy).countP (Call.isDeployOf path) =
      (uploads.map (·.path)).count path := by
  rw [List.countP_map, List.count, List.countP_map]
  rfl

theorem record_call_kind (settings : Settings) (record : Record) :
    let call := Publication.recordCall settings record
    call.isConnect = false ∧ call.isSend = true ∧ call.isClose = false ∧
      ∀ path, call.isDeployOf path = false := by
  intro call
  simp only [call, Publication.recordCall]
  split <;> exact ⟨rfl, rfl, rfl, fun _ => rfl⟩

/-- The longest conversation there is: connect, upload a whole batch, send, close. -/
theorem once_each_of_whole {uploads : List Upload} (endpoint : Endpoint) (settings : Settings)
    (record : Record) (distinct : (uploads.map (·.path)).Nodup) :
    OnceEach (.connect endpoint :: (uploads.map .deploy ++
      [Publication.recordCall settings record, .close])) := by
  have connects := count_of_deploys Call.isConnect (fun _ => rfl) uploads
  have sends := count_of_deploys Call.isSend (fun _ => rfl) uploads
  have closes := count_of_deploys Call.isClose (fun _ => rfl) uploads
  obtain ⟨noConnect, isSend, noClose, noDeploy⟩ := record_call_kind settings record
  constructor
  · simp only [List.countP_cons, List.countP_append, List.countP_nil, connects, noConnect]
    exact Nat.le_refl 1
  · simp only [List.countP_cons, List.countP_append, List.countP_nil, sends, isSend]
    exact Nat.le_refl 1
  · simp only [List.countP_cons, List.countP_append, List.countP_nil, closes, noClose]
    exact Nat.le_refl 1
  · intro path
    have single := List.nodup_iff_count_le_one.mp distinct path
    simp only [List.countP_cons, List.countP_append, List.countP_nil, count_of_deploys_of, noDeploy]
    exact single

namespace Publication

variable {settings : Settings} {disk : Disk} {collection : Collection} {talk : List Exchange}
  {result : Except Failure Report}

/-- Every session is a part of the longest one, in the same order. -/
theorem session_sublist (session : Session settings collection disk talk result) :
    ∃ uploads : List Upload, (uploads.map (·.path)).Nodup ∧
      (talk.map Prod.fst).Sublist
        (uploads.map .deploy ++ [recordCall settings collection.record, .close]) := by
  have last : [Call.close].Sublist [recordCall settings collection.record, .close] :=
    List.sublist_cons_self _ _
  cases session with
  | unbatched refused =>
      exact ⟨[], List.nodup_nil, last⟩
  | @aborted batch before rest upload failure closing batched policy order =>
      refine ⟨batch.chosen, batch_paths_distinct batched, ?_⟩
      have attempted : ((before ++ [upload]).map Call.deploy).Sublist
          (batch.chosen.map Call.deploy) := by
        rw [order, List.append_cons before upload rest]
        exact (List.sublist_append_left _ _).map _
      have words := attempted.append last
      simp only [List.map_append, List.map_map, List.map_cons, List.map_nil, List.append_assoc]
        at words ⊢
      exact words
  | unsent batched order policy held told =>
      refine ⟨_, batch_paths_distinct batched, ?_⟩
      rw [List.map_append, order]
      exact (List.Sublist.refl _).append last
  | sent batched order policy sendable told =>
      refine ⟨_, batch_paths_distinct batched, ?_⟩
      rw [List.map_append, order]
      exact List.Sublist.refl _

theorem conversation_once_each {collected : Except Failure Collection}
    (conversation : Conversation settings collected disk talk result) :
    OnceEach (talk.map Prod.fst) := by
  cases conversation with
  | silent nothing told => exact once_each_nil
  | refused something address =>
      constructor <;> simp [Call.isConnect, Call.isSend, Call.isClose, Call.isDeployOf]
  | @held endpoint collection talk _ something address found session =>
      obtain ⟨uploads, distinct, sublist⟩ := session_sublist session
      exact once_each_of_sublist (sublist.cons_cons _)
        (once_each_of_whole endpoint settings collection.record distinct)

end Publication

end BuildLedger
