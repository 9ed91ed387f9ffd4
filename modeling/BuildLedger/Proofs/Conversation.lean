import BuildLedger.Proofs.Exchanges
import Mathlib.Logic.Basic

/-!
# The conversation of a publication

One publication says nothing to the repository, or connects in vain, or holds one session. A session
uploads the batch in order, sends the record at most once, and closes as its last word. What a
session says is decided by the batch, the policy, the switch for the record and the file that comes
before sending; it is said here as a grammar of exchanges, and every publication follows it.
-/
namespace BuildLedger

variable {State : Type}

namespace Publication

/-- The file that comes before sending is not asked for, or it was written. -/
def ExportSaved (settings : Settings) (record : Record) (disk : Disk) : Prop :=
  ∀ path, settings.build.exportFile = some path → (record.save path disk).1 = .ok ()

def Sendable (settings : Settings) (record : Record) (disk : Disk) : Prop :=
  settings.publisher.publishBuildInfo = true ∧ ExportSaved settings record disk

/-- The one call that sends a record, to add to one that is there or as a whole. -/
def recordCall (settings : Settings) (record : Record) : Call :=
  if settings.build.incremental then .append record else .send record settings.build.retention

/-- What is said over an open connection, and the result. -/
inductive Session (settings : Settings) (collection : Collection) (disk : Disk) :
    List Exchange → Except Failure Report → Prop
  /-- A pattern is too large, so there is no batch. -/
  | unbatched {failure : Failure} {closing : Except Failure Unit}
      (refused : Batch.ofCollection settings collection = .error failure) :
      Session settings collection disk [(.close, closing)] (.error failure)
  /-- An upload fails where the policy is to end there. -/
  | aborted {batch : Batch} {before rest : List Upload} {upload : Upload} {failure : Failure}
      {closing : Except Failure Unit}
      (batched : Batch.ofCollection settings collection = .ok batch)
      (policy : settings.failurePolicy = .abort)
      (order : batch.chosen = before ++ upload :: rest) :
      Session settings collection disk
        (before.map (fun upload => (.deploy upload, .ok ())) ++
          [(.deploy upload, .error failure), (.close, closing)]) (.error failure)
  /-- The whole batch is attempted, and the record is not to be sent or its file not written. -/
  | unsent {batch : Batch} {attempts : List Exchange} {closing : Except Failure Unit}
      {result : Except Failure Report}
      (batched : Batch.ofCollection settings collection = .ok batch)
      (order : attempts.map Prod.fst = batch.chosen.map .deploy)
      (policy : settings.failurePolicy = .abort → ∀ attempt ∈ attempts, attempt.2 = .ok ())
      (held : ¬Sendable settings collection.record disk)
      (told : ∀ path failure, settings.publisher.publishBuildInfo = true →
        settings.build.exportFile = some path →
        (collection.record.save path disk).1 = .error failure → result = .error failure) :
      Session settings collection disk (attempts ++ [(.close, closing)]) result
  /-- The whole batch is attempted and the record is sent. -/
  | sent {batch : Batch} {attempts : List Exchange} {answer closing : Except Failure Unit}
      {result : Except Failure Report}
      (batched : Batch.ofCollection settings collection = .ok batch)
      (order : attempts.map Prod.fst = batch.chosen.map .deploy)
      (policy : settings.failurePolicy = .abort → ∀ attempt ∈ attempts, attempt.2 = .ok ())
      (sendable : Sendable settings collection.record disk)
      (told : ∀ failure, answer = .error failure → result = .error failure) :
      Session settings collection disk
        (attempts ++ [(recordCall settings collection.record, answer), (.close, closing)]) result

/-- No record, no address, or no switch that asks for anything to be sent. -/
def NothingToSay (settings : Settings) (collected : Except Failure Collection) : Prop :=
  (∃ failure, collected = .error failure) ∨ settings.endpoint = none ∨
    (settings.publisher.publishBuildInfo = false ∧ settings.publisher.publishArtifacts = false ∧
      ∀ own ∈ settings.modules.values, own.publishArtifacts ≠ some true)

/-- What one publication says, and its result. -/
inductive Conversation (settings : Settings) (collected : Except Failure Collection) (disk : Disk) :
    List Exchange → Except Failure Report → Prop
  | silent {result : Except Failure Report} (nothing : NothingToSay settings collected)
      (told : ∀ failure, collected = .error failure → result = .error failure) :
      Conversation settings collected disk [] result
  | refused {endpoint : Endpoint} {failure : Failure}
      (something : ¬NothingToSay settings collected)
      (address : settings.endpoint = some endpoint) :
      Conversation settings collected disk [(.connect endpoint, .error failure)] (.error failure)
  | held {endpoint : Endpoint} {collection : Collection} {talk : List Exchange}
      {result : Except Failure Report} (something : ¬NothingToSay settings collected)
      (address : settings.endpoint = some endpoint) (found : collected = .ok collection)
      (session : Session settings collection disk talk result) :
      Conversation settings collected disk ((.connect endpoint, .ok ()) :: talk) result

variable {repository : Repository State} {settings : Settings} {disk : Disk}
  {collection : Collection} {world later : World State}

theorem release_talks (repository : Repository State) (settings : Settings) (disk : Disk)
    (now : Instant) (world : World State) :
    Talks (repository.react settings disk now) world
      [(.close, (world.close repository).1)] (world.release repository) :=
  talks_call (repository.react settings disk now) world .close

theorem transmit_talks {record : Record} (repository : Repository State) (disk : Disk)
    (incremental : record.incremental = settings.build.incremental) (world : World State) :
    ∃ answer, (transmit repository settings record world).1 = answer.map (fun _ => true) ∧
      Talks (repository.react settings disk world.now) world
        [(recordCall settings record, answer)] (transmit repository settings record world).2 := by
  have talks := talks_call (repository.react settings disk world.now) world
  unfold transmit recordCall
  rw [incremental]
  by_cases adding : settings.build.incremental = true
  · rw [if_pos adding, if_pos adding]
    exact ⟨_, rfl, talks (.append record)⟩
  · rw [if_neg adding, if_neg adding]
    exact ⟨_, rfl, talks (.send record settings.build.retention)⟩

/-- A file that was saved was not asked for or written, and one that was not keeps its failure. -/
theorem export_saved_cases {record : Record} {result : Except Failure (List Path)}
    (done : saveIf settings.build.exportFile record.save world = (result, later)) :
    (∃ paths, result = .ok paths ∧ ExportSaved settings record world.disk) ∨
    ∃ path failure, result = .error failure ∧ settings.build.exportFile = some path ∧
      (record.save path world.disk).1 = .error failure := by
  rcases save_if_cases done with ⟨missing, result, _⟩ | ⟨target, given, result, _⟩
  · left
    refine ⟨[], result, ?_⟩
    intro path wanted
    rw [missing] at wanted
    cases wanted
  · cases written : (record.save target world.disk).1 with
    | error failure =>
        right
        rw [written] at result
        exact ⟨target, failure, result, given, written⟩
    | ok value =>
        left
        rw [written] at result
        refine ⟨[target], result, ?_⟩
        intro path wanted
        rw [given] at wanted
        cases wanted
        exact written

/-- The record is sent exactly when it may be and there is a connection. -/
theorem send_record_cases {record : Record} {connected : Bool} {result : Except Failure Bool}
    (disk : Disk) (incremental : record.incremental = settings.build.incremental)
    (done : sendRecord repository settings connected record world = (result, later)) :
    (Sendable settings record world.disk ∧ connected = true ∧
      ∃ answer, result = answer.map (fun _ => true) ∧
        Talks (repository.react settings disk world.now) world
          [(recordCall settings record, answer)] later) ∨
    ((¬Sendable settings record world.disk ∨ connected = false) ∧
      Talks (repository.react settings disk world.now) world [] later ∧
      ∀ path failure, settings.publisher.publishBuildInfo = true →
        settings.build.exportFile = some path →
        (record.save path world.disk).1 = .error failure → result = .error failure) := by
  unfold sendRecord at done
  by_cases wanted : settings.publisher.publishBuildInfo = true
  · rw [if_pos wanted] at done
    cases wrote : saveIf settings.build.exportFile record.save world with
    | mk outcome saved =>
        have silence := save_if_talks (repository.react settings disk world.now) wrote
        rw [wrote] at done
        rcases export_saved_cases wrote with
          ⟨paths, fine, exported⟩ | ⟨path, failure, failed, given, written⟩
        · rw [fine] at done
          cases connected with
          | true =>
              left
              obtain ⟨answer, told, talks⟩ :=
                transmit_talks repository disk incremental saved
              have same : transmit repository settings record saved = (result, later) := done
              rw [same, silence.meanwhile] at talks
              rw [same] at told
              exact ⟨⟨wanted, exported⟩, rfl, answer, told, talks_append silence talks⟩
          | false =>
              right
              have same : (Except.ok false, saved) = (result, later) := done
              cases same
              refine ⟨Or.inr rfl, silence, ?_⟩
              intro path failure _ given failed
              rw [exported path given] at failed
              cases failed
        · right
          rw [failed] at done
          have same : (Except.error failure, saved) = (result, later) := done
          cases same
          refine ⟨Or.inl ?_, silence, ?_⟩
          · intro sendable
            rw [sendable.2 path given] at written
            cases written
          · intro other reason _ asked refused
            rw [given] at asked
            cases asked
            rw [written] at refused
            cases refused
            rfl
  · right
    rw [if_neg wanted] at done
    cases done
    refine ⟨Or.inl fun sendable => wanted sendable.1, talks_silence _ _ _, ?_⟩
    intro path failure asked
    exact absurd asked wanted

/-- What comes behind the uploads, in its three parts. A failure to send is the result. -/
theorem finish_parts {connected : Bool} {report : Report} {result : Except Failure Report}
    (done : finish repository settings connected collection report world = (result, later)) :
    ∃ sent spoken,
      sendRecord repository settings connected collection.record world = (sent, spoken) ∧
      (∃ exported, exportFiles settings collection
        (if connected then spoken.release repository else spoken) = (exported, later)) ∧
      ∀ failure, sent = .error failure → result = .error failure := by
  unfold finish at done
  cases sends : sendRecord repository settings connected collection.record world with
  | mk sent spoken =>
      rw [sends] at done
      simp only at done
      cases exports : exportFiles settings collection
          (if connected then spoken.release repository else spoken) with
      | mk exported written =>
          rw [exports] at done
          refine ⟨sent, spoken, rfl, ⟨exported, ?_⟩, ?_⟩
          · cases sent <;> cases exported <;> cases done <;> exact exports
          · intro failure failed
            subst failed
            cases done
            rfl

theorem finish_unconnected {report : Report} {result : Except Failure Report}
    (incremental : collection.record.incremental = settings.build.incremental)
    (done : finish repository settings false collection report world = (result, later)) :
    Talks (repository.react settings disk world.now) world [] later := by
  obtain ⟨sent, spoken, sends, ⟨exported, exports⟩, _⟩ := finish_parts done
  have files := export_files_talks (repository.react settings disk world.now) exports
  rcases send_record_cases disk incremental sends with ⟨_, connected, _⟩ | ⟨_, silence, _⟩
  · cases connected
  · exact talks_append silence files

/-- Over an open connection the record is sent when it may be, and closing is the last word. -/
theorem finish_connected {report : Report} {result : Except Failure Report} (disk : Disk)
    (incremental : collection.record.incremental = settings.build.incremental)
    (done : finish repository settings true collection report world = (result, later)) :
    ∃ closing,
      (Sendable settings collection.record world.disk ∧ ∃ answer,
        Talks (repository.react settings disk world.now) world
          [(recordCall settings collection.record, answer), (.close, closing)] later ∧
        ∀ failure, answer = .error failure → result = .error failure) ∨
      (¬Sendable settings collection.record world.disk ∧
        Talks (repository.react settings disk world.now) world [(.close, closing)] later ∧
        ∀ path failure, settings.publisher.publishBuildInfo = true →
          settings.build.exportFile = some path →
          (collection.record.save path world.disk).1 = .error failure →
          result = .error failure) := by
  obtain ⟨sent, spoken, sends, ⟨exported, exports⟩, told⟩ := finish_parts done
  have files := export_files_talks (repository.react settings disk world.now) exports
  have closes := release_talks repository settings disk world.now spoken
  have ending := talks_append closes files
  refine ⟨(spoken.close repository).1, ?_⟩
  rcases send_record_cases disk incremental sends with
    ⟨sendable, _, answer, outcome, talks⟩ | ⟨held, silence, failed⟩
  · left
    refine ⟨sendable, answer, talks_append talks ending, ?_⟩
    intro failure refused
    apply told
    rw [outcome, refused]
    rfl
  · right
    have unsendable : ¬Sendable settings collection.record world.disk := by
      rcases held with unsendable | unconnected
      · exact unsendable
      · cases unconnected
    refine ⟨unsendable, talks_append silence ending, ?_⟩
    intro path failure wanted given refused
    exact told failure (failed path failure wanted given refused)

theorem collect_incremental {info : RunInfo} {graph : List UnitId} {snapshot : Snapshot}
    {extractor : Extractor} {now : Instant}
    (collected : Collection.collect settings (header settings info now) info.started graph snapshot
      extractor = .ok collection) :
    collection.record.incremental = settings.build.incremental := by
  unfold Collection.collect at collected
  split at collected
  · cases collected
  · cases collected
    rfl

theorem wants_repository_iff (settings : Settings) :
    wantsRepository settings = true ↔
      ¬(settings.publisher.publishBuildInfo = false ∧ settings.publisher.publishArtifacts = false ∧
        ∀ own ∈ settings.modules.values, own.publishArtifacts ≠ some true) := by
  simp only [wantsRepository, Bool.or_eq_true, List.any_eq_true, beq_iff_eq, not_and_or,
    Bool.not_eq_false, not_forall, exists_prop, not_not, or_assoc]

/-- Connecting is tried exactly when there is a record, an address and something to send. -/
theorem connect_cases {result : Except Failure Bool} (collection : Collection)
    (done : connect repository settings world = (result, later)) :
    (NothingToSay settings (.ok collection) ∧ result = .ok false ∧ later = world) ∨
    (¬NothingToSay settings (.ok collection) ∧ ∃ endpoint answer,
      settings.endpoint = some endpoint ∧ result = answer.map (fun _ => true) ∧
      later.disk = world.disk ∧
      Talks (repository.react settings disk world.now) world
        [(.connect endpoint, answer)] later) := by
  unfold connect at done
  cases address : settings.endpoint with
  | none =>
      left
      rw [address] at done
      cases done
      exact ⟨Or.inr (Or.inl address), rfl, rfl⟩
  | some endpoint =>
      rw [address] at done
      simp only at done
      by_cases wanted : wantsRepository settings = true
      · right
        rw [if_pos wanted] at done
        have something : ¬NothingToSay settings (.ok collection) := by
          intro nothing
          rcases nothing with ⟨failure, failed⟩ | missing | off
          · cases failed
          · rw [address] at missing
            cases missing
          · exact (wants_repository_iff settings).mp wanted off
        have talks := talks_call (repository.react settings disk world.now) world
          (.connect endpoint)
        change Talks _ world [(_, (world.connect repository endpoint settings).1)]
          (world.connect repository endpoint settings).2 at talks
        have disk : (world.connect repository endpoint settings).2.disk = world.disk := rfl
        cases tried : world.connect repository endpoint settings with
        | mk answer next =>
            rw [tried] at done talks disk
            refine ⟨something, endpoint, answer, rfl, ?_⟩
            cases answer <;> cases done <;> exact ⟨rfl, disk, talks⟩
      · left
        rw [if_neg wanted] at done
        cases done
        have off := mt (wants_repository_iff settings).mpr wanted
        exact ⟨Or.inr (Or.inr (not_not.mp off)), rfl, rfl⟩

theorem session_of_connected {report : Report} {uploaded result : Except Failure Report}
    {deployed : World State}
    (incremental : collection.record.incremental = settings.build.incremental)
    (rest : (match uploaded with
      | .error failure => (.error failure, deployed.release repository)
      | .ok report => finish repository settings true collection report deployed) =
        (result, later))
    (uploads : deploy repository settings collection report world = (uploaded, deployed)) :
    ∃ talk, Talks (repository.react settings world.disk world.now) world talk later ∧
      Session settings collection world.disk talk result := by
  unfold deploy at uploads
  cases batched : Batch.ofCollection settings collection with
  | error failure =>
      rw [batched] at uploads
      cases uploads
      cases rest
      exact ⟨_, release_talks repository settings world.disk world.now world, .unbatched batched⟩
  | ok batch =>
      rw [batched] at uploads
      obtain ⟨attempts, talks, disk, ends⟩ := upload_all_cases uploads
      rcases ends with ⟨all, fine, accepted⟩ |
        ⟨before, upload, others, failure, policy, order, tries, failed⟩
      · subst fine
        have order : (attempts.map attemptExchange).map Prod.fst = batch.chosen.map .deploy := by
          rw [← all, List.map_map, List.map_map]
          rfl
        have abort : settings.failurePolicy = .abort →
            ∀ attempt ∈ attempts.map attemptExchange, attempt.2 = .ok () := by
          intro policy exchange member
          obtain ⟨attempt, inside, rfl⟩ := List.mem_map.mp member
          exact accepted policy attempt inside
        obtain ⟨closing, ending⟩ := finish_connected world.disk incremental rest
        rw [talks.meanwhile, disk] at ending
        rcases ending with ⟨sendable, answer, ending, told⟩ | ⟨held, ending, told⟩
        · exact ⟨_, talks_append talks ending, .sent batched order abort sendable told⟩
        · exact ⟨_, talks_append talks ending, .unsent batched order abort held told⟩
      · subst failed
        cases rest
        have closes := release_talks repository settings world.disk world.now deployed
        have words : attempts.map attemptExchange ++ [(.close, (deployed.close repository).1)] =
            before.map (fun upload => (.deploy upload, .ok ())) ++
              [(.deploy upload, .error failure), (.close, (deployed.close repository).1)] := by
          rw [tries, List.map_append, List.map_map, List.append_assoc]
          rfl
        have whole := talks_append talks closes
        rw [words] at whole
        exact ⟨_, whole, .aborted batched policy order⟩

theorem sequence_conversation {info : RunInfo} {graph : List UnitId} {snapshot : Snapshot}
    {extractor : Extractor} {result : Except Failure Report}
    (done : sequence repository settings info graph snapshot extractor world = (result, later)) :
    ∃ talk, Talks (repository.react settings world.disk world.now) world talk later ∧
      Conversation settings (Collection.collect settings (header settings info world.now)
        info.started graph snapshot extractor) world.disk talk result := by
  unfold sequence at done
  cases collected : Collection.collect settings (header settings info world.now) info.started graph
      snapshot extractor with
  | error failure =>
      rw [collected] at done
      cases done
      refine ⟨[], talks_silence _ world world.disk, .silent (Or.inl ⟨failure, rfl⟩) ?_⟩
      intro other same
      cases same
      rfl
  | ok collection =>
      have incremental := collect_incremental collected
      rw [collected] at done
      simp only at done
      cases connects : connect repository settings world with
      | mk outcome connected =>
          rw [connects] at done
          rcases connect_cases collection connects with
            ⟨nothing, unconnected, idle⟩ | ⟨something, endpoint, answer, address, fine, disk, talks⟩
          · subst unconnected idle
            refine ⟨[], finish_unconnected incremental done, .silent nothing ?_⟩
            intro failure failed
            cases failed
          · subst fine
            cases answer with
            | error failure =>
                cases done
                exact ⟨_, talks, .refused something address⟩
            | ok value =>
                cases uploads : deploy repository settings collection
                    { record := collection.record } connected with
                | mk uploaded deployed =>
                    simp only [Except.map, uploads] at done
                    obtain ⟨talk, spoken, session⟩ :=
                      session_of_connected incremental (by cases uploaded <;> exact done) uploads
                    rw [disk, talks.meanwhile] at spoken
                    rw [disk] at session
                    exact ⟨_, talks_append talks spoken, .held something address rfl session⟩

theorem publish_conversation {info : RunInfo} {graph : List UnitId} {snapshot : Snapshot}
    {extractor : Extractor} {outcome : Except Failure (Option Report)} {publication : Publication}
    (done : ({ settings } : Publication).publish repository info graph snapshot extractor world =
      (outcome, publication, later)) :
    ∃ talk result, outcome = result.map some ∧
      Talks (repository.react settings world.disk world.now) world talk later ∧
      Conversation settings (Collection.collect settings (header settings info world.now)
        info.started graph snapshot extractor) world.disk talk result := by
  unfold publish at done
  cases spoken : sequence repository settings info graph snapshot extractor world with
  | mk result ended =>
      obtain ⟨talk, talks, conversation⟩ := sequence_conversation spoken
      have whole := talks_append talks
        (remove_properties_talks (repository.react settings world.disk world.now) settings ended)
      simp only [spoken] at done
      cases done
      rw [List.append_nil] at whole
      exact ⟨talk, result, rfl, whole, conversation⟩

theorem silent_iff {collected : Except Failure Collection} {talk : List Exchange}
    {result : Except Failure Report}
    (conversation : Conversation settings collected disk talk result) :
    talk = [] ↔ NothingToSay settings collected := by
  cases conversation with
  | silent nothing told => exact ⟨fun _ => nothing, fun _ => rfl⟩
  | refused something address =>
      constructor
      · intro empty
        cases empty
      · intro nothing
        exact absurd nothing something
  | held something address found session =>
      constructor
      · intro empty
        cases empty
      · intro nothing
        exact absurd nothing something

/-- One publication holds one conversation: it is silent exactly when there is nothing to say, it
connects in vain, or it holds one session that ends with closing. -/
theorem publish_holds_conversation (repository : Repository State) (settings : Settings)
    (info : RunInfo) (graph : List UnitId) (snapshot : Snapshot) (extractor : Extractor)
    (world : World State) :
    let collected := Collection.collect settings (header settings info world.now) info.started graph
      snapshot extractor
    let (outcome, _, later) :=
      ({ settings } : Publication).publish repository info graph snapshot extractor world
    ∃ talk result, outcome = result.map some ∧
      Exchanges (repository.react settings world.disk world.now) world.remote talk later.remote ∧
      later.calls = world.calls ++ talk.map Prod.fst ∧
      Conversation settings collected world.disk talk result ∧
      (talk = [] ↔ NothingToSay settings collected) := by
  intro collected
  cases done : ({ settings } : Publication).publish repository info graph snapshot extractor
      world with
  | mk outcome rest =>
      obtain ⟨talk, result, told, talks, conversation⟩ := publish_conversation done
      exact ⟨talk, result, told, talks.answered, talks.noted, conversation,
        silent_iff conversation⟩

end Publication

end BuildLedger
