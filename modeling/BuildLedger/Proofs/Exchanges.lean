import BuildLedger.Publication

/-!
# Calls and their answers

A world notes the calls that are made but not how they end. Here every call stands beside its
answer: the repository is asked one call after the other, each in the state that the one before
left. Every part of a publication is described by the exchanges it adds, and a part that only writes
files adds none.
-/
namespace BuildLedger

variable {State : Type}

/-- A call and how it ended. -/
abbrev Exchange := Call × Except Failure Unit

namespace Repository

/-- The reaction to any call, by settings, files and a time of day that stay the same. -/
def react (repository : Repository State) (settings : Settings) (disk : Disk) (now : Instant) :
    Call → State → Answer State
  | .connect endpoint => repository.connect endpoint settings
  | .deploy upload => repository.deploy disk upload
  | .append record => repository.append record
  | .send record _ => repository.send now record settings
  | .close => repository.close

/-- A repository that takes whatever it is sent. -/
def willing : Repository Unit where
  connect := fun _ _ state => (.ok (), state)
  deploy := fun _ _ state => (.ok (), state)
  append := fun _ state => (.ok (), state)
  send := fun _ _ _ state => (.ok (), state)
  close := fun state => (.ok (), state)

end Repository

/-- Calls that are answered one after the other, from a first state of the repository to a last. -/
inductive Exchanges (react : Call → State → Answer State) : State → List Exchange → State → Prop
  | nothing (state : State) : Exchanges react state [] state
  | call {state next last : State} {call : Call} {result : Except Failure Unit}
      {rest : List Exchange} (answer : react call state = (result, next))
      (others : Exchanges react next rest last) :
      Exchanges react state ((call, result) :: rest) last

theorem exchanges_append {react : Call → State → Answer State} {first middle last : State}
    {earlier later : List Exchange} (before : Exchanges react first earlier middle)
    (after : Exchanges react middle later last) :
    Exchanges react first (earlier ++ later) last := by
  induction before with
  | nothing state => exact after
  | call answer _ ih => exact .call answer (ih after)

/-- From one world to another with these exchanges and no others. Files may change meanwhile. -/
structure Talks (react : Call → State → Answer State) (before : World State)
    (talk : List Exchange) (after : World State) : Prop where
  answered : Exchanges react before.remote talk after.remote
  noted : after.calls = before.calls ++ talk.map Prod.fst
  meanwhile : after.now = before.now

section Talks

variable {react : Call → State → Answer State} {first middle last : World State}
  {earlier later : List Exchange}

theorem talks_append (before : Talks react first earlier middle)
    (after : Talks react middle later last) : Talks react first (earlier ++ later) last where
  answered := exchanges_append before.answered after.answered
  noted := by rw [after.noted, before.noted, List.map_append, List.append_assoc]
  meanwhile := after.meanwhile.trans before.meanwhile

theorem talks_silence (react : Call → State → Answer State) (world : World State) (disk : Disk) :
    Talks react world [] { world with disk := disk } where
  answered := .nothing _
  noted := (List.append_nil _).symm
  meanwhile := rfl

theorem talks_call (react : Call → State → Answer State) (world : World State) (call : Call) :
    Talks react world [(call, (world.call call (react call)).1)]
      (world.call call (react call)).2 where
  answered := .call rfl (.nothing _)
  noted := rfl
  meanwhile := rfl

end Talks

namespace Publication

variable {repository : Repository State} {settings : Settings}
  {world later : World State}

/-- A file is written when a path is given, and the result is that of the writing. -/
theorem save_if_cases {path : Option Path} {save : Path → Disk → Except Failure Unit × Disk}
    {result : Except Failure (List Path)} (done : saveIf path save world = (result, later)) :
    (path = none ∧ result = .ok [] ∧ later = world) ∨
    ∃ target, path = some target ∧
      result = (save target world.disk).1.map (fun _ => [target]) ∧
      later = { world with disk := (save target world.disk).2 } := by
  cases path with
  | none =>
      left
      cases done
      exact ⟨rfl, rfl, rfl⟩
  | some target =>
      right
      refine ⟨target, rfl, ?_⟩
      simp only [saveIf, World.onDisk] at done
      cases written : save target world.disk with
      | mk outcome disk =>
          rw [written] at done
          cases outcome <;> cases done <;> exact ⟨rfl, rfl⟩

theorem save_if_talks (react : Call → State → Answer State) {path : Option Path}
    {save : Path → Disk → Except Failure Unit × Disk} {result : Except Failure (List Path)} (done : saveIf path save world = (result, later)) :
    Talks react world [] later := by
  rcases save_if_cases done with ⟨_, _, rfl⟩ | ⟨target, _, _, rfl⟩
  · exact talks_silence _ _ _
  · exact talks_silence _ _ _

theorem export_files_talks (react : Call → State → Answer State) {collection : Collection}
    {result : Except Failure (List Path)}
    (done : exportFiles settings collection world = (result, later)) :
    Talks react world [] later := by
  unfold exportFiles at done
  cases first : saveIf settings.build.buildInfoOutput collection.record.save world with
  | mk outcome saved =>
      have record := save_if_talks react first
      rw [first] at done
      cases outcome with
      | error failure =>
          cases done
          exact record
      | ok paths =>
          cases second :
              saveIf settings.build.deployManifestOutput collection.manifest.save saved with
          | mk outcome written =>
              have manifest := save_if_talks react second
              simp only [second] at done
              cases outcome <;> cases done <;> exact talks_append record manifest

theorem remove_properties_talks (react : Call → State → Answer State) (settings : Settings)
    (world : World State) : Talks react world [] (removeProperties settings world) := by
  unfold removeProperties
  cases settings.propsFile with
  | none => exact talks_silence react world world.disk
  | some path => exact talks_silence react world _

/-- An upload that was attempted, and how that ended. -/
abbrev Attempt := Upload × Except Failure Unit

def attemptExchange (attempt : Attempt) : Exchange :=
  (.deploy attempt.1, attempt.2)

def deployedPath? : Attempt → Option String
  | (upload, .ok ()) => some upload.path
  | (_, .error _) => none

def failedUpload? : Attempt → Option FailedUpload
  | (_, .ok ()) => none
  | (upload, .error failure) => some ⟨upload.path, failure.message⟩

/-- The report with every attempt on one of its two lists. -/
def noteAttempts (report : Report) (attempts : List Attempt) : Report :=
  { report with
    deployed := report.deployed ++ attempts.filterMap deployedPath?
    failed := report.failed ++ attempts.filterMap failedUpload? }

theorem note_attempts_nil (report : Report) : noteAttempts report [] = report := by
  simp only [noteAttempts, List.filterMap_nil, List.append_nil]

theorem note_attempts_ok (report : Report) (upload : Upload) (attempts : List Attempt) :
    noteAttempts report ((upload, .ok ()) :: attempts) =
      noteAttempts { report with deployed := report.deployed ++ [upload.path] } attempts := by
  simp only [noteAttempts, List.filterMap_cons, deployedPath?, failedUpload?, List.append_assoc,
    List.singleton_append]

theorem note_attempts_error (report : Report) (upload : Upload) (failure : Failure)
    (attempts : List Attempt) :
    noteAttempts report ((upload, .error failure) :: attempts) =
      noteAttempts { report with failed := report.failed ++ [⟨upload.path, failure.message⟩] }
        attempts := by
  simp only [noteAttempts, List.filterMap_cons, deployedPath?, failedUpload?, List.append_assoc,
    List.singleton_append]

/-- Uploads are attempted in order. All of them are, and the report notes them, unless one fails and
the policy is to end there; then that one is the last attempt, and its failure is the result. -/
theorem upload_all_cases {policy : FailurePolicy} {uploads : List Upload} {report : Report}
    {result : Except Failure Report}
    (done : uploadAll repository policy uploads report world = (result, later)) :
    ∃ attempts : List Attempt,
      Talks (repository.react settings world.disk world.now) world
        (attempts.map attemptExchange) later ∧
      later.disk = world.disk ∧
      ((attempts.map Prod.fst = uploads ∧ result = .ok (noteAttempts report attempts) ∧
          (policy = .abort → ∀ attempt ∈ attempts, attempt.2 = .ok ())) ∨
        ∃ before upload rest failure, policy = .abort ∧ uploads = before ++ upload :: rest ∧
          attempts = before.map (fun upload => (upload, .ok ())) ++ [(upload, .error failure)] ∧
          result = .error failure) := by
  induction uploads generalizing report world with
  | nil =>
      cases done
      refine ⟨[], talks_silence _ _ _, rfl, Or.inl ⟨rfl, by rw [note_attempts_nil], ?_⟩⟩
      intro _ attempt member
      cases member
  | cons upload rest ih =>
      have asked := talks_call (repository.react settings world.disk world.now) world
        (.deploy upload)
      change Talks _ world [(_, (world.deploy repository upload).1)]
        (world.deploy repository upload).2 at asked
      unfold uploadAll at done
      cases tried : world.deploy repository upload with
      | mk outcome next =>
          have disk : next.disk = world.disk := by
            have same : (world.deploy repository upload).2.disk = world.disk := rfl
            rw [tried] at same
            exact same
          have time := asked.meanwhile
          rw [tried] at done asked time
          cases outcome with
          | ok value =>
              obtain ⟨attempts, talks, kept, ends⟩ := ih done
              rw [disk, time] at talks
              refine ⟨(upload, .ok ()) :: attempts, talks_append asked talks, kept.trans disk, ?_⟩
              rcases ends with ⟨all, noted, accepted⟩ |
                ⟨before, failed, others, failure, policy, order, tries, ended⟩
              · left
                refine ⟨by rw [List.map_cons, all], by rw [noted, note_attempts_ok], ?_⟩
                intro abort attempt member
                rcases List.mem_cons.mp member with rfl | member
                · rfl
                · exact accepted abort attempt member
              · right
                exact ⟨upload :: before, failed, others, failure, policy, by rw [order]; rfl,
                  by rw [tries]; rfl, ended⟩
          | error failure =>
              cases policy with
              | abort =>
                  cases done
                  refine ⟨[(upload, .error failure)], asked, disk, Or.inr ?_⟩
                  exact ⟨[], upload, rest, failure, rfl, rfl, rfl, rfl⟩
              | carryOn =>
                  obtain ⟨attempts, talks, kept, ends⟩ := ih done
                  rw [disk, time] at talks
                  refine ⟨(upload, .error failure) :: attempts, talks_append asked talks,
                    kept.trans disk, ?_⟩
                  rcases ends with ⟨all, noted, _⟩ | ⟨_, _, _, _, policy, _⟩
                  · left
                    exact ⟨by rw [List.map_cons, all], by rw [noted, note_attempts_error],
                      fun policy => by cases policy⟩
                  · cases policy

end Publication

end BuildLedger
