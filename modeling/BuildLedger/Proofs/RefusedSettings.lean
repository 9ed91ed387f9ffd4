import BuildLedger.Proofs.PlannedRun

/-!
# Refused settings

Validating settings and publishing with them ask one review. It lists what it finds in a fixed
order, the file of the run's properties is no part of it, and its first error is the reason that a
publication is refused with. A refused publication has read the plan and the settings and nothing
else: whatever the other files hold, it says the same and leaves the world as it was.
-/
namespace BuildLedger

/-- The first error among some notices has this message. -/
def FirstError (message : String) (notices : List Notice) : Prop :=
  ∃ earlier later, notices = earlier ++ ⟨.error, message⟩ :: later ∧
    ∀ notice ∈ earlier, notice.level = .warning

theorem first_error_iff {notices : List Notice} {message : String} :
    (∃ notice, notices.find? (fun notice => notice.level == .error) = some notice ∧
        notice.message = message) ↔ FirstError message notices := by
  have milder : ∀ level : Level, (level == .error) = false ↔ level = .warning := by
    intro level
    cases level <;> decide
  constructor
  · rintro ⟨⟨level, found⟩, first, rfl⟩
    obtain ⟨grave, earlier, later, rfl, before⟩ := List.find?_eq_some_iff_append.mp first
    have same : level = .error := by simpa using grave
    subst same
    refine ⟨earlier, later, rfl, ?_⟩
    intro notice member
    exact (milder notice.level).mp (by simpa using before notice member)
  · rintro ⟨earlier, later, rfl, before⟩
    refine ⟨⟨.error, message⟩, List.find?_eq_some_iff_append.mpr ⟨rfl, earlier, later, rfl, ?_⟩, rfl⟩
    intro notice member
    simpa using (milder notice.level).mpr (before notice member)

namespace Settings

/-- Settings are refused by the first error of their review. -/
theorem ensure_valid_error_iff (settings : Settings) (message : String) :
    settings.ensureValid = .error (.settings message) ↔ FirstError message settings.review := by
  rw [← first_error_iff, ensureValid]
  cases settings.review.find? fun notice => notice.level == .error <;> simp

theorem ensure_valid_cases (settings : Settings) :
    settings.ensureValid = .ok () ∨
      ∃ message, settings.ensureValid = .error (.settings message) := by
  unfold ensureValid
  split
  · exact Or.inr ⟨_, rfl⟩
  · exact Or.inl rfl

end Settings

namespace Command

variable {State : Type}

/-- What validating prints of some notices: one text with all of them, or a line for each. -/
def noticeLines (json : Bool) (notices : List Notice) : List String :=
  if json then [Json.indented (.table [("warnings", .list (notices.map Notice.tree))])]
  else notices.map fun notice => "[" ++ notice.level.name ++ "] " ++ notice.message

/-- The first error that is printed has this message. -/
def PrintsFirst (message : String) (json : Bool) (lines : List String) : Prop :=
  ∃ notices, FirstError message notices ∧ lines = noticeLines json notices

section Loaded

variable {planPath path : Path} {plan : Plan} {settings : Settings} {disk : Disk}

/-! ## Validating -/

theorem validate_loaded (given : Settings.load path disk = .ok settings) (json : Bool) :
    (∀ message, FirstError message settings.review →
      validateAt path json disk = ⟨noticeLines json settings.review, .error .errorsFound⟩) ∧
    ((∀ message, ¬FirstError message settings.review) →
      (validateAt path json disk).result = .ok ()) := by
  simp only [validateAt, loadSettings, given]
  constructor
  · rintro message ⟨earlier, later, parts, _⟩
    have faulty : (settings.review.any fun notice => notice.level == .error) = true := by
      rw [parts]
      simp
    have some : settings.review.isEmpty = false := by simp [parts]
    rw [faulty, some]
    cases json <;> rfl
  · intro flawless
    have fine : (settings.review.any fun notice => notice.level == .error) = false := by
      rw [List.any_eq_false]
      intro notice member grave
      have some : (settings.review.find? fun notice => notice.level == .error).isSome :=
        List.find?_isSome.mpr ⟨notice, member, grave⟩
      obtain ⟨first, found⟩ := Option.isSome_iff_exists.mp some
      exact flawless first.message (first_error_iff.mp ⟨first, found, rfl⟩)
    rw [fine]
    rfl

/-! ## Publishing -/

/-- The file of the run's properties is no part of a review. -/
theorem settings_of_publication (given : Settings.load path disk = .ok settings)
    (propsFile : Option Path) :
    publishSettings (some path) propsFile disk =
      match settings.ensureValid with
      | .ok () => .ok { settings with propsFile := propsFile.or settings.propsFile }
      | .error cause => .error (.refusedSettings cause) := by
  have loaded : loadSettings path disk = .ok settings := by rw [loadSettings, given]
  cases propsFile with
  | none =>
      simp only [publishSettings, loaded, bind, Except.bind]
      cases settings.ensureValid <;> rfl
  | some file =>
      have same : { settings with propsFile := some file }.ensureValid = settings.ensureValid := rfl
      simp only [publishSettings, loaded, bind, Except.bind, same]
      cases settings.ensureValid <;> rfl

/-- Units that end fail by a publication and not by the settings. -/
theorem drive_fails_by_publication {repository : Repository State} {extractor : Extractor}
    {entries : List Plan.Entry} {report : Option Report} {snapshot : Snapshot} {run : Run}
    {world : World State} {fault : Fault}
    (failed : (drive repository extractor entries report snapshot run world).1 = .error fault) :
    ∃ unit cause, fault = .publication unit cause := by
  induction entries generalizing report snapshot run world with
  | nil => cases failed
  | cons entry rest ih =>
      simp only [drive] at failed
      split at failed
      · cases failed
        exact ⟨_, _, rfl⟩
      · exact ih failed
      · exact ih failed

variable {world : World State}

theorem publish_refused (planned : Plan.load planPath world.disk = .ok plan)
    (given : Settings.load path world.disk = .ok settings) {cause : Failure}
    (refused : settings.ensureValid = .error cause) (repository : Repository State)
    (propsFile : Option Path) (json : Bool) :
    publishPlan repository planPath (some path) propsFile json world =
      (.failed (.refusedSettings cause), world) := by
  simp only [publishPlan, planned, settings_of_publication given, refused]

/-- Accepted settings are never the reason why a publication fails. -/
theorem accepted_not_refused (planned : Plan.load planPath world.disk = .ok plan)
    (given : Settings.load path world.disk = .ok settings) (accepted : settings.ensureValid = .ok ())
    (repository : Repository State) (propsFile : Option Path) (json : Bool) (cause : Failure) :
    (publishPlan repository planPath (some path) propsFile json world).1.result ≠
      .error (.refusedSettings cause) := by
  simp only [publishPlan, planned, settings_of_publication given, accepted]
  split
  · next fault later failed =>
    obtain ⟨unit, reason, rfl⟩ := drive_fails_by_publication (congrArg Prod.fst failed)
    simp [Printed.failed]
  · simp [Printed.failed]
  · simp [Printed.complete]

end Loaded

/-- Validating fails exactly when a publication with the same settings is refused, and the reason is
the first error that validating prints. A refused publication prints nothing and leaves the world as
it was, and it would be refused in the same way in any world with the same plan and settings. -/
theorem refusal_is_foretold (repository : Repository State) (world : World State)
    {planPath path : Path} {plan : Plan} {settings : Settings}
    (planned : Plan.load planPath world.disk = .ok plan)
    (given : Settings.load path world.disk = .ok settings) (propsFile : Option Path)
    (json listed : Bool) :
    let publication := publish planPath (some path) propsFile
    let published := publication.run json repository world
    let validated := (validate path).run listed repository world
    (validated.1.result.mapError Fault.message = .error "config validation found errors" ↔
      ∃ message, published.1.result = .error (.refusedSettings (.settings message))) ∧
    ∀ message, published.1.result = .error (.refusedSettings (.settings message)) →
      PrintsFirst message listed validated.1.lines ∧
      published = (.failed (.refusedSettings (.settings message)), world) ∧
      ∀ {Other : Type} (elsewhere : Repository Other) (other : World Other),
        other.disk.textAt planPath = world.disk.textAt planPath →
        other.disk.textAt path = world.disk.textAt path →
        publication.run json elsewhere other = (published.1, other) := by
  intro publication published validated
  obtain ⟨fails, succeeds⟩ := validate_loaded given listed
  rcases settings.ensure_valid_cases with accepted | ⟨reason, refused⟩
  · have never : ∀ cause, published.1.result ≠ .error (.refusedSettings cause) :=
      accepted_not_refused planned given accepted repository propsFile json
    have fine : validated.1.result = .ok () := by
      apply succeeds
      intro message first
      rw [(settings.ensure_valid_error_iff message).mpr first] at accepted
      cases accepted
    constructor
    · rw [fine]
      exact ⟨nofun, fun ⟨message, stopped⟩ => absurd stopped (never _)⟩
    · intro message stopped
      exact absurd stopped (never _)
  · have first := (settings.ensure_valid_error_iff reason).mp refused
    have told : validated.1 = ⟨noticeLines listed settings.review, .error .errorsFound⟩ :=
      fails reason first
    have done : published = (.failed (.refusedSettings (.settings reason)), world) :=
      publish_refused planned given refused repository propsFile json
    constructor
    · rw [told, done]
      exact ⟨fun _ => ⟨reason, rfl⟩, fun _ => rfl⟩
    · intro message stopped
      rw [done] at stopped
      cases stopped
      refine ⟨⟨settings.review, first, congrArg Printed.lines told⟩, done, ?_⟩
      intro Other elsewhere other samePlan sameSettings
      have planned_there : Plan.load planPath other.disk = .ok plan := by
        rw [Plan.load, samePlan, ← Plan.load, planned]
      have given_there : Settings.load path other.disk = .ok settings := by
        rw [Settings.load, sameSettings, ← Settings.load, given]
      have there := publish_refused planned_there given_there refused elsewhere propsFile json
      rw [done]
      exact there

/-- A world with the shop's plan, settings that name a proxy without a port, and a properties file. -/
def proxiedWorld : World Unit where
  disk := { Disk.blank ["work"] with
    files := Keyed.ofList [
      ("/work/run.yaml", Plan.shopText.toUTF8),
      ("/work/publish.yaml", "proxy:\n  host: gate\ntimeout_secs: 0\n".toUTF8),
      ("/work/run.properties", "key=value\n".toUTF8)] }
  remote := ()
  now := ⟨0, 0⟩

def proxiedSettings : Settings :=
  { proxy := { host := some "gate" }, timeoutSeconds := some 0 }

/-- A warning and two errors: the first error is the reason. -/
theorem proxy_without_port_is_foretold :
    let publication := publish "run.yaml" (some "publish.yaml") (some "run.properties")
    let published := publication.run false .willing proxiedWorld
    let validated := (validate "publish.yaml").run false .willing proxiedWorld
    Plan.load "run.yaml" proxiedWorld.disk = .ok Plan.shopPlan ∧
      Settings.load "publish.yaml" proxiedWorld.disk = .ok proxiedSettings ∧
      published.1.result =
        .error (.refusedSettings (.settings "proxy.host is set without proxy.port")) ∧
      validated.1.result.mapError Fault.message = .error "config validation found errors" ∧
      PrintsFirst "proxy.host is set without proxy.port" false validated.1.lines ∧
      published.2.disk.file? ["work", "run.properties"] = some "key=value\n".toUTF8 := by
  have planned : Plan.load "run.yaml" proxiedWorld.disk = .ok Plan.shopPlan := by decide +kernel
  have given : Settings.load "publish.yaml" proxiedWorld.disk = .ok proxiedSettings := by
    decide +kernel
  have kept : proxiedWorld.disk.file? ["work", "run.properties"] =
      some "key=value\n".toUTF8 := by decide +kernel
  have refused : proxiedSettings.ensureValid =
      .error (.settings "proxy.host is set without proxy.port") := by decide
  generalize proxiedWorld = world at planned given kept ⊢
  intro publication published validated
  obtain ⟨agrees, effect⟩ :=
    refusal_is_foretold .willing world planned given (some "run.properties") false false
  have stopped : published.1.result =
      .error (.refusedSettings (.settings "proxy.host is set without proxy.port")) :=
    congrArg (fun ended => ended.1.result)
      (publish_refused planned given refused .willing (some "run.properties") false)
  obtain ⟨prints, nothing, _⟩ := effect _ stopped
  refine ⟨planned, given, stopped, agrees.mpr ⟨_, stopped⟩, prints, ?_⟩
  rw [show published = _ from nothing]
  exact kept

end Command

end BuildLedger
