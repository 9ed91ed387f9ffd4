import BuildLedger.Proofs.PlannedRun

/-!
# Entries that share a name

No plan is refused for a name that it repeats. The host keeps one place for the name and the tracker
drains all its entries together, so a run may publish before the later ones ended; and the extractor
knows only the last of them. The record then has a module for each entry of a name that did work,
but every one of them is that of the last entry. An entry whose name is its own is listed as it
says.
-/
namespace BuildLedger

variable {State : Type}

namespace Plan

/-- What the command gets by letting the entries of a plan end. -/
def driven (plan : Plan) (repository : Repository State) (planPath : Path) (settings : Settings)
    (world : World State) : Except Command.Fault (Option Report) × World State :=
  Command.drive repository
    (plan.extractor world.disk (Command.baseOf planPath) settings.publisher.repoKey) plan.entries
    none plan.start (.opened ⟨plan.name, world.now⟩ settings) world

variable {plan : Plan} {entry : Entry}

theorem named_by_then {before after : List Entry} {last : Entry}
    (parts : plan.entries = before ++ last :: after) (brings : BringsLast before last after)
    (member : entry ∈ plan.entries) : entry.id ∈ (before ++ [last]).map (·.id) := by
  rw [parts] at member
  rw [List.map_append, List.mem_append]
  rcases List.mem_append.mp member with earlier | other
  · exact Or.inl (List.mem_map.mpr ⟨entry, earlier, rfl⟩)
  · rcases List.mem_cons.mp other with rfl | later
    · exact Or.inr List.mem_cons_self
    · rcases brings.covered entry later with first | same
      · exact Or.inl first
      · exact Or.inr (by simp [same])

/-- A command that succeeds lists a module for each entry whose name did work when the last new name
ended. The last entry of the name describes it, and so does an entry that is alone with its name. -/
theorem record_lists_names {repository : Repository State} {world : World State} {planPath : Path}
    {path propsFile : Option Path} {json : Bool} {settings : Settings}
    (loaded : load planPath world.disk = .ok plan)
    (accepted : Command.publishSettings path propsFile world.disk = .ok settings)
    (succeeds : (Command.publishPlan repository planPath path propsFile json world).1.result =
      .ok ()) :
    ∃ before last after report, plan.entries = before ++ last :: after ∧
      BringsLast before last after ∧
      (plan.driven repository planPath settings world).1 = .ok (some report) ∧
      List.Forall₂ (fun entry found => ∃ teller, plan.entry? entry.id = some teller ∧
          Describes world.disk (Command.baseOf planPath) teller found)
        (plan.entries.filter fun entry => worksLatest (before ++ [last]) entry.id)
        report.record.modules ∧
      ∀ entry ∈ plan.entries, plan.Single entry → plan.entry? entry.id = some entry ∧
        worksLatest (before ++ [last]) entry.id = entry.didWork := by
  obtain ⟨last, result, later, runs⟩ :=
    runs_once plan (load_present loaded) ⟨plan.name, world.now⟩ settings repository world.disk
      (Command.baseOf planPath) world
  obtain ⟨before, after, publication, parts, _, at_last⟩ := runs.publishes
  have command := (command_of_drive json loaded accepted runs.drives).1
  rw [succeeds] at command
  cases result with
  | error cause => cases command
  | ok report =>
      refine ⟨before, last, after, report, parts, at_last.brings, ?_, ?_, ?_⟩
      · exact congrArg Prod.fst runs.drives
      · exact published_modules (congrArg Prod.fst at_last.publishes)
      · intro entry member single
        have named : entry.id ∈ plan.entries.map (·.id) := List.mem_map.mpr ⟨entry, member, rfl⟩
        have ended : ∀ other ∈ before ++ [last], other ∈ plan.entries := by
          intro other inside
          rw [parts]
          simp only [List.mem_append, List.mem_cons, List.not_mem_nil, or_false] at inside ⊢
          tauto
        constructor
        · exact latest_of_single single (fun other inside => inside) named
        · have found := latest_of_single single ended (named_by_then parts at_last.brings member)
          simp only [worksLatest, found, Option.any_some]

/-- Two modules of one name. -/
def sharingPlan : Plan :=
  ⟨"shop", [
    { id := "api", part := some { id := "shop:api" } },
    { id := "api", part := some { id := "shop:web" } }]⟩

def sharingText : String :=
  "name: shop\nunits:\n- id: api\n  module:\n    id: shop:api\n" ++
    "- id: api\n  module:\n    id: shop:web\n"

def sharingWorld : World Unit := planned sharingText

theorem sharing_loaded : load "run.yaml" sharingWorld.disk = .ok sharingPlan := by decide +kernel

theorem sharing_accepted : Command.publishSettings none none sharingWorld.disk = .ok {} :=
  planned_accepted sharingText

theorem sharing_succeeds :
    (Command.publishPlan .willing "run.yaml" none none false sharingWorld).1.result = .ok () := by
  simp only [Command.publishPlan, sharing_loaded, sharing_accepted]
  decide +kernel

theorem later_entry_is_listed_twice :
    load "run.yaml" sharingWorld.disk = .ok sharingPlan ∧
      (Command.publishPlan .willing "run.yaml" none none false sharingWorld).1.result = .ok () ∧
      ∃ report, (sharingPlan.driven .willing "run.yaml" {} sharingWorld).1 = .ok (some report) ∧
        report.record.modules.map (·.id) = ["shop:web", "shop:web"] ∧
        ¬List.Forall₂ (Describes sharingWorld.disk ".")
          (sharingPlan.entries.filter fun entry => entry.didWork && entry.part.isSome)
          report.record.modules := by
  have listed : (sharingPlan.driven .willing "run.yaml" {} sharingWorld).1.map
      (fun report => report.map fun report => report.record.modules.map (·.id)) =
        .ok (some ["shop:web", "shop:web"]) := by decide +kernel
  refine ⟨sharing_loaded, sharing_succeeds, ?_⟩
  generalize (sharingPlan.driven .willing "run.yaml" {} sharingWorld).1 = done at listed ⊢
  rcases done with fault | _ | report
  · cases listed
  · cases listed
  · simp only [Except.map, Option.map_some, Except.ok.injEq, Option.some.injEq] at listed
    refine ⟨report, rfl, listed, ?_⟩
    intro described
    generalize report.record.modules = modules at listed described
    cases described with
    | cons first rest =>
      obtain ⟨part, named, same, _⟩ := first
      cases named
      simp [same] at listed

/-- Both entries are listed, by what the later one tells. -/
theorem sharing_lists_both :
    load "run.yaml" sharingWorld.disk = .ok sharingPlan ∧
      Command.publishSettings none none sharingWorld.disk = .ok {} ∧
      (Command.publishPlan .willing "run.yaml" none none false sharingWorld).1.result = .ok () ∧
      ∃ report, (sharingPlan.driven .willing "run.yaml" {} sharingWorld).1 = .ok (some report) ∧
        List.Forall₂ (fun entry found => ∃ teller, sharingPlan.entry? entry.id = some teller ∧
            Describes sharingWorld.disk "." teller found)
          sharingPlan.entries report.record.modules := by
  refine ⟨sharing_loaded, sharing_accepted, sharing_succeeds, ?_⟩
  obtain ⟨before, last, after, report, parts, brings, driven, modules, _⟩ :=
    record_lists_names sharing_loaded sharing_accepted sharing_succeeds
  have named : ∀ entry ∈ sharingPlan.entries, entry.id = "api" := by decide
  have ends : last.id = "api" := named last (by simp [parts])
  have first : before = [] := by
    rcases before with _ | ⟨earlier, others⟩
    · rfl
    · have known := named earlier (by simp [parts])
      exact absurd (by simp [known, ends]) brings.fresh
  subst first
  simp only [sharingPlan, List.nil_append, List.cons.injEq] at parts
  have works : ∀ entry ∈ sharingPlan.entries, worksLatest ([] ++ [last]) entry.id = true := by
    rw [← parts.1]
    decide
  rw [List.filter_eq_self.mpr works] at modules
  exact ⟨report, driven, modules⟩

end Plan

end BuildLedger
