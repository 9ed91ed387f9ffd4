import BuildLedger.Collection

/-!
# What is uploaded

Every unit's uploads are judged by that unit's own patterns. Of the accepted copies of a path the
first one is chosen. A path is filtered when some unit wanted it and every copy was held back.
-/
namespace BuildLedger

/-- The chosen uploads, and the paths that are held back. -/
structure Batch where
  chosen : List Upload := []
  filtered : List String := []
deriving DecidableEq

namespace Batch

/-- The uploads of all units so far: accepted copies and the paths of the others, in order. -/
structure Judged where
  accepted : List Upload := []
  held : List String := []
deriving DecidableEq

/-- Judge the uploads of one unit; a unit that does not publish artifacts has none. -/
def judge (settings : Settings) (judged : Judged) (unit : UnitUploads) : Except Failure Judged :=
  if settings.publishesArtifactsOf unit.unit then
    match PathFilter.ofPatterns (settings.patternsFor unit.unit) with
    | .error oversized => .error (.oversizedPattern oversized.pattern)
    | .ok filter => .ok {
        accepted := judged.accepted ++ unit.uploads.filter fun upload =>
          !filter.holdsBack upload.path
        held := judged.held ++ (unit.uploads.filter fun upload =>
          filter.holdsBack upload.path).map (·.path)
      }
  else .ok judged

def judgeAll (settings : Settings) : Judged → List UnitUploads → Except Failure Judged
  | judged, [] => .ok judged
  | judged, unit :: rest =>
      match judge settings judged unit with
      | .error failure => .error failure
      | .ok next => judgeAll settings next rest

/-- Of equal texts only the first. -/
def distinct (seen : List String) : List String → List String
  | [] => []
  | text :: rest =>
      if seen.contains text then distinct seen rest else text :: distinct (text :: seen) rest

def ofCollection (settings : Settings) (collection : Collection) : Except Failure Batch :=
  match judgeAll settings {} collection.units with
  | .error failure => .error failure
  | .ok judged =>
      let chosen := Collection.firstByPath [] judged.accepted
      .ok { chosen, filtered := distinct (chosen.map (·.path)) judged.held }

end Batch

end BuildLedger
