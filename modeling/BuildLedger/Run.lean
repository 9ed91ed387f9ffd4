import BuildLedger.Publication

/-!
# A run and its units

Every unit reports its own end. The one that turns out to be the last of the run publishes; the
others learn how many are still missing, or that the run is over.
-/
namespace BuildLedger

/-- What a unit learns when it reports its end. -/
inductive Outcome where
  /-- So many units have not finished. -/
  | pending (remaining : Nat)
  | published (report : Report)
  /-- An earlier unit was the last one. -/
  | alreadyPublished
  /-- The unit is not one of the run. -/
  | unknownUnit
deriving DecidableEq

structure Run where
  info : RunInfo
  tracker : Tracker := {}
  publication : Publication

namespace Run

variable {State : Type}

/-- A unit reports its end, with the host's snapshot at that moment. -/
def complete (run : Run) (repository : Repository State) (extractor : Extractor) (unit : UnitId)
    (snapshot : Snapshot) (world : World State) : Except Failure Outcome × Run × World State :=
  let (last, tracker) := run.tracker.isLast unit snapshot
  let tracked := { run with tracker := tracker }
  match last with
  | none => (.ok .unknownUnit, tracked, world)
  | some false =>
      match tracker.claimedBy with
      | some _ => (.ok .alreadyPublished, tracked, world)
      | none => (.ok (.pending tracker.remaining.length), tracked, world)
  | some true =>
      let (result, publication, later) := run.publication.publish repository run.info tracker.units
        snapshot extractor world
      let ended := { tracked with publication := publication }
      match result with
      | .error failure => (.error failure, ended, later)
      | .ok (some report) => (.ok (.published report), ended, later)
      | .ok none => (.ok .alreadyPublished, ended, later)

end Run

end BuildLedger
