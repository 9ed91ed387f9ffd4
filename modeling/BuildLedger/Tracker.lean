/-!
# The last unit of a run

The host of a build owns the units and hands out snapshots of them; nothing here changes a unit. The
tracker keeps the list of units of the first snapshot it sees and the units among them that were not
yet seen finished. A unit that reports its own end asks whether it is the last one: it is when
nobody else remains and nobody was last before.
-/
namespace BuildLedger

/-- The name that tells a unit from the others of its run. -/
abbrev UnitId := String

/-- One module-level step of a build, as the host sees it at some moment. A finished unit ran, was
skipped or was up to date. -/
structure UnitStatus where
  id : UnitId
  didWork : Bool
  finished : Bool
deriving Repr, DecidableEq

namespace UnitStatus

def pending (id : UnitId) : UnitStatus := ⟨id, false, false⟩

end UnitStatus

/-- All units of a run at some moment, in the host's order. -/
abbrev Snapshot := List UnitStatus

namespace Snapshot

/-- The first entry with the given name. -/
def lookup (snapshot : Snapshot) (id : UnitId) : Option UnitStatus :=
  List.find? (fun status => status.id == id) snapshot

def ids (snapshot : Snapshot) : List UnitId := snapshot.map (·.id)

def showsFinished (snapshot : Snapshot) (id : UnitId) : Bool :=
  match snapshot.lookup id with
  | some status => status.finished
  | none => false

def showsWork (snapshot : Snapshot) (id : UnitId) : Bool :=
  match snapshot.lookup id with
  | some status => status.didWork
  | none => false

/-- The units of a graph that did work, in the graph's order. -/
def worked (snapshot : Snapshot) (graph : List UnitId) : List UnitId :=
  graph.filter snapshot.showsWork

/-- The first unit of a name reaches its end. -/
def finish (id : UnitId) (didWork : Bool) : Snapshot → Snapshot
  | [] => []
  | status :: rest =>
      if status.id = id then ⟨id, didWork, true⟩ :: rest else status :: finish id didWork rest

end Snapshot

/-- What is known of a run: its units, those not yet seen finished, and the one that was last. -/
structure Tracker where
  graph : Option (List UnitId) := none
  pending : Option (List UnitId) := none
  claimedBy : Option UnitId := none
deriving Repr, DecidableEq, Inhabited

namespace Tracker

/-- The units of the run, once a snapshot was seen. -/
def units (tracker : Tracker) : List UnitId := tracker.graph.getD []

/-- The units not yet seen finished. -/
def remaining (tracker : Tracker) : List UnitId :=
  match tracker.pending with
  | some pending => pending
  | none => tracker.units

/-- Keep the units of the first snapshot; later snapshots change nothing. -/
def register (tracker : Tracker) (snapshot : Snapshot) : Tracker :=
  match tracker.graph with
  | some _ => tracker
  | none => { tracker with graph := some snapshot.ids }

/-- The units of `pending` that the snapshot does not show as finished. A unit that the snapshot
does not mention stays. -/
def drain (pending : List UnitId) (snapshot : Snapshot) : List UnitId :=
  pending.filter fun id => !snapshot.showsFinished id

/-- Whether `unit` is the last of the run, by a fresh snapshot; no answer for a unit that is not of
the run. Only the first yes counts: it claims the run, and every later answer is no. -/
def isLast (tracker : Tracker) (unit : UnitId) (snapshot : Snapshot) : Option Bool × Tracker :=
  let registered := tracker.register snapshot
  if registered.units.contains unit then
    let left := drain registered.remaining snapshot
    let drained := { registered with pending := some left }
    match drained.claimedBy with
    | some _ => (some false, drained)
    | none =>
        if left.all (· == unit) then (some true, { drained with claimedBy := some unit })
        else (some false, drained)
  else (none, registered)

end Tracker

end BuildLedger
