import BuildLedger.Calendar
import BuildLedger.Failure
import BuildLedger.Settings.Basic
import BuildLedger.Upload

/-!
# Talking to a repository

A repository is anything that can be connected to, takes uploads and records, and is closed. What it
does with them is its own matter: its state is a parameter. A world is what a run acts on, the disk
and one repository, and it keeps a list of every call that was made, whether the call succeeded or
not.
-/
namespace BuildLedger

/-- The result of a step that may change a repository. -/
abbrev Answer (State : Type) := Except Failure Unit × State

/-- How a repository reacts. -/
structure Repository (State : Type) where
  connect : Endpoint → Settings → State → Answer State
  /-- Take an upload; the local file is read from the disk. -/
  deploy : Disk → Upload → State → Answer State
  /-- Add the modules of a record to one that is there. -/
  append : Record → State → Answer State
  /-- Take a whole record and then drop old ones as the settings say. -/
  send : Instant → Record → Settings → State → Answer State
  close : State → Answer State

/-- A call on a repository. -/
inductive Call where
  | connect (endpoint : Endpoint)
  | deploy (upload : Upload)
  | append (record : Record)
  | send (record : Record) (retention : Option Retention)
  | close
deriving DecidableEq

/-- What a run acts on. -/
structure World (State : Type) where
  disk : Disk
  remote : State
  calls : List Call := []
  /-- The time of day. -/
  now : Instant

namespace World

variable {State : Type}

/-- Make a call: it is noted, and the repository reacts. -/
def call (world : World State) (call : Call) (react : State → Answer State) :
    Except Failure Unit × World State :=
  let (result, remote) := react world.remote
  (result, { world with remote := remote, calls := world.calls ++ [call] })

def connect (repository : Repository State) (endpoint : Endpoint) (settings : Settings)
    (world : World State) : Except Failure Unit × World State :=
  world.call (.connect endpoint) (repository.connect endpoint settings)

def deploy (repository : Repository State) (upload : Upload) (world : World State) :
    Except Failure Unit × World State :=
  world.call (.deploy upload) (repository.deploy world.disk upload)

def append (repository : Repository State) (record : Record) (world : World State) :
    Except Failure Unit × World State :=
  world.call (.append record) (repository.append record)

def send (repository : Repository State) (record : Record) (settings : Settings)
    (world : World State) : Except Failure Unit × World State :=
  world.call (.send record settings.build.retention) (repository.send world.now record settings)

def close (repository : Repository State) (world : World State) :
    Except Failure Unit × World State :=
  world.call .close repository.close

/-- Close without regard to the result. -/
def release (repository : Repository State) (world : World State) : World State :=
  (world.close repository).2

/-- A step on the disk alone. -/
def onDisk {Value : Type} (world : World State) (step : Disk → Value × Disk) :
    Value × World State :=
  let (value, disk) := step world.disk
  (value, { world with disk := disk })

end World

end BuildLedger
