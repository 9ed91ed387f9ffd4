import BuildLedger.CommandLine
import BuildLedger.Http.Client
import Std.Time.DateTime.Timestamp

/-!
# The program

The files that a command needs are read before it runs, and the files that it changed are written
after it. There is no network here, so no connection comes about.
-/
namespace BuildLedger

/-- A transport without a network. -/
def offline : Http.Transport Unit where
  exchange _ line := (.unreachable, line)
  pause _ line := line

/-- Put a file or directory of the machine on a disk, if it is there. -/
def fetch (disk : Disk) (path : Path) : IO Disk := do
  match ← (IO.FS.readBinFile path).toBaseIO with
  | .ok content => return (disk.writeAtomically path content).2
  | .error (.noFileOrDirectory _ _ _) => return disk
  | .error (.inappropriateType _ _ _) => return (disk.makeDirectories path).2
  | .error problem => throw problem

/-- Put files on a disk, with what stands on the way to them. -/
def fetchAll (disk : Disk) (paths : List Path) : IO Disk :=
  (paths.flatMap Path.chain).eraseDups.foldlM fetch disk

/-- Write a file in one move, with the directories around it. -/
def store (path : Path) (content : ByteArray) : IO Unit := do
  if let some parent := Path.parent? path then IO.FS.createDirAll parent
  let pending := path ++ ".pending"
  IO.FS.writeBinFile pending content
  IO.FS.rename pending path

/-- Bring the machine from one disk to another. -/
def storeChanges (before after : Disk) : IO Unit := do
  for (path, content) in after.files.entries do
    unless before.files.get? path == some content do store path content
  for (path, _) in before.files.entries do
    if (after.files.get? path).isNone then IO.FS.removeFile path

def timeOfDay : IO Instant := do
  let now ← Std.Time.Timestamp.now
  let nanos := now.toNanosecondsSinceUnixEpoch.val
  return ⟨nanos / 1000000000, (nanos % 1000000000).toNat⟩

/-- The disk that an invocation needs. -/
def diskFor (invocation : CommandLine.Invocation) : IO Disk := do
  let directory := (← IO.currentDir).toString
  let blank := Disk.blank (Path.parts directory)
  match invocation with
  | .run command _ =>
      let named ← fetchAll blank command.named
      fetchAll named (command.found named)
  | _ => return blank

def runProgram (arguments : List String) : IO UInt32 := do
  let environment : CommandLine.Environment := {
    settings := ← IO.getEnv "BUILDINFO_CONFIG"
    propsFile := ← IO.getEnv "BUILDINFO_PROPFILE"
  }
  let invocation := CommandLine.read environment arguments
  let disk ← diskFor invocation
  let world : World (Http.Session Unit) := { disk, remote := { line := () }, now := ← timeOfDay }
  let (ending, later) := invocation.perform (Http.repository offline) world
  storeChanges disk later.disk
  IO.print ending.output
  IO.eprint ending.errors
  return ending.code.toUInt32

end BuildLedger

def main (arguments : List String) : IO UInt32 := BuildLedger.runProgram arguments
