import BuildLedger.Failure
import BuildLedger.Json.Printer
import BuildLedger.Upload

/-!
# Records and manifests in files

Both are written as indented JSON in one move, and read back by the same codecs.
-/
namespace BuildLedger

namespace Disk

/-- Write a value as indented JSON; a failure names the file. -/
def save {Value : Type} (codec : Codec Value) (value : Value) (path : Path) (disk : Disk) :
    Except Failure Unit × Disk :=
  match disk.writeAtomically path (Json.indented (codec.encode value)).toUTF8 with
  | (.ok (), later) => (.ok (), later)
  | (.error cause, later) => (.error (.writing path cause), later)

/-- Read a value from a JSON file. -/
def load {Value : Type} (codec : Codec Value) (path : Path) (disk : Disk) :
    Except Failure Value :=
  match disk.textAt path with
  | .error cause => .error (.disk cause)
  | .ok text =>
      match Json.parse codec text with
      | .error cause => .error (.json cause)
      | .ok value => .ok value

end Disk

namespace Record

/-- The text of a record in a file. -/
def text (record : Record) : String := Json.indented (codec.encode record)

def save (record : Record) (path : Path) (disk : Disk) : Except Failure Unit × Disk :=
  disk.save codec record path

def load (path : Path) (disk : Disk) : Except Failure Record := disk.load codec path

end Record

namespace Manifest

def save (manifest : Manifest) (path : Path) (disk : Disk) : Except Failure Unit × Disk :=
  disk.save codec manifest path

def load (path : Path) (disk : Disk) : Except Failure Manifest := disk.load codec path

end Manifest

end BuildLedger
