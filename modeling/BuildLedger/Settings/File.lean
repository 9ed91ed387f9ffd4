import BuildLedger.Failure
import BuildLedger.Settings.Layout
import BuildLedger.Yaml.Conform
import BuildLedger.Yaml.Printer

/-!
# Settings in files

Settings are YAML documents. A saved file is written in one move.
-/
namespace BuildLedger.Settings

def ofText (text : String) : Except Failure Settings :=
  match Yaml.parse codec text with
  | .ok settings => .ok settings
  | .error cause => .error (.yaml cause)

def load (path : Path) (disk : Disk) : Except Failure Settings :=
  match disk.textAt path with
  | .error cause => .error (.disk cause)
  | .ok text => ofText text

def text (settings : Settings) : String := Yaml.write (codec.encode settings)

def save (settings : Settings) (path : Path) (disk : Disk) : Except Failure Unit × Disk :=
  match disk.writeAtomically path settings.text.toUTF8 with
  | (.ok (), later) => (.ok (), later)
  | (.error cause, later) => (.error (.disk cause), later)

end BuildLedger.Settings
