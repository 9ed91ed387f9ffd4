import BuildLedger.Path
import BuildLedger.Record

/-!
# Uploads

An upload is one artifact that may go to the repository: where it goes, what is known about it, and
the local file that holds it.
-/
namespace BuildLedger

structure Checksums where
  sha1 : Option String := none
  md5 : Option String := none
  sha256 : Option String := none
deriving Repr, DecidableEq

structure Upload where
  /-- The path inside the repository; filters go by it, and two uploads with one path are copies. -/
  path : String
  repository : String
  checksums : Checksums := {}
  properties : Properties := ∅
  /-- The local file. -/
  file : Path
deriving DecidableEq

/-- The uploads of a run, as they are written for other tools. -/
abbrev Manifest := List Upload

open Codec in
def Checksums.codec : Codec Checksums :=
  Codec.record "Checksums" [
    .optional "sha1" text (·.sha1),
    .optional "md5" text (·.md5),
    .optional "sha256" text (·.sha256)
  ] fun entries => do
    return {
      sha1 := ← maybe entries "sha1" text
      md5 := ← maybe entries "md5" text
      sha256 := ← maybe entries "sha256" text
    }

namespace Upload

open Codec in
def codec : Codec Upload :=
  Codec.record "DeployDetail" [
    .mandatory "path" text (·.path),
    .mandatory "targetRepo" text (·.repository),
    .defaulted "checksums" Checksums.codec (·.checksums),
    .defaulted "properties" named (·.properties),
    .mandatory "file" Codec.path (·.file)
  ] fun entries => do
    return {
      path := ← require entries "path" text
      repository := ← require entries "targetRepo" text
      checksums := ← fallback entries "checksums" Checksums.codec {}
      properties := ← fallback entries "properties" named ∅
      file := ← require entries "file" Codec.path
    }

/-- The upload with defaults under its own properties. -/
def withDefaults (upload : Upload) (defaults : Properties) : Upload :=
  { upload with properties := defaults.override upload.properties }

end Upload

def Manifest.codec : Codec Manifest := Codec.list Upload.codec

end BuildLedger
