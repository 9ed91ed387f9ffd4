import BuildLedger.Keyed
import BuildLedger.Path

/-!
# Files on disk

A disk is a finite map from places to file contents, together with the places that are directories.
A place is the list of names from the root down. Every operation may be disturbed: a queue says
which of the next operations fail, and with what. A file is replaced by writing a new one beside it
and renaming that over the old one, so nobody sees half a file.
-/
namespace BuildLedger

/-- Why an operation on a file fails. -/
inductive DiskError where
  | notFound
  | alreadyThere
  | notDirectory
  | isDirectory
  | nameTooLong
  | busy
  | zeroInName
  | notText
  /-- Any other failure of the device. -/
  | device (message : String)
deriving Repr, DecidableEq

def DiskError.message : DiskError → String
  | .notFound => "No such file or directory (os error 2)"
  | .alreadyThere => "File exists (os error 17)"
  | .notDirectory => "Not a directory (os error 20)"
  | .isDirectory => "Is a directory (os error 21)"
  | .nameTooLong => "File name too long (os error 36)"
  | .busy => "Device or resource busy (os error 16)"
  | .zeroInName => "file name contained an unexpected NUL byte"
  | .notText => "stream did not contain valid UTF-8"
  | .device text => text

/-- Names from the root down. -/
abbrev Place := List String

/-- The key of a place in the map of files. -/
def Place.key (place : Place) : String := String.join (place.map ("/" ++ ·))

structure Disk where
  files : Keyed ByteArray
  directories : List Place
  /-- The directory that paths are read from. -/
  current : Place
  /-- What happens to the next operations: nothing, or a failure. -/
  disturbances : List (Option DiskError)

namespace Disk

/-- A disk with nothing on it but the current directory. -/
def blank (current : Place) : Disk :=
  ⟨∅, (List.range current.length).map fun depth => current.take (depth + 1), current, []⟩

def hasDirectory (disk : Disk) (place : Place) : Bool :=
  place.isEmpty || disk.directories.contains place

def file? (disk : Disk) (place : Place) : Option ByteArray := disk.files.get? place.key

def hasFile (disk : Disk) (place : Place) : Bool := (disk.file? place).isSome

/-- Whether the next operation is disturbed, and the disk after that. -/
def disturbed (disk : Disk) : Option DiskError × Disk :=
  match disk.disturbances with
  | [] => (none, disk)
  | next :: rest => (next, { disk with disturbances := rest })

/-- A step that fails when it is disturbed and otherwise acts. -/
def step {Value : Type} (action : Disk → Except DiskError (Value × Disk)) (disk : Disk) :
    Except DiskError Value × Disk :=
  match disk.disturbed with
  | (some problem, later) => (.error problem, later)
  | (none, later) =>
      match action later with
      | .ok (value, changed) => (.ok value, changed)
      | .error problem => (.error problem, later)

/-! ## Finding places -/

/-- Longest name in bytes. -/
def nameLimit : Nat := 255

/-- Bytes of a path from which on it is too long. -/
def pathLimit : Nat := 4096

/-- The last part of a path: a name, or something that only names a directory. -/
inductive Target where
  /-- A name in a directory, and whether a slash follows it. -/
  | entry (directory : Place) (name : String) (slash : Bool)
  | directory (place : Place)
deriving Repr, DecidableEq

def Target.place : Target → Place
  | .entry parent name _ => parent ++ [name]
  | .directory place => place

/-- Walk to the directory that holds the last part. -/
def walk (disk : Disk) (place : Place) : List String → Except DiskError Target
  | [] => .ok (.directory place)
  | piece :: rest =>
      let last := rest.all (· == "")
      if piece == "" then disk.walk place rest
      else if piece == "." || piece == ".." then
        let next := if piece == "." then place else place.dropLast
        if last then .ok (.directory next) else disk.walk next rest
      else if nameLimit < piece.utf8ByteSize then .error .nameTooLong
      else if last then .ok (.entry place piece !rest.isEmpty)
      else if disk.hasDirectory (place ++ [piece]) then disk.walk (place ++ [piece]) rest
      else if disk.hasFile (place ++ [piece]) then .error .notDirectory
      else .error .notFound

def locate (disk : Disk) (path : Path) : Except DiskError Target :=
  if path.toList.contains '\x00' then .error .zeroInName
  else if path.isEmpty then .error .notFound
  else if pathLimit ≤ path.utf8ByteSize then .error .nameTooLong
  else disk.walk (if path.isAbsolute then [] else disk.current) path.pieces

def isDirectoryAt (disk : Disk) (path : Path) : Bool :=
  match disk.locate path with
  | .ok target => disk.hasDirectory target.place
  | .error _ => false

/-! ## Reading -/

/-- The bytes of a file. -/
def contentAt (disk : Disk) (path : Path) : Except DiskError ByteArray :=
  match disk.locate path with
  | .error problem => .error problem
  | .ok target =>
      if disk.hasDirectory target.place then .error .isDirectory
      else
        match disk.file? target.place, target with
        | none, _ => .error .notFound
        | some _, .entry _ _ true => .error .notDirectory
        | some content, _ => .ok content

/-- The text of a file. -/
def textAt (disk : Disk) (path : Path) : Except DiskError String :=
  match disk.contentAt path with
  | .error problem => .error problem
  | .ok content =>
      match String.fromUTF8? content with
      | some text => .ok text
      | none => .error .notText

/-- Every file below the current directory, by its path from there. -/
def listing (disk : Disk) : List (Path × ByteArray) :=
  let start := (Place.key disk.current ++ "/").toList
  disk.files.entries.filterMap fun (key, content) =>
    if start.isPrefixOf key.toList then
      some (String.ofList (key.toList.drop start.length), content)
    else none

/-! ## Changing -/

def makeDirectory (path : Path) : Disk → Except DiskError Unit × Disk :=
  step fun disk =>
    match disk.locate path with
    | .error problem => .error problem
    | .ok (.directory _) => .error .alreadyThere
    | .ok (.entry parent name _) =>
        let place := parent ++ [name]
        if disk.hasDirectory place || disk.hasFile place then .error .alreadyThere
        else if !disk.hasDirectory parent then .error .notFound
        else .ok ((), { disk with directories := disk.directories ++ [place] })

/-- Make the listed directories, the outermost first. One that is there already is no problem. -/
def makeMissing (disk : Disk) : List Path → Except DiskError Unit × Disk
  | [] => (.ok (), disk)
  | path :: rest =>
      match makeDirectory path disk with
      | (.ok (), later) => later.makeMissing rest
      | (.error .alreadyThere, later) =>
          if later.isDirectoryAt path then later.makeMissing rest
          else (.error .alreadyThere, later)
      | (.error problem, later) => (.error problem, later)

/-- Go outwards until a directory is there or can be made, then make the ones inside it. -/
def makeFrom (disk : Disk) (waiting : List Path) : List Path → Except DiskError Unit × Disk
  | [] => disk.makeMissing waiting
  | path :: outer =>
      match makeDirectory path disk with
      | (.ok (), later) => later.makeMissing waiting
      | (.error .notFound, later) => later.makeFrom (path :: waiting) outer
      | (.error .alreadyThere, later) =>
          if later.isDirectoryAt path then later.makeMissing waiting
          else (.error .alreadyThere, later)
      | (.error problem, later) => (.error problem, later)

/-- Make a directory and the ones around it, as far as they are missing. -/
def makeDirectories (path : Path) (disk : Disk) : Except DiskError Unit × Disk :=
  disk.makeFrom [] path.chain

/-- A name that is not taken in a directory: the first free one of as many as there are names. -/
def freeName (disk : Disk) (directory : Place) : Nat → Nat → String
  | 0, number => ".pending-" ++ toString number
  | tries + 1, number =>
      let name := ".pending-" ++ toString number
      let place := directory ++ [name]
      if disk.hasFile place || disk.hasDirectory place then
        disk.freeName directory tries (number + 1)
      else name

/-- Make an empty file of a fresh name in a directory. -/
def makePending (path : Path) : Disk → Except DiskError Place × Disk :=
  step fun disk =>
    match disk.locate path with
    | .error problem => .error problem
    | .ok target =>
        let directory := target.place
        if disk.hasDirectory directory then
          let count := disk.files.entries.length + disk.directories.length + 1
          let place := directory ++ [disk.freeName directory count 0]
          .ok (place, { disk with files := disk.files.insert place.key ByteArray.empty })
        else if disk.hasFile directory then .error .notDirectory
        else .error .notFound

def fill (place : Place) (content : ByteArray) : Disk → Except DiskError Unit × Disk :=
  step fun disk => .ok ((), { disk with files := disk.files.insert place.key content })

/-- Rename a pending file over whatever file has the path. -/
def settle (pending : Place) (path : Path) : Disk → Except DiskError Unit × Disk :=
  step fun disk =>
    match disk.locate path with
    | .error problem => .error problem
    | .ok (.directory _) => .error .busy
    | .ok (.entry parent name slash) =>
        let place := parent ++ [name]
        if slash then .error .notDirectory
        else if disk.hasDirectory place then .error .isDirectory
        else if !disk.hasDirectory parent then .error .notFound
        else
          match disk.file? pending with
          | none => .error .notFound
          | some content =>
              .ok ((), { disk with
                files := (disk.files.erase pending.key).insert place.key content })

def discard (pending : Place) : Disk → Except DiskError Unit × Disk :=
  step fun disk => .ok ((), { disk with files := disk.files.erase pending.key })

/-- The directory in which a file is prepared. -/
def workshop (path : Path) : Path :=
  match path.parent? with
  | some "" | none => "."
  | some parent => parent

/-- The directories around a path are made unless the path has none. -/
def prepare (path : Path) (disk : Disk) : Except DiskError Unit × Disk :=
  match path.parent? with
  | some "" | none => (.ok (), disk)
  | some parent => makeDirectories parent disk

/-- Write a file in one move: the old content stays until the new one is complete. -/
def writeAtomically (path : Path) (content : ByteArray) (disk : Disk) :
    Except DiskError Unit × Disk :=
  match disk.prepare path with
  | (.error problem, later) => (.error problem, later)
  | (.ok (), prepared) =>
      match makePending (workshop path) prepared with
      | (.error problem, later) => (.error problem, later)
      | (.ok pending, started) =>
          match fill pending content started with
          | (.error problem, later) => (.error problem, (discard pending later).2)
          | (.ok (), filled) =>
              match settle pending path filled with
              | (.error problem, later) => (.error problem, (discard pending later).2)
              | (.ok (), settled) => (.ok (), settled)

/-- Remove the file at a path. -/
def unlink (path : Path) : Disk → Except DiskError Unit × Disk :=
  step fun disk =>
    match disk.locate path with
    | .error problem => .error problem
    | .ok (.directory _) => .error .isDirectory
    | .ok (.entry parent name slash) =>
        let place := parent ++ [name]
        if disk.hasDirectory place then .error .isDirectory
        else if disk.hasFile place then
          if slash then .error .notDirectory
          else .ok ((), { disk with files := disk.files.erase place.key })
        else .error .notFound

/-- Remove a file that may be missing, and say whether it was there. -/
def removeIfPresent (path : Path) (disk : Disk) : Except DiskError Bool × Disk :=
  match unlink path disk with
  | (.ok (), later) => (.ok true, later)
  | (.error .notFound, later) => (.ok false, later)
  | (.error problem, later) => (.error problem, later)

end Disk

end BuildLedger
