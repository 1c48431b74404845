import Guidebook.Error
import Guidebook.Files.Path

/-!
# Disk

A disk holds files and directories, each at a location: the names that lead to it from the root.  A
path leads to a location step by step, and every step but the last must arrive at a directory.
Operations refuse what the disk cannot do and say why.
-/

namespace Guidebook

/-- The names that lead from the root to a file or directory. -/
abbrev Location := List String

/-- What a disk holds at a location. -/
inductive Entry where
  | file (content : ByteArray)
  | directory

instance : DecidableEq Entry
  | .file first, .file second =>
    @decidable_of_iff _ (first = second) (by simp) (ByteArray.instDecidableEq first second)
  | .file _, .directory => isFalse nofun
  | .directory, .file _ => isFalse nofun
  | .directory, .directory => isTrue rfl

/-- Files and directories.  The root is a directory that is always there. -/
structure Disk where
  entries : List (Location × Entry)
  /-- Where relative paths start. -/
  workingDirectory : Location
deriving DecidableEq

namespace Disk

/-! ## Locations -/

/-- What stands at a location. -/
def entry? (disk : Disk) (location : Location) : Option Entry :=
  if location = [] then some .directory else disk.entries.lookup location

/-- Sets what stands at a location. -/
def put (disk : Disk) (location : Location) (entry : Entry) : Disk :=
  { disk with
    entries := (location, entry) :: disk.entries.filter fun present => present.1 != location }

/-- Removes what stands at a location. -/
def erase (disk : Disk) (location : Location) : Disk :=
  { disk with entries := disk.entries.filter fun present => present.1 != location }

/-- Removes what stands at a location and below it. -/
def eraseBelow (disk : Disk) (location : Location) : Disk :=
  { disk with entries := disk.entries.filter fun present => !location.isPrefixOf present.1 }

/-- The files below a location, by the names that lead to them from there. -/
def filesBelow (disk : Disk) (location : Location) : List (List String × ByteArray) :=
  disk.entries.filterMap fun present =>
    match present.2 with
    | .file content =>
      if location.isPrefixOf present.1 then some (present.1.drop location.length, content) else none
    | .directory => none

/-- The directories below a location, by the names that lead to them from there. -/
def directoriesBelow (disk : Disk) (location : Location) : List (List String) :=
  disk.entries.filterMap fun present =>
    match present.2 with
    | .file _ => none
    | .directory =>
      if location.isPrefixOf present.1 && present.1 != location then
        some (present.1.drop location.length)
      else none

/-! ## Paths -/

/-- The most bytes of a name. -/
def longestName : Nat :=
  255

/-- The most bytes of a path. -/
def longestPath : Nat :=
  4095

/-- Where the pieces of a path lead from a location. -/
def follow (disk : Disk) (here : Location) : List String → Except DiskError Location
  | [] => .ok here
  | piece :: rest =>
    match disk.entry? here with
    | none => .error .notFound
    | some (.file _) => .error .notADirectory
    | some .directory =>
      if piece = "" ∨ piece = "." then follow disk here rest
      else if piece = ".." then follow disk here.dropLast rest
      else if longestName < piece.utf8ByteSize then .error .nameTooLong
      else follow disk (here ++ [piece]) rest

/-- The location to which a path leads. -/
def locate (disk : Disk) (path : Path) : Except DiskError Location :=
  if path.text = "" then .error .notFound
  else if path.text.toList.contains '\x00' then .error .nulInName
  else if longestPath < path.text.utf8ByteSize then .error .nameTooLong
  else disk.follow (if path.isAbsolute then [] else disk.workingDirectory) path.pieces

/-- What a path leads to. -/
def at? (disk : Disk) (path : Path) : Option Entry :=
  match disk.locate path with
  | .ok location => disk.entry? location
  | .error _ => none

/-- Whether a path leads to a directory. -/
def isDirectory (disk : Disk) (path : Path) : Bool :=
  match disk.at? path with
  | some .directory => true
  | _ => false

/-- Whether a path leads to a file. -/
def isFile (disk : Disk) (path : Path) : Bool :=
  match disk.at? path with
  | some (.file _) => true
  | _ => false

/-! ## Reading -/

/-- The content of the file that a path leads to. -/
def read (disk : Disk) (path : Path) : Except DiskError ByteArray :=
  match disk.locate path with
  | .error reason => .error reason
  | .ok location =>
    match disk.entry? location with
    | none => .error .notFound
    | some .directory => .error .isADirectory
    | some (.file content) => .ok content

/-- The text of the file that a path leads to. -/
def readText (disk : Disk) (path : Path) : Except DiskError String :=
  match disk.read path with
  | .error reason => .error reason
  | .ok content =>
    match String.fromUTF8? content with
    | some text => .ok text
    | none => .error .notText

/-- The files that lie in a directory, by their names. -/
def filesIn (disk : Disk) (path : Path) : List String :=
  match disk.locate path with
  | .error _ => []
  | .ok location =>
    (disk.filesBelow location).filterMap fun found =>
      match found.1 with
      | [name] => some name
      | _ => none

/-! ## Writing -/

/-- Writes a file, in place of the one that stands there. -/
def write (disk : Disk) (path : Path) (content : ByteArray) : Except DiskError Disk :=
  match disk.locate path with
  | .error reason => .error reason
  | .ok location =>
    match disk.entry? location with
    | some .directory => .error .isADirectory
    | _ => .ok (disk.put location (.file content))

/-- Copies a file.  A file that is copied onto itself loses its content. -/
def copy (disk : Disk) (source destination : Path) : Except DiskError Disk :=
  match disk.read source with
  | .error reason => .error reason
  | .ok content =>
    if (disk.locate source).toOption = (disk.locate destination).toOption then
      disk.write destination ByteArray.empty
    else disk.write destination content

/-- Makes a directory in one that is there. -/
def makeDirectory (disk : Disk) (path : Path) : Except DiskError Disk :=
  match disk.locate path.withoutTrailingSlashes with
  | .error reason => .error reason
  | .ok location =>
    match disk.entry? location with
    | some _ => .error .alreadyExists
    | none => .ok (disk.put location .directory)

/-- Makes the first directory of a list; each later one is where the one before it belongs. -/
def makeNested (disk : Disk) : List Path → Except DiskError Unit × Disk
  | [] => (.ok (), disk)
  | path :: outer =>
    let settle := fun (reason : DiskError) (disk : Disk) =>
      if disk.isDirectory path then (.ok (), disk) else (.error reason, disk)
    match disk.makeDirectory path with
    | .ok made => (.ok (), made)
    | .error .notFound =>
      match makeNested disk outer with
      | (.error reason, after) => (.error reason, after)
      | (.ok (), after) =>
        match after.makeDirectory path with
        | .ok made => (.ok (), made)
        | .error reason => settle reason after
    | .error reason => settle reason disk

/-- Makes a directory together with those around it that are missing. -/
def makeDirectories (disk : Disk) (path : Path) : Except DiskError Unit × Disk :=
  if path.text = "" then (.ok (), disk) else disk.makeNested (path :: path.ancestors)

/-- Removes a file. -/
def removeFile (disk : Disk) (path : Path) : Except DiskError Disk :=
  match disk.locate path with
  | .error reason => .error reason
  | .ok location =>
    match disk.entry? location with
    | none => .error .notFound
    | some .directory => .error .isADirectory
    | some (.file _) => .ok (disk.erase location)

/-- Removes a directory with everything below it. -/
def removeDirectory (disk : Disk) (path : Path) : Except DiskError Disk :=
  match disk.locate path with
  | .error reason => .error reason
  | .ok location =>
    match disk.entry? location with
    | none => .error .notFound
    | some (.file _) => .error .notADirectory
    | some .directory => .ok (disk.eraseBelow location)

end Disk

end Guidebook
