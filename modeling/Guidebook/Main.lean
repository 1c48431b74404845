import Guidebook.CommandLine.Run
import Guidebook.Files.Ignore

/-!
# The program

Reads the part of the disk that a command line is about, runs it, writes back what has changed, and
prints what the command leaves on its channels.
-/

namespace Guidebook.Main

open Guidebook.CommandLine

/-- The text of the path that leads to a location. -/
def pathText (location : Location) : String :=
  "/" ++ String.intercalate "/" location

/-- The location of a path without dots, seen from a working directory. -/
def locationOf (workingDirectory : Location) (path : Path) : Location :=
  let names := path.components.filterMap fun component => match component with
    | .name text => some text
    | _ => none
  if path.isAbsolute then names else workingDirectory ++ names

/-- Everything at a location and below it. -/
partial def entriesAt (location : Location) : IO (List (Location × Entry)) := do
  let path := (← IO.currentDir) / pathText location
  if ← path.isDir then
    let mut entries := [(location, Entry.directory)]
    for child in ← path.readDir do
      entries := entries ++ (← entriesAt (location ++ [child.fileName]))
    return entries
  else if ← path.pathExists then return [(location, .file (← IO.FS.readBinFile path))]
  else return []

/-- The directories around a location, with the rules on ignored files that they hold. -/
def surroundings (location : Location) : IO (List (Location × Entry)) := do
  let mut entries := []
  for count in List.range location.length do
    let directory := location.take count
    entries := entries ++ [(directory, Entry.directory)]
    for kind in Disk.ruleFiles do
      let path := (← IO.currentDir) / pathText (directory ++ kind)
      if (← path.pathExists) && !(← path.isDir) then
        entries := entries ++ [(directory ++ kind, .file (← IO.FS.readBinFile path))]
  return entries

/-- The part of the disk around and below directories. -/
def readDisk (workingDirectory : Location) (directories : List Path) : IO Disk := do
  let mut entries := []
  for directory in directories do
    let location := locationOf workingDirectory directory
    entries := entries ++ (← surroundings location) ++ (← entriesAt location)
  return ⟨entries.filter fun entry => entry.1 != [], workingDirectory⟩

/-- Writes what has changed from one disk to another. -/
def writeChanges (before after : Disk) : IO Unit := do
  for (location, _) in before.entries do
    if (after.entry? location).isNone then
      let path := (← IO.currentDir) / pathText location
      if ← path.isDir then IO.FS.removeDirAll path
      else if ← path.pathExists then IO.FS.removeFile path
  for (location, entry) in after.entries.reverse do
    if before.entry? location != some entry then
      let path := (← IO.currentDir) / pathText location
      match entry with
      | .directory => IO.FS.createDirAll path
      | .file content => IO.FS.writeBinFile path content

/-- The variables of the environment that have the given names. -/
def readVariables (names : List String) : IO Environment := do
  let mut environment := []
  for name in names do
    match ← IO.getEnv name with
    | some value => environment := (name, value) :: environment
    | none => pure ()
  return environment

/-- Runs a command line and gives its exit code. -/
def run (arguments : List String) : IO UInt32 := do
  let workingDirectory := locationOf [] ⟨(← IO.currentDir).toString⟩
  let empty : Disk := ⟨[], workingDirectory⟩
  let disk ← readDisk workingDirectory (directories arguments empty)
  let environment ← readVariables (environmentNames arguments disk)
  let (outcome, changed) := CommandLine.run arguments environment disk
  writeChanges disk changed
  (← IO.getStdout).putStr outcome.stdout
  (← IO.getStderr).putStr outcome.stderr
  return outcome.code.toUInt32

end Guidebook.Main

def main (arguments : List String) : IO UInt32 :=
  Guidebook.Main.run arguments
