import Guidebook.Files.Disk
import Guidebook.Log

/-!
# Workspace

Operations on a project read and change a disk and report to a log.  An operation that fails keeps
what it has changed and reported so far.
-/

namespace Guidebook

/-- What operations on a project work with. -/
structure Workspace where
  disk : Disk
  log : Log

/-- An operation on a project. -/
abbrev Action := ExceptT Error (StateM Workspace)

namespace Action

/-- Adds events to the log. -/
def report (events : Log) : Action Unit :=
  modify fun workspace => { workspace with log := workspace.log ++ events }

/-- Reports progress. -/
def info (message : String) : Action Unit :=
  report [.info message]

/-- Reports something amiss. -/
def warn (message : String) : Action Unit :=
  report [.warning message]

/-- The disk as it is now. -/
def disk : Action Disk := do
  return (← get).disk

/-- The result of a computation that may fail. -/
def ofExcept {α : Type} : Except Error α → Action α
  | .ok value => pure value
  | .error reason => throw reason

/-- What is read from the disk. -/
def reading {α : Type} (read : Disk → Except DiskError α) : Action α := do
  match read (← disk) with
  | .ok value => return value
  | .error reason => throw (.disk reason)

/-- Changes the disk. -/
def changing (change : Disk → Except DiskError Disk) : Action Unit := do
  match change (← disk) with
  | .ok changed => modify fun workspace => { workspace with disk := changed }
  | .error reason => throw (.disk reason)

/-- Makes a directory together with those around it that are missing. -/
def makeDirectories (path : Path) : Action Unit := do
  let (result, changed) := (← disk).makeDirectories path
  modify fun workspace => { workspace with disk := changed }
  match result with
  | .ok () => return ()
  | .error reason => throw (.disk reason)

/-- Copies a file into a directory that is made if it is missing. -/
def copyFile (source destination : Path) : Action Unit := do
  match destination.parent? with
  | some directory => makeDirectories directory
  | none => pure ()
  changing fun disk => disk.copy source destination

/-- The result of an operation, as a value, so that what follows it goes on after an error. -/
def attempt {α : Type} (action : Action α) : Action (Except Error α) :=
  ExceptT.mk do return .ok (← action.run)

end Action

end Guidebook
