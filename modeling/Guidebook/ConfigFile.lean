import Guidebook.Config
import Guidebook.Toml.Reader
import Guidebook.Workspace

/-!
# Configuration files

A project may have its configuration in one of a few places, of which the first that holds a file
counts.  Without a file the defaults hold.
-/

namespace Guidebook

namespace Config

/-- Where a configuration may lie, seen from the root of a project. -/
def candidates : List String :=
  ["guidegen.toml", ".guidegen.toml", ".config/guidegen.toml"]

/-- The configuration file of a project. -/
def filePath? (disk : Disk) (root : Path) : Option Path :=
  (candidates.map root.join).find? disk.isFile

/-- The configuration that a text states. -/
def ofText (text : String) : Except Error Config :=
  match (Toml.parse? text).bind (ofValue? .configuration) with
  | some config => .ok config
  | none => .error (.configParse .unreadable)

/-- The configuration of a project. -/
def load (root : Path) : Action Config := do
  match filePath? (← Action.disk) root with
  | none => return {}
  | some path =>
    let text ← Action.reading fun disk => disk.readText path
    Action.ofExcept (ofText text)

/-- The directory of a project's guides. -/
def guidesPath (config : Config) (root : Path) : Path :=
  root.join config.guidesDir

end Config

end Guidebook
