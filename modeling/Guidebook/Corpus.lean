import Guidebook.ConfigFile
import Guidebook.Guide.Defaults
import Guidebook.Json.Reader

/-!
# The corpus

The guides of a project lie in directories that hold a metadata file.  They are read in the order
of their directories; those that cannot be read, or whose slug another guide has already, are left
out with a warning.  The others take over from their bases what they lack, and then the defaults.
-/

namespace Guidebook

namespace Corpus

/-- Whether a directory is passed over in the search for guides. -/
def isPassedOver (name : String) : Bool :=
  name.toList.head? == some '.' || name == "build" || name == "target"

/-- The directories of guides, in the order of their paths. -/
def directories (disk : Disk) (guidesDir : Path) (metadataFile : String) : List Path :=
  match disk.locate guidesDir with
  | .error _ => []
  | .ok location =>
    let below := (disk.directoriesBelow location).filter fun names => !names.any isPassedOver
    let found := (guidesDir :: below.map guidesDir.joinAll).filter fun directory =>
      disk.isFile (directory.join metadataFile)
    found.mergeSort fun first second => !second.precedes first

/-- Whether metadata says that its guide is published, as it does unless it says otherwise. -/
def saysPublished (metadata : Json.Value) : Bool :=
  ((metadata.member? "publish").bind Json.Value.boolean?).getD true

/-- The guide that a metadata file describes. -/
def readGuide (config : Config) (directory path : Path) (content : String) :
    Except Error Guide := do
  let metadata ← match Json.parse? content with
    | some metadata => .ok metadata
    | none => .error (.metadataParse path.text)
  let violations := config.schema.violations metadata
  if config.validateMetadata && saysPublished metadata && !violations.isEmpty then
    throw (.schemaViolation path.text violations)
  match Guide.ofValue? metadata with
  | none => .error (.metadataParse path.text)
  | some guide =>
    let slug := if guide.slug = "" then directoryName directory else guide.slug
    return { guide with folder := directory, slug := slug }

/-- The guide of a directory, if its metadata can be read; otherwise a warning is given. -/
def guideIn? (config : Config) (directory : Path) : Action (Option Guide) := do
  let path := directory.join config.metadataFile
  let result := match (← Action.disk).readText path with
    | .ok content => readGuide config directory path content
    | .error reason => .error (.disk reason)
  match result with
  | .ok guide => return some guide
  | .error _ =>
    Action.warn s!"skipping guide {directory.text}"
    return none

/-- The guides of several directories whose slugs differ from each other and from the given. -/
def guidesIn (config : Config) (taken : List String) : List Path → Action (List Guide)
  | [] => return []
  | directory :: rest => do
    match ← guideIn? config directory with
    | none => guidesIn config taken rest
    | some guide =>
      if taken.contains guide.slug then
        Action.warn s!"duplicate guide slug `{guide.slug}` in {directory.text}, skipping"
        guidesIn config taken rest
      else
        let others ← guidesIn config (guide.slug :: taken) rest
        return guide :: others

/-- The guides below a directory, complete. -/
def load (config : Config) (guidesDir : Path) : Action (List Guide) := do
  let disk ← Action.disk
  if !disk.isDirectory guidesDir then throw (.guidesDirNotFound guidesDir.text)
  let authored ← guidesIn config [] (directories disk guidesDir config.metadataFile)
  let (merged, warnings) := Inheritance.run config.strictBase authored
  Action.report warnings
  return (← Action.ofExcept merged).map (Guide.withDefaults config)

/-- The guides of a project. -/
def ofProject (config : Config) (root : Path) : Action (List Guide) :=
  load config (config.guidesPath root)

end Corpus

end Guidebook
