import Guidebook.Config
import Guidebook.Files.Ignore
import Guidebook.Layout
import Guidebook.Workspace

/-!
# Transfer

A guide's own sources are copied over the generated projects of its variants.  A guide folder has,
for each application, a tree that all languages share and one tree per language.  The sources of
the guide's base are copied first, so that those of the guide count.
-/

namespace Guidebook

namespace Transfer

/-- The directory of a variant, below that of all example code. -/
def variantRoot (codeDir : Path) (guide : Guide) (variant : Variant) : Path :=
  codeDir.joinAll [guide.slug, Layout.variantName guide.slug variant]

/-- Copies the files below a directory that are neither hidden nor ignored. -/
def copyTree (source destination : Path) : Action Unit := do
  match (← Action.disk).locate source with
  | .error reason => throw (.disk reason)
  | .ok location =>
    let files := (← Action.disk).shownFilesBelow location
    files.forM fun found =>
      Action.copyFile (source.joinAll found.1) (destination.joinAll found.1)

/-- Copies a tree that may be missing. -/
def copyTreeIfPresent (source destination : Path) : Action Unit := do
  if (← Action.disk).isDirectory source then copyTree source destination

/-- Copies the shared tree and the tree of a language. -/
def copySources (source destination : Path) (language : Language) : Action Unit := do
  copyTreeIfPresent (source.join "src") (destination.join "src")
  copyTreeIfPresent (source.join language.name) destination

/-! ## Exclusions -/

/-- The entry that stands for a whole tree. -/
def everything : String :=
  "all"

/-- Removes what an entry of a list of exclusions names. -/
def applyExclusion (app : App) (destination : Path) (language : Language) (sourceSet : SourceSet)
    (entry : String) : Action Unit := do
  let disk ← Action.disk
  if entry = everything then
    let tree := destination.joinAll ["src", sourceSet.name, language.name]
    if disk.isDirectory tree then Action.changing fun disk => disk.removeDirectory tree
  else
    let file := destination.join (Layout.codePath app entry sourceSet language)
    if disk.isFile file then Action.changing fun disk => disk.removeFile file
    else Action.warn s!"File {file.text} to delete does not exist"

/-- Removes the files that an application leaves out of its tree. -/
def applyExclusions (app : App) (destination : Path) (variant : Variant) : Action Unit := do
  app.excludeSource.forM (applyExclusion app destination variant.language .main)
  app.excludeTest.forM (applyExclusion app destination variant.language .test)

/-! ## Other files of a guide -/

/-- The patterns of the files that are copied for their extension. -/
def extensionPatterns : List String → Except Error (List Pattern)
  | [] => .ok []
  | extension :: rest =>
    match Pattern.parse false ("*" ++ extension) with
    | .error _ => .error (.configParse (.zipExtension extension))
    | .ok pattern => (extensionPatterns rest).map (pattern :: ·)

/-- Copies a file that a guide names. -/
def copyInclude (folder root : Path) (name : String) : Action Unit := do
  let source := folder.join name
  if (← Action.disk).isFile source then Action.copyFile source (root.join name)
  else Action.warn s!"zip include {source.text} does not exist"

/-- Copies the files that a guide names, and those with certain extensions. -/
def copyIncludes (config : Config) (guide : Guide) (root : Path) : Action Unit := do
  guide.zipIncludes.forM (copyInclude guide.folder root)
  let disk ← Action.disk
  if disk.isDirectory guide.folder then
    let patterns ← Action.ofExcept (extensionPatterns config.zipIncludesExtensions)
    let names := (disk.filesIn guide.folder).filter fun name =>
      patterns.any fun pattern => pattern.isMatch false name
    names.forM fun name => Action.copyFile (guide.folder.join name) (root.join name)

/-! ## Everything -/

/-- The guide from which a guide inherits, among those that there are. -/
def base? (guides : List Guide) (guide : Guide) : Option Guide :=
  guide.base.bind fun slug => guides.find? fun candidate => candidate.slug == slug

/-- Copies the sources for an application: those of the base, then those of the guide. -/
def copyAppSources (guides : List Guide) (guide : Guide) (variant : Variant) (root : Path)
    (app : App) : Action Unit := do
  let folder := (Layout.appFolder? guide app).getD ""
  let sourceModule := guide.sourceModule.getD ""
  match base? guides guide with
  | none => pure ()
  | some base =>
    let baseModule := guide.baseSourceModule.getD sourceModule
    copySources (base.folder.join folder) (root.joinAll [folder, baseModule]) variant.language
  copySources (guide.folder.join folder) (root.joinAll [folder, sourceModule]) variant.language

/-- Copies the sources for an application and removes what the application leaves out. -/
def transferApp (guides : List Guide) (guide : Guide) (variant : Variant) (root : Path)
    (app : App) : Action Unit := do
  copyAppSources guides guide variant root app
  let folder := (Layout.appFolder? guide app).getD ""
  applyExclusions app (root.joinAll [folder, guide.sourceModule.getD ""]) variant

/-- Transfers the files of a guide into the directory of a variant. -/
def run (config : Config) (guides : List Guide) (guide : Guide) (variant : Variant)
    (codeDir : Path) : Action Unit := do
  let root := variantRoot codeDir guide variant
  guide.apps.forM (transferApp guides guide variant root)
  copyIncludes config guide root

end Transfer

end Guidebook
