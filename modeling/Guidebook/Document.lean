import Guidebook.Markup.Vocabulary
import Guidebook.Workspace

/-!
# Documents

The document of a guide is read from its folder and expanded for one variant at a time.
-/

namespace Guidebook

open Guidebook.Markup

namespace Document

/-- The document of a guide as it is written. -/
def read (guide : Guide) : Action String := do
  match guide.documentPath? with
  | none => throw (.missingDocument guide.slug "")
  | some path =>
    if !(← Action.disk).isFile path then throw (.missingDocument guide.slug path.text)
    Action.reading fun disk => disk.readText path

/-- A text expanded for a variant, with what that reports. -/
def expandText (pipeline : Pipeline) (rendering : Rendering) (text : String) : Action String := do
  Action.report (pipeline.notices rendering text)
  Action.ofExcept (pipeline.substitute rendering text)

/-- The document of a guide expanded for a variant, with the example code below a directory. -/
def expand (pipeline : Pipeline) (guide : Guide) (variant : Variant) (codeDir : Option Path) :
    Action String := do
  let text ← read guide
  let disk ← Action.disk
  expandText pipeline ⟨guide, variant, codeDir.map fun root => ⟨disk, root⟩⟩ text

/-- The rendered variants of a guide, with what listing them reports. -/
def variants (guide : Guide) : Action (List Variant) := do
  Action.report guide.renderedVariantsLog
  return guide.renderedVariants

/-- The variant with the build tool and language asked for, with what finding it reports. -/
def select (guide : Guide) (buildTool : Option BuildTool) (language : Option Language) :
    Action Variant := do
  Action.report guide.renderedVariantsLog
  Action.ofExcept (guide.selectVariant buildTool language)

/-- The attributes that describe a rendering to a converter. -/
def attributes (rendering : Rendering) (sourceDir variantDir : Path) : Dictionary String :=
  let guide := rendering.guide
  let variant := rendering.variant
  Dictionary.ofList <|
    (guide.cloud.map fun cloud => ("cloud", cloud.acronym)).toList ++
      [("language", variant.language.name),
        ("testFramework", variant.testFramework.name),
        ("buildTool", variant.buildTool.name),
        ("intro", guide.intro),
        ("title", guide.title),
        ("sourcedir", sourceDir.text),
        ("guidesourcedir", variantDir.text)]

end Document

end Guidebook
