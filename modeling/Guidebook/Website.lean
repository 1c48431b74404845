import Guidebook.Check
import Guidebook.Corpus
import Guidebook.Project.Request
import Guidebook.Project.Transfer

/-!
# Website

The website of a project holds one document per variant of each guide, and the example code of
every variant: generated projects with the sources of the guide copied over them.
-/

namespace Guidebook

open Guidebook.Markup

/-- Turns expanded markup into a document that is published. -/
structure Converter where
  /-- The extension of the documents. -/
  extension : String
  /-- The document of a text; relative references start at the given directory. -/
  convert : (markup : String) → (baseDir : Path) → (attributes : Dictionary String) →
    Except Error String

/-- Publishes the expanded markup as it is. -/
def Converter.identity : Converter where
  extension := "adoc"
  convert := fun markup _ _ => .ok markup

/-- Creates the files of an example project, each under its name in the project's directory. -/
structure ProjectGenerator where
  generate : ProjectRequest → Except Error (List (String × String))

/-- Creates one file that records the request. -/
def ProjectGenerator.manifest : ProjectGenerator where
  generate := fun request => .ok [("project.json", request.manifest)]

/-- The outcome of a run. -/
structure WebsiteReport where
  /-- The documents that were written, relative to the output. -/
  rendered : List String
  failures : List Failure
  /-- The guides that took no part in the run. -/
  skipped : List String

/-- What a run works with. -/
structure Website where
  config : Config
  jdk : UInt32
  converter : Converter
  generator : ProjectGenerator

namespace Website

/-- The directory of the example code, below the output. -/
def codeDir (output : Path) : Path :=
  output.join "code"

/-- Creates an example project. -/
def createProject (website : Website) (variantDir : Path) (request : ProjectRequest) :
    Action Unit := do
  let directory := variantDir.join (request.appFolder.getD "")
  let files ← Action.ofExcept (website.generator.generate request)
  Action.makeDirectories directory
  files.forM fun file =>
    Action.changing fun disk => disk.write (directory.join file.1) file.2.toUTF8

/-- Creates the example code of a variant, if the guide has applications. -/
def createCode (website : Website) (guides : List Guide) (guide : Guide) (variant : Variant)
    (output : Path) : Action Unit := do
  if guide.apps.isEmpty then return ()
  let variantDir := Transfer.variantRoot (codeDir output) guide variant
  let jdk := guide.jdkFor website.jdk
  (ProjectRequest.all website.config guide variant jdk).forM (website.createProject variantDir)
  Transfer.run website.config guides guide variant (codeDir output)

/-- The document of a variant, from the markup of its guide. -/
def document (website : Website) (guide : Guide) (variant : Variant) (root output : Path)
    (markup : String) : Action String := do
  let code := codeDir output
  let rendering : Rendering := ⟨guide, variant, some ⟨← Action.disk, code⟩⟩
  let pipeline := Pipeline.standard website.config website.jdk
  let expanded ← Document.expandText pipeline rendering markup
  let variantDir := Transfer.variantRoot code guide variant
  let attributes := Document.attributes rendering code variantDir
  Action.ofExcept (website.converter.convert expanded root attributes)

/-- The name of the document of a variant. -/
def documentName (website : Website) (guide : Guide) (variant : Variant) : String :=
  Layout.variantName guide.slug variant ++ "." ++ website.converter.extension

/-- Creates, converts and writes a variant, and names its document. -/
def renderVariant (website : Website) (guides : List Guide) (guide : Guide)
    (root output : Path) (markup : String) (variant : Variant) : Action String := do
  website.createCode guides guide variant output
  let text ← website.document guide variant root output markup
  let name := website.documentName guide variant
  Action.makeDirectories output
  Action.changing fun disk => disk.write (output.join name) text.toUTF8
  Action.info s!"rendered guide {guide.slug} ({variant.name})"
  return name

/-- Renders every variant of a guide, and names their documents. -/
def renderGuide (website : Website) (guides : List Guide) (root output : Path) (guide : Guide) :
    Action (List String) := do
  let markup ← Document.read guide
  let variants ← Document.variants guide
  variants.mapM (website.renderVariant guides guide root output markup)

/-- The report with the outcome of one more guide in front. -/
def addOutcome (report : WebsiteReport) (slug : String) :
    Except Error (List String) → WebsiteReport
  | .ok names => { report with rendered := names ++ report.rendered }
  | .error reason => { report with failures := ⟨slug, reason⟩ :: report.failures }

/-- Renders the guides that take part in the run; one that fails does not keep the others back. -/
def renderAll (website : Website) (guides : List Guide) (root output : Path) :
    List Guide → Action WebsiteReport
  | [] => return ⟨[], [], []⟩
  | guide :: rest => do
    Action.report (guide.processedLog true website.config website.jdk)
    if guide.isProcessed true website.config website.jdk then
      let outcome ← Action.attempt (website.renderGuide guides root output guide)
      match outcome with
      | .ok _ => pure ()
      | .error reason =>
        Action.warn s!"failed to render guide {guide.slug}: {reason.message}"
      return addOutcome (← renderAll website guides root output rest) guide.slug outcome
    else
      let report ← renderAll website guides root output rest
      return { report with skipped := guide.slug :: report.skipped }

/-- Renders the guides of a project into a directory. -/
def generate (website : Website) (root output : Path) : Action WebsiteReport := do
  let guides ← Corpus.ofProject website.config root
  website.renderAll guides root output guides

end Website

end Guidebook
