import Guidebook.Config
import Guidebook.Markup.Rendering

/-!
# Descriptions

Placeholders that describe an application of the guide, or the guide and its variant.
-/

namespace Guidebook.Markup

/-- Features in prose: between grave accents, with commas and a final `and`. -/
def featuresInWords (features : List String) : String :=
  let words := features.map fun feature => s!"`{feature}`"
  match words.getLast? with
  | none => ""
  | some last =>
    if words.length = 1 then last
    else String.intercalate ", " words.dropLast ++ ", and " ++ last

/-- What a placeholder tells of an application. -/
inductive AppDescription where
  /-- The features between commas. -/
  | features
  /-- The features that the guide mentions, in prose. -/
  | featuresInWords
  /-- The command that creates the application. -/
  | command
deriving DecidableEq

namespace AppDescription

def name : AppDescription → String
  | .features => "features"
  | .featuresInWords => "features-words"
  | .command => "cli-command"

def order : AppDescription → Int
  | .features => 70
  | .featuresInWords => 71
  | .command => 72

/-- The description of an application. -/
def text (description : AppDescription) (app : App) (language : Language) : String :=
  match description with
  | .features => String.intercalate "," (app.features language)
  | .featuresInWords => Markup.featuresInWords (app.visibleFeatures language)
  | .command => app.applicationType.command

/-- What stands in place of a placeholder, whose qualifier must name an application. -/
def expand (description : AppDescription) (rendering : Rendering) (placeholder : Placeholder) :
    Except Error (Option String) :=
  match placeholder.qualifier with
  | none => .ok none
  | some appName =>
    if placeholder.name = description.name then
      (rendering.guide.requireApp appName description.name).map fun app =>
        some (description.text app rendering.language)
    else .ok none

def handler (description : AppDescription) : Handler :=
  Handler.ofPlaceholder description.name description.order description.expand

end AppDescription

namespace VariantDescription

/-- What a name tells of a guide and its variant. -/
def text? (config : Config) (jdk : UInt32) (rendering : Rendering) (name : String) :
    Option String :=
  let guide := rendering.guide
  let variant := rendering.variant
  match name with
  | "lang" => some variant.language.name
  | "build" => some variant.buildTool.name
  | "testFramework" => some variant.testFramework.name
  | "languageextension" => some variant.language.extension
  | "testsuffix" => some variant.testFramework.testSuffix
  | "sourceDir" => some rendering.variantName
  | "guideTitle" => some guide.title
  | "guideIntro" => some guide.intro
  | "authors" => some (String.intercalate ", " guide.authors)
  | "minJdk" => some (toString (guide.minimumJavaVersion.getD jdk).toNat)
  | "api" => some config.apiUrl
  | _ => none

/-- What stands in place of a placeholder; one with a qualifier stays. -/
def expand? (config : Config) (jdk : UInt32) (rendering : Rendering) (placeholder : Placeholder) :
    Option String :=
  match placeholder.qualifier with
  | some _ => none
  | none => text? config jdk rendering placeholder.name

def handler (config : Config) (jdk : UInt32) : Handler :=
  Handler.ofPlaceholder "variant-placeholders" 80 fun rendering placeholder =>
    .ok (expand? config jdk rendering placeholder)

end VariantDescription

end Guidebook.Markup
