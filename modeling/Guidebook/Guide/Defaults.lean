import Guidebook.Config
import Guidebook.Guide.Inheritance

/-!
# Defaults

What a guide leaves unset once its bases have been taken into account is filled in from the
configuration and from the folder of the guide.
-/

namespace Guidebook

open Guidebook.Text

/-- A list without its repetitions: of equal members the first stays. -/
def distinct (members : List String) : List String :=
  members.eraseDups

/-- The name of the directory at the end of a path, or nothing. -/
def directoryName (folder : Path) : String :=
  folder.fileName?.getD ""

/-- A text, or the default if the text is blank. -/
def unlessBlank (default text : String) : String :=
  if isBlankText text.toList then default else text

/-- An application with its name and its package filled in. -/
def App.withDefaults (config : Config) (app : App) : App :=
  { app with
    name := unlessBlank config.defaultAppName app.name
    packageName := unlessBlank config.packageName app.packageName }

/-- A guide with everything filled in that it leaves unset. -/
def Guide.withDefaults (config : Config) (guide : Guide) : Guide :=
  let slug := if guide.slug = "" then directoryName guide.folder else guide.slug
  { guide with
    languages := inheritedList config.defaultLanguages guide.languages
    buildTools := inheritedList config.defaultBuildTools guide.buildTools
    slug := slug
    asciidoctor :=
      if guide.publish && guide.asciidoctor.isNone then some (slug ++ ".adoc")
      else guide.asciidoctor
    apps := guide.apps.map (App.withDefaults config)
    categories := distinct guide.categories
    tags := distinct guide.tags }

end Guidebook
