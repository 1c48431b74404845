import Guidebook.Guide.Basic
import Guidebook.Text.Cut
import Guidebook.Text.LowerCase

/-!
# Layout of generated projects

Where the files of a guide's example applications lie, and how paths to them are shown.  Paths here
are relative and have slashes between their segments.
-/

namespace Guidebook

open Guidebook.Text

/-- The halves of a source tree. -/
inductive SourceSet where
  | main
  | test
deriving DecidableEq

def SourceSet.name : SourceSet → String
  | .main => "main"
  | .test => "test"

/-- The kinds of files in a source tree. -/
inductive FileKind where
  | code
  | resource
deriving DecidableEq

namespace Layout

/-- The name of the directory and of the document of a variant: slug, build tool and language. -/
def variantName (slug : String) (variant : Variant) : String :=
  String.ofList
    (lowerCase s!"{slug}-{variant.buildTool.name}-{variant.language.name}".toList)

/-- A package as a relative directory. -/
def packagePath (packageName : String) : String :=
  packageName.map fun c => if c = '.' then '/' else c

/-- The directory of a package with a slash behind it; the empty package has none. -/
def packageFolder (packageName : String) : String :=
  if packageName = "" then "" else packagePath packageName ++ "/"

/-- The path of a class of an application, relative to the application. -/
def codePath (app : App) (className : String) (sourceSet : SourceSet) (language : Language) :
    String :=
  s!"src/{sourceSet.name}/{language.name}/" ++ packageFolder app.packageName ++ className ++ "." ++
    language.extension

/-- The path of a class of the main sources. -/
def mainPath (app : App) (className : String) (variant : Variant) : String :=
  codePath app className .main variant.language

/-- The path of a class of the tests. -/
def testPath (app : App) (className : String) (variant : Variant) : String :=
  codePath app className .test variant.language

/--
The path of a file as listings show it.  Files of the default application are shown without the
name of the application.
-/
def sourceTitle (defaultApp app fileName : String) (sourceSet : SourceSet) (kind : FileKind)
    (language : Language) (packageName : String) : String :=
  let folder := match kind with
    | .code => language.name ++ "/" ++ packageFolder packageName
    | .resource => "resources/"
  (if app = defaultApp then "" else app ++ "/") ++ s!"src/{sourceSet.name}/" ++ folder ++ fileName

/-- The folder of an application inside a variant.  A single application has none of its own. -/
def appFolder? (guide : Guide) (app : App) : Option String :=
  if 1 < guide.apps.length then some app.name else none

/-- One segment of a path after those before it, given backwards. -/
def normalizeStep (soFar : List (List Char)) (segment : List Char) : List (List Char) :=
  if segment = [] ∨ segment = ['.'] then soFar
  else if segment = ['.', '.'] then soFar.tail
  else segment :: soFar

/-- The segments of a path with single dots left out and double dots carried out. -/
def normalSegments (path : List Char) : List (List Char) :=
  ((path.splitOn '/').foldl normalizeStep []).reverse

/-- A path in its shortest form.  Double dots that lead above the start are dropped. -/
def normalize (path : String) : String :=
  String.ofList (['/'].intercalate (normalSegments path.toList))

/-- The language in which a listing of a file is highlighted, which its extension tells. -/
def listingLanguage (fileName : String) : String :=
  let extension := ((cutLast '.' fileName.toList).map Prod.snd).getD []
  match String.ofList extension with
  | "yml" => "yaml"
  | "yaml" => "yaml"
  | "kt" => "kotlin"
  | "kts" => "kotlin"
  | "sh" => "sh"
  | "bash" => "sh"
  | "md" => "markdown"
  | "" => "txt"
  | _ => String.ofList (lowerCase extension)

end Layout

end Guidebook
