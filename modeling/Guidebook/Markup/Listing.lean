import Guidebook.Config
import Guidebook.Markup.Rendering
import Guidebook.Markup.Selection

/-!
# Listings

Line macros that show a file: as a titled block that includes the file from the generated example
code, as an include of a shared text, or as an excerpt that is read from the example code itself.
-/

namespace Guidebook.Markup

open Guidebook.Text

/-- The files that listings show. -/
inductive ListingKind where
  /-- A class of the main sources. -/
  | source
  /-- A test class, whose name ends in `Spec` rather than `Test` where Spock is the framework. -/
  | test
  /-- A test class under the name that is written. -/
  | rawTest
  | resource
  | testResource
  /-- A file at the root of the variant. -/
  | zipInclude
deriving DecidableEq

namespace ListingKind

def name : ListingKind → String
  | .source => "source"
  | .test => "test"
  | .rawTest => "rawTest"
  | .resource => "resource"
  | .testResource => "testResource"
  | .zipInclude => "zipInclude"

def order : ListingKind → Int
  | .source => 40
  | .test => 41
  | .rawTest => 42
  | .resource => 43
  | .testResource => 44
  | .zipInclude => 45

def sourceSet : ListingKind → SourceSet
  | .source => .main
  | .resource => .main
  | .zipInclude => .main
  | .test => .test
  | .rawTest => .test
  | .testResource => .test

def fileKind : ListingKind → FileKind
  | .source => .code
  | .test => .code
  | .rawTest => .code
  | .resource => .resource
  | .testResource => .resource
  | .zipInclude => .resource

/-- The name of a test class under Spock. -/
def specName (className : String) : String :=
  if "Test".toList.isSuffixOf className.toList then
    String.ofList (className.toList.take (className.length - 4)) ++ "Spec"
  else className

/-- The name of the file that a target stands for. -/
def fileName (kind : ListingKind) (variant : Variant) (target : String) : String :=
  let className :=
    if kind = .test ∧ variant.testFramework = .spock then specName target else target
  match kind.fileKind with
  | .code => className ++ "." ++ variant.language.extension
  | .resource => target

/-- The package of an application, or of the configuration if the guide does not declare it. -/
def packageOf (config : Config) (guide : Guide) (appName : String) : String :=
  ((guide.app? appName).map App.packageName).getD config.packageName

/-- The name of the file that an invocation shows, and its path inside the variant. -/
def locate (kind : ListingKind) (config : Config) (rendering : Rendering)
    (invocation : Invocation) : String × String :=
  let appName := (invocation.attributes.value? "app").getD config.defaultAppName
  let fileName := kind.fileName rendering.variant invocation.target
  let path :=
    if kind = .zipInclude then fileName
    else
      Layout.sourceTitle config.defaultAppName appName fileName kind.sourceSet kind.fileKind
        rendering.language (packageOf config rendering.guide appName)
  (fileName, path)

/-- The block that stands in place of an invocation. -/
def expand (kind : ListingKind) (config : Config) (rendering : Rendering)
    (invocation : Invocation) : String :=
  let (fileName, path) := kind.locate config rendering invocation
  let attributes := (invocation.attributes.without "app").render
  let language := Layout.listingLanguage fileName
  let title := Layout.normalize path
  let folder := rendering.guide.slug ++ "/" ++ rendering.variantName
  s!"[source,{language}]\n.{title}\n----\n" ++
    "include::\x7bsourceDir\x7d/" ++ folder ++ s!"/{path}[{attributes}]\n----"

def handler (kind : ListingKind) (config : Config) : Handler :=
  Handler.ofLine kind.name kind.order fun rendering invocation =>
    .ok (some (kind.expand config rendering invocation))

end ListingKind

/-! ## Shared texts -/

namespace SharedText

/-- The include that stands in place of an invocation. -/
def expand (directory start : String) (invocation : Invocation) : String :=
  let target := invocation.target
  let ending := if ".adoc".toList.isSuffixOf target.toList then "" else ".adoc"
  s!"include::{directory}/{start}{target}{ending}[{invocation.attributes.render}]"

/-- The handler of a macro for shared texts of a directory. -/
def handler (name : String) (order : Int) (directory : String) : Handler :=
  Handler.ofLine name order fun _ invocation =>
    .ok (some (expand directory (name ++ "-") invocation))

/-- Explanations of numbered marks in listings. -/
def callouts : Handler :=
  handler "callout" 20 "\x7bcalloutsDir\x7d"

/-- Texts that guides have in common. -/
def commons : Handler :=
  handler "common" 21 "\x7bcommondir\x7d"

end SharedText

/-! ## Excerpts -/

namespace Excerpt

/-- What the attributes of an invocation select of a file. -/
def select (attributes : Attributes) (content path : String) : Except Error String :=
  match attributes.value? "lines" with
  | some range => selectLines content range path
  | none =>
    let tags := attributes.values "tags" ++ attributes.values "tag"
    if tags.isEmpty then .ok content else selectTags content tags path

/-- The excerpt that stands in place of an invocation; without example code the line stays. -/
def expand (config : Config) (rendering : Rendering) (invocation : Invocation) :
    Except Error (Option String) :=
  match rendering.generated with
  | none => .ok none
  | some code => do
    let (fileName, path) := ListingKind.source.locate config rendering invocation
    let file := code.root.joinAll [rendering.guide.slug, rendering.variantName, path]
    let content ← match code.disk.readText file with
      | .ok content => .ok content
      | .error reason => .error (.disk reason)
    let selected ← select invocation.attributes content path
    let shown := String.ofList (dropTrailing '\n' selected.toList)
    return some s!"[source,{Layout.listingLanguage fileName}]\n----\n{shown}\n----"

def handler (config : Config) : Handler :=
  Handler.ofLine "snippet" 46 (expand config)

end Excerpt

end Guidebook.Markup
