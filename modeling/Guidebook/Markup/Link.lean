import Guidebook.Config
import Guidebook.Markup.Rendering
import Guidebook.Url.Address

/-!
# Links

A difference link leads to the project generator and shows what a guide adds to a fresh project.  A
guide link leads to the same variant of another guide.
-/

namespace Guidebook.Markup

open Guidebook.Url

namespace DifferenceLink

/-- The application that the attributes name, else the default one if the guide has it. -/
def app? (config : Config) (guide : Guide) (attributes : Attributes) : Except Error (Option App) :=
  match attributes.value? "app" with
  | some name => (guide.requireApp name "diffLink").map some
  | none => .ok (guide.app? config.defaultAppName)

/-- The name of the project in the link. -/
def projectName (config : Config) (attributes : Attributes) : String :=
  let appName := (attributes.value? "app").getD config.defaultAppName
  if appName = config.defaultAppName then config.defaultProjectName else appName

/-- A feature added to an ascending list that does not have it yet. -/
def insertFeature (feature : String) : List String → List String
  | [] => [feature]
  | first :: rest =>
    if feature < first then feature :: first :: rest
    else if feature = first then first :: rest
    else first :: insertFeature feature rest

/-- The features in ascending order: those of the application and of the attributes, less some. -/
def features (app : Option App) (language : Language) (attributes : Attributes) : List String :=
  let present := (app.map fun app => app.visibleFeatures language).getD []
  let all := (present ++ attributes.values "features").foldr insertFeature []
  let excluded := attributes.values "featureExcludes"
  all.filter fun feature => !excluded.contains feature

/-- The fields that the link adds to the address of the generator. -/
def fields (config : Config) (variant : Variant) (app : Option App) (attributes : Attributes) :
    List (String × String) :=
  let kind := (app.map App.applicationType).getD .default
  [("lang", variant.language.name.toUpper),
    ("build", variant.buildTool.name.toUpper),
    ("test", variant.testFramework.name.toUpper),
    ("name", projectName config attributes),
    ("type", kind.launchName),
    ("package", config.packageName),
    ("activity", "diff")] ++
    (features app variant.language attributes).map fun feature => ("features", feature)

/-- The address of the project generator. -/
def generatorAddress (config : Config) : Except Error Address :=
  match Address.parse? config.projectGeneratorUrl with
  | some address => .ok address
  | none => .error (.configParse (.generatorUrl config.projectGeneratorUrl))

/-- The link that stands in place of an invocation. -/
def expand (config : Config) (rendering : Rendering) (invocation : Invocation) :
    Except Error (Option String) := do
  let app ← app? config rendering.guide invocation.attributes
  let address ← generatorAddress config
  let link := address.withFields (fields config rendering.variant app invocation.attributes)
  return some (link.text ++ "[Diff]")

def handler (config : Config) : Handler :=
  Handler.ofLine "diffLink" 10 (expand config)

end DifferenceLink

namespace GuideLink

/-- The link that stands in place of an invocation; without a target the line stays. -/
def expand (rendering : Rendering) (invocation : Invocation) : Option String :=
  if invocation.target = "" then none
  else
    let label := invocation.attributes.positional?.getD invocation.target
    let document := Layout.variantName invocation.target rendering.variant
    some s!"link:{document}.html[{label}]"

def handler : Handler :=
  Handler.ofLine "guideLink" 50 fun rendering invocation => .ok (expand rendering invocation)

end GuideLink

end Guidebook.Markup
