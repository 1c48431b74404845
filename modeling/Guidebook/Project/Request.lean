import Guidebook.Config
import Guidebook.Json.Printer
import Guidebook.Layout

/-!
# Requests for projects

Each application of a guide is generated, for each variant, as a project of its own.  A request says
what the project is to be.
-/

namespace Guidebook

open Guidebook.Json

/-- What a generated project is to be. -/
structure ProjectRequest where
  applicationType : ApplicationType
  /-- Package and name of the application with a dot between them. -/
  name : String
  framework : String
  language : Language
  buildTool : BuildTool
  testFramework : TestFramework
  features : List String
  jdk : UInt32
  /-- The folder inside the variant, for guides with several applications. -/
  appFolder : Option String
deriving DecidableEq

namespace ProjectRequest

/-- The test framework of an application: its own, else that of the variant. -/
def testFrameworkOf (app : App) (variant : Variant) : TestFramework :=
  app.testFramework.getD variant.testFramework

/-- The features of an application, without `graalvm` where GraalVM does not support the JDK. -/
def featuresOf (config : Config) (app : App) (language : Language) (jdk : UInt32) : List String :=
  let features := app.features language
  if config.graalvmSupports jdk then features else features.filter (· != "graalvm")

/-- The request for one application of a guide. -/
def ofApp (config : Config) (guide : Guide) (variant : Variant) (jdk : UInt32) (app : App) :
    ProjectRequest where
  applicationType := app.applicationType
  name := s!"{app.packageName}.{app.name}"
  framework := app.framework
  language := variant.language
  buildTool := variant.buildTool
  testFramework := testFrameworkOf app variant
  features := featuresOf config app variant.language jdk
  jdk := jdk
  appFolder := Layout.appFolder? guide app

/-- The requests for the applications of a guide, in their order. -/
def all (config : Config) (guide : Guide) (variant : Variant) (jdk : UInt32) :
    List ProjectRequest :=
  guide.apps.map (ofApp config guide variant jdk)

def toValue (request : ProjectRequest) : Value :=
  .object <|
    [("applicationType", request.applicationType.toValue),
      ("name", .string request.name),
      ("framework", .string request.framework),
      ("language", request.language.toValue),
      ("buildTool", request.buildTool.toValue),
      ("testFramework", request.testFramework.toValue),
      ("features", Value.strings request.features),
      ("jdk", .natural request.jdk.toNat)] ++
    (request.appFolder.map fun folder => [("appFolder", Value.string folder)]).getD []

/-- The text of the file that records a request. -/
def manifest (request : ProjectRequest) : String :=
  request.toValue.pretty ++ "\n"

end ProjectRequest

end Guidebook
