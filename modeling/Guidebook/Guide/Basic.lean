import Guidebook.Date
import Guidebook.Dictionary
import Guidebook.Files.Path
import Guidebook.Variant

/-!
# Guides

A guide is a documentation unit: its metadata, the folder it lives in, and the example applications
that belong to it.
-/

namespace Guidebook

/-- The kinds of example applications. -/
inductive ApplicationType where
  | default
  | cli
  | function
  | grpc
  | messaging
deriving DecidableEq

namespace ApplicationType

def name : ApplicationType → String
  | .default => "default"
  | .cli => "cli"
  | .function => "function"
  | .grpc => "grpc"
  | .messaging => "messaging"

/-- The command that creates an application of this kind. -/
def command : ApplicationType → String
  | .default => "create-app"
  | .cli => "create-cli-app"
  | .function => "create-function-app"
  | .grpc => "create-grpc-app"
  | .messaging => "create-messaging-app"

/-- The name in links to the project generator. -/
def launchName : ApplicationType → String
  | .default => "DEFAULT"
  | .cli => "CLI"
  | .function => "FUNCTION"
  | .grpc => "GRPC"
  | .messaging => "MESSAGING"

end ApplicationType

/-- The clouds that a guide can be about. -/
inductive Cloud where
  | oci
  | aws
  | azure
  | gcp
deriving DecidableEq

namespace Cloud

def name : Cloud → String
  | .oci => "Oracle Cloud"
  | .aws => "Amazon Web Services"
  | .azure => "Microsoft Azure"
  | .gcp => "Google Cloud Platform"

def acronym : Cloud → String
  | .oci => "OCI"
  | .aws => "AWS"
  | .azure => "Azure"
  | .gcp => "GCP"

/-- The place in listings of clouds. -/
def rank : Cloud → Nat
  | .oci => 1
  | .aws => 2
  | .azure => 3
  | .gcp => 4

end Cloud

/-- An example application that belongs to a guide. -/
structure App where
  name : String := ""
  packageName : String := ""
  applicationType : ApplicationType := .default
  framework : String := "Micronaut"
  commonFeatures : List String := []
  /-- Features that the generated project needs and the guide does not mention. -/
  invisibleFeatures : List String := []
  javaFeatures : List String := []
  kotlinFeatures : List String := []
  groovyFeatures : List String := []
  /-- Source files that are left out of the generated tree; `all` leaves out every one. -/
  excludeSource : List String := []
  excludeTest : List String := []
  testFramework : Option TestFramework := none
  validateLicense : Bool := true
deriving DecidableEq

namespace App

/-- The features that the application has in one language only. -/
def languageFeatures (app : App) : Language → List String
  | .java => app.javaFeatures
  | .kotlin => app.kotlinFeatures
  | .groovy => app.groovyFeatures

/-- The features with which the project is generated. -/
def features (app : App) (language : Language) : List String :=
  app.commonFeatures ++ app.invisibleFeatures ++ app.languageFeatures language

/-- The features that the guide mentions. -/
def visibleFeatures (app : App) (language : Language) : List String :=
  app.commonFeatures ++ app.languageFeatures language

end App

/-- A documentation unit. -/
structure Guide where
  title : String := ""
  intro : String := ""
  authors : List String := []
  /-- The first category is the primary one. -/
  categories : List String := []
  publicationDate : Option Date := none
  cloud : Option Cloud := none
  tags : List String := []
  languages : List Language := []
  buildTools : List BuildTool := []
  testFramework : Option TestFramework := none
  skipGradleTests : Bool := false
  skipMavenTests : Bool := false
  minimumJavaVersion : Option UInt32 := none
  maximumJavaVersion : Option UInt32 := none
  /-- The name of the document in the guide's folder. -/
  asciidoctor : Option String := none
  publish : Bool := true
  slug : String := ""
  zipIncludes : List String := []
  /-- The slug of the guide from which this one inherits. -/
  base : Option String := none
  env : Dictionary String := Dictionary.empty
  apps : List App := []
  sourceModule : Option String := none
  baseSourceModule : Option String := none
  folder : Path := ⟨""⟩
deriving DecidableEq

namespace Guide

/-- Whether the tests of a build tool are skipped, and with them its variants. -/
def skips (guide : Guide) (buildTool : BuildTool) : Bool :=
  if buildTool.isGradle then guide.skipGradleTests else guide.skipMavenTests

/-- The first application of a name. -/
def app? (guide : Guide) (name : String) : Option App :=
  guide.apps.find? fun app => app.name == name

/-- The names of the applications. -/
def appNames (guide : Guide) : List String :=
  guide.apps.map App.name

/-- The application to which a use of the given macro refers, which must be declared. -/
def requireApp (guide : Guide) (name macroName : String) : Except Error App :=
  match guide.app? name with
  | some app => .ok app
  | none => .error (.unknownApp guide.slug name macroName guide.appNames)

/-- Where the guide's document lies, if it has one. -/
def documentPath? (guide : Guide) : Option Path :=
  guide.asciidoctor.map guide.folder.join

end Guide

end Guidebook
