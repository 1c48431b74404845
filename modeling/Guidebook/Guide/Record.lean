import Guidebook.Guide.Basic
import Guidebook.Json.Record

/-!
# Guides as records

How guides and their parts are written in documents, and how they are read back.  Every field of a
guide but its folder is written; an optional field without a value is `null`.
-/

namespace Guidebook

open Guidebook.Json

/-! ## Enumerations -/

/-- The spellings of the languages. -/
def Language.spellings : List (String × Language) :=
  [("java", .java), ("JAVA", .java), ("groovy", .groovy), ("GROOVY", .groovy),
    ("kotlin", .kotlin), ("KOTLIN", .kotlin)]

/-- The spellings of the build tools. -/
def BuildTool.spellings : List (String × BuildTool) :=
  [("gradle", .gradle), ("GRADLE", .gradle), ("gradle_kotlin", .gradleKotlin),
    ("GRADLE_KOTLIN", .gradleKotlin), ("maven", .maven), ("MAVEN", .maven)]

/-- The spellings of the test frameworks. -/
def TestFramework.spellings : List (String × TestFramework) :=
  [("junit", .junit), ("JUNIT", .junit), ("spock", .spock), ("SPOCK", .spock),
    ("kotest", .kotest), ("KOTEST", .kotest)]

/-- The spellings of the clouds. -/
def Cloud.spellings : List (String × Cloud) :=
  [("OCI", .oci), ("oci", .oci), ("AWS", .aws), ("aws", .aws), ("AZURE", .azure),
    ("azure", .azure), ("GCP", .gcp), ("gcp", .gcp)]

/-- The spellings of the kinds of applications. -/
def ApplicationType.spellings : List (String × ApplicationType) :=
  [("default", .default), ("DEFAULT", .default), ("cli", .cli), ("CLI", .cli),
    ("function", .function), ("FUNCTION", .function), ("grpc", .grpc), ("GRPC", .grpc),
    ("messaging", .messaging), ("MESSAGING", .messaging)]

def Language.ofValue? (format : Format) : Value → Option Language :=
  format.variant? Language.spellings

def BuildTool.ofValue? (format : Format) : Value → Option BuildTool :=
  format.variant? BuildTool.spellings

def TestFramework.ofValue? (format : Format) : Value → Option TestFramework :=
  format.variant? TestFramework.spellings

def Cloud.ofValue? (format : Format) : Value → Option Cloud :=
  format.variant? Cloud.spellings

def ApplicationType.ofValue? (format : Format) : Value → Option ApplicationType :=
  format.variant? ApplicationType.spellings

def Language.toValue (language : Language) : Value :=
  .string language.name

def BuildTool.toValue (buildTool : BuildTool) : Value :=
  .string buildTool.name

def TestFramework.toValue (testFramework : TestFramework) : Value :=
  .string testFramework.name

/-- Clouds are written in capitals. -/
def Cloud.toValue : Cloud → Value
  | .oci => .string "OCI"
  | .aws => .string "AWS"
  | .azure => .string "AZURE"
  | .gcp => .string "GCP"

def ApplicationType.toValue (applicationType : ApplicationType) : Value :=
  .string applicationType.name

def Date.ofValue? : Value → Option Date
  | .string text => Date.parse? text
  | _ => none

def Date.toValue (date : Date) : Value :=
  .string date.text

/-- A variant as a record of its three parts. -/
def Variant.toValue (variant : Variant) : Value :=
  .object
    [("buildTool", variant.buildTool.toValue),
      ("language", variant.language.toValue),
      ("testFramework", variant.testFramework.toValue)]

/-! ## Applications -/

namespace App

/-- The names of the fields, in the order in which they are written. -/
def fieldNames : List String :=
  ["name", "packageName", "applicationType", "framework", "features", "invisibleFeatures",
    "javaFeatures", "kotlinFeatures", "groovyFeatures", "excludeSource", "excludeTest",
    "testFramework", "validateLicense"]

def toValue (app : App) : Value :=
  .object
    [("name", .string app.name),
      ("packageName", .string app.packageName),
      ("applicationType", app.applicationType.toValue),
      ("framework", .string app.framework),
      ("features", Value.strings app.commonFeatures),
      ("invisibleFeatures", Value.strings app.invisibleFeatures),
      ("javaFeatures", Value.strings app.javaFeatures),
      ("kotlinFeatures", Value.strings app.kotlinFeatures),
      ("groovyFeatures", Value.strings app.groovyFeatures),
      ("excludeSource", Value.strings app.excludeSource),
      ("excludeTest", Value.strings app.excludeTest),
      ("testFramework", Value.ofOption TestFramework.toValue app.testFramework),
      ("validateLicense", .boolean app.validateLicense)]

def ofValue? (value : Value) : Option App := do
  let fields ← Format.metadata.fields? fieldNames value
  let strings := Value.list? Value.string?
  return {
    name := ← fields.read? "name" Value.string? ""
    packageName := ← fields.read? "packageName" Value.string? ""
    applicationType :=
      ← fields.read? "applicationType" (ApplicationType.ofValue? .metadata) .default
    framework := ← fields.read? "framework" Value.string? "Micronaut"
    commonFeatures := ← fields.read? "features" strings []
    invisibleFeatures := ← fields.read? "invisibleFeatures" strings []
    javaFeatures := ← fields.read? "javaFeatures" strings []
    kotlinFeatures := ← fields.read? "kotlinFeatures" strings []
    groovyFeatures := ← fields.read? "groovyFeatures" strings []
    excludeSource := ← fields.read? "excludeSource" strings []
    excludeTest := ← fields.read? "excludeTest" strings []
    testFramework :=
      ← fields.read? "testFramework" (Value.optional? (TestFramework.ofValue? .metadata)) none
    validateLicense := ← fields.read? "validateLicense" Value.boolean? true }

end App

/-! ## Guides -/

namespace Guide

/-- The names of the fields, in the order in which they are written. -/
def fieldNames : List String :=
  ["title", "intro", "authors", "categories", "publicationDate", "cloud", "tags", "languages",
    "buildTools", "testFramework", "skipGradleTests", "skipMavenTests", "minimumJavaVersion",
    "maximumJavaVersion", "asciidoctor", "publish", "slug", "zipIncludes", "base", "env", "apps",
    "sourceModule", "baseSourceModule"]

def toValue (guide : Guide) : Value :=
  .object
    [("title", .string guide.title),
      ("intro", .string guide.intro),
      ("authors", Value.strings guide.authors),
      ("categories", Value.strings guide.categories),
      ("publicationDate", Value.ofOption Date.toValue guide.publicationDate),
      ("cloud", Value.ofOption Cloud.toValue guide.cloud),
      ("tags", Value.strings guide.tags),
      ("languages", .array (guide.languages.map Language.toValue)),
      ("buildTools", .array (guide.buildTools.map BuildTool.toValue)),
      ("testFramework", Value.ofOption TestFramework.toValue guide.testFramework),
      ("skipGradleTests", .boolean guide.skipGradleTests),
      ("skipMavenTests", .boolean guide.skipMavenTests),
      ("minimumJavaVersion",
        Value.ofOption (fun version => .natural version.toNat) guide.minimumJavaVersion),
      ("maximumJavaVersion",
        Value.ofOption (fun version => .natural version.toNat) guide.maximumJavaVersion),
      ("asciidoctor", Value.ofOption .string guide.asciidoctor),
      ("publish", .boolean guide.publish),
      ("slug", .string guide.slug),
      ("zipIncludes", Value.strings guide.zipIncludes),
      ("base", Value.ofOption .string guide.base),
      ("env", .object (guide.env.entries.map fun entry => (entry.1, .string entry.2))),
      ("apps", .array (guide.apps.map App.toValue)),
      ("sourceModule", Value.ofOption .string guide.sourceModule),
      ("baseSourceModule", Value.ofOption .string guide.baseSourceModule)]

/-- The guide that a document describes; its folder is not part of the description. -/
def ofValue? (value : Value) : Option Guide := do
  let fields ← Format.metadata.fields? fieldNames value
  let strings := Value.list? Value.string?
  let version := Value.optional? Value.word32?
  let text := Value.optional? Value.string?
  return {
    title := ← fields.read? "title" Value.string? ""
    intro := ← fields.read? "intro" Value.string? ""
    authors := ← fields.read? "authors" strings []
    categories := ← fields.read? "categories" strings []
    publicationDate := ← fields.read? "publicationDate" (Value.optional? Date.ofValue?) none
    cloud := ← fields.read? "cloud" (Value.optional? (Cloud.ofValue? .metadata)) none
    tags := ← fields.read? "tags" strings []
    languages := ← fields.read? "languages" (Value.list? (Language.ofValue? .metadata)) []
    buildTools := ← fields.read? "buildTools" (Value.list? (BuildTool.ofValue? .metadata)) []
    testFramework :=
      ← fields.read? "testFramework" (Value.optional? (TestFramework.ofValue? .metadata)) none
    skipGradleTests := ← fields.read? "skipGradleTests" Value.boolean? false
    skipMavenTests := ← fields.read? "skipMavenTests" Value.boolean? false
    minimumJavaVersion := ← fields.read? "minimumJavaVersion" version none
    maximumJavaVersion := ← fields.read? "maximumJavaVersion" version none
    asciidoctor := ← fields.read? "asciidoctor" text none
    publish := ← fields.read? "publish" Value.boolean? true
    slug := ← fields.read? "slug" Value.string? ""
    zipIncludes := ← fields.read? "zipIncludes" strings []
    base := ← fields.read? "base" text none
    env := ← fields.read? "env" (Value.dictionary? Value.string?) Dictionary.empty
    apps := ← fields.read? "apps" (Value.list? App.ofValue?) []
    sourceModule := ← fields.read? "sourceModule" text none
    baseSourceModule := ← fields.read? "baseSourceModule" text none }

end Guide

end Guidebook
