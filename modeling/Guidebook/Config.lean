import Guidebook.Guide.Record
import Guidebook.Guide.Schema
import Guidebook.Text.Numeral

/-!
# Configuration

The settings of a project.  Each setting has a default, which holds where a configuration leaves
it out.
-/

namespace Guidebook

open Guidebook.Json
open Guidebook.Text

/-- Which JDK example projects are generated for. -/
structure JdkSettings where
  /-- The version that holds when the environment names none. -/
  default : UInt32 := 17
  /-- The environment variable that names a version. -/
  env : String := "JDK_VERSION"
  /-- The versions that GraalVM supports. -/
  graalvm : List UInt32 := [17, 21]
deriving DecidableEq

/-- The settings of a project. -/
structure Config where
  /-- The directory of the guides, relative to the root of the project. -/
  guidesDir : String := "guides"
  /-- The name of the file that makes a directory a guide. -/
  metadataFile : String := "metadata.json"
  /-- The name of applications that leave theirs blank. -/
  defaultAppName : String := "default"
  /-- The package of applications that leave theirs blank. -/
  packageName : String := "example.micronaut"
  /-- The project name of the default application. -/
  defaultProjectName : String := "micronautguide"
  /-- The languages of guides that declare none. -/
  defaultLanguages : List Language := Language.all
  /-- The build tools of guides that declare none. -/
  defaultBuildTools : List BuildTool := [.gradle, .maven]
  /-- Whether guides that are published must satisfy the schema. -/
  validateMetadata : Bool := true
  /-- Whether a base that is no guide is an error. -/
  strictBase : Bool := false
  projectGeneratorUrl : String :=
    "https://launch.micronaut.io/create/default/example.micronaut.micronautguide"
  apiUrl : String := "https://docs.micronaut.io/latest/api"
  /-- Files of a guide folder with these extensions are copied into every variant. -/
  zipIncludesExtensions : List String := [".sh", ".bat"]
  /-- The only guide to process. -/
  singleGuide : Option String := none
  jdk : JdkSettings := {}
  schema : Schema := {}
deriving DecidableEq

/-! ## Reading settings -/

def JdkSettings.ofValue? (format : Format) (value : Value) : Option JdkSettings := do
  let fields ← format.fields? ["default", "env", "graalvm"] value
  return {
    default := ← fields.read? "default" Value.word32? 17
    env := ← fields.read? "env" Value.string? "JDK_VERSION"
    graalvm := ← fields.read? "graalvm" (Value.list? Value.word32?) [17, 21] }

def Schema.ofValue? (format : Format) (value : Value) : Option Schema := do
  let fields ← format.fields? ["required", "allow_unknown_keys"] value
  let standard : Schema := {}
  return {
    required := ← fields.read? "required" (Value.list? Value.string?) standard.required
    allowUnknownKeys := ← fields.read? "allow_unknown_keys" Value.boolean? false }

namespace Config

/-- The names of the settings. -/
def settingNames : List String :=
  ["guides_dir", "metadata_file", "default_app_name", "package_name", "default_project_name",
    "default_languages", "default_build_tools", "validate_metadata", "strict_base",
    "project_generator_url", "api_url", "zip_includes_extensions", "single_guide", "jdk", "schema"]

/-- The configuration that a document describes. -/
def ofValue? (format : Format) (value : Value) : Option Config := do
  let fields ← format.fields? settingNames value
  let standard : Config := {}
  let text := fun (name standard : String) => fields.read? name Value.string? standard
  return {
    guidesDir := ← text "guides_dir" standard.guidesDir
    metadataFile := ← text "metadata_file" standard.metadataFile
    defaultAppName := ← text "default_app_name" standard.defaultAppName
    packageName := ← text "package_name" standard.packageName
    defaultProjectName := ← text "default_project_name" standard.defaultProjectName
    defaultLanguages :=
      ← fields.read? "default_languages" (Value.list? (Language.ofValue? format))
        standard.defaultLanguages
    defaultBuildTools :=
      ← fields.read? "default_build_tools" (Value.list? (BuildTool.ofValue? format))
        standard.defaultBuildTools
    validateMetadata := ← fields.read? "validate_metadata" Value.boolean? true
    strictBase := ← fields.read? "strict_base" Value.boolean? false
    projectGeneratorUrl := ← text "project_generator_url" standard.projectGeneratorUrl
    apiUrl := ← text "api_url" standard.apiUrl
    zipIncludesExtensions :=
      ← fields.read? "zip_includes_extensions" (Value.list? Value.string?)
        standard.zipIncludesExtensions
    singleGuide := ← fields.read? "single_guide" (Value.optional? Value.string?) none
    jdk := ← fields.read? "jdk" (JdkSettings.ofValue? format) {}
    schema := ← fields.read? "schema" (Schema.ofValue? format) {} }

/-! ## The JDK -/

/-- The JDK version that a setting of the environment names; a blank one leaves the default. -/
def jdkVersion (config : Config) (setting : Option String) : Except Error UInt32 :=
  match setting.map fun text => trim text.toList with
  | none => .ok config.jdk.default
  | some [] => .ok config.jdk.default
  | some text =>
    match word32? text with
    | some version => .ok version
    | none => .error (.invalidJdkVersion config.jdk.env (String.ofList text))

/-- Whether GraalVM supports a JDK version. -/
def graalvmSupports (config : Config) (jdk : UInt32) : Bool :=
  config.jdk.graalvm.contains jdk

end Config

end Guidebook
