import Guidebook.Markup.Rendering

/-!
# Dependencies

A line macro that declares a dependency in the language of the variant's build tool.
-/

namespace Guidebook.Markup

/-- A library that a project depends on. -/
structure Dependency where
  groupId : String
  artifactId : String
  version : Option String
  scope : String
  /-- The mark of an explanation behind the declaration. -/
  callout : Option String
deriving DecidableEq

namespace Dependency

/-- The dependency of an invocation. -/
def ofInvocation (invocation : Invocation) : Dependency where
  groupId := (invocation.attributes.value? "groupId").getD "io.micronaut"
  artifactId := invocation.target
  version := invocation.attributes.value? "version"
  scope := (invocation.attributes.value? "scope").getD "implementation"
  callout := invocation.attributes.value? "callout"

/-- The mark of the explanation with a blank before it. -/
def calloutText (dependency : Dependency) : String :=
  (dependency.callout.map fun callout => " <" ++ callout ++ ">").getD ""

/-- The Gradle configuration of a scope; annotations are processed differently by language. -/
def configuration (scope : String) (language : Language) : String :=
  match scope, language with
  | "annotationProcessor", .kotlin => "kapt"
  | "annotationProcessor", .groovy => "compileOnly"
  | "testAnnotationProcessor", .kotlin => "kaptTest"
  | "testAnnotationProcessor", .groovy => "testCompileOnly"
  | _, _ => scope

/-- Group, artifact and version with colons between them. -/
def coordinates (dependency : Dependency) : String :=
  dependency.groupId ++ ":" ++ dependency.artifactId ++
    (dependency.version.map (":" ++ ·)).getD ""

/-- The declaration in a Gradle script. -/
def gradle (dependency : Dependency) (listing title : String) (language : Language) : String :=
  s!"[source,{listing}]\n.{title}\n----\n" ++ configuration dependency.scope language ++ "(\"" ++
    dependency.coordinates ++ "\")" ++ dependency.calloutText ++ "\n----"

/-- Whether the scope is that of an annotation processor. -/
def isProcessor (dependency : Dependency) : Bool :=
  dependency.scope == "annotationProcessor" || dependency.scope == "testAnnotationProcessor"

/-- The Maven scope of a scope. -/
def mavenScope (scope : String) : String :=
  match scope with
  | "testImplementation" => "test"
  | "testCompileOnly" => "test"
  | "testRuntimeOnly" => "test"
  | "runtimeOnly" => "runtime"
  | "compileOnly" => "provided"
  | _ => "compile"

/-- Group, artifact and version as elements. -/
def elements (dependency : Dependency) : String :=
  s!"    <groupId>{dependency.groupId}</groupId>\n" ++
    s!"    <artifactId>{dependency.artifactId}</artifactId>\n" ++
    (dependency.version.map fun version => s!"    <version>{version}</version>\n").getD ""

/-- The declaration in a Maven project file. -/
def maven (dependency : Dependency) : String :=
  let body :=
    if dependency.isProcessor then
      "<!-- Add the following to your annotationProcessorPaths element -->\n<path>\n" ++
        dependency.elements ++ "</path>"
    else
      "<dependency>\n" ++ dependency.elements ++
        s!"    <scope>{mavenScope dependency.scope}</scope>\n</dependency>"
  "[source,xml]\n.pom.xml\n----\n" ++ body ++ dependency.calloutText ++ "\n----"

/-- The declaration for a variant. -/
def text (dependency : Dependency) (variant : Variant) : String :=
  match variant.buildTool with
  | .gradle => dependency.gradle "groovy" "build.gradle" variant.language
  | .gradleKotlin => dependency.gradle "kotlin" "build.gradle.kts" variant.language
  | .maven => dependency.maven

/-- The declaration that stands in place of an invocation; without a target the line stays. -/
def expand (rendering : Rendering) (invocation : Invocation) : Option String :=
  if invocation.target = "" then none
  else some ((ofInvocation invocation).text rendering.variant)

def handler : Handler :=
  Handler.ofLine "dependency" 30 fun rendering invocation => .ok (expand rendering invocation)

end Dependency

end Guidebook.Markup
