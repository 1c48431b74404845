import Guidebook.Error
import Guidebook.Text.Ascii
import Guidebook.Text.Blank

/-!
# Variants

A guide is published once per variant: a build tool, a language and a test framework.  Each of the
three is one of a few, known by a name; names are looked up without regard to case and to blank
characters around them.
-/

namespace Guidebook

open Guidebook.Text

/-- The languages in which example applications are written. -/
inductive Language where
  | java
  | groovy
  | kotlin
deriving DecidableEq, Inhabited

/-- The build tools with which example applications are built. -/
inductive BuildTool where
  | gradle
  | gradleKotlin
  | maven
deriving DecidableEq, Inhabited

/-- The frameworks with which example applications are tested. -/
inductive TestFramework where
  | junit
  | spock
  | kotest
deriving DecidableEq, Inhabited

/-- The member of a list whose name is the given one, case and blanks around it aside. -/
def findNamed? {α : Type} (members : List α) (name : α → String) (wanted : String) : Option α :=
  members.find? fun member => equalIgnoringCase (name member).toList (trim wanted.toList)

namespace Language

/-- Every language, in the order in which variants are listed. -/
def all : List Language :=
  [.java, .groovy, .kotlin]

def name : Language → String
  | .java => "java"
  | .groovy => "groovy"
  | .kotlin => "kotlin"

/-- The extension of source files. -/
def extension : Language → String
  | .java => "java"
  | .groovy => "groovy"
  | .kotlin => "kt"

/-- The language of a name. -/
def parse (text : String) : Except Error Language :=
  (findNamed? all name text).elim (.error (.unknownValue "language" text)) .ok

end Language

namespace BuildTool

/-- Every build tool. -/
def all : List BuildTool :=
  [.gradle, .gradleKotlin, .maven]

def name : BuildTool → String
  | .gradle => "gradle"
  | .gradleKotlin => "gradle_kotlin"
  | .maven => "maven"

/-- The name as prose has it. -/
def label : BuildTool → String
  | .gradle => "Gradle"
  | .gradleKotlin => "Gradle Kotlin"
  | .maven => "Maven"

/-- Whether the build tool is Gradle, in whichever language its scripts are written. -/
def isGradle : BuildTool → Bool
  | .gradle => true
  | .gradleKotlin => true
  | .maven => false

/-- The build tool of a name. -/
def parse (text : String) : Except Error BuildTool :=
  (findNamed? all name text).elim (.error (.unknownValue "build tool" text)) .ok

end BuildTool

namespace TestFramework

/-- Every test framework. -/
def all : List TestFramework :=
  [.junit, .spock, .kotest]

def name : TestFramework → String
  | .junit => "junit"
  | .spock => "spock"
  | .kotest => "kotest"

/-- What the names of test classes end in. -/
def testSuffix : TestFramework → String
  | .spock => "Spec"
  | .junit => "Test"
  | .kotest => "Test"

/-- The test framework of a name. -/
def parse (text : String) : Except Error TestFramework :=
  (findNamed? all name text).elim (.error (.unknownValue "test framework" text)) .ok

end TestFramework

/-- The test framework of a language for guides that choose none. -/
def Language.defaultTestFramework : Language → TestFramework
  | .groovy => .spock
  | .java => .junit
  | .kotlin => .junit

/-- One way to publish a guide. -/
structure Variant where
  buildTool : BuildTool
  language : Language
  testFramework : TestFramework
deriving DecidableEq, Inhabited

namespace Variant

/-- The only variant of a guide without example applications. -/
def plain : Variant :=
  ⟨.gradle, .java, .junit⟩

/-- The names of the three parts with dashes between them. -/
def name (variant : Variant) : String :=
  s!"{variant.buildTool.name}-{variant.language.name}-{variant.testFramework.name}"

end Variant

end Guidebook
