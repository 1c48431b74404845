import Guidebook.Config
import Guidebook.Log

/-!
# The matrix of variants

Which variants a guide is published in, and whether it takes part in a run at all.
-/

namespace Guidebook

namespace Guide

/-- The test framework that a guide uses with a language. -/
def testFrameworkFor (guide : Guide) (language : Language) : TestFramework :=
  guide.testFramework.getD language.defaultTestFramework

/-- The variants of a guide with one build tool. -/
def variantsWith (guide : Guide) (buildTool : BuildTool) : List Variant :=
  if guide.skips buildTool then []
  else
    (Language.all.filter guide.languages.contains).map fun language =>
      ⟨buildTool, language, guide.testFrameworkFor language⟩

/-- The variants of a guide: by build tool as declared, then by language in the order of all. -/
def variants (guide : Guide) : List Variant :=
  guide.buildTools.flatMap guide.variantsWith

/-- The variants that are reported as skipped. -/
def skippedVariants (guide : Guide) : Log :=
  (guide.buildTools.filter guide.skips).flatMap fun buildTool =>
    Language.all.map fun language =>
      .info s!"Skipping {buildTool.name}/{language.name} variant of guide {guide.slug}"

/-- The variants in which a guide is rendered; without applications there is a single one. -/
def renderedVariants (guide : Guide) : List Variant :=
  if guide.apps.isEmpty then [Variant.plain] else guide.variants

/-- What listing the rendered variants reports. -/
def renderedVariantsLog (guide : Guide) : Log :=
  if guide.apps.isEmpty then [] else guide.skippedVariants

/-- Whether a variant has the build tool and the language that are asked for. -/
def Selects (buildTool : Option BuildTool) (language : Option Language) (variant : Variant) :
    Bool :=
  buildTool.all (variant.buildTool == ·) && language.all (variant.language == ·)

/-- The first rendered variant with the build tool and the language that are asked for. -/
def selectVariant (guide : Guide) (buildTool : Option BuildTool) (language : Option Language) :
    Except Error Variant :=
  match guide.renderedVariants.find? (Selects buildTool language) with
  | some variant => .ok variant
  | none =>
    .error (.unknownVariant guide.slug ((buildTool.map BuildTool.name).getD "any")
      ((language.map Language.name).getD "any"))

/-- The JDK version for a guide: the given one, or the guide's least one if that is greater. -/
def jdkFor (guide : Guide) (jdk : UInt32) : UInt32 :=
  match guide.minimumJavaVersion with
  | some least => if jdk < least then least else jdk
  | none => jdk

/-- Whether a JDK version lies outside the range that a guide supports. -/
def refusesJdk (guide : Guide) (jdk : UInt32) : Bool :=
  guide.minimumJavaVersion.any (fun least => jdk < least) ||
    guide.maximumJavaVersion.any (fun greatest => greatest < jdk)

/-- Whether a guide is published and not passed over in favour of a single other one. -/
def isWanted (guide : Guide) (config : Config) : Bool :=
  guide.publish && config.singleGuide.all (· == guide.slug)

/-- Whether a guide takes part in a run that asks for its JDK range only if `checkJdk` is set. -/
def isProcessed (guide : Guide) (checkJdk : Bool) (config : Config) (jdk : UInt32) : Bool :=
  guide.isWanted config && !(checkJdk && guide.refusesJdk jdk)

/-- The report on a guide that the JDK keeps out of a run. -/
def processedLog (guide : Guide) (checkJdk : Bool) (config : Config) (jdk : UInt32) : Log :=
  if guide.isWanted config && checkJdk && guide.refusesJdk jdk then
    [.info s!"Skipping guide {guide.slug}: jdk {jdk.toNat} outside its supported range"]
  else []

end Guide

end Guidebook
