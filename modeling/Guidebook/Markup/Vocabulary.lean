import Guidebook.Markup.Command
import Guidebook.Markup.Dependency
import Guidebook.Markup.Description
import Guidebook.Markup.Exclusion
import Guidebook.Markup.Link
import Guidebook.Markup.Listing

/-!
# The vocabulary of documents

The handlers of everything that documents may use.
-/

namespace Guidebook.Markup

/-- The handlers for a configuration and a JDK version. -/
def vocabulary (config : Config) (jdk : UInt32) : List Handler :=
  [ExclusionKind.build.handler,
    ExclusionKind.languages.handler,
    (ExclusionKind.jdkLowerThan jdk).handler,
    DifferenceLink.handler config,
    SharedText.callouts,
    SharedText.commons,
    Dependency.handler,
    ListingKind.source.handler config,
    ListingKind.test.handler config,
    ListingKind.rawTest.handler config,
    ListingKind.resource.handler config,
    ListingKind.testResource.handler config,
    ListingKind.zipInclude.handler config,
    Excerpt.handler config,
    GuideLink.handler,
    CreateCommand.handler config,
    BuildCommand.handler,
    EnvironmentVariables.handler,
    AppDescription.features.handler,
    AppDescription.featuresInWords.handler,
    AppDescription.command.handler,
    VariantDescription.handler config jdk]

/-- The pipeline that expands documents. -/
def Pipeline.standard (config : Config) (jdk : UInt32) : Pipeline :=
  Pipeline.ofHandlers (vocabulary config jdk)

end Guidebook.Markup
