import Guidebook.Markup.Command
import Guidebook.Markup.Link
import Guidebook.Project.Request
import Guidebook.Proofs.Basic

/-!
# Descriptions of a project

The project of an application is described three times: by the command that creates it, by the link
that compares it with a fresh project, and by the request from which its code is generated.  The
command and the request are about the application's own package and test framework.  The link has
the package of the configuration and the test framework of the variant, so it is about the same
project only where the application leaves both to them.
-/

namespace Guidebook

open Guidebook.Markup

/-- What the descriptions of a project have in common. -/
@[ext]
structure ProjectFacts where
  testFramework : TestFramework
  packageName : String
  applicationType : ApplicationType

/-- The project of an application in a variant. -/
def App.facts (app : App) (variant : Variant) : ProjectFacts where
  testFramework := app.testFramework.getD variant.testFramework
  packageName := app.packageName
  applicationType := app.applicationType

/-! ## Names -/

theorem TestFramework.toUpper_name_inj {first second : TestFramework} :
    first.name.toUpper = second.name.toUpper ↔ first = second := by
  cases first <;> cases second <;> decide +kernel

namespace ApplicationType

theorem command_inj {first second : ApplicationType} :
    first.command = second.command ↔ first = second := by
  cases first <;> cases second <;> decide

theorem launchName_inj {first second : ApplicationType} :
    first.launchName = second.launchName ↔ first = second := by
  cases first <;> cases second <;> decide

theorem blank_notMem_command (kind : ApplicationType) :
    ' ' ∉ kind.command.toList := by
  cases kind <;> decide

end ApplicationType

namespace ProjectFacts

variable {config : Config} {variant : Variant} {facts : ProjectFacts}

/-! ## The command -/

/-- What the arguments of the command that creates a project of a name say. -/
structure SaidByCommand
    (facts : ProjectFacts) (project : String) (arguments : List String) :
    Prop where
  first :
    arguments.head? =
      some s!"mn {facts.applicationType.command} {facts.packageName}.{project}"
  last : arguments.getLast? = some s!" --test={facts.testFramework.name}"

/-- The name of the project that is created for an application of a name. -/
def commandProject (config : Config) (name : String) : String :=
  if name = config.defaultAppName then config.defaultProjectName else name

theorem getLast?_arguments
    (name : String) (app : App) (buildTool : BuildTool) :
    (CreateCommand.arguments config variant name app buildTool).getLast? =
      some s!" --test={(app.facts variant).testFramework.name}" := by
  unfold CreateCommand.arguments
  simp only
  rw [List.getLast?_append]
  rfl

/-- The first argument tells the kind and the package, as no kind has a blank in its command. -/
theorem firstArgument_inj
    {kind otherKind : ApplicationType}
    {packageName otherPackage project : String} :
    s!"mn {kind.command} {packageName}.{project}" =
        s!"mn {otherKind.command} {otherPackage}.{project}" ↔
      kind = otherKind ∧ packageName = otherPackage := by
  have characters :
      ∀ (kind : ApplicationType) (packageName : String),
        s!"mn {kind.command} {packageName}.{project}".toList =
          "mn ".toList ++ (kind.command.toList ++
            ' ' :: (packageName.toList ++ '.' :: project.toList)) := by
    intro kind packageName
    simp [toString]
  rw [← String.toList_inj, characters, characters, List.append_cancel_left_eq,
    append_cons_inj_of_notMem_front kind.blank_notMem_command
      otherKind.blank_notMem_command,
    List.append_cancel_right_eq, String.toList_inj, String.toList_inj,
    ApplicationType.command_inj]

theorem lastArgument_inj {first second : TestFramework} :
    s!" --test={first.name}" = s!" --test={second.name}" ↔
      first = second := by
  cases first <;> cases second <;> decide

/-- The command is about the application's own project. -/
theorem saidByCommand_iff
    (name : String) (app : App) (buildTool : BuildTool) :
    SaidByCommand facts (commandProject config name)
        (CreateCommand.arguments config variant name app buildTool) ↔
      facts = app.facts variant := by
  constructor
  · rintro ⟨first, last⟩
    rw [getLast?_arguments] at last
    have same := Option.some.inj first
    obtain ⟨kind, packageName⟩ := firstArgument_inj.mp same.symm
    have framework := lastArgument_inj.mp (Option.some.inj last).symm
    exact ProjectFacts.ext framework packageName kind
  · rintro rfl
    exact ⟨rfl, getLast?_arguments name app buildTool⟩

/-! ## The link -/

/-- What the fields of a link say. -/
structure SaidByLink
    (facts : ProjectFacts) (fields : List (String × String)) : Prop where
  test : fields.lookup "test" = some facts.testFramework.name.toUpper
  package : fields.lookup "package" = some facts.packageName
  type : fields.lookup "type" = some facts.applicationType.launchName

/-- The project that a link to an application is about. -/
def ofLink (config : Config) (variant : Variant) (app : App) : ProjectFacts where
  testFramework := variant.testFramework
  packageName := config.packageName
  applicationType := app.applicationType

/-- The link is about the application's kind, with what configuration and variant say otherwise. -/
theorem saidByLink_iff (app : App) (attributes : Attributes) :
    SaidByLink facts
        (DifferenceLink.fields config variant (some app) attributes) ↔
      facts = ofLink config variant app := by
  constructor
  · rintro ⟨test, package, type⟩
    have framework :=
      TestFramework.toUpper_name_inj.mp (Option.some.inj test).symm
    have packageName := (Option.some.inj package).symm
    have kind := ApplicationType.launchName_inj.mp (Option.some.inj type).symm
    exact ProjectFacts.ext framework packageName kind
  · rintro rfl
    exact ⟨rfl, rfl, rfl⟩

/-! ## The request -/

/-- What the request for an application of a name says. -/
structure SaidByRequest
    (facts : ProjectFacts) (name : String) (request : ProjectRequest) :
    Prop where
  testFramework : request.testFramework = facts.testFramework
  applicationType : request.applicationType = facts.applicationType
  name : request.name = s!"{facts.packageName}.{name}"

/-- The request is about the application's own project. -/
theorem saidByRequest_iff
    (config : Config) (guide : Guide) (jdk : UInt32) (app : App) :
    SaidByRequest facts app.name
        (ProjectRequest.ofApp config guide variant jdk app) ↔
      facts = app.facts variant := by
  constructor
  · rintro ⟨framework, kind, named⟩
    have packageName : app.packageName = facts.packageName := by
      have characters := congrArg String.toList named
      simp only [ProjectRequest.ofApp, toString, String.toList_append,
        List.append_cancel_right_eq] at characters
      exact String.toList_inj.mp characters
    exact ProjectFacts.ext framework.symm packageName.symm kind.symm
  · rintro rfl
    exact ⟨rfl, rfl, rfl⟩

end ProjectFacts

/-! ## All three -/

/--
The command that one invocation stands for, the link that another stands for, and the request for an
application say the same of its project.
-/
structure DescriptionsAgree
    (config : Config) (guide : Guide) (variant : Variant) (jdk : UInt32)
    (app : App) (create compare : Invocation) (facts : ProjectFacts) :
    Prop where
  command :
    ∃ created,
      guide.requireApp (CreateCommand.appName config create.target)
          "create-app" = .ok created ∧
        ∀ buildTool,
          facts.SaidByCommand (ProjectFacts.commandProject config app.name)
            (CreateCommand.arguments config variant
              (CreateCommand.appName config create.target) created buildTool)
  link :
    ∃ compared,
      DifferenceLink.app? config guide compare.attributes =
          .ok (some compared) ∧
        facts.SaidByLink
          (DifferenceLink.fields config variant (some compared)
            compare.attributes)
  request :
    ProjectRequest.ofApp config guide variant jdk app ∈
        ProjectRequest.all config guide variant jdk ∧
      facts.SaidByRequest app.name
        (ProjectRequest.ofApp config guide variant jdk app)

/--
The three descriptions of an application's project agree if and only if the first application of the
name has the same project, this is tested with the framework of the variant, and its package is that
of the configuration.  What they agree on is the application's own project.
-/
theorem descriptionsAgree_iff
    {config : Config} {guide : Guide} {app : App} {create compare : Invocation}
    (declared : app ∈ guide.apps)
    (created : CreateCommand.appName config create.target = app.name)
    (compared : compare.attributes.value? "app" = some app.name)
    (variant : Variant) (jdk : UInt32) :
    ∃ named, guide.app? app.name = some named ∧
      ∀ facts,
        DescriptionsAgree config guide variant jdk app create compare facts ↔
          facts = app.facts variant ∧
            named.facts variant = app.facts variant ∧
            (app.facts variant).testFramework = variant.testFramework ∧
            app.packageName = config.packageName := by
  have present : (guide.app? app.name).isSome :=
    List.find?_isSome.mpr ⟨app, declared, beq_self_eq_true app.name⟩
  obtain ⟨named, found⟩ := Option.isSome_iff_exists.mp present
  have required :
      ∀ macroName, guide.requireApp app.name macroName = .ok named := by
    intro macroName
    rw [Guide.requireApp, found]
  have linked :
      DifferenceLink.app? config guide compare.attributes =
        .ok (some named) := by
    rw [DifferenceLink.app?, compared]
    simp only [required]
    rfl
  refine ⟨named, found, fun facts => ?_⟩
  constructor
  · rintro ⟨⟨maker, made, command⟩, ⟨other, met, link⟩, _, request⟩
    rw [created, required] at made
    cases made
    rw [linked] at met
    cases met
    rw [created] at command
    have ofRequest := (ProjectFacts.saidByRequest_iff ..).mp request
    have ofCommand := (ProjectFacts.saidByCommand_iff ..).mp (command .gradle)
    have ofLink := (ProjectFacts.saidByLink_iff ..).mp link
    have sameFramework := congrArg ProjectFacts.testFramework ofLink
    have samePackage := congrArg ProjectFacts.packageName ofLink
    rw [ofRequest] at sameFramework samePackage
    exact ⟨ofRequest, ofCommand.symm.trans ofRequest, sameFramework,
      samePackage⟩
  · rintro ⟨rfl, same, framework, package⟩
    have ofLink :
        app.facts variant = ProjectFacts.ofLink config variant named := by
      have kind := congrArg ProjectFacts.applicationType same
      exact ProjectFacts.ext framework package kind.symm
    constructor
    case command =>
      refine ⟨named, created ▸ required "create-app", fun buildTool => ?_⟩
      rw [created]
      exact (ProjectFacts.saidByCommand_iff ..).mpr same.symm
    case link =>
      exact ⟨named, linked, (ProjectFacts.saidByLink_iff ..).mpr ofLink⟩
    case request =>
      exact ⟨List.mem_map_of_mem declared,
        (ProjectFacts.saidByRequest_iff ..).mpr rfl⟩

/-! ## An application with a package and a test framework of its own -/

namespace Gateway

def app : App where
  name := "gateway"
  packageName := "com.gw"
  testFramework := some .spock

def guide : Guide where
  slug := "hello"
  apps := [app]

def variant : Variant :=
  ⟨.gradle, .java, .junit⟩

/-- What is read from `create-app:gateway[]`. -/
def create : Invocation :=
  ⟨"create-app", "gateway", ⟨[]⟩⟩

/-- What is read from `diffLink:[app=gateway]`. -/
def compare : Invocation :=
  ⟨"diffLink", "", ⟨[⟨"app", ["gateway"]⟩]⟩⟩

end Gateway

open Gateway in
theorem descriptionsAgree_iff_gateway :
    app ∈ guide.apps ∧
      CreateCommand.appName {} create.target = app.name ∧
      compare.attributes.value? "app" = some app.name ∧
      ∃ named, guide.app? app.name = some named ∧
        ∀ facts,
          DescriptionsAgree {} guide variant 17 app create compare facts ↔
            facts = app.facts variant ∧
              named.facts variant = app.facts variant ∧
              (app.facts variant).testFramework = variant.testFramework ∧
              app.packageName = ({} : Config).packageName := by
  have declared : app ∈ guide.apps := List.mem_singleton_self app
  have created : CreateCommand.appName {} create.target = app.name := by
    decide
  have compared : compare.attributes.value? "app" = some app.name := by
    decide
  exact ⟨declared, created, compared,
    descriptionsAgree_iff declared created compared variant 17⟩

open Gateway in
/-- The link is about a project of another package that is tested with another framework. -/
theorem descriptions_disagree :
    Invocation.parse? "create-app" "create-app:gateway[]".toList =
        some create ∧
      Invocation.parse? "diffLink" "diffLink:[app=gateway]".toList =
        some compare ∧
      ∃ app ∈ guide.apps, app.name = "gateway" ∧
        ¬∃ facts,
          DescriptionsAgree {} guide variant 17 app create compare facts := by
  refine ⟨rfl, rfl, app,
    List.mem_singleton_self app, rfl, ?_⟩
  rintro ⟨facts, ⟨maker, made, command⟩, ⟨other, met, link⟩, _⟩
  cases made
  cases met
  have ofCommand := (ProjectFacts.saidByCommand_iff ..).mp (command .gradle)
  have ofLink := (ProjectFacts.saidByLink_iff ..).mp link
  have same :=
    congrArg ProjectFacts.packageName (ofCommand.symm.trans ofLink)
  exact absurd same (by decide)

end Guidebook
