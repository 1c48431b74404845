import Guidebook.Markup.Listing
import Guidebook.Project.Transfer
import Guidebook.Proofs.Basic
import Guidebook.Proofs.Files.Path

/-!
# Listed and placed sources

A listing leads to a class of an application through the name of the application.  The transfer of
a guide's sources places that class in a folder that depends on how many applications the guide
has, and below the source module of the guide.  Both paths end in the same way, so they agree
exactly where their starts do.
-/

namespace Guidebook

open Guidebook.Markup
open Guidebook.Path

namespace Guide

theorem app?_eq_some
    {guide : Guide} {app : App}
    (declared : app ∈ guide.apps)
    (distinct : guide.appNames.Nodup) :
    guide.app? app.name = some app := by
  refine find?_eq_some_of_unique declared (by simp) fun other member same => ?_
  exact List.inj_on_of_nodup_map distinct member declared (by simpa using same)

end Guide

/-! ## The two paths -/

namespace Transfer

/-- The directory of an application's sources below the root of a variant. -/
def appDirectory (guide : Guide) (root : Path) (app : App) : Path :=
  root.joinAll [(Layout.appFolder? guide app).getD "", guide.sourceModule.getD ""]

/-- A guide's own sources are the last to be copied into the directory of an application, and
exclusions are applied there. -/
theorem transferApp_appDirectory
    (guides : List Guide) (guide : Guide) (variant : Variant) (root : Path)
    (app : App) :
    ∃ copyBase : Action Unit,
      transferApp guides guide variant root app =
        (copyBase >>= fun _ =>
          copySources
              (guide.folder.join ((Layout.appFolder? guide app).getD ""))
              (appDirectory guide root app) variant.language >>= fun _ =>
            applyExclusions app (appDirectory guide root app) variant) := by
  unfold transferApp copyAppSources
  cases base? guides guide with
  | none => exact ⟨pure (), rfl⟩
  | some base => exact ⟨_, bind_assoc _ _ _⟩

/-- Where the transfer places a class of the main sources, and where exclusions look for it. -/
def placedSource
    (guide : Guide) (root : Path) (app : App)
    (className : String) (variant : Variant) : Path :=
  (appDirectory guide root app).join (Layout.mainPath app className variant)

/-- Excluding a class of the main sources removes the file at the place of the class. -/
theorem applyExclusion_placedSource
    (guide : Guide) (root : Path) (app : App)
    (className : String) (variant : Variant)
    (single : className ≠ everything) :
    applyExclusion app (appDirectory guide root app) variant.language
        .main className =
      (Action.disk >>= fun disk =>
        let file := placedSource guide root app className variant
        if disk.isFile file then
          Action.changing fun disk => disk.removeFile file
        else
          Action.warn s!"File {file.text} to delete does not exist") := by
  simp only [applyExclusion, single, ↓reduceIte]
  rfl

end Transfer

namespace Layout

theorem mainPath_eq
    (app : App) (className : String) (variant : Variant) :
    mainPath app className variant =
      "src" ++ "/" ++
        (s!"main/{variant.language.name}/" ++ packageFolder app.packageName ++
          className ++ "." ++ variant.language.extension) := by
  apply String.toList_inj.mp
  simp [mainPath, codePath, SourceSet.name, toString]

theorem lead_mainPath
    (app : App) (className : String) (variant : Variant) :
    lead (mainPath app className variant) = [] := by
  rw [mainPath_eq, lead_append_slash]
  decide

/-- The folder in front of the path under which a listing shows a source. -/
def listingFolder (config : Config) (app : App) : String :=
  if app.name = config.defaultAppName then "" else app.name ++ "/"

/-- A listing refers to a class by the path that the class has in its application. -/
theorem locate_source
    {config : Config} {rendering : Rendering} {invocation : Invocation}
    {app : App}
    (declared : app ∈ rendering.guide.apps)
    (distinct : rendering.guide.appNames.Nodup)
    (named : invocation.attributes.value? "app" = some app.name) :
    (ListingKind.source.locate config rendering invocation).2 =
      listingFolder config app ++
        mainPath app invocation.target rendering.variant := by
  have found := Guide.app?_eq_some declared distinct
  apply String.toList_inj.mp
  simp [ListingKind.locate, named, sourceTitle, listingFolder, mainPath,
    codePath, ListingKind.packageOf, found, ListingKind.fileName,
    ListingKind.fileKind, ListingKind.sourceSet, Rendering.language,
    SourceSet.name, toString]

/-- What comes before the path of a class leads to the directory of the listing folder. -/
theorem components_listed
    (config : Config) (root : Path) (app : App)
    (className : String) (variant : Variant) :
    (root.join
        (listingFolder config app ++ mainPath app className variant)).components =
      (root.join (listingFolder config app)).components ++
        steps (mainPath app className variant) := by
  unfold listingFolder
  split
  · rw [String.empty_append, components_join_empty,
      components_join root (lead_mainPath app className variant)]
  · exact components_join_append_slash root app.name _

theorem components_placed
    (guide : Guide) (root : Path) (app : App)
    (className : String) (variant : Variant) :
    (Transfer.placedSource guide root app className variant).components =
      (Transfer.appDirectory guide root app).components ++
        steps (mainPath app className variant) :=
  components_join _ (lead_mainPath app className variant)

/-! ## Agreement -/

/-- A relative name leads on from a directory by its steps, with or without a slash behind it. -/
theorem components_listingFolder
    (config : Config) (root : Path) {app : App}
    (named : app.name ≠ "")
    (relative : lead app.name = []) :
    (root.join (listingFolder config app)).components =
      root.components ++
        (if app.name = config.defaultAppName then [] else steps app.name) := by
  unfold listingFolder
  split
  · rw [components_join_empty, List.append_nil]
  · rw [components_join root (by rw [lead_slash named, relative]),
      steps_slash]

theorem components_appDirectory
    (root : Path) {guide : Guide} {app : App}
    (relative : lead app.name = [])
    (relativeModule : lead (guide.sourceModule.getD "") = []) :
    (Transfer.appDirectory guide root app).components =
      root.components ++
        ((if 1 < guide.apps.length then steps app.name else []) ++
          steps (guide.sourceModule.getD "")) := by
  simp only [Transfer.appDirectory, joinAll, List.foldl_cons, List.foldl_nil]
  rw [components_join _ relativeModule]
  unfold appFolder?
  split
  · rw [Option.getD_some, components_join root relative, List.append_assoc]
  · rw [Option.getD_none, components_join_empty, List.nil_append]

/--
The folder of an application in listings is the directory of its sources.  In listings the folder
of the default application is left out; in the tree that of a single application is, and the
source module comes behind it.
-/
def ListedWherePlaced (config : Config) (guide : Guide) (app : App) : Prop :=
  (if app.name = config.defaultAppName then [] else steps app.name) =
    (if 1 < guide.apps.length then steps app.name else []) ++
      steps (guide.sourceModule.getD "")
deriving Decidable

/-- Without a source module, exactly the single application may have the default name. -/
theorem listedWherePlaced_iff
    {config : Config} {guide : Guide} {app : App}
    (noModule : guide.sourceModule = none)
    (named : steps app.name ≠ []) :
    ListedWherePlaced config guide app ↔
      (app.name = config.defaultAppName ↔ guide.apps.length ≤ 1) := by
  have noSteps : steps ((none : Option String).getD "") = [] := by decide
  unfold ListedWherePlaced
  rw [noModule, noSteps, List.append_nil]
  by_cases isDefault : app.name = config.defaultAppName
  · by_cases several : 1 < guide.apps.length
    · rw [if_pos isDefault, if_pos several]
      exact iff_of_false named.symm fun single =>
        absurd (single.mp isDefault) (Nat.not_le_of_lt several)
    · rw [if_pos isDefault, if_neg several]
      exact iff_of_true rfl
        (iff_of_true isDefault (Nat.le_of_not_lt several))
  · by_cases several : 1 < guide.apps.length
    · rw [if_neg isDefault, if_pos several]
      exact iff_of_true rfl
        (iff_of_false isDefault (Nat.not_le_of_lt several))
    · rw [if_neg isDefault, if_neg several]
      exact iff_of_false named fun single =>
        absurd (single.mpr (Nat.le_of_not_lt several)) isDefault

variable {config : Config} {rendering : Rendering} {invocation : Invocation}
  {app : App}

section Agreement

variable (declared : app ∈ rendering.guide.apps)
  (distinct : rendering.guide.appNames.Nodup)
  (referred : invocation.attributes.value? "app" = some app.name)

include declared distinct referred

theorem listed_eq_placed_iff (root : Path) :
    (root.join
        (ListingKind.source.locate config rendering invocation).2).components =
        (Transfer.placedSource rendering.guide root app invocation.target
          rendering.variant).components ↔
      (root.join (listingFolder config app)).components =
        (Transfer.appDirectory rendering.guide root app).components := by
  rw [locate_source declared distinct referred, components_listed,
    components_placed, List.append_left_inj]

theorem listed_eq_placed_iff_of_relative
    (root : Path)
    (named : app.name ≠ "")
    (relative : lead app.name = [])
    (relativeModule : lead (rendering.guide.sourceModule.getD "") = []) :
    (root.join
        (ListingKind.source.locate config rendering invocation).2).components =
        (Transfer.placedSource rendering.guide root app invocation.target
          rendering.variant).components ↔
      ListedWherePlaced config rendering.guide app := by
  rw [listed_eq_placed_iff declared distinct referred,
    components_listingFolder config root named relative,
    components_appDirectory root relative relativeModule,
    List.append_right_inj]
  exact Iff.rfl

/-- Without a source module, only the name and the number of the applications count. -/
theorem listed_eq_placed_iff_of_noModule
    (root : Path)
    (named : steps app.name ≠ [])
    (relative : lead app.name = [])
    (noModule : rendering.guide.sourceModule = none) :
    (root.join
        (ListingKind.source.locate config rendering invocation).2).components =
        (Transfer.placedSource rendering.guide root app invocation.target
          rendering.variant).components ↔
      (app.name = config.defaultAppName ↔ rendering.guide.apps.length ≤ 1) := by
  have nonempty : app.name ≠ "" := by
    intro empty
    rw [empty] at named
    exact named (by decide)
  have relativeModule : lead (rendering.guide.sourceModule.getD "") = [] := by
    rw [noModule]
    decide
  exact (listed_eq_placed_iff_of_relative declared distinct referred root
    nonempty relative relativeModule).trans (listedWherePlaced_iff noModule named)

end Agreement

/--
A listing of a class of the main sources refers to the place of that class exactly where the
listing folder leads to the directory of the application's sources.  For relative names that is
so where both add the same steps, and without a source module where the application has the default
name exactly if it is the only one.  The place of the class is below the directory into which a
guide's own sources are copied last, and it is where an exclusion of the class looks for it.
-/
theorem source_listing_refers_to_place_iff
    (declared : app ∈ rendering.guide.apps)
    (distinct : rendering.guide.appNames.Nodup)
    (referred : invocation.attributes.value? "app" = some app.name)
    (root : Path) :
    let guide := rendering.guide
    let variant := rendering.variant
    let className := invocation.target
    let listed :=
      root.join (ListingKind.source.locate config rendering invocation).2
    let directory := Transfer.appDirectory guide root app
    let placed := Transfer.placedSource guide root app className variant
    (listed.components = placed.components ↔
      (root.join (listingFolder config app)).components =
        directory.components) ∧
    (app.name ≠ "" → lead app.name = [] →
      lead (guide.sourceModule.getD "") = [] →
        (listed.components = placed.components ↔
          ListedWherePlaced config guide app)) ∧
    (steps app.name ≠ [] → lead app.name = [] → guide.sourceModule = none →
      (listed.components = placed.components ↔
        (app.name = config.defaultAppName ↔ guide.apps.length ≤ 1))) ∧
    placed = directory.join (mainPath app className variant) ∧
    (∀ guides, ∃ copyBase : Action Unit,
      Transfer.transferApp guides guide variant root app =
        (copyBase >>= fun _ =>
          Transfer.copySources
              (guide.folder.join ((appFolder? guide app).getD ""))
              directory variant.language >>= fun _ =>
            Transfer.applyExclusions app directory variant)) ∧
    (className ≠ Transfer.everything →
      Transfer.applyExclusion app directory variant.language .main className =
        (Action.disk >>= fun disk =>
          if disk.isFile placed then
            Action.changing fun disk => disk.removeFile placed
          else
            Action.warn s!"File {placed.text} to delete does not exist")) :=
  ⟨listed_eq_placed_iff declared distinct referred root,
    listed_eq_placed_iff_of_relative declared distinct referred root,
    listed_eq_placed_iff_of_noModule declared distinct referred root,
    rfl,
    fun guides =>
      Transfer.transferApp_appDirectory guides rendering.guide rendering.variant
        root app,
    Transfer.applyExclusion_placedSource rendering.guide root app
      invocation.target rendering.variant⟩

/-- A guide whose only application does not have the default name. -/
def soloGuide : Guide where
  slug := "hello"
  apps := [{ name := "foo", packageName := "example.micronaut" }]

/-- The rendering of that guide for Gradle, Java and JUnit. -/
def soloRendering : Rendering where
  guide := soloGuide
  variant := ⟨.gradle, .java, .junit⟩

theorem source_listing_refers_to_place_iff_soloGuide :
    let app : App := { name := "foo", packageName := "example.micronaut" }
    let invocation : Invocation := ⟨"source", "C", ⟨[⟨"app", ["foo"]⟩]⟩⟩
    let root : Path := ⟨"code/hello/hello-gradle-java"⟩
    let listed :=
      root.join (ListingKind.source.locate {} soloRendering invocation).2
    let directory := Transfer.appDirectory soloGuide root app
    let placed :=
      Transfer.placedSource soloGuide root app "C" soloRendering.variant
    Invocation.parse? "source" "source:C[app=foo]".toList = some invocation ∧
    app ∈ soloRendering.guide.apps ∧
    soloRendering.guide.appNames.Nodup ∧
    invocation.attributes.value? "app" = some app.name ∧
    (listed.components = placed.components ↔
      ListedWherePlaced {} soloGuide app) ∧
    (listed.components = placed.components ↔
      ("foo" = "default" ↔ soloGuide.apps.length ≤ 1)) ∧
    Transfer.applyExclusion app directory .java .main "C" =
      (Action.disk >>= fun disk =>
        if disk.isFile placed then
          Action.changing fun disk => disk.removeFile placed
        else
          Action.warn s!"File {placed.text} to delete does not exist") := by
  intro app invocation root listed directory placed
  refine ⟨by decide, by decide, by decide, by decide, ?_⟩
  have declared : app ∈ soloRendering.guide.apps := by decide
  have distinct : soloRendering.guide.appNames.Nodup := by decide
  have referred : invocation.attributes.value? "app" = some app.name := by decide
  obtain ⟨_, relative, alone, _, _, removed⟩ :=
    @source_listing_refers_to_place_iff {} soloRendering invocation app declared
      distinct referred root
  exact ⟨relative (by decide) (by decide) (by decide),
    alone (by decide) (by decide) rfl, removed (by decide)⟩

/-- A listing does not always refer to the place of the class that it names. -/
theorem source_listing_misses_place :
    ¬∀ (config : Config) (rendering : Rendering) (invocation : Invocation)
      (app : App),
      app ∈ rendering.guide.apps →
      rendering.guide.appNames.Nodup →
      invocation.attributes.value? "app" = some app.name →
      ∀ root : Path,
        (root.join
            (ListingKind.source.locate config rendering invocation).2).components =
          (Transfer.placedSource rendering.guide root app invocation.target
            rendering.variant).components := by
  intro always
  have agreed :=
    always {} soloRendering ⟨"source", "C", ⟨[⟨"app", ["foo"]⟩]⟩⟩
      { name := "foo", packageName := "example.micronaut" }
      (by decide) (by decide) (by decide) ⟨"root"⟩
  rw [listed_eq_placed_iff_of_relative (by decide) (by decide) (by decide)
    _ (by decide) (by decide) (by decide)] at agreed
  revert agreed
  decide

end Layout

end Guidebook
