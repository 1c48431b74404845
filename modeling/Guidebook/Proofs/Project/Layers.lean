import Guidebook.Proofs.Files.Outside
import Guidebook.Proofs.Markup.ListedSource
import Mathlib.Data.Prod.Basic

/-!
# Layers of sources

A folder of sources provides a file from the tree of the language, or else from the tree that all
languages share.  The sources of a guide are copied over those of its base, and both over what is
there already, so each place below the directory of an application shows the uppermost layer that
has a file for it.
-/

namespace Guidebook

namespace Transfer

open Guidebook.Path Guidebook.Disk

variable {before after : Workspace} {source destination : Path}
  {language : Language}

/-! ## Copying a tree -/

/-- Files that are copied from elsewhere appear under the same names. -/
theorem fills_files
    {files : List (List String × ByteArray)}
    (named : ∀ file ∈ files, ∀ name ∈ file.1, IsName name)
    (tree : before.disk.IsTree)
    (apart :
      Apart (before.disk.target destination) (before.disk.target source))
    (copied :
      (files.forM fun file =>
          Action.copyFile (source.joinAll file.1)
            (destination.joinAll file.1)).run.run before =
        (.ok (), after)) :
    before.disk.Fills (before.disk.target destination)
      (fun names =>
        if names ∈ files.map Prod.fst then
          before.disk.content? (before.disk.target source ++ names)
        else none)
      after.disk := by
  induction files generalizing before with
  | nil =>
      cases copied
      exact Fills.nothing tree _
  | cons file rest ih =>
      obtain ⟨first_named, rest_named⟩ := List.forall_mem_cons.mp named
      rw [List.forM_eq_forM, List.forM_cons] at copied
      obtain ⟨_, middle, first_copied, rest_copied⟩ :=
        run_bind_eq_ok.mp copied
      have origin : before.disk.target (source.joinAll file.1) =
          before.disk.target source ++ file.1 :=
        target_joinAll first_named source _
      have first :=
        Action.fills_copyFile tree (target_joinAll first_named destination _)
          (origin ▸ (apart.append_ne _ _).symm) first_copied
      rw [origin] at first
      have later := ih rest_named first.tree
        (by rw [first.target_eq, first.target_eq]; exact apart)
        rest_copied
      rw [first.target_eq, first.target_eq] at later
      refine (first.trans later).congr fun names => ?_
      rw [first.kept _ (apart.not_prefix (List.prefix_append _ names)),
        List.map_cons]
      by_cases here : names = file.1
      · rw [here, if_pos rfl, if_pos List.mem_cons_self]
        split_ifs
        · exact Option.or_self
        · exact Option.none_or
      · have member : names ∈ file.1 :: rest.map Prod.fst ↔
            names ∈ rest.map Prod.fst :=
          List.mem_cons.trans (or_iff_right here)
        simp only [member, if_neg here, Option.or_none]

/-- Copying a tree that may be missing puts all that it holds below the destination. -/
theorem fills_copyTreeIfPresent
    (tree : before.disk.IsTree)
    (apart :
      Apart (before.disk.target destination) (before.disk.target source))
    (offers : before.disk.Offers source)
    (copied :
      (copyTreeIfPresent source destination).run.run before =
        (.ok (), after)) :
    before.disk.Fills (before.disk.target destination)
      (before.disk.below? (before.disk.target source)) after.disk := by
  unfold copyTreeIfPresent at copied
  rw [run_bind_state, Action.run_disk] at copied
  simp only at copied
  split at copied
  case isTrue present =>
    obtain ⟨leads, stands⟩ := isDirectory_iff.mp present
    unfold copyTree at copied
    rw [run_bind_state, Action.run_disk] at copied
    simp only [leads] at copied
    rw [run_bind_state, Action.run_disk] at copied
    simp only at copied
    have holds : ∀ names content,
        (names, content) ∈
            before.disk.shownFilesBelow (before.disk.target source) ↔
          before.disk.below? (before.disk.target source) names =
            some content := by
      intro names content
      rw [shownFilesBelow, List.mem_filter, tree.mem_filesBelow_iff,
        below?_of_directory stands, and_iff_left_iff_imp,
        ← below?_of_directory stands]
      exact offers.shown names content
    have fills :=
      fills_files (fun file member => ?named) tree apart copied
    case named =>
      intro name inside
      have found := content?_of_below? ((holds file.1 file.2).mp member)
      exact (tree.isFileName (content?_eq_some_iff.mp found) name
        (List.mem_append_right _ inside)).toIsName
    refine fills.congr fun names => ?_
    rw [← below?_of_directory stands]
    refine ite_eq_left_iff.mpr fun missing => Eq.symm ?_
    refine Option.eq_none_iff_forall_ne_some.mpr fun content found => ?_
    exact missing
      (List.mem_map_of_mem (f := Prod.fst) ((holds names content).mpr found))
  case isFalse absent =>
    cases copied
    refine (Fills.nothing tree _).congr fun names => Eq.symm ?_
    refine Option.eq_none_iff_forall_ne_some.mpr fun content found => ?_
    have leads := offers.reached names content found
    have further : names ≠ [] := by
      rintro rfl
      cases found
    have stands :=
      tree.directory_of_append
        (content?_eq_some_iff.mp (content?_of_below? found)) further
    exact absent (isDirectory_iff.mpr ⟨leads, stands⟩)

/-! ## The sources of a folder -/

/-- The file that the sources at a location provide under names. -/
def sourceFile?
    (disk : Disk) (language : Language) (location : Location)
    (names : List String) : Option ByteArray :=
  (disk.below? (location ++ [language.name]) names).or
    ((names.dropPrefix? ["src"]).bind (disk.below? (location ++ ["src"])))

/-- A folder whose trees for a language can be copied. -/
structure OffersSources
    (disk : Disk) (language : Language) (folder : Path) : Prop where
  shared : disk.Offers (folder.join "src")
  ofLanguage : disk.Offers (folder.join language.name)

theorem target_join_name
    {name : String} (isName : IsName name) (disk : Disk) (folder : Path) :
    disk.target (folder.join name) = disk.target folder ++ [name] :=
  target_joinAll (List.forall_mem_singleton.mpr isName) folder _

theorem target_join_src (disk : Disk) (folder : Path) :
    disk.target (folder.join "src") = disk.target folder ++ ["src"] :=
  target_join_name (by decide) disk folder

theorem target_join_language
    (disk : Disk) (folder : Path) (language : Language) :
    disk.target (folder.join language.name) =
      disk.target folder ++ [language.name] :=
  target_join_name (by cases language <;> decide) disk folder

theorem fills_copySources
    (tree : before.disk.IsTree)
    (outside :
      Outside (before.disk.target destination) (before.disk.target source))
    (offers : OffersSources before.disk language source)
    (copied :
      (copySources source destination language).run.run before =
        (.ok (), after)) :
    before.disk.Fills (before.disk.target destination)
      (sourceFile? before.disk language (before.disk.target source))
      after.disk := by
  obtain ⟨_, middle, shared_copied, language_copied⟩ :=
    run_bind_eq_ok.mp copied
  have shared_apart :
      Apart (before.disk.target (destination.join "src"))
        (before.disk.target (source.join "src")) := by
    rw [target_join_src, target_join_src]
    exact outside.toApart.below (List.prefix_append _ _)
      (List.prefix_append _ _)
  have shared :=
    fills_copyTreeIfPresent tree shared_apart offers.shared shared_copied
  rw [target_join_src, target_join_src] at shared
  have language_within :
      before.disk.target source <+:
        before.disk.target (source.join language.name) := by
    rw [target_join_language]
    exact List.prefix_append _ _
  have language_apart :
      Apart (before.disk.target destination)
        (before.disk.target (source.join language.name)) :=
    outside.toApart.below (List.prefix_refl _) language_within
  have first := shared.outward
  have second :=
    fills_copyTreeIfPresent first.tree
      (by rw [first.target_eq, first.target_eq]; exact language_apart)
      (first.offers outside offers.ofLanguage language_within)
      language_copied
  rw [first.target_eq, first.target_eq] at second
  refine (first.trans second).congr fun names => ?_
  rw [first.below?_eq language_apart, target_join_language]
  rfl

/-! ## Layers -/

/-- A folder of sources and the directory to which they are copied. -/
structure Layer where
  source : Path
  destination : Path

/-- Layers that can be copied one after the other. -/
structure Stack
    (disk : Disk) (language : Language) (layers : List Layer) : Prop where
  offered :
    ∀ layer ∈ layers, OffersSources disk language layer.source
  outside :
    ∀ layer ∈ layers, ∀ other ∈ layers,
      Outside (disk.target layer.destination) (disk.target other.source)

/-- The file that the uppermost layer at a location provides under names; the last is on top. -/
def topFile?
    (disk : Disk) (language : Language) (layers : List Layer)
    (location : Location) (names : List String) : Option ByteArray :=
  layers.reverse.findSome? fun layer =>
    if disk.target layer.destination = location then
      sourceFile? disk language (disk.target layer.source) names
    else none

theorem topFile?_cons
    (disk : Disk) (language : Language) (layer : Layer) (rest : List Layer)
    (location : Location) (names : List String) :
    topFile? disk language (layer :: rest) location names =
      (topFile? disk language rest location names).or
        (if disk.target layer.destination = location then
          sourceFile? disk language (disk.target layer.source) names
        else none) := by
  rw [topFile?, List.reverse_cons, List.findSome?_append,
    List.findSome?_singleton]
  rfl

section Fills

variable {layers : List Layer} {location : Location} {disk after : Disk}
  {files : List String → Option ByteArray}
  (fills : disk.Fills location files after)

include fills

theorem sourceFile?_of_fills
    {folder : Path} (outside : Outside location (disk.target folder))
    (names : List String) :
    sourceFile? after language (disk.target folder) names =
      sourceFile? disk language (disk.target folder) names := by
  have same : ∀ name,
      after.below? (disk.target folder ++ [name]) =
        disk.below? (disk.target folder ++ [name]) := by
    intro name
    have apart : Apart location (disk.target folder ++ [name]) :=
      outside.toApart.below (List.prefix_refl location)
        (List.prefix_append _ [name])
    exact funext (fills.below?_eq apart)
  rw [sourceFile?, sourceFile?, same, same]

theorem topFile?_of_fills
    (outside :
      ∀ layer ∈ layers, Outside location (disk.target layer.source))
    (place : Location) (names : List String) :
    topFile? after language layers place names =
      topFile? disk language layers place names := by
  refine findSome?_congr fun layer member => ?_
  have around := outside layer (List.mem_reverse.mp member)
  rw [fills.target_eq, fills.target_eq, sourceFile?_of_fills fills around]

/-- Putting files in place outside of all sources leaves the layers as they are. -/
theorem Stack.of_fills
    (stack : Stack disk language layers)
    (outside :
      ∀ layer ∈ layers, Outside location (disk.target layer.source)) :
    Stack after language layers where
  offered := fun layer member => by
    have offers := stack.offered layer member
    have around := outside layer member
    constructor
    case shared =>
      refine fills.offers around offers.shared ?_
      rw [target_join_src]
      exact List.prefix_append _ _
    case ofLanguage =>
      refine fills.offers around offers.ofLanguage ?_
      rw [target_join_language]
      exact List.prefix_append _ _
  outside := fun layer member other inside => by
    rw [fills.target_eq, fills.target_eq]
    exact stack.outside layer member other inside

end Fills

theorem Stack.tail
    {disk : Disk} {layer : Layer} {layers : List Layer}
    (stack : Stack disk language (layer :: layers)) :
    Stack disk language layers where
  offered := fun other member =>
    stack.offered other (List.mem_cons_of_mem _ member)
  outside := fun other member further inside =>
    stack.outside other (List.mem_cons_of_mem _ member) further
      (List.mem_cons_of_mem _ inside)

/-- What copying layers one after the other leaves at a location and apart from all of them. -/
theorem Stack.run_copySources
    {layers : List Layer} {location : Location}
    (stack : Stack before.disk language layers)
    (tree : before.disk.IsTree)
    (separate :
      ∀ layer ∈ layers,
        before.disk.target layer.destination = location ∨
          Apart (before.disk.target layer.destination) location)
    (copied :
      (layers.forM fun layer =>
          copySources layer.source layer.destination language).run.run
        before = (.ok (), after)) :
    (∀ names,
      after.disk.content? (location ++ names) =
        (topFile? before.disk language layers location names).or
          (before.disk.content? (location ++ names))) ∧
      ∀ place,
        (∀ layer ∈ layers,
          ¬before.disk.target layer.destination <+: place) →
        after.disk.content? place = before.disk.content? place := by
  induction layers generalizing before with
  | nil =>
      cases copied
      exact ⟨fun _ => rfl, fun _ _ => rfl⟩
  | cons layer rest ih =>
      rw [List.forM_eq_forM, List.forM_cons] at copied
      obtain ⟨_, middle, first_copied, rest_copied⟩ :=
        run_bind_eq_ok.mp copied
      have outside : ∀ other ∈ layer :: rest,
          Outside (before.disk.target layer.destination)
            (before.disk.target other.source) :=
        stack.outside layer List.mem_cons_self
      have first :=
        fills_copySources tree (outside layer List.mem_cons_self)
          (stack.offered layer List.mem_cons_self) first_copied
      have rest_outside : ∀ other ∈ rest,
          Outside (before.disk.target layer.destination)
            (before.disk.target other.source) := fun other member =>
        outside other (List.mem_cons_of_mem _ member)
      obtain ⟨first_separate, rest_separate⟩ :=
        List.forall_mem_cons.mp separate
      obtain ⟨rest_top, rest_kept⟩ :=
        ih (stack.tail.of_fills first rest_outside) first.tree
          (by simpa only [first.target_eq] using rest_separate) rest_copied
      constructor
      · intro names
        rw [rest_top, topFile?_of_fills first rest_outside, topFile?_cons,
          Option.or_assoc]
        congr 1
        rcases first_separate with here | apart
        · rw [if_pos here, ← here]
          exact first.filled names
        · have elsewhere : before.disk.target layer.destination ≠ location := by
            rintro same
            exact apart.notAround (same ▸ List.prefix_refl _)
          rw [if_neg elsewhere, Option.none_or]
          exact first.kept _ (apart.not_prefix (List.prefix_append _ _))
      · intro place elsewhere
        obtain ⟨first_elsewhere, rest_elsewhere⟩ :=
          List.forall_mem_cons.mp elsewhere
        rw [rest_kept place
          (by simpa only [first.target_eq] using rest_elsewhere)]
        exact first.kept place first_elsewhere

/-! ## The sources of an application -/

/-- The directory of the sources of the base, below the root of a variant. -/
def baseDirectory (guide : Guide) (root : Path) (app : App) : Path :=
  root.joinAll
    [(Layout.appFolder? guide app).getD "",
      guide.baseSourceModule.getD (guide.sourceModule.getD "")]

/-- The folder that the guide or its base has for an application of the guide. -/
def sourceFolder (guide : Guide) (app : App) (owner : Guide) : Path :=
  owner.folder.join ((Layout.appFolder? guide app).getD "")

/-- The layers that are copied for an application. -/
def appLayers
    (guides : List Guide) (guide : Guide) (root : Path) (app : App) :
    List Layer :=
  (base? guides guide).toList.map (fun base =>
      ⟨sourceFolder guide app base, baseDirectory guide root app⟩) ++
    [⟨sourceFolder guide app guide, appDirectory guide root app⟩]

section Application

variable {guides : List Guide} {guide : Guide} {variant : Variant}
  {root : Path} {app : App}

theorem copyAppSources_eq_layers
    (guides : List Guide) (guide : Guide) (variant : Variant) (root : Path)
    (app : App) :
    copyAppSources guides guide variant root app =
      (appLayers guides guide root app).forM fun layer =>
        copySources layer.source layer.destination variant.language := by
  unfold copyAppSources appLayers
  rw [List.forM_eq_forM]
  cases base? guides guide with
  | none =>
      simp only [Option.toList_none, List.map_nil, List.nil_append,
        List.forM_cons, List.forM_nil, bind_pure_unit]
      rfl
  | some base =>
      simp only [Option.toList_some, List.map_cons, List.map_nil,
        List.singleton_append, List.forM_cons, List.forM_nil, bind_pure_unit]
      rfl

theorem forall_mem_appLayers {holds : Layer → Prop} :
    (∀ layer ∈ appLayers guides guide root app, holds layer) ↔
      (∀ base, base? guides guide = some base →
        holds ⟨sourceFolder guide app base, baseDirectory guide root app⟩) ∧
        holds ⟨sourceFolder guide app guide, appDirectory guide root app⟩ := by
  simp [appLayers, or_imp, forall_and]

/--
After the sources of an application have been copied, a file below its directory is the one of the
guide's own sources, or else that of the base's if they go into the same directory, or else the one
that was there before.  Files elsewhere are as before, those below the directory of the base's
sources apart.
-/
theorem copyAppSources_precedence
    (tree : before.disk.IsTree)
    (stack :
      Stack before.disk variant.language (appLayers guides guide root app))
    (separate :
      (base? guides guide).isSome →
        before.disk.target (baseDirectory guide root app) =
            before.disk.target (appDirectory guide root app) ∨
          Apart (before.disk.target (baseDirectory guide root app))
            (before.disk.target (appDirectory guide root app)))
    (copied :
      (copyAppSources guides guide variant root app).run.run before =
        (.ok (), after)) :
    let disk := before.disk
    let location := disk.target (appDirectory guide root app)
    let baseLocation := disk.target (baseDirectory guide root app)
    let provided := fun owner =>
      sourceFile? disk variant.language
        (disk.target (sourceFolder guide app owner))
    (∀ names,
      after.disk.content? (location ++ names) =
        ((provided guide names).or
            ((base? guides guide).bind fun base =>
              if baseLocation = location then provided base names
              else none)).or
          (disk.content? (location ++ names))) ∧
      ∀ place, ¬location <+: place →
        ((base? guides guide).isSome → ¬baseLocation <+: place) →
        after.disk.content? place = disk.content? place := by
  intro disk location baseLocation provided
  rw [copyAppSources_eq_layers] at copied
  have places : ∀ layer ∈ appLayers guides guide root app,
      disk.target layer.destination = location ∨
        Apart (disk.target layer.destination) location :=
    forall_mem_appLayers.mpr
      ⟨fun base found => separate (Option.isSome_of_eq_some found),
        Or.inl rfl⟩
  obtain ⟨top, kept⟩ := stack.run_copySources tree places copied
  constructor
  · intro names
    rw [top]
    congr 1
    rw [appLayers]
    cases base? guides guide with
    | none =>
        rw [Option.toList_none, List.map_nil, List.nil_append, topFile?_cons,
          if_pos rfl, Option.bind_none, Option.or_none]
        exact Option.none_or
    | some base =>
        rw [Option.toList_some, List.map_singleton, List.singleton_append,
          topFile?_cons, topFile?_cons, if_pos rfl, Option.bind_some]
        exact congrArg (Option.or · _) Option.none_or
  · intro place outside baseOutside
    exact kept place (forall_mem_appLayers.mpr
      ⟨fun base found => baseOutside (Option.isSome_of_eq_some found),
        outside⟩)

end Application

/-! ## A guide and its base in one directory -/

namespace Layered

def app : App where
  name := "default"

def base : Guide where
  slug := "old"
  folder := ⟨"guides/old"⟩
  apps := [app]

def guide : Guide where
  slug := "new"
  folder := ⟨"guides/new"⟩
  base := some "old"
  apps := [app]

def variant : Variant :=
  ⟨.gradle, .java, .junit⟩

def root : Path :=
  ⟨"code/new/java"⟩

def disk : Disk where
  entries :=
    [(["guides"], .directory),
      (["guides", "old"], .directory),
      (["guides", "old", "src"], .directory),
      (["guides", "old", "src", "Shared"], .file "1".toUTF8),
      (["guides", "old", "java"], .directory),
      (["guides", "old", "java", "Old"], .file "2".toUTF8),
      (["guides", "new"], .directory),
      (["guides", "new", "src"], .directory),
      (["guides", "new", "src", "Shared"], .file "3".toUTF8),
      (["guides", "new", "java"], .directory),
      (["guides", "new", "java", "New"], .file "4".toUTF8),
      (["code"], .directory),
      (["code", "new"], .directory),
      (["code", "new", "java"], .directory),
      (["code", "new", "java", "New"], .file "5".toUTF8),
      (["code", "new", "java", "README"], .file "6".toUTF8)]
  workingDirectory := []

theorem isTree : disk.IsTree := by
  decide +kernel

theorem offersSources
    {owner : Guide} (known : owner = base ∨ owner = guide) :
    OffersSources disk .java (sourceFolder guide app owner) := by
  rcases known with rfl | rfl
  · exact ⟨isTree.offers (by decide +kernel) (by decide +kernel),
      isTree.offers (by decide +kernel) (by decide +kernel)⟩
  · exact ⟨isTree.offers (by decide +kernel) (by decide +kernel),
      isTree.offers (by decide +kernel) (by decide +kernel)⟩

theorem outside
    {owner : Guide} (known : owner = base ∨ owner = guide) :
    Outside (disk.target (appDirectory guide root app))
      (disk.target (sourceFolder guide app owner)) := by
  have below : disk.target (appDirectory guide root app) =
      ["code"] ++ ["new", "java"] := by
    decide +kernel
  have apart :
      Apart ["code"] (disk.target (sourceFolder guide app owner)) := by
    rcases known with rfl | rfl
    · exact ⟨by decide +kernel, by decide +kernel⟩
    · exact ⟨by decide +kernel, by decide +kernel⟩
  rw [below]
  exact apart.outside (by decide) (by decide)

theorem stack : Stack disk .java (appLayers [base] guide root app) where
  offered := forall_mem_appLayers.mpr
    ⟨fun _ found => offersSources (Or.inl (Option.some.inj found).symm),
      offersSources (Or.inr rfl)⟩
  outside :=
    have around : ∀ layer ∈ appLayers [base] guide root app,
        Outside (disk.target (appDirectory guide root app))
          (disk.target layer.source) :=
      forall_mem_appLayers.mpr
        ⟨fun _ found => outside (Or.inl (Option.some.inj found).symm),
          outside (Or.inr rfl)⟩
    forall_mem_appLayers.mpr ⟨fun _ _ => around, around⟩

end Layered

open Layered in
theorem copyAppSources_precedence_layered :
    disk.IsTree ∧
      Stack disk .java (appLayers [base] guide root app) ∧
      disk.target (baseDirectory guide root app) =
        disk.target (appDirectory guide root app) ∧
      ∃ after,
        (copyAppSources [base] guide variant root app).run.run ⟨disk, []⟩ =
            (.ok (), after) ∧
          ∀ names,
            after.disk.content? (["code", "new", "java"] ++ names) =
              ((sourceFile? disk .java ["guides", "new"] names).or
                  (sourceFile? disk .java ["guides", "old"] names)).or
                (disk.content? (["code", "new", "java"] ++ names)) := by
  have succeeded :
      ((copyAppSources [base] guide variant root app).run.run
        ⟨disk, []⟩).1 = .ok () := by
    decide +kernel
  obtain ⟨after, copied⟩ :
      ∃ after,
        (copyAppSources [base] guide variant root app).run.run ⟨disk, []⟩ =
          (.ok (), after) :=
    ⟨_, Prod.fst_eq_iff.mp succeeded⟩
  have place : disk.target (appDirectory guide root app) =
      ["code", "new", "java"] := by
    decide +kernel
  have own : disk.target (sourceFolder guide app guide) =
      ["guides", "new"] := by
    decide +kernel
  have inherited : disk.target (sourceFolder guide app base) =
      ["guides", "old"] := by
    decide +kernel
  have found : base? [base] guide = some base := by
    decide +kernel
  have together :
      disk.target (baseDirectory guide root app) =
        disk.target (appDirectory guide root app) :=
    congrArg disk.target
      (show baseDirectory guide root app = appDirectory guide root app from rfl)
  let before : Workspace := ⟨disk, []⟩
  have tree : before.disk.IsTree := isTree
  have offered :
      Stack before.disk variant.language (appLayers [base] guide root app) :=
    stack
  obtain ⟨top, -⟩ :=
    copyAppSources_precedence tree offered (fun _ => Or.inl together) copied
  refine ⟨isTree, stack, together, after, copied, fun names => ?_⟩
  have shown := top names
  simp only [before, found, Option.bind_some, own, inherited, place, variant]
    at shown
  exact shown

end Transfer

end Guidebook
