import Guidebook.Markup.Link
import Guidebook.Proofs.Basic
import Mathlib.Data.List.Sort
import Mathlib.Data.String.Basic

/-!
# Features in difference links

The query of a difference link shows the features of a project after seven fields of its own.  The
features stand in ascending order, each once, so they are told by what is among them: the visible
features of the application and those that attributes add, less those that attributes leave out.
Where these attributes stand in their list makes no difference.
-/

namespace Guidebook.Markup.DifferenceLink

open Guidebook.Url

/-! ## Ascending lists -/

theorem mem_insertFeature {feature other : String} {present : List String} :
    other ∈ insertFeature feature present ↔
      other = feature ∨ other ∈ present := by
  induction present with
  | nil => exact List.mem_cons
  | cons first rest ih =>
      unfold insertFeature
      split_ifs with before same
      · exact List.mem_cons
      · rw [same, List.mem_cons]
        exact ⟨Or.inr, fun either => either.elim Or.inl id⟩
      · rw [List.mem_cons, ih, List.mem_cons]
        exact or_left_comm

theorem pairwise_insertFeature
    {present : List String}
    (ascending : present.Pairwise (· < ·)) (feature : String) :
    (insertFeature feature present).Pairwise (· < ·) := by
  induction present with
  | nil => exact List.pairwise_singleton _ feature
  | cons first rest ih =>
      obtain ⟨least, rest_ascending⟩ := List.pairwise_cons.mp ascending
      unfold insertFeature
      split_ifs with before same
      · refine List.pairwise_cons.mpr ⟨?_, ascending⟩
        exact List.forall_mem_cons.mpr
          ⟨before, fun other member => before.trans (least other member)⟩
      · exact ascending
      · refine List.pairwise_cons.mpr
          ⟨fun other member => ?_, ih rest_ascending⟩
        rcases mem_insertFeature.mp member with rfl | later
        · exact lt_of_le_of_ne (not_lt.mp before) (Ne.symm same)
        · exact least other later

theorem mem_foldr_insertFeature {added : List String} {other : String} :
    other ∈ added.foldr insertFeature [] ↔ other ∈ added := by
  induction added with
  | nil => exact Iff.rfl
  | cons feature rest ih =>
      rw [List.foldr_cons, mem_insertFeature, ih, List.mem_cons]

theorem pairwise_foldr_insertFeature (added : List String) :
    (added.foldr insertFeature []).Pairwise (· < ·) := by
  induction added with
  | nil => exact List.Pairwise.nil
  | cons feature rest ih => exact pairwise_insertFeature ih feature

/-! ## Features -/

theorem mem_values {attributes : Attributes} {key value : String} :
    value ∈ attributes.values key ↔
      ∃ entry ∈ attributes.entries, entry.key = key ∧ value ∈ entry.values := by
  rw [Attributes.values, List.mem_flatMap]
  simp only [List.mem_filter, beq_iff_eq, and_assoc]

/-- What a link shows as a feature. -/
structure IsShown
    (app : Option App) (language : Language) (attributes : Attributes)
    (feature : String) : Prop where
  present :
    (∃ chosen ∈ app,
      feature ∈ chosen.commonFeatures ∨
        feature ∈ chosen.languageFeatures language) ∨
    ∃ entry ∈ attributes.entries,
      entry.key = "features" ∧ feature ∈ entry.values
  notExcluded :
    ∀ entry ∈ attributes.entries,
      entry.key = "featureExcludes" → feature ∉ entry.values

section Links

variable {config : Config} {rendering : Rendering} {variant : Variant}
  {app : Option App} {language : Language} {attributes others : Attributes}
  {feature : String}

theorem mem_features_iff :
    feature ∈ features app language attributes ↔
      IsShown app language attributes feature := by
  have visible :
      feature ∈ (app.map fun app => app.visibleFeatures language).getD [] ↔
        ∃ chosen ∈ app,
          feature ∈ chosen.commonFeatures ∨
            feature ∈ chosen.languageFeatures language := by
    cases app <;> simp [App.visibleFeatures]
  have excluded :
      (!(attributes.values "featureExcludes").contains feature) = true ↔
        ∀ entry ∈ attributes.entries,
          entry.key = "featureExcludes" → feature ∉ entry.values := by
    rw [Bool.not_eq_true', ← Bool.not_eq_true, List.contains_iff_mem,
      mem_values]
    push Not
    exact Iff.rfl
  unfold features
  rw [List.mem_filter, mem_foldr_insertFeature, List.mem_append, visible,
    mem_values, excluded]
  exact ⟨fun ⟨present, notExcluded⟩ => ⟨present, notExcluded⟩,
    fun ⟨present, notExcluded⟩ => ⟨present, notExcluded⟩⟩

theorem features_pairwise
    (app : Option App) (language : Language) (attributes : Attributes) :
    (features app language attributes).Pairwise (· < ·) :=
  (pairwise_foldr_insertFeature _).filter _

theorem IsShown.of_perm
    (moved : attributes.entries.Perm others.entries)
    (shown : IsShown app language attributes feature) :
    IsShown app language others feature where
  present := by
    refine shown.present.imp_right ?_
    rintro ⟨entry, member, adds⟩
    exact ⟨entry, moved.subset member, adds⟩
  notExcluded := fun entry member =>
    shown.notExcluded entry (moved.symm.subset member)

/-- Ascending lists of the same features are equal. -/
theorem features_eq_of_perm
    (moved : attributes.entries.Perm others.entries) :
    features app language attributes = features app language others := by
  refine (features_pairwise ..).eq_of_mem_iff (features_pairwise ..) ?_
  intro feature
  rw [mem_features_iff, mem_features_iff]
  exact ⟨IsShown.of_perm moved, IsShown.of_perm moved.symm⟩

/-! ## The query -/

/-- The names of the fields that every link has. -/
def ownFields : List String :=
  ["lang", "build", "test", "name", "type", "package", "activity"]

/-- The features that a query shows. -/
def shownFeatures (query : List (String × String)) : List String :=
  (query.filter fun field => field.1 = "features").map Prod.snd

/-- A query whose fields are those that every link has and then the features, in ascending order. -/
structure ShowsFeatures
    (app : Option App) (language : Language) (attributes : Attributes)
    (query : List (String × String)) : Prop where
  names :
    query.map Prod.fst =
      ownFields ++ (shownFeatures query).map fun _ => "features"
  ascending : (shownFeatures query).Pairwise (· < ·)
  shown :
    ∀ feature,
      feature ∈ shownFeatures query ↔ IsShown app language attributes feature

theorem shownFeatures_fields :
    shownFeatures (fields config variant app attributes) =
      features app variant.language attributes := by
  have named : ∀ shown : List String,
      shownFeatures (shown.map fun feature => ("features", feature)) =
        shown := by
    intro shown
    unfold shownFeatures
    rw [List.filter_map, List.map_map]
    simp [Function.comp_def]
  exact named (features app variant.language attributes)

theorem fields_showFeatures :
    ShowsFeatures app variant.language attributes
      (fields config variant app attributes) := by
  constructor
  case names =>
    rw [shownFeatures_fields, fields, List.map_append, List.map_map]
    rfl
  case ascending =>
    rw [shownFeatures_fields]
    exact features_pairwise ..
  case shown =>
    intro feature
    rw [shownFeatures_fields]
    exact mem_features_iff

/-- A link needs the application that it names, and an address to lead to. -/
theorem expand_eq_ok_iff {invocation : Invocation} {link : Option String} :
    expand config rendering invocation = .ok link ↔
      ∃ app address,
        app? config rendering.guide invocation.attributes = .ok app ∧
          generatorAddress config = .ok address ∧
            link = some ((address.withFields
              (fields config rendering.variant app
                invocation.attributes)).text ++ "[Diff]") := by
  unfold expand
  rw [except_bind_eq_ok]
  simp only [except_bind_eq_ok]
  constructor
  · rintro ⟨app, chosen, address, known, made⟩
    cases made
    exact ⟨app, address, chosen, known, rfl⟩
  · rintro ⟨app, address, chosen, known, rfl⟩
    exact ⟨app, chosen, address, known, rfl⟩

theorem app?_eq_of_value?_eq
    {guide : Guide}
    (same : attributes.value? "app" = others.value? "app") :
    app? config guide attributes = app? config guide others := by
  rw [app?, app?, same]

theorem fields_eq_of_perm
    (moved : attributes.entries.Perm others.entries)
    (same : attributes.value? "app" = others.value? "app") :
    fields config variant app attributes =
      fields config variant app others := by
  rw [fields, fields, features_eq_of_perm moved, projectName, projectName,
    same]

/--
A link that is made shows, after its own fields, the features of the chosen application and of its
attributes, in ascending order and less those that are left out.  The same link is made if the
attributes stand elsewhere in their list, as long as they choose the same application.
-/
theorem expand_shows_features
    {invocation : Invocation} {link : Option String}
    (made : expand config rendering invocation = .ok link) :
    (∃ app address query,
      app? config rendering.guide invocation.attributes = .ok app ∧
        generatorAddress config = .ok address ∧
        link = some ((address.withFields query).text ++ "[Diff]") ∧
        ShowsFeatures app rendering.language invocation.attributes query) ∧
    ∀ other : Invocation,
      invocation.attributes.entries.Perm other.attributes.entries →
        invocation.attributes.value? "app" = other.attributes.value? "app" →
          expand config rendering other = .ok link := by
  obtain ⟨app, address, chosen, known, rfl⟩ := expand_eq_ok_iff.mp made
  constructor
  · exact ⟨app, address, _, chosen, known, rfl, fields_showFeatures⟩
  · intro other moved same
    refine expand_eq_ok_iff.mpr ⟨app, address, ?_, known, ?_⟩
    · rw [← app?_eq_of_value?_eq same]
      exact chosen
    · rw [fields_eq_of_perm moved same]

end Links

/-! ## A link that leaves out a visible feature -/

namespace Trimmed

def app : App where
  name := "default"
  commonFeatures := ["graalvm"]
  javaFeatures := ["data-jdbc"]
  kotlinFeatures := ["kapt"]

def rendering : Rendering where
  guide := { slug := "hello", apps := [app] }
  variant := ⟨.gradle, .java, .junit⟩

def text : String :=
  "diffLink:[featureExcludes=graalvm,features=redis,cache,features=cache,graalvm]"

/-- What is read from the text. -/
def invocation : Invocation where
  name := "diffLink"
  target := ""
  attributes :=
    ⟨[⟨"featureExcludes", ["graalvm"]⟩, ⟨"features", ["redis", "cache"]⟩,
      ⟨"features", ["cache", "graalvm"]⟩]⟩

def link : String :=
  "https://launch.micronaut.io/create/default/example.micronaut.micronautguide" ++
    "?lang=JAVA&build=GRADLE&test=JUNIT&name=micronautguide&type=DEFAULT" ++
    "&package=example.micronaut&activity=diff" ++
    "&features=cache&features=data-jdbc&features=redis[Diff]"

end Trimmed

open Trimmed in
theorem expand_shows_features_trimmed :
    Invocation.parse? "diffLink" text.toList = some invocation ∧
      expand {} rendering invocation = .ok (some link) ∧
      (∃ app address query,
        app? {} rendering.guide invocation.attributes = .ok app ∧
          generatorAddress {} = .ok address ∧
          some link = some ((address.withFields query).text ++ "[Diff]") ∧
          ShowsFeatures app .java invocation.attributes query) ∧
      ∀ other : Invocation,
        invocation.attributes.entries.Perm other.attributes.entries →
          invocation.attributes.value? "app" = other.attributes.value? "app" →
            expand {} rendering other = .ok (some link) := by
  have made : expand {} rendering invocation = .ok (some link) := by
    decide +kernel
  exact ⟨by decide +kernel, made, expand_shows_features made⟩

end Guidebook.Markup.DifferenceLink
