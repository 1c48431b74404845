import Guidebook.Guide.Defaults
import Guidebook.Proofs.Distinct
import Guidebook.Proofs.Guide.Merging

/-!
# Defaults make guides complete

Once its defaults are filled in, a guide has everything that is made from it later on: languages,
build tools, a document if it is published, applications with names and packages.  Filling them in
once more changes nothing.
-/

namespace Guidebook

open Guidebook.Text

/-- The guide has all that is made from it later on, and lists nothing twice. -/
structure Guide.IsComplete (guide : Guide) : Prop where
  languages : guide.languages ≠ []
  buildTools : guide.buildTools ≠ []
  categories : guide.categories.Nodup
  tags : guide.tags.Nodup
  document : guide.publish = true → guide.asciidoctor.isSome = true
  apps : ∀ app ∈ guide.apps,
    isBlankText app.name.toList = false ∧
      isBlankText app.packageName.toList = false

/-- The configuration has a default for everything that a guide may leave unset. -/
structure Config.HasDefaults (config : Config) : Prop where
  languages : config.defaultLanguages ≠ []
  buildTools : config.defaultBuildTools ≠ []
  appName : isBlankText config.defaultAppName.toList = false
  packageName : isBlankText config.packageName.toList = false

variable {config : Config}

/-! ## Values with a default -/

theorem inheritedList_ne_nil
    {α : Type} {inherited : List α} (nonempty : inherited ≠ [])
    (own : List α) :
    inheritedList inherited own ≠ [] := by
  unfold inheritedList
  cases own with
  | nil => exact nonempty
  | cons first rest => exact List.cons_ne_nil first rest

theorem unlessBlank_not_blank
    {default : String} (filled : isBlankText default.toList = false)
    (text : String) :
    isBlankText (unlessBlank default text).toList = false := by
  unfold unlessBlank
  split
  · exact filled
  · rename_i written
    exact Bool.eq_false_iff.mpr written

theorem unlessBlank_again (default text : String) :
    unlessBlank default (unlessBlank default text) =
      unlessBlank default text := by
  unfold unlessBlank
  by_cases blank : isBlankText text.toList = true
  · rw [if_pos blank, ite_self]
  · rw [if_neg blank, if_neg blank]

theorem App.withDefaults_again (config : Config) (app : App) :
    (app.withDefaults config).withDefaults config =
      app.withDefaults config := by
  simp only [App.withDefaults, unlessBlank_again]

/-! ## Guides -/

namespace Guide

/-- The document of a guide, which has one by default if it is published. -/
def documentOr
    (default : String) (published : Bool) (document : Option String) :
    Option String :=
  if published && document.isNone then some default else document

theorem documentOr_again
    (default : String) (published : Bool) (document : Option String) :
    documentOr default published (documentOr default published document) =
      documentOr default published document := by
  cases published <;> cases document <;> rfl

theorem documentOr_isSome
    (default : String) (document : Option String) :
    (documentOr default true document).isSome = true := by
  cases document <;> rfl

/-- Slug and document are filled in as the lists are: by a value for where there is none. -/
theorem withDefaults_eq (config : Config) (guide : Guide) :
    guide.withDefaults config =
      let slug := inheritedText (directoryName guide.folder) guide.slug
      { guide with
        languages := inheritedList config.defaultLanguages guide.languages
        buildTools := inheritedList config.defaultBuildTools guide.buildTools
        slug := slug
        asciidoctor :=
          documentOr (slug ++ ".adoc") guide.publish guide.asciidoctor
        apps := guide.apps.map (App.withDefaults config)
        categories := distinct guide.categories
        tags := distinct guide.tags } :=
  rfl

theorem withDefaults_isComplete
    (defaults : config.HasDefaults) (guide : Guide) :
    (guide.withDefaults config).IsComplete where
  languages := inheritedList_ne_nil defaults.languages guide.languages
  buildTools := inheritedList_ne_nil defaults.buildTools guide.buildTools
  categories := nodup_eraseDups guide.categories
  tags := nodup_eraseDups guide.tags
  document := by
    intro published
    change guide.publish = true at published
    rw [withDefaults_eq, published]
    exact documentOr_isSome _ guide.asciidoctor
  apps := by
    intro app member
    obtain ⟨authored, -, rfl⟩ := List.mem_map.mp member
    exact ⟨unlessBlank_not_blank defaults.appName authored.name,
      unlessBlank_not_blank defaults.packageName authored.packageName⟩

/-- The slug of a guide that has taken one from its folder, as far as it can, stays as it is. -/
theorem withDefaults_slug
    (config : Config) {guide : Guide}
    (settled : guide.slug = "" → directoryName guide.folder = "") :
    (guide.withDefaults config).slug = guide.slug := by
  change inheritedText (directoryName guide.folder) guide.slug = guide.slug
  unfold inheritedText
  split
  · rename_i unnamed
    rw [settled unnamed, unnamed]
  · rfl

@[simp]
theorem withDefaults_folder (config : Config) (guide : Guide) :
    (guide.withDefaults config).folder = guide.folder :=
  rfl

/-- Filling in the defaults once more changes nothing, whatever they are. -/
theorem withDefaults_again (config : Config) (guide : Guide) :
    (guide.withDefaults config).withDefaults config =
      guide.withDefaults config := by
  have apps :
      App.withDefaults config ∘ App.withDefaults config =
        App.withDefaults config :=
    funext (App.withDefaults_again config)
  simp only [withDefaults_eq, inheritedList_again, inheritedText_again,
    documentOr_again, List.map_map, apps, distinct, eraseDups_eraseDups]

end Guide

end Guidebook
