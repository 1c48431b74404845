import Guidebook.Proofs.Markup.Acceptance

/-!
# Plain text

Every pass takes a text apart, into lines or into placeholders and other characters, and puts it
together again.  Nothing is lost on the way, so a text that holds neither markers nor invocations
nor descriptions comes out of the pipeline as it went in.
-/

namespace Guidebook.Markup

open Guidebook.Text

/-- A text stays as it is if nothing is put in place of its placeholders. -/
theorem rewritePlaceholders_unreplaced
    {replace : Placeholder → Except Error (Option String)} {text : String}
    (unreplaced :
      ∀ placeholder ∈ placeholders text, replace placeholder = .ok none) :
    rewritePlaceholders replace text = .ok text := by
  have kept :
      ∀ part ∈ parts text.toList, rewritePart replace part = .ok part.text := by
    intro part member
    cases part with
    | literal c => rfl
    | placeholder content =>
        have present : content ∈ placeholders text :=
          List.mem_filterMap.mpr ⟨.placeholder content, member, rfl⟩
        rw [rewritePart, unreplaced content present]
        rfl
  have whole := parts_flatMap_text text.toList
  rw [List.flatMap_def] at whole
  unfold rewritePlaceholders
  rw [mapM_eq_ok kept]
  change Except.ok (String.ofList ((parts text.toList).map Part.text).flatten) = _
  rw [whole, String.ofList_toList]

/-! ## Descriptions -/

/-- The names that describe the application in front of them. -/
def appDescriptionNames : List String :=
  ["features", "features-words", "cli-command"]

/-- The names that describe the guide and its variant. -/
def variantDescriptionNames : List String :=
  ["lang", "build", "testFramework", "languageextension", "testsuffix",
    "sourceDir", "guideTitle", "guideIntro", "authors", "minJdk", "api"]

/-- A placeholder that the vocabulary knows, whether or not its application is declared. -/
def Placeholder.IsDescription (placeholder : Placeholder) : Prop :=
  match placeholder.qualifier with
  | some _ => placeholder.name ∈ appDescriptionNames
  | none => placeholder.name ∈ variantDescriptionNames

instance (placeholder : Placeholder) : Decidable placeholder.IsDescription :=
  match placeholder with
  | ⟨some _, name⟩ => inferInstanceAs (Decidable (name ∈ appDescriptionNames))
  | ⟨none, name⟩ =>
    inferInstanceAs (Decidable (name ∈ variantDescriptionNames))

theorem AppDescription.name_mem (description : AppDescription) :
    description.name ∈ appDescriptionNames := by
  cases description <;> decide

theorem AppDescription.expand_unknown
    {placeholder : Placeholder}
    (unknown : ¬ placeholder.IsDescription)
    (description : AppDescription) (rendering : Rendering) :
    description.expand rendering placeholder = .ok none := by
  unfold Placeholder.IsDescription at unknown
  unfold AppDescription.expand
  split
  · rfl
  · rename_i appName qualified
    rw [qualified] at unknown
    exact if_neg fun same : placeholder.name = description.name =>
      unknown (same.symm ▸ description.name_mem)

theorem VariantDescription.text?_eq_none
    (config : Config) (jdk : UInt32) (rendering : Rendering)
    {name : String}
    (unknown : name ∉ variantDescriptionNames) :
    text? config jdk rendering name = none := by
  unfold text?
  split
  case h_12 => rfl
  all_goals exact absurd (by decide) unknown

theorem VariantDescription.expand?_unknown
    {placeholder : Placeholder}
    (unknown : ¬ placeholder.IsDescription)
    (config : Config) (jdk : UInt32) (rendering : Rendering) :
    expand? config jdk rendering placeholder = none := by
  unfold Placeholder.IsDescription at unknown
  unfold expand?
  split
  · rfl
  · rename_i unqualified
    rw [unqualified] at unknown
    exact text?_eq_none config jdk rendering unknown

/-- The handlers of placeholders keep a text that describes nothing. -/
theorem placeholderHandlers_keep
    {config : Config} {jdk : UInt32} {rendering : Rendering} {text : String}
    (undescribed :
      ∀ placeholder ∈ placeholders text, ¬ placeholder.IsDescription) :
    ∀ handler ∈ placeholderHandlers config jdk,
      handler.substitute rendering text = .ok text := by
  have ofApp :
      ∀ description : AppDescription,
        description.handler.substitute rendering text = .ok text :=
    fun description =>
      rewritePlaceholders_unreplaced fun placeholder present =>
        description.expand_unknown (undescribed placeholder present) rendering
  have ofVariant :
      (VariantDescription.handler config jdk).substitute rendering text =
        .ok text :=
    rewritePlaceholders_unreplaced fun placeholder present =>
      congrArg Except.ok
        (VariantDescription.expand?_unknown (undescribed placeholder present)
          config jdk rendering)
  simp only [placeholderHandlers, List.forall_mem_cons]
  exact ⟨ofApp .features, ofApp .featuresInWords, ofApp .command, ofVariant,
    List.forall_mem_nil _⟩

/-! ## The whole pipeline -/

/-- The exclusions keep a text without markers. -/
theorem exclusions_keep
    {jdk : UInt32} {rendering : Rendering} {text : String}
    (unmarked :
      ∀ line ∈ lines text.toList, ∀ kind ∈ exclusionKinds jdk,
        ¬ kind.marker <+: trim line.content) :
    ∀ handler ∈ (exclusionKinds jdk).map ExclusionKind.handler,
      handler.substitute rendering text = .ok text := by
  intro handler member
  obtain ⟨kind, known, rfl⟩ := List.mem_map.mp member
  have kept : kind.exclude rendering.variant text = text :=
    ExclusionKind.exclude_unmarked fun line present =>
      parameters?_eq_none_iff.mpr (unmarked line present kind known)
  exact congrArg Except.ok kept

/-- A text in which there is nothing for the vocabulary to do. -/
structure IsPlain (jdk : UInt32) (text : String) : Prop where
  /-- No line starts with a marker, blanks aside. -/
  unmarked :
    ∀ line ∈ lines text.toList, ∀ kind ∈ exclusionKinds jdk,
      ¬ kind.marker <+: trim line.content
  uninvoked : ∀ line ∈ lines text.toList, Inert line.content
  undescribed :
    ∀ placeholder ∈ placeholders text, ¬ placeholder.IsDescription

/-- Plain text comes out of the pipeline as it went in. -/
theorem standard_substitute_plainText
    {jdk : UInt32} {text : String}
    (plain : IsPlain jdk text)
    (config : Config) (rendering : Rendering) :
    (Pipeline.standard config jdk).substitute rendering text = .ok text := by
  have macros :
      ∀ handler ∈ lineHandlers config,
        handler.substitute rendering text = .ok text := by
    intro handler member
    have named : handler.name ∈ lineMacroNames := by
      rw [← lineHandlers_names config]
      exact List.mem_map_of_mem member
    exact lineHandlers_keep member fun line present =>
      plain.uninvoked line present handler.name named
  rw [standard_substitute]
  refine runHandlers_keep (List.forall_mem_append.mpr ⟨?_, ?_⟩)
  · exact exclusions_keep plain.unmarked
  · exact List.forall_mem_append.mpr
      ⟨macros, placeholderHandlers_keep plain.undescribed⟩

theorem standard_substitute_plainText_halfForms :
    let text :=
      "one\r\ntwo\rthree [@] source:a b[]\n:exclude-for:x\n\nsource:[\r\n" ++
        "@user:name@ @ @lang and @app:features"
    IsPlain 17 text ∧
    (Pipeline.standard {} 17).substitute
      ⟨{}, ⟨.gradle, .java, .junit⟩, none⟩ text = .ok text := by
  intro text
  have plain : IsPlain 17 text :=
    { unmarked := by decide +kernel
      uninvoked := by unfold Inert; decide +kernel
      undescribed := by decide +kernel }
  exact ⟨plain, standard_substitute_plainText plain {} _⟩

end Guidebook.Markup
