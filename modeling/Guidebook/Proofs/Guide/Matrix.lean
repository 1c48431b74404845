import Guidebook.Proofs.Corpus.VariantNames
import Mathlib.Data.List.Perm.Basic
import Mathlib.Order.Defs.LinearOrder

/-!
# The matrix of a guide

A guide is published in a row of variants for each build tool that it declares and does not skip.  A
row has the languages of the guide in one order, however the guide lists them, and each language
comes with one test framework.  So a variant of the matrix is told by its build tool and language,
and asking for these selects it.
-/

namespace Guidebook

/-- What corresponds to the members one by one is their image, if each has one counterpart. -/
theorem forall₂_iff_eq_map
    {α β : Type} {corresponds : α → β → Prop} {image : α → β}
    {members : List α} {results : List β}
    (unique :
      ∀ member ∈ members, ∀ result,
        corresponds member result ↔ result = image member) :
    List.Forall₂ corresponds members results ↔ results = members.map image := by
  induction members generalizing results with
  | nil => exact List.forall₂_nil_left_iff
  | cons member rest ih =>
      obtain ⟨first, later⟩ := List.forall_mem_cons.mp unique
      rw [List.forall₂_cons_left_iff, List.map_cons]
      constructor
      · rintro ⟨result, results, corresponding, others, rfl⟩
        rw [(first result).mp corresponding, (ih later).mp others]
      · rintro rfl
        exact ⟨image member, rest.map image, (first _).mpr rfl,
          (ih later).mpr rfl, rfl⟩

/-- The place of a language in rows of variants. -/
def Language.rank : Language → Nat
  | .java => 0
  | .groovy => 1
  | .kotlin => 2

theorem Language.mem_all (language : Language) :
    language ∈ Language.all := by
  cases language <;> decide

namespace Guide

variable {guide : Guide} {buildTool : BuildTool} {row : List Variant}

/-! ## Rows -/

/-- The variants of a guide with one build tool: each language once, in ascending order. -/
structure IsRow (guide : Guide) (buildTool : BuildTool) (row : List Variant) : Prop where
  buildTool : ∀ variant ∈ row, variant.buildTool = buildTool
  testFramework :
    ∀ variant ∈ row,
      variant.testFramework =
        guide.testFramework.getD variant.language.defaultTestFramework
  spoken : ∀ language, language ∈ row.map Variant.language ↔ language ∈ guide.languages
  ascending :
    (row.map Variant.language).Pairwise fun first second => first.rank < second.rank

theorem mem_usedLanguages_iff {language : Language} :
    language ∈ guide.usedLanguages ↔ language ∈ guide.languages := by
  simp [usedLanguages, Language.mem_all]

theorem usedLanguages_ascending (guide : Guide) :
    guide.usedLanguages.Pairwise fun first second => first.rank < second.rank := by
  have all : Language.all.Pairwise fun first second => first.rank < second.rank := by
    decide
  exact all.filter _

/-- The languages of a row are those that the guide uses, in the order of all. -/
theorem IsRow.languages_eq (isRow : guide.IsRow buildTool row) :
    row.map Variant.language = guide.usedLanguages := by
  have distinct : (row.map Variant.language).Nodup :=
    isRow.ascending.imp fun before same => (before.ne (congrArg _ same)).elim
  have sameMembers : (row.map Variant.language).Perm guide.usedLanguages :=
    (List.perm_ext_iff_of_nodup distinct guide.usedLanguages_nodup).mpr
      fun language => (isRow.spoken language).trans mem_usedLanguages_iff.symm
  exact sameMembers.eq_of_pairwise
    (fun _ _ _ _ before behind => absurd behind before.asymm) isRow.ascending
    guide.usedLanguages_ascending

/-- The row of a build tool, made of the languages that the guide uses. -/
def rowOf (guide : Guide) (buildTool : BuildTool) : List Variant :=
  guide.usedLanguages.map fun language =>
    ⟨buildTool, language, guide.testFrameworkFor language⟩

theorem map_language_rowOf (guide : Guide) (buildTool : BuildTool) :
    (guide.rowOf buildTool).map Variant.language = guide.usedLanguages := by
  rw [rowOf, List.map_map]
  exact List.map_id _

theorem isRow_rowOf (guide : Guide) (buildTool : BuildTool) :
    guide.IsRow buildTool (guide.rowOf buildTool) where
  buildTool := List.forall_mem_map.mpr fun _ _ => rfl
  testFramework := List.forall_mem_map.mpr fun _ _ => rfl
  spoken := by
    rw [map_language_rowOf]
    exact fun _ => mem_usedLanguages_iff
  ascending := by
    rw [map_language_rowOf]
    exact guide.usedLanguages_ascending

/-- Build tool and language tell a variant of a row, so its languages tell the row. -/
theorem isRow_iff : guide.IsRow buildTool row ↔ row = guide.rowOf buildTool := by
  constructor
  · intro isRow
    have told :
        ∀ variant ∈ row,
          variant =
            ⟨buildTool, variant.language, guide.testFrameworkFor variant.language⟩ := by
      intro variant member
      rw [← isRow.buildTool variant member, testFrameworkFor,
        ← isRow.testFramework variant member]
    calc row
      _ = row.map id := (List.map_id row).symm
      _ = row.map fun variant =>
            ⟨buildTool, variant.language, guide.testFrameworkFor variant.language⟩ :=
          List.map_congr_left told
      _ = guide.rowOf buildTool := by
          rw [rowOf, ← isRow.languages_eq, List.map_map]
          rfl
  · rintro rfl
    exact guide.isRow_rowOf buildTool

/-! ## The matrix -/

/-- The variants of a guide: a row for each build tool that is declared and not skipped. -/
def IsMatrix (guide : Guide) (listed : List Variant) : Prop :=
  ∃ rows,
    List.Forall₂ guide.IsRow guide.usedBuildTools rows ∧ listed = rows.flatten

theorem variants_eq_flatten (guide : Guide) :
    guide.variants = (guide.usedBuildTools.map guide.rowOf).flatten := by
  have skipped :
      guide.variants = guide.usedBuildTools.flatMap guide.variantsWith := by
    refine flatMap_eq_flatMap_filter_iff.mpr fun buildTool _ unused => ?_
    rw [variantsWith, if_pos (by simpa using unused)]
  rw [skipped, List.flatMap_def]
  refine congrArg List.flatten (List.map_congr_left fun buildTool used => ?_)
  have kept := (List.mem_filter.mp used).2
  rw [variantsWith, if_neg (by simpa using kept)]
  rfl

theorem isMatrix_iff {listed : List Variant} :
    guide.IsMatrix listed ↔ listed = guide.variants := by
  have rows_iff :
      ∀ rows, List.Forall₂ guide.IsRow guide.usedBuildTools rows ↔
        rows = guide.usedBuildTools.map guide.rowOf :=
    fun rows => forall₂_iff_eq_map fun _ _ _ => isRow_iff
  simp only [IsMatrix, rows_iff, exists_eq_left]
  rw [variants_eq_flatten]

/-- In which order a guide lists its languages, and how often, makes no difference. -/
theorem variants_withLanguages
    {languages : List Language}
    (same : ∀ language, language ∈ languages ↔ language ∈ guide.languages) :
    ({ guide with languages := languages } : Guide).variants = guide.variants := by
  have spoken :
      ({ guide with languages := languages } : Guide).usedLanguages =
        guide.usedLanguages := by
    refine List.filter_congr fun language _ => ?_
    rw [Bool.eq_iff_iff, List.contains_iff_mem, List.contains_iff_mem]
    exact same language
  rw [variants_eq_flatten, variants_eq_flatten]
  unfold rowOf
  rw [spoken]
  rfl

/-- Build tool and language tell a variant among those that are rendered. -/
theorem eq_of_tools_eq
    {variant other : Variant}
    (member : variant ∈ guide.renderedVariants)
    (another : other ∈ guide.renderedVariants)
    (same : variant.tools = other.tools) :
    variant = other := by
  have framework :
      guide.apps.isEmpty = false → ∀ rendered ∈ guide.renderedVariants,
        rendered.testFramework = guide.testFrameworkFor rendered.language := by
    intro several rendered present
    rw [renderedVariants, several, if_neg Bool.false_ne_true,
      variants_eq_flatten] at present
    obtain ⟨row, listed, inRow⟩ := List.mem_flatten.mp present
    obtain ⟨buildTool, _, rfl⟩ := List.mem_map.mp listed
    exact (guide.isRow_rowOf buildTool).testFramework rendered inRow
  obtain ⟨buildTool, language⟩ := Prod.mk.inj same
  cases single : guide.apps.isEmpty with
  | true =>
      rw [renderedVariants, single, if_pos rfl, List.mem_singleton]
        at member another
      rw [member, another]
  | false =>
      obtain ⟨tool, spoken, tested⟩ := variant
      obtain ⟨otherTool, otherSpoken, otherTested⟩ := other
      cases buildTool
      cases language
      have first := framework single _ member
      have second := framework single _ another
      exact congrArg _ (first.trans second.symm)

end Guide

/-! ## Selecting a variant -/

/-- A variant with the build tool and the language that are asked for, where they are. -/
structure Variant.Fits
    (variant : Variant) (buildTool : Option BuildTool) (language : Option Language) :
    Prop where
  buildTool : ∀ wanted ∈ buildTool, variant.buildTool = wanted
  language : ∀ wanted ∈ language, variant.language = wanted

namespace Guide

variable {guide : Guide} {buildTool : Option BuildTool} {language : Option Language}

theorem selects_iff {variant : Variant} :
    Selects buildTool language variant ↔ variant.Fits buildTool language := by
  have parts :
      variant.Fits buildTool language ↔
        (∀ wanted ∈ buildTool, variant.buildTool = wanted) ∧
          ∀ wanted ∈ language, variant.language = wanted :=
    ⟨fun fits => ⟨fits.buildTool, fits.language⟩, fun fits => ⟨fits.1, fits.2⟩⟩
  rw [parts, Selects, Bool.and_eq_true, Option.all_eq_true, Option.all_eq_true]
  simp

/-- The first rendered variant that fits is selected. -/
theorem selectVariant_eq_ok_iff {variant : Variant} :
    guide.selectVariant buildTool language = .ok variant ↔
      ∃ earlier later,
        guide.renderedVariants = earlier ++ variant :: later ∧
          variant.Fits buildTool language ∧
          ∀ other ∈ earlier, ¬other.Fits buildTool language := by
  have search :
      guide.selectVariant buildTool language = .ok variant ↔
        guide.renderedVariants.find? (Selects buildTool language) =
          some variant := by
    unfold selectVariant
    cases guide.renderedVariants.find? (Selects buildTool language) with
    | none => exact iff_of_false (by rintro ⟨⟩) (by rintro ⟨⟩)
    | some found => rw [Except.ok.injEq, Option.some.injEq]
  rw [search, List.find?_eq_some_iff_append]
  constructor
  · rintro ⟨fits, earlier, later, split, passed⟩
    refine ⟨earlier, later, split, selects_iff.mp fits, fun other member => ?_⟩
    simpa [← selects_iff] using passed other member
  · rintro ⟨earlier, later, split, fits, passed⟩
    refine ⟨selects_iff.mpr fits, earlier, later, split, fun other member => ?_⟩
    simpa [← selects_iff] using passed other member

/-- Selecting fails if and only if no rendered variant fits. -/
theorem selectVariant_eq_error_iff {reason : Error} :
    guide.selectVariant buildTool language = .error reason ↔
      reason =
          .unknownVariant guide.slug ((buildTool.map BuildTool.name).getD "any")
            ((language.map Language.name).getD "any") ∧
        ∀ variant ∈ guide.renderedVariants, ¬variant.Fits buildTool language := by
  simp only [← selects_iff]
  rw [← List.find?_eq_none]
  unfold selectVariant
  cases guide.renderedVariants.find? (Selects buildTool language) with
  | none => simp [eq_comm]
  | some found => simp

/-- A rendered variant is selected by its build tool and its language. -/
theorem selectVariant_tools
    {variant : Variant} (member : variant ∈ guide.renderedVariants) :
    guide.selectVariant (some variant.buildTool) (some variant.language) =
      .ok variant := by
  have own : variant.Fits (some variant.buildTool) (some variant.language) :=
    ⟨fun _ => Option.some.inj, fun _ => Option.some.inj⟩
  cases selected :
      guide.selectVariant (some variant.buildTool) (some variant.language) with
  | error reason =>
      obtain ⟨_, none⟩ := selectVariant_eq_error_iff.mp selected
      exact absurd own (none variant member)
  | ok found =>
      obtain ⟨earlier, later, split, fits, _⟩ :=
        selectVariant_eq_ok_iff.mp selected
      have present : found ∈ guide.renderedVariants := by
        rw [split]
        exact List.mem_append_right _ List.mem_cons_self
      have same : found.tools = variant.tools :=
        Prod.ext (fits.buildTool _ rfl) (fits.language _ rfl)
      rw [eq_of_tools_eq present member same]

/--
The variants of a guide are the one list of rows of its build tools, in whichever order and however
often it names its languages.  Of the variants that are rendered, the first that fits is selected,
none only if none fits, and each by its own build tool and language.
-/
theorem variants_are_matrix_and_selected (guide : Guide) :
    (∀ listed, guide.IsMatrix listed ↔ listed = guide.variants) ∧
    (∀ languages : List Language,
      (∀ language, language ∈ languages ↔ language ∈ guide.languages) →
        ({ guide with languages := languages } : Guide).variants = guide.variants) ∧
    (∀ buildTool language,
      (∀ variant,
        guide.selectVariant buildTool language = .ok variant ↔
          ∃ earlier later,
            guide.renderedVariants = earlier ++ variant :: later ∧
              variant.Fits buildTool language ∧
              ∀ other ∈ earlier, ¬other.Fits buildTool language) ∧
      ∀ reason,
        guide.selectVariant buildTool language = .error reason ↔
          reason =
              .unknownVariant guide.slug ((buildTool.map BuildTool.name).getD "any")
                ((language.map Language.name).getD "any") ∧
            ∀ variant ∈ guide.renderedVariants,
              ¬variant.Fits buildTool language) ∧
    ∀ variant ∈ guide.renderedVariants,
      guide.selectVariant (some variant.buildTool) (some variant.language) =
        .ok variant :=
  ⟨fun _ => isMatrix_iff, fun _ => variants_withLanguages,
    fun _ _ => ⟨fun _ => selectVariant_eq_ok_iff, fun _ => selectVariant_eq_error_iff⟩,
    fun _ => selectVariant_tools⟩

/-- A guide that names languages and build tools twice and skips one of the latter. -/
def repetitive : Guide where
  slug := "hello"
  languages := [.kotlin, .java, .kotlin]
  buildTools := [.gradleKotlin, .maven, .gradle, .gradleKotlin]
  skipMavenTests := true
  apps := [{}]

theorem variants_are_matrix_and_selected_repetitive :
    ({ repetitive with languages := [.java, .kotlin] } : Guide).variants =
        repetitive.variants ∧
      repetitive.selectVariant (some .gradle) (some .kotlin) =
        .ok ⟨.gradle, .kotlin, .junit⟩ := by
  have same :
      ∀ language,
        language ∈ [Language.java, .kotlin] ↔ language ∈ repetitive.languages := by
    rintro (_ | _) <;> decide
  have member : ⟨.gradle, .kotlin, .junit⟩ ∈ repetitive.renderedVariants := by
    decide
  obtain ⟨_, listed, _, selected⟩ := variants_are_matrix_and_selected repetitive
  exact ⟨listed _ same, selected _ member⟩

end Guide

end Guidebook
