import Guidebook.Guide.Matrix
import Guidebook.Layout
import Guidebook.Proofs.Corpus.Loading

/-!
# Names of variants

The name of a variant is the slug of its guide, the build tool and the language with dashes between
them, in lower case.  The last two hold neither dashes nor capitals, so the name tells both of them,
and the slug up to its lower-case form.  The guides of a corpus have distinct slugs as they are
written: two variants have one name if slugs differ in case alone, and if a guide names a build tool
twice.
-/

namespace Guidebook

/-! ## Lower case of joined texts -/

namespace Text

namespace LowerCase

/-- A character that is its own lower-case form wherever it stands. -/
def IsLower (c : Char) : Prop :=
  c ≠ 'Σ' ∧ lowerChar c = [c]

/-- Below the second half of Latin only the capitals of ASCII have other lower-case letters. -/
theorem lowerCode_of_ascii
    {code : Nat} (small : code < 65 ∨ 90 < code ∧ code < 128) :
    lowerCode code = code := by
  have capitals :
      ∀ row ∈ shifts, row.1 = 65 ∧ row.2.1 = 90 ∨ 128 ≤ row.1 := by
    decide +kernel
  have none :
      (shifts.find? fun row =>
        row.1 ≤ code && code ≤ row.2.1 &&
          (code - row.1) % row.2.2.1 == 0) = none := by
    rw [List.find?_eq_none]
    intro row member
    have bounds := capitals row member
    simp only [Bool.and_eq_true, decide_eq_true_eq]
    omega
  rw [lowerCode, none]

theorem isLower_of_ascii
    {c : Char} (small : c.toNat < 65 ∨ 90 < c.toNat ∧ c.toNat < 128) :
    IsLower c := by
  have other : ∀ wide : Char, 128 ≤ wide.toNat → c ≠ wide := by
    rintro wide far rfl
    omega
  refine ⟨other 'Σ' (by decide), ?_⟩
  rw [lowerChar, if_neg (other 'İ' (by decide)), lowerCode_of_ascii small,
    Char.ofNat_toNat]

theorem isLower_of_all_ascii
    {text : List Char}
    (small :
      text.all (fun c => c.toNat < 65 ∨ 90 < c.toNat ∧ c.toNat < 128) = true) :
    ∀ c ∈ text, IsLower c :=
  fun c member =>
    isLower_of_ascii (of_decide_eq_true (List.all_eq_true.mp small c member))

theorem lowerBehind_of_isLower
    {text : List Char}
    (lower : ∀ c ∈ text, IsLower c)
    (before : List Char) :
    lowerBehind before text = text := by
  induction text generalizing before with
  | nil => rfl
  | cons c after ih =>
      obtain ⟨⟨noSigma, same⟩, later⟩ := List.forall_mem_cons.mp lower
      rw [lowerBehind, if_neg noSigma, same, ih later]
      rfl

/-- No cased character is found beyond one that is neither cased nor ignorable. -/
theorem meetsCased_append_cons
    {stop : Char}
    (counted : holds ignorable stop = false)
    (uncased : holds cased stop = false)
    (front back : List Char) :
    meetsCased (front ++ stop :: back) = meetsCased front := by
  unfold meetsCased
  rw [dropWhile_append_cons_of_not counted]
  cases front.dropWhile (holds ignorable) with
  | nil => exact uncased
  | cons c rest => rfl

/-- What stands behind such a character makes no difference to the text in front of it. -/
theorem lowerBehind_append_cons
    {stop : Char}
    (counted : holds ignorable stop = false)
    (uncased : holds cased stop = false)
    (before front back : List Char) :
    lowerBehind before (front ++ stop :: back) =
      lowerBehind before front ++
        lowerBehind (front.reverse ++ before) (stop :: back) := by
  induction front generalizing before with
  | nil => rfl
  | cons c rest ih =>
      rw [List.cons_append, lowerBehind, lowerBehind,
        meetsCased_append_cons counted uncased, ih (c :: before),
        List.append_assoc, List.reverse_cons, List.append_assoc]
      rfl

end LowerCase

end Text

open Guidebook.Text

/-! ## The name of a variant -/

theorem BuildTool.name_inj {first second : BuildTool} :
    first.name = second.name ↔ first = second := by
  cases first <;> cases second <;> decide

theorem Language.name_inj {first second : Language} :
    first.name = second.name ↔ first = second := by
  cases first <;> cases second <;> decide

namespace Layout

theorem dash_notMem_buildTool (buildTool : BuildTool) :
    '-' ∉ buildTool.name.toList := by
  cases buildTool <;> decide

theorem dash_notMem_language (language : Language) :
    '-' ∉ language.name.toList := by
  cases language <;> decide

theorem isLower_buildTool (buildTool : BuildTool) :
    ∀ c ∈ buildTool.name.toList, LowerCase.IsLower c :=
  LowerCase.isLower_of_all_ascii (by cases buildTool <;> decide)

theorem isLower_language (language : Language) :
    ∀ c ∈ language.name.toList, LowerCase.IsLower c :=
  LowerCase.isLower_of_all_ascii (by cases language <;> decide)

/-- Only the slug is changed by putting the name of a variant in lower case. -/
theorem toList_variantName (slug : String) (variant : Variant) :
    (variantName slug variant).toList =
      lowerCase slug.toList ++
        '-' :: variant.buildTool.name.toList ++
        '-' :: variant.language.name.toList := by
  have whole :
      s!"{slug}-{variant.buildTool.name}-{variant.language.name}".toList =
        slug.toList ++
          '-' :: (variant.buildTool.name.toList ++
            '-' :: variant.language.name.toList) := by
    simp [toString]
  have dash : LowerCase.IsLower '-' :=
    LowerCase.isLower_of_ascii (by decide)
  have lower :
      ∀ c ∈ '-' :: (variant.buildTool.name.toList ++
          '-' :: variant.language.name.toList),
        LowerCase.IsLower c := by
    rw [List.forall_mem_cons, List.forall_mem_append, List.forall_mem_cons]
    exact ⟨dash, isLower_buildTool _, dash, isLower_language _⟩
  have counted : LowerCase.holds LowerCase.ignorable '-' = false := by
    decide +kernel
  have uncased : LowerCase.holds LowerCase.cased '-' = false := by
    decide +kernel
  rw [variantName, String.toList_ofList, whole, lowerCase,
    LowerCase.lowerBehind_append_cons counted uncased,
    LowerCase.lowerBehind_of_isLower lower, List.append_assoc,
    List.cons_append]
  rfl

/-- The name of a variant tells its build tool, its language, and the slug in lower case. -/
theorem variantName_eq_iff
    {slug other : String} {variant another : Variant} :
    variantName slug variant = variantName other another ↔
      lowerCase slug.toList = lowerCase other.toList ∧
        variant.buildTool = another.buildTool ∧
        variant.language = another.language := by
  rw [← String.toList_inj, toList_variantName, toList_variantName,
    append_cons_inj_of_notMem_back (dash_notMem_language _)
      (dash_notMem_language _),
    append_cons_inj_of_notMem_back (dash_notMem_buildTool _)
      (dash_notMem_buildTool _),
    String.toList_inj, String.toList_inj, BuildTool.name_inj,
    Language.name_inj, and_assoc]

end Layout

/-! ## The variants of a guide -/

/-- What the name of a variant tells of it besides the slug. -/
def Variant.tools (variant : Variant) : BuildTool × Language :=
  (variant.buildTool, variant.language)

namespace Guide

/-- The build tools that a guide declares and does not skip. -/
def usedBuildTools (guide : Guide) : List BuildTool :=
  guide.buildTools.filter fun buildTool => !guide.skips buildTool

/-- The languages of a guide in the order of all. -/
def usedLanguages (guide : Guide) : List Language :=
  Language.all.filter guide.languages.contains

variable {guide : Guide}

theorem usedLanguages_eq_nil_iff :
    guide.usedLanguages = [] ↔ guide.languages = [] := by
  rw [usedLanguages, List.filter_eq_nil_iff, List.eq_nil_iff_forall_not_mem]
  constructor
  · intro unused language member
    have known : language ∈ Language.all := by
      cases language <;> decide
    exact unused language known (List.contains_iff_mem.mpr member)
  · intro none language _ contained
    exact none language (List.contains_iff_mem.mp contained)

theorem usedLanguages_nodup (guide : Guide) :
    guide.usedLanguages.Nodup := by
  have all : Language.all.Nodup := by decide
  exact all.filter _

theorem map_tools_variants (guide : Guide) :
    guide.variants.map Variant.tools =
      guide.usedBuildTools.flatMap fun buildTool =>
        guide.usedLanguages.map fun language => (buildTool, language) := by
  rw [variants, usedBuildTools, List.map_flatMap]
  induction guide.buildTools with
  | nil => rfl
  | cons buildTool rest ih =>
      rw [List.flatMap_cons, ih, List.filter_cons, variantsWith]
      cases skipped : guide.skips buildTool with
      | true => rfl
      | false =>
          rw [if_neg Bool.false_ne_true, List.map_map]
          rfl

/-- A guide has variants of the same tools only if it names a build tool twice. -/
theorem tools_nodup_iff (guide : Guide) :
    (guide.renderedVariants.map Variant.tools).Nodup ↔
      (guide.apps ≠ [] → guide.languages ≠ [] →
        guide.usedBuildTools.Nodup) := by
  by_cases single : guide.apps = []
  · simp [renderedVariants, single]
  have rendered : guide.renderedVariants = guide.variants := by
    simp [renderedVariants, single]
  rw [rendered, map_tools_variants]
  by_cases silent : guide.languages = []
  · have nothing :
        (guide.usedBuildTools.flatMap fun buildTool =>
          guide.usedLanguages.map (buildTool, ·)) = [] := by
      rw [List.flatMap_eq_nil_iff]
      exact fun _ _ =>
        List.map_eq_nil_iff.mpr (usedLanguages_eq_nil_iff.mpr silent)
    simp [nothing, silent]
  have spoken : guide.usedLanguages ≠ [] :=
    fun none => silent (usedLanguages_eq_nil_iff.mp none)
  obtain ⟨language, known⟩ := List.exists_mem_of_ne_nil _ spoken
  have apart :
      ∀ {first second : BuildTool},
        List.Disjoint (guide.usedLanguages.map (first, ·))
            (guide.usedLanguages.map (second, ·)) ↔
          first ≠ second := by
    intro first second
    constructor
    · rintro disjoint rfl
      have member := List.mem_map_of_mem (f := (first, ·)) known
      exact disjoint member member
    · intro different tools member another
      obtain ⟨_, _, rfl⟩ := List.mem_map.mp member
      obtain ⟨_, _, same⟩ := List.mem_map.mp another
      exact different (Prod.mk.inj same).1.symm
  have each :
      ∀ buildTool ∈ guide.usedBuildTools,
        (guide.usedLanguages.map (buildTool, ·)).Nodup :=
    fun buildTool _ =>
      guide.usedLanguages_nodup.map (Prod.mk_right_injective buildTool)
  rw [List.nodup_flatMap]
  constructor
  · rintro ⟨_, disjoint⟩ _ _
    exact disjoint.imp apart.mp
  · intro distinct
    exact ⟨each, (distinct single silent).imp apart.mpr⟩

end Guide

/-! ## The variants of a corpus -/

namespace Corpus

/-- The names of all rendered variants of guides. -/
def variantNames (guides : List Guide) : List String :=
  guides.flatMap fun guide =>
    guide.renderedVariants.map (Layout.variantName guide.slug)

/-- Guides whose slugs are the same in lower case, and that have variants of the same tools. -/
def ShareName (first second : Guide) : Prop :=
  lowerCase first.slug.toList = lowerCase second.slug.toList ∧
    ∃ tools,
      tools ∈ first.renderedVariants.map Variant.tools ∧
        tools ∈ second.renderedVariants.map Variant.tools

theorem ShareName.symm
    {first second : Guide} (shared : ShareName first second) :
    ShareName second first := by
  obtain ⟨slug, tools, member, another⟩ := shared
  exact ⟨slug.symm, tools, another, member⟩

theorem disjoint_names_iff {first second : Guide} :
    List.Disjoint
        (first.renderedVariants.map (Layout.variantName first.slug))
        (second.renderedVariants.map (Layout.variantName second.slug)) ↔
      ¬ShareName first second := by
  constructor
  · rintro disjoint ⟨slug, tools, member, another⟩
    obtain ⟨variant, present, rfl⟩ := List.mem_map.mp member
    obtain ⟨other, present_too, same⟩ := List.mem_map.mp another
    obtain ⟨buildTool, language⟩ := Prod.mk.inj same
    have named :
        Layout.variantName second.slug other =
          Layout.variantName first.slug variant :=
      Layout.variantName_eq_iff.mpr ⟨slug.symm, buildTool, language⟩
    exact disjoint (List.mem_map_of_mem present)
      (named ▸ List.mem_map_of_mem present_too)
  · intro apart name member another
    obtain ⟨variant, present, rfl⟩ := List.mem_map.mp member
    obtain ⟨other, present_too, same⟩ := List.mem_map.mp another
    obtain ⟨slug, buildTool, language⟩ := Layout.variantName_eq_iff.mp same
    have tools : other.tools = variant.tools :=
      Prod.ext buildTool language
    exact apart ⟨slug.symm, variant.tools, List.mem_map_of_mem present,
      tools ▸ List.mem_map_of_mem present_too⟩

/-- The names of the variants of one guide differ as their tools do. -/
theorem names_nodup_iff {guide : Guide} :
    (guide.renderedVariants.map (Layout.variantName guide.slug)).Nodup ↔
      (guide.renderedVariants.map Variant.tools).Nodup := by
  unfold List.Nodup
  rw [List.pairwise_map, List.pairwise_map]
  refine List.Pairwise.iff fun first second => not_congr ?_
  rw [Layout.variantName_eq_iff, Variant.tools, Variant.tools, Prod.mk.injEq]
  exact and_iff_right rfl

/--
The names of the variants of guides that are loaded are distinct if and only if no two guides with
slugs that differ in case alone have variants of the same tools, and no guide with applications and
languages names a build tool twice.
-/
theorem load_variantNames_nodup_iff
    {config : Config} {guidesDir : Path} {guides : List Guide}
    {before after : Workspace}
    (loaded :
      (load config guidesDir).run.run before = (.ok guides, after)) :
    (variantNames guides).Nodup ↔
      (∀ first ∈ guides, ∀ second ∈ guides,
        first.slug ≠ second.slug → ¬ShareName first second) ∧
      ∀ guide ∈ guides,
        guide.apps ≠ [] → guide.languages ≠ [] →
          guide.usedBuildTools.Nodup := by
  obtain ⟨authored, finals, chooses, completed, rfl⟩ := load_eq_ok loaded
  have distinct :
      (finals.map (Guide.withDefaults config)).Pairwise fun first second =>
        first.slug ≠ second.slug :=
    pairwise_of_map_place (fun first second => first.1 ≠ second.1)
      (chooses.map_place completed) chooses.pairwise_slug
  rw [variantNames, List.nodup_flatMap, and_comm]
  refine and_congr ?_ ?_
  · constructor
    · intro apart first member second another different
      have unshared :=
        apart.imp fun disjoint => disjoint_names_iff.mp disjoint
      have symmetric :
          Std.Symm fun first second => ¬ShareName first second :=
        ⟨fun first second apart shared => apart shared.symm⟩
      exact unshared.forall member another
        fun same => different (congrArg Guide.slug same)
    · intro apart
      refine distinct.imp_of_mem fun member another different => ?_
      exact disjoint_names_iff.mpr (apart _ member _ another different)
  · refine forall₂_congr fun guide member => ?_
    rw [names_nodup_iff, guide.tools_nodup_iff]

end Corpus

/-! ## Slugs that differ in case -/

namespace Corpus.CaseOnly

def config : Config :=
  { validateMetadata := false }

def capital : String :=
  "\x7b\"slug\":\"Hello\"\x7d"

def small : String :=
  "\x7b\"slug\":\"hello\"\x7d"

def disk : Disk where
  entries :=
    [(["guides"], .directory),
      (["guides", "a"], .directory),
      (["guides", "a", "metadata.json"], .file capital.toUTF8),
      (["guides", "b"], .directory),
      (["guides", "b", "metadata.json"], .file small.toUTF8)]
  workingDirectory := []

def authoredCapital : Guide where
  slug := "Hello"
  folder := ⟨"guides/a"⟩

def authoredSmall : Guide where
  slug := "hello"
  folder := ⟨"guides/b"⟩

/-- The guides in the end. -/
def guides : List Guide :=
  [authoredCapital, authoredSmall].map (Guide.withDefaults config)

theorem directories_eq :
    directories disk ⟨"guides"⟩ config.metadataFile =
      [⟨"guides/a"⟩, ⟨"guides/b"⟩] := by
  have located : disk.locate ⟨"guides"⟩ = .ok ["guides"] := rfl
  apply directories_eq_of_pairwise located
  · rfl
  · decide

theorem load_eq :
    ∃ after,
      (load config ⟨"guides"⟩).run.run ⟨disk, []⟩ = (.ok guides, after) := by
  have describes_capital :
      Describes config disk ⟨"guides/a"⟩ authoredCapital :=
    ⟨capital, by decide +kernel, by decide +kernel⟩
  have describes_small :
      Describes config disk ⟨"guides/b"⟩ authoredSmall :=
    ⟨small, by decide +kernel, by decide +kernel⟩
  have nothing :
      (guidesIn config ["hello", "Hello"] []).run.run ⟨disk, []⟩ =
        (.ok [], ⟨disk, []⟩) :=
    rfl
  have second := guidesIn_run_chosen describes_small (by decide) nothing
  have chosen := guidesIn_run_chosen describes_capital (by decide) second
  rw [← directories_eq] at chosen
  have merged :
      Inheritance.run config.strictBase [authoredCapital, authoredSmall] =
        (.ok [authoredCapital, authoredSmall], []) := by
    decide +kernel
  have present : disk.isDirectory ⟨"guides"⟩ = true := by
    rfl
  exact ⟨_, load_run present chosen merged⟩

end Corpus.CaseOnly

namespace Corpus

theorem load_variantNames_nodup_iff_caseOnly :
    ∃ after,
      (load CaseOnly.config ⟨"guides"⟩).run.run ⟨CaseOnly.disk, []⟩ =
          (.ok CaseOnly.guides, after) ∧
        ((variantNames CaseOnly.guides).Nodup ↔
          (∀ first ∈ CaseOnly.guides, ∀ second ∈ CaseOnly.guides,
            first.slug ≠ second.slug → ¬ShareName first second) ∧
          ∀ guide ∈ CaseOnly.guides,
            guide.apps ≠ [] → guide.languages ≠ [] →
              guide.usedBuildTools.Nodup) := by
  obtain ⟨after, loaded⟩ := CaseOnly.load_eq
  exact ⟨after, loaded, load_variantNames_nodup_iff loaded⟩

/-- Both guides that are loaded from this disk are published as the same document. -/
theorem load_repeats_variantName :
    ∃ after,
      (load CaseOnly.config ⟨"guides"⟩).run.run ⟨CaseOnly.disk, []⟩ =
          (.ok CaseOnly.guides, after) ∧
        ¬(variantNames CaseOnly.guides).Nodup := by
  obtain ⟨after, loaded⟩ := CaseOnly.load_eq
  have names :
      variantNames CaseOnly.guides =
        ["hello-gradle-java", "hello-gradle-java"] := by
    rfl
  refine ⟨after, loaded, ?_⟩
  rw [names]
  decide

end Corpus

end Guidebook
