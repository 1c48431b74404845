import Guidebook.Proofs.Corpus.VariantNames

/-!
# Reading names of variants

The name of a variant is read from its end.  The language stands behind the last dash and the build
tool behind the one before it; what is left is the slug in lower case, whatever dashes and names of
tools it holds itself.
-/

namespace Guidebook

namespace Text

variable {separator : Char} {text before after : List Char}

/-- The last separator is the one that the part behind it leaves out. -/
theorem cutLast_eq_some_iff :
    cutLast separator text = some (before, after) ↔
      text = before ++ separator :: after ∧ separator ∉ after := by
  constructor
  · intro found
    obtain ⟨⟨front, back⟩, cutBackwards, same⟩ :=
      Option.map_eq_some_iff.mp found
    cases same
    obtain ⟨split, absent⟩ := cut_eq_some cutBackwards
    refine ⟨?_, by simpa using absent⟩
    rw [← List.reverse_inj, split]
    simp
  · rintro ⟨rfl, absent⟩
    have backwards :
        (before ++ separator :: after).reverse =
          after.reverse ++ separator :: before.reverse := by
      simp
    rw [cutLast, backwards, cut_append_cons (by simpa using absent)]
    simp

end Text

open Guidebook.Text

/-- A member of a full list is found by a property that no other member shares. -/
theorem find?_eq_some_iff_of_injective
    {α β : Type} [DecidableEq β] {members : List α} {label : α → β}
    (full : ∀ member, member ∈ members)
    (tells : ∀ member other, label member = label other ↔ member = other)
    {wanted : β} {found : α} :
    (members.find? fun member => label member = wanted) = some found ↔
      label found = wanted := by
  constructor
  · intro search
    have holds := List.find?_some search
    exact of_decide_eq_true holds
  · rintro rfl
    refine find?_eq_some_of_unique (full found) (by simp) fun other _ same => ?_
    exact (tells other found).mp (of_decide_eq_true same)

namespace Layout

/-- The language of a name as it stands in names of variants. -/
def language? (name : List Char) : Option Language :=
  Language.all.find? fun language => language.name.toList = name

/-- The build tool of a name as it stands in names of variants. -/
def buildTool? (name : List Char) : Option BuildTool :=
  BuildTool.all.find? fun buildTool => buildTool.name.toList = name

theorem language?_eq_some_iff {name : List Char} {language : Language} :
    language? name = some language ↔ language.name.toList = name :=
  find?_eq_some_iff_of_injective (by rintro (_ | _) <;> decide)
    fun _ _ => String.toList_inj.trans Language.name_inj

theorem buildTool?_eq_some_iff {name : List Char} {buildTool : BuildTool} :
    buildTool? name = some buildTool ↔ buildTool.name.toList = name :=
  find?_eq_some_iff_of_injective (by rintro (_ | _) <;> decide)
    fun _ _ => String.toList_inj.trans BuildTool.name_inj

/-- The slug in lower case, the build tool and the language that a name tells. -/
def readVariantName? (name : String) : Option (List Char × BuildTool × Language) := do
  let (front, languageName) ← cutLast '-' name.toList
  let (slug, buildToolName) ← cutLast '-' front
  let buildTool ← buildTool? buildToolName
  let language ← language? languageName
  return (slug, buildTool, language)

/-- What is read of a name is what it is written of. -/
theorem readVariantName?_eq_some_iff
    {name : String} {slug : List Char}
    {buildTool : BuildTool} {language : Language} :
    readVariantName? name = some (slug, buildTool, language) ↔
      name.toList =
        slug ++ '-' :: buildTool.name.toList ++ '-' :: language.name.toList := by
  unfold readVariantName?
  simp only [Option.bind_eq_bind, Option.bind_eq_some_iff]
  constructor
  · rintro ⟨⟨front, languageName⟩, outer, ⟨rest, buildToolName⟩, inner, tool,
      tool_found, spoken, spoken_found, same⟩
    cases same
    obtain ⟨outer_split, _⟩ := cutLast_eq_some_iff.mp outer
    obtain ⟨inner_split, _⟩ := cutLast_eq_some_iff.mp inner
    rw [outer_split, buildTool?_eq_some_iff.mp tool_found,
      language?_eq_some_iff.mp spoken_found]
    exact congrArg (· ++ '-' :: languageName) inner_split
  · intro written
    have outer := cutLast_eq_some_iff.mpr ⟨written, dash_notMem_language language⟩
    have inner :
        cutLast '-' (slug ++ '-' :: buildTool.name.toList) =
          some (slug, buildTool.name.toList) :=
      cutLast_eq_some_iff.mpr ⟨rfl, dash_notMem_buildTool buildTool⟩
    exact ⟨_, outer, _, inner, buildTool,
      buildTool?_eq_some_iff.mpr rfl, language,
      language?_eq_some_iff.mpr rfl, rfl⟩

/--
Two variants have one name if and only if their slugs are the same in lower case and they have the
same build tool and language.  All three are read back from the name.
-/
theorem variantName_reads_back
    (slug other : String) (variant another : Variant) :
    (variantName slug variant = variantName other another ↔
      lowerCase slug.toList = lowerCase other.toList ∧
        variant.buildTool = another.buildTool ∧
        variant.language = another.language) ∧
    readVariantName? (variantName slug variant) =
      some (lowerCase slug.toList, variant.buildTool, variant.language) :=
  ⟨variantName_eq_iff,
    readVariantName?_eq_some_iff.mpr (toList_variantName slug variant)⟩

/-- A slug may end in the names of tools. -/
example :
    readVariantName? "a-maven-java-gradle_kotlin-groovy" =
      some ("a-maven-java".toList, .gradleKotlin, .groovy) := by
  decide +kernel

end Layout

end Guidebook
