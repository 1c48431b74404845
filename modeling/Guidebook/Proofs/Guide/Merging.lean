import Guidebook.Guide.Inheritance
import Guidebook.Proofs.Dictionary
import Guidebook.Proofs.Distinct

/-!
# Merging a guide into its base

A guide that has taken over from its base what it lacked finds nothing more to take over from it.
This holds field by field: of values that are taken over where there is none, of the tags, which
are joined, and of the environment, in which the guide's own values count.  For the same reasons it
makes no difference whether a guide is merged into a base that has been merged into its own base, or
into the two of them one after the other.  The module of the base alone is handed down by one
generation only.
-/

namespace Guidebook

theorem inheritedText_again (inherited own : String) :
    inheritedText inherited (inheritedText inherited own) =
      inheritedText inherited own := by
  unfold inheritedText
  split <;> simp_all

theorem inheritedList_again
    {α : Type} (inherited own : List α) :
    inheritedList inherited (inheritedList inherited own) =
      inheritedList inherited own := by
  unfold inheritedList
  cases own with
  | nil => simp
  | cons first rest => rfl

/-- What is unset in two generations comes from the third. -/
theorem inheritedText_assoc (first second own : String) :
    inheritedText first (inheritedText second own) =
      inheritedText (inheritedText first second) own := by
  by_cases unset : own = "" <;> simp [inheritedText, unset]

theorem inheritedList_assoc
    {α : Type} (first second own : List α) :
    inheritedList first (inheritedList second own) =
      inheritedList (inheritedList first second) own := by
  cases own <;> rfl

namespace Guide

@[simp]
theorem merge_slug (base child : Guide) :
    (base.merge child).slug = child.slug :=
  rfl

@[simp]
theorem merge_base (base child : Guide) :
    (base.merge child).base = child.base :=
  rfl

@[simp]
theorem merge_folder (base child : Guide) :
    (base.merge child).folder = child.folder :=
  rfl

/-- Merging a guide into its base once more changes nothing. -/
theorem merge_again (base child : Guide) :
    base.merge (base.merge child) = base.merge child := by
  simp only [merge, inheritedText_again, inheritedList_again,
    Option.or_assoc, Option.or_self, eraseDups_append_again,
    Dictionary.insertAll_again]

/-! ## Three generations -/

@[simp]
theorem merge_sourceModule (base child : Guide) :
    (base.merge child).sourceModule = child.sourceModule :=
  rfl

@[simp]
theorem merge_baseSourceModule (base child : Guide) :
    (base.merge child).baseSourceModule =
      child.baseSourceModule.or base.sourceModule :=
  rfl

/-- The guide with all fields but the module that it has from its base. -/
def withoutBaseModule (guide : Guide) : Guide :=
  { guide with baseSourceModule := none }

/-- A guide is determined by that module and the other fields. -/
theorem eq_iff_withoutBaseModule {first second : Guide} :
    first = second ↔
      first.withoutBaseModule = second.withoutBaseModule ∧
        first.baseSourceModule = second.baseSourceModule := by
  constructor
  · rintro rfl
    exact ⟨rfl, rfl⟩
  · rintro ⟨others, same⟩
    cases first
    cases second
    simp only [withoutBaseModule, mk.injEq] at others
    simp_all

theorem merge_assoc_withoutBaseModule (grandparent base child : Guide) :
    (grandparent.merge (base.merge child)).withoutBaseModule =
      ((grandparent.merge base).merge child).withoutBaseModule := by
  simp only [withoutBaseModule, merge, inheritedText_assoc,
    inheritedList_assoc, Option.or_assoc, eraseDups_append_left,
    eraseDups_append_right, List.append_assoc, Dictionary.insertAll_assoc]

/-- The module of the first base of three generations is not handed down to the last. -/
theorem merge_assoc_baseSourceModule_iff (grandparent base child : Guide) :
    (grandparent.merge (base.merge child)).baseSourceModule =
        ((grandparent.merge base).merge child).baseSourceModule ↔
      (child.baseSourceModule.or base.sourceModule).isSome ∨
        grandparent.sourceModule = none := by
  simp only [merge_baseSourceModule, merge_sourceModule]
  cases child.baseSourceModule.or base.sourceModule <;> simp

/--
Merging a guide into its base once more changes nothing.  A chain of two bases may be merged from
either end: the results agree on every field but the module of the base.  They agree on that field
too exactly if the nearer base hands down a module, or the guide has one, or the farther base has
none to hand down.
-/
theorem merge_again_and_regrouped (grandparent base child : Guide) :
    grandparent.merge (grandparent.merge child) = grandparent.merge child ∧
    (grandparent.merge (base.merge child)).withoutBaseModule =
      ((grandparent.merge base).merge child).withoutBaseModule ∧
    (grandparent.merge (base.merge child) =
        (grandparent.merge base).merge child ↔
      (child.baseSourceModule.or base.sourceModule).isSome ∨
        grandparent.sourceModule = none) := by
  refine ⟨merge_again grandparent child,
    merge_assoc_withoutBaseModule grandparent base child, ?_⟩
  rw [eq_iff_withoutBaseModule, merge_assoc_baseSourceModule_iff]
  exact and_iff_right (merge_assoc_withoutBaseModule grandparent base child)

end Guide

end Guidebook
