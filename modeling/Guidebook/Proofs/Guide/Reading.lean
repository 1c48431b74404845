import Guidebook.Guide.Record
import Guidebook.Proofs.Basic
import Mathlib.Tactic.Common

/-!
# Guides read from documents

What the fields of a document say of a guide that has been read from it: whether the guide is
published and which base it names.
-/

namespace Guidebook

open Guidebook.Json

/-- A field that is not written has its default, and another what its reader makes of it. -/
theorem Json.Fields.read?_eq_some_iff
    {α : Type} {fields : Fields} {name : String}
    {reader : Value → Option α} {default result : α} :
    fields.read? name reader default = some result ↔
      (fields.entries.lookup name = none ∧ default = result) ∨
        ∃ value,
          fields.entries.lookup name = some value ∧
            reader value = some result := by
  unfold Fields.read?
  cases fields.entries.lookup name <;> simp

theorem Json.Value.boolean?_eq_some
    {value : Value} {result : Bool}
    (read : value.boolean? = some result) :
    value = .boolean result := by
  unfold boolean? at read
  split at read
  · rw [Option.some.inj read]
  · contradiction

/-- Of the values of an optional field only `null` stands for nothing. -/
theorem Json.Value.optional?_eq_none
    {α : Type} {reader : Value → Option α} {value : Value}
    (read : value.optional? reader = some none) :
    value = .null := by
  unfold optional? at read
  split at read
  · rfl
  · simp at read

namespace Guide

/-- The fields of a guide that decide whether it must be complete by itself. -/
theorem ofValue?_eq_some
    {value : Value} {guide : Guide}
    (described : Guide.ofValue? value = some guide) :
    ∃ fields,
      Format.metadata.fields? fieldNames value = some fields ∧
        fields.read? "publish" Value.boolean? true = some guide.publish ∧
        fields.read? "base" (Value.optional? Value.string?) none =
          some guide.base := by
  unfold ofValue? at described
  rw [option_bind_eq_some] at described
  obtain ⟨fields, written, described⟩ := described
  dsimp only at described
  -- The fields are read one after another, each into a variable of its own.
  repeat
    rw [option_bind_eq_some] at described
    obtain ⟨_, _, described⟩ := described
  cases described
  exact ⟨fields, written, by assumption, by assumption⟩

variable {members : List (String × Value)} {guide : Guide}

/-- A guide is published if its document says so or says nothing. -/
theorem publish_of_ofValue?
    (described : Guide.ofValue? (.object members) = some guide) :
    (members.lookup "publish" = none ∧ guide.publish = true) ∨
      members.lookup "publish" = some (.boolean guide.publish) := by
  obtain ⟨fields, written, published, -⟩ := ofValue?_eq_some described
  obtain rfl := Option.some.inj written
  rcases Fields.read?_eq_some_iff.mp published with
    ⟨absent, standard⟩ | ⟨value, found, read⟩
  · exact Or.inl ⟨absent, standard.symm⟩
  · rw [Value.boolean?_eq_some read] at found
    exact Or.inr found

/-- A guide has no base if its document has no such key, or `null` under it. -/
theorem lookup_base_of_ofValue?
    (described : Guide.ofValue? (.object members) = some guide)
    (alone : guide.base = none) :
    members.lookup "base" = none ∨ members.lookup "base" = some .null := by
  obtain ⟨fields, written, -, based⟩ := ofValue?_eq_some described
  obtain rfl := Option.some.inj written
  rw [alone] at based
  rcases Fields.read?_eq_some_iff.mp based with
    ⟨absent, -⟩ | ⟨value, found, read⟩
  · exact Or.inl absent
  · rw [Value.optional?_eq_none read] at found
    exact Or.inr found

end Guide

end Guidebook
