import Guidebook.Corpus
import Guidebook.Proofs.Basic
import Guidebook.Proofs.Guide.Reading
import Mathlib.Data.List.Permutation

/-!
# What the schema asks of published guides

The schema looks at metadata as it is written, and inheritance at the guide that has been read from
it.  Both agree on whether a guide is published.  They do not agree on whether it has a base: under
the key `base` a document may have `null`, which names no base, but exempts it from the required
keys as a base does.
-/

namespace Guidebook

open Guidebook.Json
open Guidebook.Text

/-- Metadata has a value under a key, neither `null`, nor a blank text, nor an empty array. -/
def IsFilled (metadata : Value) (key : String) : Prop :=
  ∃ value,
    metadata.member? key = some value ∧ value ≠ .null ∧
      (∀ text, value = .string text → isBlankText text.toList = false) ∧
        value ≠ .array []

/-- The guide as it is read in a directory, from which it takes a slug if it has none. -/
def Guide.inFolder (guide : Guide) (directory : Path) : Guide :=
  { guide with
    folder := directory
    slug := if guide.slug = "" then directoryName directory else guide.slug }

namespace Schema

variable {members : List (String × Value)} {key : String}

/-- A required key is not violated if it is filled. -/
theorem requiredViolation?_eq_none_iff :
    requiredViolation? members key = none ↔ IsFilled (.object members) key := by
  unfold requiredViolation? IsFilled
  change _ ↔ ∃ value, members.lookup key = some value ∧ _
  cases members.lookup key with
  | none => simp
  | some value =>
      cases value with
      | array items => cases items <;> simp
      | string text => cases isBlankText text.toList <;> simp
      | null => simp
      | boolean value => simp
      | integer value => simp
      | real written => simp
      | object members => simp

theorem requiredViolations_eq_nil_iff {schema : Schema} :
    schema.requiredViolations members = [] ↔
      (members.lookup "base").isSome ∨
        ∀ key ∈ schema.required, IsFilled (.object members) key := by
  unfold requiredViolations
  split
  · simp_all
  · simp_all [List.filterMap_eq_nil_iff, requiredViolation?_eq_none_iff]

theorem violations_object_eq_nil_iff {schema : Schema} :
    schema.violations (.object members) = [] ↔
      schema.requiredViolations members = [] ∧
        schema.unknownKeyViolations members = [] ∧
          dateViolations members = [] := by
  rw [violations, List.append_eq_nil_iff, List.append_eq_nil_iff, and_assoc]

end Schema

namespace Corpus

variable {config : Config} {directory path : Path} {content : String}
  {metadata : Value} {guide : Guide}

/-- Metadata is read as a guide if it passes the gate and describes one. -/
theorem readGuide_eq_ok_iff
    (parsed : Json.parse? content = some metadata) :
    readGuide config directory path content = .ok guide ↔
      (config.validateMetadata = true → saysPublished metadata = true →
        config.schema.violations metadata = []) ∧
      ∃ described,
        Guide.ofValue? metadata = some described ∧
          described.inFolder directory = guide := by
  have gate :
      (config.validateMetadata && saysPublished metadata &&
          !(config.schema.violations metadata).isEmpty) = false ↔
        (config.validateMetadata = true → saysPublished metadata = true →
          config.schema.violations metadata = []) := by
    cases config.validateMetadata <;> cases saysPublished metadata <;> simp
  rw [← gate, readGuide, parsed]
  simp only [bind, Except.bind]
  cases config.validateMetadata && saysPublished metadata &&
      !(config.schema.violations metadata).isEmpty with
  | true => exact ⟨nofun, nofun⟩
  | false =>
      cases Guide.ofValue? metadata with
      | none =>
          constructor
          · nofun
          · rintro ⟨-, described, impossible, -⟩
            contradiction
      | some described =>
          constructor
          · intro read
            exact ⟨rfl, described, rfl, Except.ok.inj read⟩
          · rintro ⟨-, other, same, rfl⟩
            obtain rfl := Option.some.inj same
            rfl

/-- Guides that have been read from objects are published if their metadata says so. -/
theorem saysPublished_of_ofValue?
    {members : List (String × Value)} {described : Guide}
    (read : Guide.ofValue? (.object members) = some described) :
    saysPublished (.object members) = described.publish := by
  rw [saysPublished, Value.member?]
  rcases Guide.publish_of_ofValue? read with
    ⟨absent, published⟩ | found
  · rw [absent, published]
    rfl
  · rw [found]
    rfl

/--
A published guide without a base is accepted if and only if it would be accepted if no key were
required, and every required key is filled or the document has `null` for a base.
-/
theorem readGuide_published_iff
    (validates : config.validateMetadata = true)
    (parsed : Json.parse? content = some metadata)
    (published : guide.publish = true) (alone : guide.base = none) :
    readGuide config directory path content = .ok guide ↔
      readGuide
          { config with schema := { config.schema with required := [] } }
          directory path content = .ok guide ∧
        (metadata.member? "base" = some .null ∨
          ∀ key ∈ config.schema.required, IsFilled metadata key) := by
  rw [readGuide_eq_ok_iff parsed, readGuide_eq_ok_iff parsed]
  cases metadata with
  | object members =>
      constructor
      · rintro ⟨passed, described, read, rfl⟩
        have announced : saysPublished (.object members) = true :=
          (saysPublished_of_ofValue? read).trans published
        obtain ⟨required, others⟩ :=
          Schema.violations_object_eq_nil_iff.mp (passed validates announced)
        refine ⟨⟨fun _ _ => ?_, described, read, rfl⟩, ?_⟩
        · refine Schema.violations_object_eq_nil_iff.mpr ⟨?_, others⟩
          exact Schema.requiredViolations_eq_nil_iff.mpr
            (Or.inr (List.forall_mem_nil _))
        · rcases Schema.requiredViolations_eq_nil_iff.mp required with
            present | filled
          · -- The key `base` is there, but names no base.
            rcases Guide.lookup_base_of_ofValue? read alone with
              absent | null
            · simp [absent] at present
            · exact Or.inl null
          · exact Or.inr filled
      · rintro ⟨⟨passed, described, read, rfl⟩, exempt⟩
        refine ⟨fun _ announced => ?_, described, read, rfl⟩
        obtain ⟨-, others⟩ :=
          Schema.violations_object_eq_nil_iff.mp (passed validates announced)
        refine Schema.violations_object_eq_nil_iff.mpr ⟨?_, others⟩
        refine Schema.requiredViolations_eq_nil_iff.mpr ?_
        refine exempt.imp_left fun null => ?_
        exact Option.isSome_of_eq_some null
  | null | boolean | integer | real | string | array =>
      -- What is no object says nothing of publication, and the schema refuses it.
      constructor
      · rintro ⟨passed, -⟩
        exact absurd (passed validates rfl) (List.cons_ne_nil _ _)
      · rintro ⟨⟨passed, -⟩, -⟩
        exact absurd (passed validates rfl) (List.cons_ne_nil _ _)

/-- A document that has `null` for a base and lacks a title. -/
def nullBaseContent : String :=
  "\x7b\"base\": null, \"slug\": \"hello\"\x7d"

def nullBaseMetadata : Value :=
  .object [("base", .null), ("slug", .string "hello")]

def nullBaseGuide : Guide :=
  { slug := "hello", folder := ⟨"guides/hello"⟩ }

theorem parse?_nullBaseContent :
    Json.parse? nullBaseContent = some nullBaseMetadata := by
  cbv

theorem readGuide_nullBaseContent :
    readGuide {} ⟨"guides/hello"⟩ ⟨"guides/hello/metadata.json"⟩
        nullBaseContent =
      .ok nullBaseGuide := by
  decide +kernel

theorem readGuide_published_iff_nullBase :
    nullBaseGuide.publish = true ∧ nullBaseGuide.base = none ∧
      readGuide
          { ({} : Config) with
            schema := { ({} : Config).schema with required := [] } }
          ⟨"guides/hello"⟩ ⟨"guides/hello/metadata.json"⟩
          nullBaseContent = .ok nullBaseGuide ∧
      (nullBaseMetadata.member? "base" = some .null ∨
        ∀ key ∈ ({} : Config).schema.required,
          IsFilled nullBaseMetadata key) :=
  ⟨rfl, rfl,
    (readGuide_published_iff rfl parse?_nullBaseContent rfl rfl).mp
      readGuide_nullBaseContent⟩

/-- A published guide without a base may be accepted although a required key is missing. -/
theorem readGuide_accepts_unfilled :
    ({} : Config).validateMetadata = true ∧
      Json.parse? nullBaseContent = some nullBaseMetadata ∧
      readGuide {} ⟨"guides/hello"⟩ ⟨"guides/hello/metadata.json"⟩
          nullBaseContent =
        .ok nullBaseGuide ∧
      nullBaseGuide.publish = true ∧ nullBaseGuide.base = none ∧
      "title" ∈ ({} : Config).schema.required ∧
      ¬IsFilled nullBaseMetadata "title" := by
  refine ⟨rfl, parse?_nullBaseContent, readGuide_nullBaseContent, rfl, rfl,
    by decide, ?_⟩
  rintro ⟨value, found, -⟩
  have absent : nullBaseMetadata.member? "title" = none := rfl
  rw [absent] at found
  contradiction

end Corpus

end Guidebook
