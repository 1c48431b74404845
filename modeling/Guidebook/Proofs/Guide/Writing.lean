import Guidebook.Proofs.Corpus.Metadata
import Guidebook.Proofs.Date
import Guidebook.Proofs.Json.RoundTrip

/-!
# Guides that have been written

A guide is read back from its document, whatever its fields hold: every field but the folder is
written under its own name, and its reader gives back what has been written there.  The document
satisfies every schema.  It has no unknown keys, its date is a date, and since the key of the base
is always written, no key is required of it.
-/

namespace Guidebook

open Guidebook.Json

/-! ## Fields of guides -/

theorem Language.roundTrip :
    RoundTrip Language.toValue (Language.ofValue? .metadata) := by
  intro language
  cases language <;> rfl

theorem BuildTool.roundTrip :
    RoundTrip BuildTool.toValue (BuildTool.ofValue? .metadata) := by
  intro buildTool
  cases buildTool <;> rfl

theorem TestFramework.roundTrip :
    RoundTrip TestFramework.toValue (TestFramework.ofValue? .metadata) := by
  intro testFramework
  cases testFramework <;> rfl

theorem Cloud.roundTrip :
    RoundTrip Cloud.toValue (Cloud.ofValue? .metadata) := by
  intro cloud
  cases cloud <;> rfl

theorem ApplicationType.roundTrip :
    RoundTrip ApplicationType.toValue
      (ApplicationType.ofValue? .metadata) := by
  intro applicationType
  cases applicationType <;> rfl

theorem Date.roundTrip : RoundTrip Date.toValue Date.ofValue? :=
  Date.parse?_text

theorem TestFramework.roundTrip_option :
    RoundTrip (Value.ofOption TestFramework.toValue)
      (Value.optional? (TestFramework.ofValue? .metadata)) :=
  TestFramework.roundTrip.option fun _ => nofun

theorem Cloud.roundTrip_option :
    RoundTrip (Value.ofOption Cloud.toValue)
      (Value.optional? (Cloud.ofValue? .metadata)) := by
  refine Cloud.roundTrip.option fun cloud => ?_
  cases cloud <;> exact nofun

theorem Date.roundTrip_option :
    RoundTrip (Value.ofOption Date.toValue)
      (Value.optional? Date.ofValue?) :=
  Date.roundTrip.option fun _ => nofun

/-! ## Applications -/

theorem App.fieldNames_nodup : App.fieldNames.Nodup := by
  decide

theorem App.roundTrip : RoundTrip App.toValue App.ofValue? := by
  intro app
  have distinct : (app.toValue.members.map Prod.fst).Nodup :=
    App.fieldNames_nodup
  have written :
      Format.metadata.fields? App.fieldNames app.toValue.normal =
        some ⟨Value.normalMembers [] app.toValue.members⟩ :=
    rfl
  unfold ofValue?
  refine option_bind_eq_some.mpr ⟨_, written, ?_⟩
  refine RoundTrip.string.andThen distinct rfl ?_
  refine RoundTrip.string.andThen distinct rfl ?_
  refine ApplicationType.roundTrip.andThen distinct rfl ?_
  refine RoundTrip.string.andThen distinct rfl ?_
  -- The seven lists: features, and source files that are left out.
  refine RoundTrip.strings.andThen distinct rfl ?_
  refine RoundTrip.strings.andThen distinct rfl ?_
  refine RoundTrip.strings.andThen distinct rfl ?_
  refine RoundTrip.strings.andThen distinct rfl ?_
  refine RoundTrip.strings.andThen distinct rfl ?_
  refine RoundTrip.strings.andThen distinct rfl ?_
  refine RoundTrip.strings.andThen distinct rfl ?_
  refine TestFramework.roundTrip_option.andThen distinct rfl ?_
  refine RoundTrip.boolean.andThen distinct rfl ?_
  rfl

/-! ## Guides -/

theorem Guide.fieldNames_nodup : Guide.fieldNames.Nodup := by
  decide

/-- All of a guide but its folder is read from its document. -/
theorem Guide.ofValue?_toValue (guide : Guide) :
    Guide.ofValue? guide.toValue.normal =
      some { guide with folder := ⟨""⟩ } := by
  have distinct : (guide.toValue.members.map Prod.fst).Nodup :=
    Guide.fieldNames_nodup
  have written :
      Format.metadata.fields? Guide.fieldNames guide.toValue.normal =
        some ⟨Value.normalMembers [] guide.toValue.members⟩ :=
    rfl
  unfold ofValue?
  refine option_bind_eq_some.mpr ⟨_, written, ?_⟩
  refine RoundTrip.string.andThen distinct rfl ?_
  refine RoundTrip.string.andThen distinct rfl ?_
  refine RoundTrip.strings.andThen distinct rfl ?_
  refine RoundTrip.strings.andThen distinct rfl ?_
  refine Date.roundTrip_option.andThen distinct rfl ?_
  refine Cloud.roundTrip_option.andThen distinct rfl ?_
  refine RoundTrip.strings.andThen distinct rfl ?_
  refine Language.roundTrip.list.andThen distinct rfl ?_
  refine BuildTool.roundTrip.list.andThen distinct rfl ?_
  refine TestFramework.roundTrip_option.andThen distinct rfl ?_
  refine RoundTrip.boolean.andThen distinct rfl ?_
  refine RoundTrip.boolean.andThen distinct rfl ?_
  refine RoundTrip.version_option.andThen distinct rfl ?_
  refine RoundTrip.version_option.andThen distinct rfl ?_
  refine RoundTrip.text.andThen distinct rfl ?_
  refine RoundTrip.boolean.andThen distinct rfl ?_
  refine RoundTrip.string.andThen distinct rfl ?_
  refine RoundTrip.strings.andThen distinct rfl ?_
  refine RoundTrip.text.andThen distinct rfl ?_
  refine RoundTrip.dictionary.andThen distinct rfl ?_
  refine App.roundTrip.list.andThen distinct rfl ?_
  refine RoundTrip.text.andThen distinct rfl ?_
  refine RoundTrip.text.andThen distinct rfl ?_
  rfl

/-! ## Documents of guides -/

namespace Json.Value.Fits

variable {depth : Nat}

theorem cloud (cloud : Cloud) : cloud.toValue.Fits depth := by
  cases cloud <;> exact .string _

theorem testFramework (testFramework? : Option TestFramework) :
    (Value.ofOption TestFramework.toValue testFramework?).Fits depth :=
  option (fun _ => .string _) testFramework?

theorem app (app : App) : app.toValue.Fits (depth + 2) := by
  refine .object ?_
  simp only [List.forall_mem_cons]
  exact ⟨.string _, .string _, .string _, .string _, strings _, strings _,
    strings _, strings _, strings _, strings _, strings _, testFramework _,
    .boolean _, List.forall_mem_nil _⟩

theorem guide (guide : Guide) : guide.toValue.Fits (depth + 4) := by
  have env :
      (Value.object (guide.env.entries.map fun entry =>
        (entry.1, Value.string entry.2))).Fits (depth + 3) := by
    refine .object ?_
    rw [List.forall_mem_map]
    exact fun _ _ => .string _
  refine .object ?_
  simp only [List.forall_mem_cons]
  exact ⟨.string _, .string _, strings _, strings _,
    option (fun _ => .string _) _, option cloud _, strings _,
    list (fun _ => .string _) _, list (fun _ => .string _) _,
    testFramework _, .boolean _, .boolean _, option version _,
    option version _, text _, .boolean _, .string _, strings _, text _, env,
    list app _, text _, text _, List.forall_mem_nil _⟩

end Json.Value.Fits

namespace Schema

/-- The document of a guide violates no schema. -/
theorem violations_toValue (schema : Schema) (guide : Guide) :
    schema.violations guide.toValue.normal = [] := by
  have distinct : (guide.toValue.members.map Prod.fst).Nodup :=
    Guide.fieldNames_nodup
  have lookup :
      ∀ key,
        (Value.normalMembers [] guide.toValue.members).lookup key =
          (guide.toValue.members.lookup key).map Value.normal := by
    intro key
    rw [Value.lookup_normalMembers distinct, List.lookup_nil, Option.or_none]
  have required :
      schema.requiredViolations
        (Value.normalMembers [] guide.toValue.members) = [] := by
    refine if_pos ?_
    rw [lookup "base"]
    rfl
  have known :
      schema.unknownKeyViolations
        (Value.normalMembers [] guide.toValue.members) = [] := by
    have listed : ∀ key ∈ Guide.fieldNames, key ∈ knownKeys := by
      decide
    have familiar :
        ∀ entry ∈ Value.normalMembers [] guide.toValue.members,
          entry.1 ∈ knownKeys := by
      intro entry member
      rcases Value.mem_normalMembers member with written | none
      · exact listed entry.1 written
      · exact absurd none List.not_mem_nil
    unfold unknownKeyViolations
    split
    · rfl
    · rw [List.map_eq_nil_iff, List.filter_eq_nil_iff]
      intro entry member
      simp [familiar entry member]
  have dated :
      dateViolations (Value.normalMembers [] guide.toValue.members) = [] := by
    have written :
        guide.toValue.members.lookup "publicationDate" =
          some (Value.ofOption Date.toValue guide.publicationDate) :=
      rfl
    unfold dateViolations
    rw [lookup "publicationDate", written]
    cases guide.publicationDate with
    | none => rfl
    | some date =>
        refine if_neg ?_
        rw [Date.parseStrict?_text]
        exact Bool.false_ne_true
  exact violations_object_eq_nil_iff.mpr ⟨required, known, dated⟩

end Schema

/--
A guide is read back from its document, save for its folder, and the document violates no schema: in
particular it has no unknown keys.
-/
theorem Guide.document_reads_back (guide : Guide) :
    ∃ metadata,
      Json.parse? guide.toValue.compact = some metadata ∧
        Guide.ofValue? metadata = some { guide with folder := ⟨""⟩ } ∧
        ∀ schema : Schema, schema.violations metadata = [] :=
  ⟨guide.toValue.normal, parse?_compact (Value.Fits.guide guide),
    ofValue?_toValue guide, fun schema => schema.violations_toValue guide⟩

end Guidebook
