import Guidebook.Json.Record
import Guidebook.Proofs.Json.Writing

/-!
# Fields that have been written

What the fields of a record hold is read back if writer and reader of each of them fit together.
This is so for lists and for optional fields if it is so for their contents, and for a record if its
fields have different names.
-/

namespace Guidebook.Json

variable {α : Type} {write : α → Value} {read : Value → Option α}

/-- The reader of a field gives back what has been written, once it has been read as a document. -/
def RoundTrip (write : α → Value) (read : Value → Option α) : Prop :=
  ∀ content, read (write content).normal = some content

namespace RoundTrip

theorem list (trip : RoundTrip write read) :
    RoundTrip (fun contents => .array (contents.map write))
      (Value.list? read) := by
  intro contents
  change (Value.normalItems (contents.map write)).mapM read = some contents
  rw [Value.normalItems_eq_map, List.map_map]
  induction contents with
  | nil => rfl
  | cons content rest ih =>
      rw [List.map_cons, List.mapM_cons, ih, Function.comp_apply,
        trip content]
      rfl

/-- What is written of a content must not be mistaken for nothing. -/
theorem option
    (trip : RoundTrip write read)
    (something : ∀ content, (write content).normal ≠ .null) :
    RoundTrip (Value.ofOption write) (Value.optional? read) := by
  intro content?
  cases content? with
  | none => rfl
  | some content =>
      have present := something content
      have reads := trip content
      change Value.optional? read (write content).normal = _
      generalize (write content).normal = value at present reads
      unfold Value.optional?
      split
      · contradiction
      · rw [reads]
        rfl

theorem string : RoundTrip Value.string Value.string? :=
  fun _ => rfl

theorem strings : RoundTrip Value.strings (Value.list? Value.string?) :=
  string.list

theorem text :
    RoundTrip (Value.ofOption Value.string)
      (Value.optional? Value.string?) :=
  string.option fun _ => nofun

theorem boolean : RoundTrip Value.boolean Value.boolean? :=
  fun _ => rfl

/-- A version fits thirty-two bits when it is read, as it did when it was written. -/
theorem version :
    RoundTrip (fun version : UInt32 => .natural version.toNat)
      Value.word32? := by
  intro version
  have small := version.toNat_lt_size
  have fits :
      0 ≤ Int.ofNat version.toNat ∧
        Int.ofNat version.toNat < UInt32.size := by
    constructor
    · exact Int.natCast_nonneg _
    · exact Int.ofNat_lt.mpr small
  have again : (Int.ofNat version.toNat).toNat.toUInt32 = version := by
    rw [Int.ofNat_eq_natCast, Int.toNat_natCast]
    exact UInt32.ofNat_toNat
  simp only [Value.natural, Value.normal, Value.word32?, if_pos fits, again]

theorem version_option :
    RoundTrip
      (Value.ofOption fun version : UInt32 => .natural version.toNat)
      (Value.optional? Value.word32?) :=
  version.option fun _ => nofun

/-- The entries of a dictionary stand in the order in which they are read. -/
theorem dictionary :
    RoundTrip
      (fun dictionary : Dictionary String =>
        .object (dictionary.entries.map fun entry => (entry.1, .string entry.2)))
      (Value.dictionary? Value.string?) := by
  intro dictionary
  have ascending :
      Dictionary.Ascending
        (dictionary.entries.map fun entry => (entry.1, Value.string entry.2)) :=
    List.pairwise_map.mpr dictionary.ascending
  have settled :
      ∀ entry ∈ dictionary.entries.map
          fun entry => (entry.1, Value.string entry.2),
        entry.2.normal = entry.2 := by
    rw [List.forall_mem_map]
    exact fun _ _ => rfl
  have entries :
      (dictionary.entries.map fun entry =>
          (entry.1, Value.string entry.2)).mapM
        (fun entry => entry.2.string?.map fun value => (entry.1, value)) =
        some dictionary.entries := by
    induction dictionary.entries with
    | nil => rfl
    | cons entry rest ih =>
        rw [List.map_cons, List.mapM_cons, ih]
        rfl
  have again : Dictionary.ofList dictionary.entries = dictionary := by
    ext1 key
    rw [Dictionary.ofList, Dictionary.get?_insertAll]
    exact Option.or_none
  simp only [Value.normal, Value.normalMembers_of_ascending ascending settled,
    Value.dictionary?, entries]
  exact congrArg some again

end RoundTrip

/-! ## Records -/

/-- The members of an object. -/
def Value.members : Value → List (String × Value)
  | .object members => members
  | _ => []

/-- A field of a record is read from the document of the record, and then those behind it. -/
theorem RoundTrip.andThen
    (trip : RoundTrip write read)
    {members : List (String × Value)}
    (distinct : (members.map Prod.fst).Nodup)
    {name : String} {content default : α}
    (written : members.lookup name = some (write content))
    {β : Type} {next : α → Option β} {result : β}
    (others : next content = some result) :
    (Fields.read? ⟨Value.normalMembers [] members⟩ name read default >>= next) =
      some result := by
  have found :
      (Value.normalMembers [] members).lookup name =
        some (write content).normal := by
    rw [Value.lookup_normalMembers distinct, written]
    rfl
  have field :
      Fields.read? ⟨Value.normalMembers [] members⟩ name read default =
        some content := by
    unfold Fields.read?
    simp only [found]
    exact trip content
  rw [field]
  exact others

/-! ## Fields that fit -/

namespace Value.Fits

variable {depth : Nat}

theorem list
    (each : ∀ content, (write content).Fits depth) (contents : List α) :
    (Value.array (contents.map write)).Fits (depth + 1) := by
  refine .array fun item member => ?_
  obtain ⟨content, _, rfl⟩ := List.mem_map.mp member
  exact each content

theorem strings (texts : List String) :
    (Value.strings texts).Fits (depth + 1) :=
  list .string texts

theorem option
    (each : ∀ content, (write content).Fits depth) (content? : Option α) :
    (Value.ofOption write content?).Fits depth := by
  cases content? with
  | none => exact .null
  | some content => exact each content

theorem version (version : UInt32) :
    (Value.natural version.toNat).Fits depth :=
  .natural (Nat.lt_trans version.toNat_lt_size (by decide))

theorem text (text? : Option String) :
    (Value.ofOption Value.string text?).Fits depth :=
  option .string text?

end Value.Fits

end Guidebook.Json
