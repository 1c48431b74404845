import Guidebook.Dictionary
import Mathlib.Data.List.Nodup
import Mathlib.Data.List.Perm.Basic
import Mathlib.Tactic.Common

/-!
# Dictionaries by their values

A dictionary is determined by the values of its keys.  Setting the values of another dictionary
gives that one's value where it has the key, and leaves the value there was where it has not.
-/

namespace Guidebook.Dictionary

universe u

variable {α : Type u}

/-! ## Values of keys -/

theorem lookup_cons_eq_ite
    (entry : String × α) (rest : List (String × α)) (key : String) :
    (entry :: rest).lookup key =
      if key = entry.1 then some entry.2 else rest.lookup key := by
  rw [List.lookup_cons]
  by_cases same : key = entry.1
  · rw [if_pos same, beq_iff_eq.mpr same]
  · rw [if_neg same, beq_false_of_ne same]

theorem lookup_insertEntry
    (key other : String) (value : α) (entries : List (String × α)) :
    (insertEntry key value entries).lookup other =
      if other = key then some value else entries.lookup other := by
  induction entries with
  | nil => rw [insertEntry, lookup_cons_eq_ite]
  | cons entry rest ih =>
      unfold insertEntry
      split
      · rw [lookup_cons_eq_ite]
      · split
        · rename_i here
          rw [lookup_cons_eq_ite, lookup_cons_eq_ite, ← here]
          split <;> rfl
        · rename_i different
          rw [lookup_cons_eq_ite, lookup_cons_eq_ite, ih]
          by_cases same : other = key
          · rw [if_pos same, if_pos same, if_neg (same ▸ different)]
          · rw [if_neg same, if_neg same]

@[simp]
theorem get?_insert
    (dictionary : Dictionary α) (key other : String) (value : α) :
    (dictionary.insert key value).get? other =
      if other = key then some value else dictionary.get? other :=
  lookup_insertEntry key other value dictionary.entries

theorem Ascending.lookup_eq_none
    {entry : String × α} {rest : List (String × α)}
    (ascending : Ascending (entry :: rest)) :
    rest.lookup entry.1 = none := by
  rw [List.lookup_eq_none_iff]
  intro later member
  have less := (List.pairwise_cons.mp ascending).1 later member
  rw [bne_iff_ne]
  exact String.ne_of_lt less

theorem foldl_insert_get?
    {entries : List (String × α)} (ascending : Ascending entries)
    (dictionary : Dictionary α) (key : String) :
    (dictionary.insertAll entries).get? key =
      (entries.lookup key).or (dictionary.get? key) := by
  unfold insertAll
  induction entries generalizing dictionary with
  | nil => rfl
  | cons entry rest ih =>
      have later := (List.pairwise_cons.mp ascending).2
      rw [List.foldl_cons, ih later, get?_insert, lookup_cons_eq_ite]
      by_cases same : key = entry.1
      · subst same
        rw [if_pos rfl, if_pos rfl, ascending.lookup_eq_none,
          Option.none_or, Option.some_or]
      · rw [if_neg same, if_neg same]

/-- The values of a dictionary count before those that were there. -/
@[simp]
theorem get?_insertAll
    (dictionary later : Dictionary α) (key : String) :
    (dictionary.insertAll later.entries).get? key =
      (later.get? key).or (dictionary.get? key) :=
  foldl_insert_get? later.ascending dictionary key

/-! ## Equality -/

theorem Ascending.nodup
    {entries : List (String × α)} (ascending : Ascending entries) :
    entries.Nodup :=
  List.Pairwise.imp
    (fun less same => String.ne_of_lt less (congrArg Prod.fst same))
    ascending

theorem Ascending.mem_iff_lookup
    {entries : List (String × α)} (ascending : Ascending entries)
    {key : String} {value : α} :
    (key, value) ∈ entries ↔ entries.lookup key = some value := by
  induction entries with
  | nil => simp
  | cons entry rest ih =>
      have later := (List.pairwise_cons.mp ascending).2
      rw [List.mem_cons, lookup_cons_eq_ite, ih later, Prod.ext_iff]
      by_cases same : key = entry.1
      · subst same
        simp [ascending.lookup_eq_none, eq_comm]
      · simp [same]

/-- Dictionaries that give the same values to the same keys are equal. -/
@[ext]
theorem ext_get?
    {first second : Dictionary α}
    (same : ∀ key, first.get? key = second.get? key) :
    first = second := by
  have members : ∀ entry,
      entry ∈ first.entries ↔ entry ∈ second.entries := by
    rintro ⟨key, value⟩
    rw [first.ascending.mem_iff_lookup, second.ascending.mem_iff_lookup]
    exact iff_of_eq (congrArg (· = some value) (same key))
  have permuted : first.entries.Perm second.entries :=
    (List.perm_ext_iff_of_nodup first.ascending.nodup
      second.ascending.nodup).mpr members
  have equal : first.entries = second.entries :=
    List.Perm.eq_of_pairwise
      (fun _ _ _ _ less greater => (String.lt_asymm less greater).elim)
      first.ascending second.ascending permuted
  obtain ⟨entries, _⟩ := first
  obtain ⟨others, _⟩ := second
  cases equal
  rfl

/-- Setting the values of a dictionary once more changes nothing. -/
theorem insertAll_again (dictionary later : Dictionary α) :
    dictionary.insertAll (dictionary.insertAll later.entries).entries =
      dictionary.insertAll later.entries := by
  ext1 key
  simp only [get?_insertAll, Option.or_assoc, Option.or_self]

/-- The values of a third dictionary may be set before or after those of a second. -/
theorem insertAll_assoc (dictionary middle later : Dictionary α) :
    dictionary.insertAll (middle.insertAll later.entries).entries =
      (dictionary.insertAll middle.entries).insertAll later.entries := by
  ext1 key
  simp only [get?_insertAll, Option.or_assoc]

end Guidebook.Dictionary
