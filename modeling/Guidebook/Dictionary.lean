/-!
# Dictionaries

A dictionary holds one value for each of finitely many keys.  Its entries stand in ascending order
of their keys, so two dictionaries that give the same values to the same keys are equal.
-/

namespace Guidebook

universe u

namespace Dictionary

variable {α : Type u}

/-- The keys of a list of entries ascend. -/
def Ascending (entries : List (String × α)) : Prop :=
  entries.Pairwise fun first second => first.1 < second.1

/-- Sets the value of a key in an ascending list of entries. -/
def insertEntry (key : String) (value : α) : List (String × α) → List (String × α)
  | [] => [(key, value)]
  | entry :: rest =>
    if key < entry.1 then (key, value) :: entry :: rest
    else if key = entry.1 then (key, value) :: rest
    else entry :: insertEntry key value rest

theorem mem_insertEntry {key : String} {value : α} {entries : List (String × α)}
    {entry : String × α} (member : entry ∈ insertEntry key value entries) :
    entry.1 = key ∨ entry ∈ entries := by
  induction entries with
  | nil => simp_all [insertEntry]
  | cons first rest ih =>
    unfold insertEntry at member
    split at member
    · simp only [List.mem_cons] at member
      rcases member with rfl | rfl | later <;> simp_all
    · split at member
      · simp only [List.mem_cons] at member
        rcases member with rfl | later <;> simp_all
      · simp only [List.mem_cons] at member
        rcases member with rfl | later
        · simp
        · rcases ih later with here | there <;> simp_all

theorem lt_of_not_lt_of_ne {first second : String} (notLess : ¬first < second)
    (different : first ≠ second) : second < first := by
  rw [String.not_lt] at notLess
  exact Decidable.byContradiction fun notGreater =>
    different (String.le_antisymm (String.not_lt.mp notGreater) notLess)

theorem Ascending.insertEntry {key : String} {value : α} {entries : List (String × α)}
    (ascending : Ascending entries) : Ascending (insertEntry key value entries) := by
  induction entries with
  | nil => simp [Ascending, Dictionary.insertEntry]
  | cons first rest ih =>
    have parts := List.pairwise_cons.mp ascending
    unfold Dictionary.insertEntry
    split
    · refine List.pairwise_cons.mpr ⟨fun entry member => ?_, ascending⟩
      rcases List.mem_cons.mp member with rfl | later
      · assumption
      · exact String.lt_trans ‹_› (parts.1 entry later)
    · split
      · rename_i equal
        exact List.pairwise_cons.mpr ⟨fun entry member => equal ▸ parts.1 entry member, parts.2⟩
      · refine List.pairwise_cons.mpr ⟨fun entry member => ?_, ih parts.2⟩
        rcases mem_insertEntry member with here | there
        · exact here ▸ lt_of_not_lt_of_ne ‹_› ‹_›
        · exact parts.1 entry there

end Dictionary

/-- Finitely many keys with a value for each. -/
structure Dictionary (α : Type u) where
  entries : List (String × α)
  ascending : Dictionary.Ascending entries
deriving DecidableEq

namespace Dictionary

variable {α : Type u}

/-- The dictionary without keys. -/
def empty : Dictionary α :=
  ⟨[], List.Pairwise.nil⟩

instance : Inhabited (Dictionary α) :=
  ⟨empty⟩

/-- The value of a key. -/
def get? (dictionary : Dictionary α) (key : String) : Option α :=
  dictionary.entries.lookup key

/-- Sets the value of a key. -/
def insert (dictionary : Dictionary α) (key : String) (value : α) : Dictionary α :=
  ⟨insertEntry key value dictionary.entries, dictionary.ascending.insertEntry⟩

/-- Sets the values of several keys, one after another. -/
def insertAll (dictionary : Dictionary α) (entries : List (String × α)) : Dictionary α :=
  entries.foldl (fun soFar entry => soFar.insert entry.1 entry.2) dictionary

/-- The dictionary of a list of entries, in which the last entry of a key counts. -/
def ofList (entries : List (String × α)) : Dictionary α :=
  empty.insertAll entries

end Dictionary

end Guidebook
