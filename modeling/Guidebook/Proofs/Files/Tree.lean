import Guidebook.Proofs.Files.Disk
import Guidebook.Proofs.Files.Names
import Mathlib.Data.List.Induction

/-!
# Trees of files

On a disk that is a tree every file and directory has a place of its own in a directory.  Then all
that stands on the way to a file is a directory, and following the names on that way leads to the
file.  Writing where a path leads and removing what nothing is left below keep the disk a tree.
-/

namespace Guidebook

/-- A name under which a disk can hold a file or directory. -/
structure IsFileName (name : String) : Prop extends Path.IsName name where
  noNul : '\x00' ∉ name.toList
  short : name.utf8ByteSize ≤ Disk.longestName

instance (name : String) : Decidable (IsFileName name) :=
  decidable_of_iff
    (Path.IsName name ∧ '\x00' ∉ name.toList ∧
      name.utf8ByteSize ≤ Disk.longestName)
    ⟨fun ⟨isName, noNul, short⟩ => ⟨isName, noNul, short⟩,
      fun ⟨isName, noNul, short⟩ => ⟨isName, noNul, short⟩⟩

namespace Disk

/-- A disk on which every file and directory has a place of its own in a directory. -/
structure IsTree (disk : Disk) : Prop where
  distinct : (disk.entries.map Prod.fst).Nodup
  placed :
    ∀ present ∈ disk.entries,
      present.1 ≠ [] ∧ disk.entry? present.1.dropLast = some .directory
  named : ∀ present ∈ disk.entries, ∀ name ∈ present.1, IsFileName name

instance (disk : Disk) : Decidable disk.IsTree :=
  decidable_of_iff
    ((disk.entries.map Prod.fst).Nodup ∧
      (∀ present ∈ disk.entries,
        present.1 ≠ [] ∧ disk.entry? present.1.dropLast = some .directory) ∧
      ∀ present ∈ disk.entries, ∀ name ∈ present.1, IsFileName name)
    ⟨fun ⟨distinct, placed, named⟩ => ⟨distinct, placed, named⟩,
      fun ⟨distinct, placed, named⟩ => ⟨distinct, placed, named⟩⟩

/-- The content of the file at a location. -/
def content? (disk : Disk) (location : Location) : Option ByteArray :=
  match disk.entry? location with
  | some (.file content) => some content
  | _ => none

variable {disk : Disk} {location front back : Location} {entry : Entry}
  {content : ByteArray}

@[simp]
theorem entry?_root : disk.entry? [] = some .directory :=
  rfl

theorem content?_eq_some_iff :
    disk.content? location = some content ↔
      disk.entry? location = some (.file content) := by
  unfold content?
  split
  · rename_i other found
    rw [found]
    simp
  · rename_i noFile
    constructor
    · intro impossible
      cases impossible
    · intro found
      exact absurd found (noFile content)

/-! ## What stands where -/

theorem lookup_eq_some_of_mem
    {entries : List (Location × Entry)}
    (distinct : (entries.map Prod.fst).Nodup)
    (present : (location, entry) ∈ entries) :
    entries.lookup location = some entry := by
  obtain ⟨before, after, rfl⟩ := List.append_of_mem present
  refine List.lookup_eq_some_iff.mpr ⟨before, after, rfl, ?_⟩
  intro other member
  rw [List.map_append, List.nodup_append] at distinct
  have different :=
    distinct.2.2 other.1 (List.mem_map_of_mem member) location
      (List.mem_cons_self)
  exact bne_iff_ne.mpr (Ne.symm different)

theorem mem_entries_of_entry?_eq_some
    (below : location ≠ [])
    (found : disk.entry? location = some entry) :
    (location, entry) ∈ disk.entries := by
  unfold entry? at found
  rw [if_neg below] at found
  obtain ⟨before, after, split, -⟩ := List.lookup_eq_some_iff.mp found
  rw [split]
  exact List.mem_append_right _ List.mem_cons_self

namespace IsTree

theorem entry?_of_mem
    (tree : disk.IsTree) (present : (location, entry) ∈ disk.entries) :
    disk.entry? location = some entry := by
  unfold entry?
  rw [if_neg (tree.placed _ present).1]
  exact lookup_eq_some_of_mem tree.distinct present

theorem isFileName
    (tree : disk.IsTree) (found : disk.entry? location = some entry) :
    ∀ name ∈ location, IsFileName name := by
  by_cases below : location = []
  · rw [below]
    exact List.forall_mem_nil _
  · exact tree.named _ (mem_entries_of_entry?_eq_some below found)

theorem parent
    (tree : disk.IsTree) {name : String}
    (found : disk.entry? (location ++ [name]) = some entry) :
    disk.entry? location = some .directory := by
  have placed :=
    (tree.placed _ (mem_entries_of_entry?_eq_some (by simp) found)).2
  rwa [List.dropLast_concat] at placed

/-- What stands on the way to something is a directory. -/
theorem directory_of_append
    (tree : disk.IsTree)
    (found : disk.entry? (front ++ back) = some entry)
    (further : back ≠ []) :
    disk.entry? front = some .directory := by
  induction back using List.reverseRecOn generalizing entry with
  | nil => exact absurd rfl further
  | append_singleton rest name ih =>
      rw [← List.append_assoc] at found
      have around := tree.parent found
      by_cases last : rest = []
      · rwa [last, List.append_nil] at around
      · exact ih around last

theorem mem_filesBelow_iff
    (tree : disk.IsTree) {names : List String} :
    (names, content) ∈ disk.filesBelow location ↔
      disk.content? (location ++ names) = some content := by
  rw [content?_eq_some_iff, filesBelow, List.mem_filterMap]
  constructor
  · rintro ⟨⟨place, stands⟩, present, found⟩
    cases stands with
    | directory => cases found
    | file held =>
        simp only [List.isPrefixOf_iff_prefix, Option.ite_none_right_eq_some,
          Option.some.injEq, Prod.mk.injEq] at found
        obtain ⟨⟨rest, rfl⟩, rfl, rfl⟩ := found
        rw [List.drop_left]
        exact tree.entry?_of_mem present
  · intro found
    have below : location ++ names ≠ [] := by
      intro root
      rw [root, entry?_root] at found
      cases found
    exact ⟨_, mem_entries_of_entry?_eq_some below found, by simp⟩

end IsTree

/-! ## Writing -/

theorem entry?_put
    (below : location ≠ []) (place : Location) :
    Disk.entry? (disk.put location entry) place =
      if place = location then some entry else disk.entry? place := by
  split_ifs with here
  · rw [here]
    exact put_entry_self below
  · exact put_entry_of_ne here

theorem content?_put
    (below : location ≠ []) (content : ByteArray) (place : Location) :
    (disk.put location (.file content)).content? place =
      if place = location then some content else disk.content? place := by
  rw [content?, entry?_put below]
  split_ifs with here
  · rfl
  · rfl

/-- Where a file can be written or a directory made. -/
structure IsFree (disk : Disk) (location : Location) : Prop where
  below : location ≠ []
  around : disk.entry? location.dropLast = some .directory
  named : ∀ name ∈ location, IsFileName name
  notDirectory : disk.entry? location ≠ some .directory

theorem IsTree.put
    (tree : disk.IsTree) (free : disk.IsFree location) (entry : Entry) :
    (disk.put location entry).IsTree where
  distinct := by
    have others :
        ((disk.entries.filter fun present => present.1 != location).map
          Prod.fst).Nodup :=
      (List.filter_sublist.map Prod.fst).nodup tree.distinct
    refine List.nodup_cons.mpr ⟨?_, others⟩
    rintro member
    obtain ⟨present, kept, same⟩ := List.mem_map.mp member
    have different := (List.mem_filter.mp kept).2
    exact absurd same (bne_iff_ne.mp different)
  placed := by
    have unmoved : ∀ directory,
        disk.entry? directory = some .directory →
          Disk.entry? (disk.put location entry) directory =
            some .directory := by
      intro directory stands
      rw [put_entry_of_ne]
      · exact stands
      · rintro rfl
        exact free.notDirectory stands
    refine List.forall_mem_cons.mpr ⟨⟨free.below, unmoved _ free.around⟩, ?_⟩
    intro present kept
    have placed := tree.placed present (List.mem_of_mem_filter kept)
    exact ⟨placed.1, unmoved _ placed.2⟩
  named := by
    refine List.forall_mem_cons.mpr ⟨free.named, fun present kept => ?_⟩
    exact tree.named present (List.mem_of_mem_filter kept)

/-! ## Removing -/

/-- A disk less what is told to go. -/
def without (disk : Disk) (goes : Location × Entry → Bool) : Disk :=
  { disk with entries := disk.entries.filter fun present => !goes present }

variable {goes : Location × Entry → Bool}

theorem without_eq_self
    (none : ∀ present ∈ disk.entries, goes present = false) :
    disk.without goes = disk := by
  have kept :
      disk.entries.filter (fun present => !goes present) = disk.entries :=
    List.filter_eq_self.mpr fun present member => by simp [none present member]
  rw [without, kept]

theorem without_congr
    {others : Location × Entry → Bool}
    (same : ∀ present ∈ disk.entries, goes present = others present) :
    disk.without goes = disk.without others := by
  have kept := List.filter_congr fun present member =>
    congrArg Bool.not (same present member)
  rw [without, without, kept]

theorem without_without (disk : Disk) (goes others : Location × Entry → Bool) :
    (disk.without goes).without others =
      disk.without fun present => goes present || others present := by
  simp only [without, List.filter_filter, Bool.not_or]
  congr 1
  exact List.filter_congr fun present _ => Bool.and_comm _ _

theorem IsTree.entry?_without
    (tree : disk.IsTree) (below : location ≠ []) :
    Disk.entry? (disk.without goes) location = some entry ↔
      disk.entry? location = some entry ∧
        goes (location, entry) = false := by
  constructor
  · intro found
    have kept := List.mem_filter.mp (mem_entries_of_entry?_eq_some below found)
    exact ⟨tree.entry?_of_mem kept.1, by simpa using kept.2⟩
  · rintro ⟨found, stays⟩
    have kept : (location, entry) ∈ (disk.without goes).entries :=
      List.mem_filter.mpr ⟨mem_entries_of_entry?_eq_some below found, by simp [stays]⟩
    unfold entry?
    rw [if_neg below]
    exact lookup_eq_some_of_mem
      ((List.filter_sublist.map Prod.fst).nodup tree.distinct) kept

/-- Where nothing goes, all is as before. -/
theorem IsTree.entry?_without_of_stays
    (tree : disk.IsTree)
    (stays : ∀ entry, goes (location, entry) = false) :
    Disk.entry? (disk.without goes) location = disk.entry? location := by
  by_cases below : location = []
  · rw [below]
    rfl
  · refine Option.ext fun entry => ?_
    rw [tree.entry?_without below]
    exact and_iff_left (stays entry)

/-- A disk stays a tree if all that lies in a directory goes with it. -/
theorem IsTree.without
    (tree : disk.IsTree)
    (together :
      ∀ present ∈ disk.entries,
        goes (present.1.dropLast, .directory) = true → goes present = true) :
    (disk.without goes).IsTree where
  distinct := (List.filter_sublist.map Prod.fst).nodup tree.distinct
  placed := by
    intro present kept
    obtain ⟨member, stays⟩ := List.mem_filter.mp kept
    obtain ⟨below, around⟩ := tree.placed present member
    refine ⟨below, ?_⟩
    by_cases first : present.1.dropLast = []
    · rw [first]
      rfl
    · refine (tree.entry?_without first).mpr ⟨around, ?_⟩
      by_contra goes_around
      have gone := together present member (by simpa using goes_around)
      simp [gone] at stays
  named := fun present kept => tree.named present (List.mem_of_mem_filter kept)

end Disk

end Guidebook
