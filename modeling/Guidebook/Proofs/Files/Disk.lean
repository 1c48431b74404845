import Guidebook.Files.Disk
import Mathlib.Tactic.Common

/-!
# What is written can be read

Setting what stands at a location changes nothing at other locations.  A path that leads to the
location of a file has passed through directories only, so it leads there after the file has been
written, and reading along it gives what was written.
-/

namespace Guidebook

namespace Disk

variable {disk : Disk} {location other : Location} {entry : Entry}

theorem lookup_filter_ne
    (different : other ≠ location) (entries : List (Location × Entry)) :
    (entries.filter fun present => present.1 != location).lookup other =
      entries.lookup other := by
  induction entries with
  | nil => rfl
  | cons present rest ih =>
      obtain ⟨place, content⟩ := present
      by_cases here : place = location
      · subst here
        rw [List.filter_cons_of_neg (by simp), ih, List.lookup_cons,
          beq_false_of_ne different]
      · rw [List.filter_cons_of_pos (by simpa using here), List.lookup_cons,
          List.lookup_cons, ih]

theorem put_entry_of_ne (different : other ≠ location) :
    Disk.entry? (disk.put location entry) other = disk.entry? other := by
  unfold entry? put
  split
  · rfl
  · rw [List.lookup_cons, beq_false_of_ne different]
    exact lookup_filter_ne different disk.entries

theorem put_entry_self (below : location ≠ []) :
    Disk.entry? (disk.put location entry) location = some entry := by
  unfold entry? put
  rw [if_neg below, List.lookup_cons, beq_self_eq_true]

/-- A path to a location at which no directory stands does not pass through the location. -/
theorem follow_put
    (noDirectory : disk.entry? location ≠ some .directory)
    {here : Location} {pieces : List String}
    (leads : disk.follow here pieces = .ok location) :
    (disk.put location entry).follow here pieces = .ok location := by
  induction pieces generalizing here with
  | nil => exact leads
  | cons piece rest ih =>
      rw [follow] at leads ⊢
      cases found : disk.entry? here with
      | none =>
          rw [found] at leads
          cases leads
      | some passed =>
          rw [found] at leads
          cases passed with
          | file content => cases leads
          | directory =>
              have elsewhere : here ≠ location := by
                rintro rfl
                exact noDirectory found
              rw [put_entry_of_ne elsewhere, found]
              simp only at leads ⊢
              split_ifs at leads ⊢
              all_goals exact ih leads

theorem locate_put
    (noDirectory : disk.entry? location ≠ some .directory)
    {path : Path}
    (leads : disk.locate path = .ok location) :
    (disk.put location entry).locate path = .ok location := by
  unfold locate at leads ⊢
  split_ifs at leads ⊢
  all_goals exact follow_put noDirectory leads

/-- What a write leaves: a file at the location of its path, at which no directory stood. -/
theorem write_eq_ok
    {path : Path} {content : ByteArray} {after : Disk}
    (written : disk.write path content = .ok after) :
    ∃ location, disk.locate path = .ok location ∧
      disk.entry? location ≠ some .directory ∧
        after = disk.put location (.file content) := by
  unfold write at written
  split at written
  · cases written
  · rename_i location located
    split at written
    · cases written
    · rename_i noDirectory
      cases written
      exact ⟨location, located, noDirectory, rfl⟩

/-- What is written along a path is what is read along it. -/
theorem read_of_write
    {path : Path} {content : ByteArray} {after : Disk}
    (written : disk.write path content = .ok after) :
    after.read path = .ok content := by
  obtain ⟨location, located, noDirectory, rfl⟩ := write_eq_ok written
  have below : location ≠ [] := by
    rintro rfl
    exact noDirectory rfl
  rw [read, locate_put noDirectory located]
  simp only [put_entry_self below]

end Disk

end Guidebook
