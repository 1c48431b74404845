import Guidebook.Files.Disk
import Guidebook.Proofs.Files.Path
import Mathlib.Tactic.Common

/-!
# Where paths lead

A path that leads to a location leads to where its components lead, one after the other.  Paths of
the same components that lead anywhere thus lead to the same location, and what is read along them
is the same; they may differ only in that one of them is too long.
-/

namespace Guidebook

/-- Where a component leads from a location. -/
def Path.Component.move (here : Location) : Path.Component → Location
  | .root => []
  | .current => here
  | .parent => here.dropLast
  | .name text => here ++ [text]

/-- Where a path leads from a location if it leads anywhere. -/
def Path.target (path : Path) (here : Location) : Location :=
  path.components.foldl Component.move here

namespace Path

theorem target_eq (text : String) (here : Location) :
    (Path.mk text).target here =
      (steps text).foldl Component.move
        (if (Path.mk text).isAbsolute then [] else here) := by
  rw [target, components_eq, List.foldl_append, lead]
  split
  · rfl
  · split <;> rfl

theorem target_of_absolute
    {path : Path} (absolute : path.isAbsolute = true)
    (here other : Location) :
    path.target here = path.target other := by
  rw [target_eq, target_eq, if_pos absolute, if_pos absolute]

/-- A joined path leads to where the part leads from where the base leads. -/
theorem target_join (base : Path) (part : String) (here : Location) :
    (base.join part).target here =
      (Path.mk part).target (base.target here) := by
  obtain ⟨text⟩ := base
  by_cases absolute : (Path.mk part).isAbsolute = true
  · have afresh : (Path.mk text).join part = ⟨part⟩ := if_pos absolute
    rw [afresh]
    exact target_of_absolute absolute _ _
  · have notAbsolute : ¬(part.toList.head? == some '/') = true := absolute
    have relative :
        (Path.mk part).target ((Path.mk text).target here) =
          ((Path.mk text).components ++ steps part).foldl
            Component.move here := by
      rw [target_eq, if_neg absolute, List.foldl_append]
      rfl
    rw [relative, join, if_neg notAbsolute]
    split
    · rename_i plain
      rcases plain with empty | slashed
      · subst empty
        rw [String.empty_append, target_eq, if_neg absolute]
        rfl
      · obtain ⟨front, rfl⟩ := exists_append_slash slashed
        exact congrArg (List.foldl Component.move here)
          (components_append_slash front part)
    · rename_i plain
      rw [target, components_append_slash,
        components_slash (mt Or.inl plain)]

end Path

namespace Disk

variable {disk : Disk} {path other : Path} {location : Location}

theorem follow_eq_ok
    {here : Location} {pieces : List String}
    (leads : disk.follow here pieces = .ok location) :
    location =
      (pieces.filterMap Path.Component.ofPiece?).foldl
        Path.Component.move here := by
  induction pieces generalizing here with
  | nil => exact (Except.ok.inj leads).symm
  | cons piece rest ih =>
      rw [follow] at leads
      cases passed : disk.entry? here with
      | none =>
          rw [passed] at leads
          contradiction
      | some entry =>
          rw [passed] at leads
          cases entry with
          | file content => contradiction
          | directory =>
              simp only at leads
              rw [List.filterMap_cons, Path.Component.ofPiece?]
              split_ifs at leads ⊢
              all_goals exact ih leads

theorem locate_eq_ok
    (leads : disk.locate path = .ok location) :
    location = path.target disk.workingDirectory := by
  unfold locate at leads
  split_ifs at leads with empty nul long absolute
  · rw [follow_eq_ok leads, Path.target_eq, if_pos absolute]
    rfl
  · rw [follow_eq_ok leads, Path.target_eq, if_neg absolute]
    rfl

/-- What is read along a path is the content of the file to which it leads. -/
theorem read_eq_ok
    {content : ByteArray} (read : disk.read path = .ok content) :
    disk.entry? (path.target disk.workingDirectory) =
      some (.file content) := by
  unfold Disk.read at read
  split at read
  · contradiction
  · rename_i location located
    rw [← locate_eq_ok located]
    split at read
    · contradiction
    · contradiction
    · rename_i found
      rwa [← Except.ok.inj read]

theorem readText_eq_ok
    {text : String} (read : disk.readText path = .ok text) :
    ∃ content,
      disk.read path = .ok content ∧
        String.fromUTF8? content = some text := by
  unfold Disk.readText at read
  split at read
  · contradiction
  · rename_i content found
    split at read
    · rename_i decoded
      exact ⟨content, found, Except.ok.inj read ▸ decoded⟩
    · contradiction

/-- Along paths to the same location the same text is read. -/
theorem readText_unique
    {text otherText : String}
    (same :
      path.target disk.workingDirectory = other.target disk.workingDirectory)
    (read : disk.readText path = .ok text)
    (readToo : disk.readText other = .ok otherText) :
    text = otherText := by
  obtain ⟨content, found, decoded⟩ := readText_eq_ok read
  obtain ⟨otherContent, foundToo, decodedToo⟩ := readText_eq_ok readToo
  have entry := read_eq_ok found
  rw [same, read_eq_ok foundToo] at entry
  cases entry
  exact Option.some.inj (decoded.symm.trans decodedToo)

end Disk

end Guidebook
