import Guidebook.Files.Ignore
import Guidebook.Proofs.Files.Ways
import Guidebook.Proofs.Workspace

/-!
# Copies

Making directories leaves all files as they are, and copying a file changes what stands in one
place.  So files that are copied below a location come in front of those that were there, and all
others stay; a directory stays a directory throughout.
-/

namespace Guidebook

namespace Disk

open Guidebook.Path

variable {disk before middle after : Disk} {path source destination : Path}
  {here location place : Location} {names : List String}
  {content : ByteArray} {files : List String → Option ByteArray}

/-- Where a path leads if all on its way is there. -/
def target (disk : Disk) (path : Path) : Location :=
  path.target disk.workingDirectory

theorem isDirectory_iff :
    disk.isDirectory path = true ↔
      disk.locate path = .ok (disk.target path) ∧
        disk.entry? (disk.target path) = some .directory := by
  unfold isDirectory at?
  constructor
  · intro present
    cases leads : disk.locate path with
    | error reason =>
        rw [leads] at present
        cases present
    | ok place =>
        have here : place = disk.target path := locate_eq_ok leads
        subst here
        rw [leads] at present
        refine ⟨rfl, ?_⟩
        split at present
        · assumption
        · cases present
  · rintro ⟨leads, stands⟩
    rw [leads]
    simp only [stands]

/-- What becomes of a disk when files are put in place below a location. -/
structure Fills
    (before : Disk) (location : Location)
    (files : List String → Option ByteArray) (after : Disk) : Prop where
  tree : after.IsTree
  workingDirectory : after.workingDirectory = before.workingDirectory
  directories :
    ∀ place, before.entry? place = some .directory →
      after.entry? place = some .directory
  filled :
    ∀ names, after.content? (location ++ names) =
      (files names).or (before.content? (location ++ names))
  kept :
    ∀ place, ¬location <+: place →
      after.content? place = before.content? place

namespace Fills

theorem target_eq (fills : before.Fills location files after) (path : Path) :
    after.target path = before.target path := by
  rw [target, target, fills.workingDirectory]

theorem nothing (tree : disk.IsTree) (location : Location) :
    disk.Fills location (fun _ => none) disk where
  tree := tree
  workingDirectory := rfl
  directories := fun _ stands => stands
  filled := fun _ => rfl
  kept := fun _ _ => rfl

/-- Of files that are put in place one after the other, the later ones come in front. -/
theorem trans
    {others : List String → Option ByteArray}
    (first : before.Fills location files middle)
    (second : middle.Fills location others after) :
    before.Fills location (fun names => (others names).or (files names))
      after where
  tree := second.tree
  workingDirectory := second.workingDirectory.trans first.workingDirectory
  directories := fun place stands =>
    second.directories place (first.directories place stands)
  filled := fun names => by
    rw [second.filled, first.filled, Option.or_assoc]
  kept := fun place outside =>
    (second.kept place outside).trans (first.kept place outside)

theorem congr
    {others : List String → Option ByteArray}
    (fills : before.Fills location files after)
    (same : ∀ names, files names = others names) :
    before.Fills location others after := by
  rwa [← funext same]

/-- What is put in place further down is put in place below. -/
theorem outward
    {inner : List String}
    (fills : before.Fills (location ++ inner) files after) :
    before.Fills location (fun names => (names.dropPrefix? inner).bind files)
      after where
  tree := fills.tree
  workingDirectory := fills.workingDirectory
  directories := fills.directories
  filled := fun names => by
    by_cases below : inner <+: names
    · obtain ⟨rest, rfl⟩ := below
      rw [List.dropPrefix?_append_of_beq rest (beq_self_eq_true inner),
        Option.bind_some, ← List.append_assoc]
      exact fills.filled rest
    · have outside : names.dropPrefix? inner = none := by
        refine Option.eq_none_iff_forall_ne_some.mpr fun rest found => ?_
        obtain ⟨front, rfl, same⟩ := List.dropPrefix?_eq_some_iff.mp found
        rw [beq_iff_eq] at same
        exact below (same ▸ List.prefix_append front rest)
      rw [outside, Option.bind_none, Option.none_or]
      refine fills.kept _ ?_
      rwa [List.prefix_append_right_inj]
  kept := fun place outside =>
    fills.kept place fun below =>
      outside ((List.prefix_append location inner).trans below)

end Fills

/-! ## Directories and single files -/

/-- Where a path leads that leads to no directory, a file or directory can be put in place. -/
theorem IsTree.isFree_of_follow
    (tree : disk.IsTree) {pieces : List String}
    (noSlash : ∀ piece ∈ pieces, '/' ∉ piece.toList)
    (noNul : ∀ piece ∈ pieces, '\x00' ∉ piece.toList)
    (further : pieces ≠ [])
    (leads : disk.follow here pieces = .ok location)
    (noDirectory : disk.entry? location ≠ some .directory) :
    disk.IsFree location := by
  obtain ⟨front, piece, rfl⟩ :=
    (List.eq_nil_or_concat' pieces).resolve_left further
  have last : piece ∈ front ++ [piece] := by simp
  rw [follow_append] at leads
  cases reached : disk.follow here front with
  | error reason =>
      rw [reached] at leads
      cases leads
  | ok around =>
      rw [reached, Except.bind, follow] at leads
      -- Only a directory is followed, and of its pieces only a name leads away from directories.
      cases passed : disk.entry? around with
      | none =>
          rw [passed] at leads
          cases leads
      | some entry =>
          rw [passed] at leads
          cases entry with
          | file content => cases leads
          | directory =>
              simp only [follow] at leads
              split_ifs at leads with isNothing isParent isLong
              · cases leads
                exact absurd passed noDirectory
              · cases leads
                refine absurd ?_ noDirectory
                cases around using List.reverseRecOn with
                | nil => rfl
                | append_singleton outer name =>
                    rw [List.dropLast_concat]
                    exact tree.parent passed
              · cases leads
                obtain ⟨nonempty, notCurrent⟩ := not_or.mp isNothing
                constructor
                case below => simp
                case around =>
                  rw [List.dropLast_concat]
                  exact passed
                case named =>
                  refine List.forall_mem_append.mpr
                    ⟨tree.isFileName passed, List.forall_mem_singleton.mpr ?_⟩
                  exact ⟨⟨nonempty, notCurrent, isParent, noSlash piece last⟩,
                    noNul piece last, Nat.le_of_not_lt isLong⟩
                case notDirectory => exact noDirectory

theorem IsTree.isFree_of_locate
    (tree : disk.IsTree)
    (leads : disk.locate path = .ok location)
    (noDirectory : disk.entry? location ≠ some .directory) :
    disk.IsFree location := by
  have noNul : '\x00' ∉ path.text.toList := by
    unfold locate at leads
    split_ifs at leads with empty nul long
    all_goals simpa using nul
  refine tree.isFree_of_follow
    (fun piece member => noSlash_of_mem_pieces member) ?_ (by simp [pieces])
    (follow_of_locate leads) noDirectory
  intro piece member
  obtain ⟨characters, split, rfl⟩ := List.mem_map.mp member
  rw [String.toList_ofList]
  exact fun found => noNul (mem_of_mem_splitOn split _ found)

theorem IsTree.fills_put_directory
    (tree : disk.IsTree) (free : disk.IsFree place)
    (missing : disk.entry? place = none) (location : Location) :
    disk.Fills location (fun _ => none) (disk.put place .directory) := by
  have same : ∀ other,
      (disk.put place .directory).content? other = disk.content? other := by
    intro other
    rw [content?, content?, entry?_put free.below]
    split_ifs with here
    · rw [here, missing]
    · rfl
  constructor
  case tree => exact tree.put free .directory
  case workingDirectory => rfl
  case directories =>
    intro other stands
    rw [entry?_put free.below]
    split_ifs
    · rfl
    · exact stands
  case filled => exact fun names => same _
  case kept => exact fun other _ => same other

theorem IsTree.fills_put_file
    (tree : disk.IsTree) (free : disk.IsFree (location ++ names))
    (content : ByteArray) :
    disk.Fills location
      (fun other => if other = names then some content else none)
      (disk.put (location ++ names) (.file content)) where
  tree := tree.put free (.file content)
  workingDirectory := rfl
  directories := by
    intro other stands
    rw [entry?_put free.below, if_neg]
    · exact stands
    · rintro rfl
      exact free.notDirectory stands
  filled := by
    intro other
    rw [content?_put free.below]
    simp only [List.append_cancel_left_eq]
    split_ifs <;> rfl
  kept := by
    intro other outside
    rw [content?_put free.below, if_neg]
    rintro rfl
    exact outside (List.prefix_append location names)

theorem IsTree.fills_makeDirectory
    (tree : disk.IsTree)
    (made : disk.makeDirectory path = .ok after) (location : Location) :
    disk.Fills location (fun _ => none) after := by
  unfold makeDirectory at made
  split at made
  · cases made
  · rename_i place leads
    split at made
    · cases made
    · rename_i missing
      cases made
      have free : disk.IsFree place :=
        tree.isFree_of_locate leads (by simp [missing])
      exact tree.fills_put_directory free missing location

/-- Making nested directories leaves all files as they are, even if it fails. -/
theorem IsTree.fills_makeNested
    (tree : disk.IsTree) (paths : List Path) (location : Location) :
    disk.Fills location (fun _ => none) (disk.makeNested paths).2 := by
  induction paths generalizing disk with
  | nil => exact Fills.nothing tree location
  | cons path outer ih =>
      have settled : ∀ {reason : DiskError} {other : Disk},
          (if other.isDirectory path then
              ((.ok (), other) : Except DiskError Unit × Disk)
            else (.error reason, other)).2 = other := by
        intro reason other
        split <;> rfl
      rw [makeNested]
      split
      · rename_i made stands
        exact tree.fills_makeDirectory stands location
      · have around := ih tree
        split
        · rename_i reason made stands
          rwa [stands] at around
        · rename_i made stands
          rw [stands] at around
          split
          · rename_i further also
            exact around.trans
              (around.tree.fills_makeDirectory also location)
          · rw [settled]
            exact around
      · rw [settled]
        exact Fills.nothing tree location

theorem IsTree.fills_makeDirectories
    (tree : disk.IsTree) (path : Path) (location : Location) :
    disk.Fills location (fun _ => none) (disk.makeDirectories path).2 := by
  unfold makeDirectories
  split
  · exact Fills.nothing tree location
  · exact tree.fills_makeNested _ location

/-- Copying a file to another place puts its content there. -/
theorem IsTree.fills_copy
    (tree : disk.IsTree)
    (leads : disk.target destination = location ++ names)
    (elsewhere : disk.target source ≠ location ++ names)
    (copied : disk.copy source destination = .ok after) :
    disk.Fills location
      (fun other =>
        if other = names then disk.content? (disk.target source) else none)
      after := by
  unfold copy at copied
  split at copied
  · cases copied
  · rename_i content found
    have held := content?_eq_some_iff.mpr (read_eq_ok found)
    have different :
        (disk.locate source).toOption ≠ (disk.locate destination).toOption := by
      intro same
      unfold read at found
      split at found
      · cases found
      · rename_i origin reached
        rw [reached] at same
        cases other : disk.locate destination with
        | error reason =>
            rw [other] at same
            cases same
        | ok place =>
            rw [other] at same
            rw [locate_eq_ok reached, locate_eq_ok other] at same
            exact elsewhere ((Option.some.inj same).trans leads)
    rw [if_neg different] at copied
    obtain ⟨place, reached, noDirectory, rfl⟩ := write_eq_ok copied
    have here : place = location ++ names :=
      (locate_eq_ok reached).trans leads
    subst here
    change disk.content? (disk.target source) = some content at held
    rw [held]
    exact tree.fills_put_file (tree.isFree_of_locate reached noDirectory)
      content

end Disk

namespace Action

variable {before after : Workspace} {source destination : Path}
  {location : Location} {names : List String}

theorem fills_makeDirectories
    (tree : before.disk.IsTree) {path : Path} {outcome : Except Error Unit}
    (made : (makeDirectories path).run.run before = (outcome, after))
    (location : Location) :
    before.disk.Fills location (fun _ => none) after.disk := by
  have fills := tree.fills_makeDirectories path location
  have left :
      ((makeDirectories path).run.run before).2.disk =
        (before.disk.makeDirectories path).2 := by
    unfold makeDirectories
    rw [run_bind_state, run_disk]
    simp only
    cases before.disk.makeDirectories path with
    | mk result changed => cases result <;> rfl
  rwa [← left, made] at fills

/-- Copying a file into a directory that may be missing puts its content in place. -/
theorem fills_copyFile
    (tree : before.disk.IsTree)
    (leads : before.disk.target destination = location ++ names)
    (elsewhere : before.disk.target source ≠ location ++ names)
    (copied :
      (copyFile source destination).run.run before = (.ok (), after)) :
    before.disk.Fills location
      (fun other =>
        if other = names then
          before.disk.content? (before.disk.target source)
        else none)
      after.disk := by
  have made :
      ∃ middle : Workspace,
        (∀ location,
          before.disk.Fills location (fun _ => none) middle.disk) ∧
        middle.disk.copy source destination = .ok after.disk := by
    unfold copyFile at copied
    simp only at copied
    split at copied
    · obtain ⟨value, middle, ran, copied⟩ := run_bind_eq_ok.mp copied
      exact ⟨middle, fills_makeDirectories tree ran,
        run_changing_eq_ok copied⟩
    · exact ⟨before, Disk.Fills.nothing tree, run_changing_eq_ok copied⟩
  obtain ⟨middle, fills, copied⟩ := made
  have first := fills location
  have same :
      middle.disk.content? (before.disk.target source) =
        before.disk.content? (before.disk.target source) :=
    (fills []).filled _
  rw [← first.target_eq] at leads elsewhere
  have second := first.tree.fills_copy leads elsewhere copied
  rw [first.target_eq, same] at second
  exact (first.trans second).congr fun other => Option.or_none

end Action

end Guidebook
