import Guidebook.Proofs.Files.Copies

/-!
# Trees outside of what is written

Whether a file is shown depends on files with rules in the directories around it.  A location lies
outside a tree if neither holds the other and no such file lies below the location.  Then the tree
holds and shows the same files after others have been put in place below the location, and a path
that led to it still does.
-/

namespace Guidebook

namespace Disk

open Guidebook.Path

variable {disk before after : Disk} {path : Path}
  {here root location place start : Location} {names : List String}
  {content : ByteArray} {files : List String → Option ByteArray}

/-! ## Trees -/

/-- The file under names in the tree at a location. -/
def below? (disk : Disk) (location : Location) :
    List String → Option ByteArray
  | [] => none
  | name :: names => disk.content? (location ++ name :: names)

theorem below?_of_ne_nil (further : names ≠ []) :
    disk.below? location names = disk.content? (location ++ names) := by
  cases names with
  | nil => exact absurd rfl further
  | cons name rest => rfl

theorem below?_of_directory
    (stands : disk.entry? location = some .directory) :
    disk.below? location names = disk.content? (location ++ names) := by
  by_cases root : names = []
  · rw [root, List.append_nil, content?, stands]
    rfl
  · exact below?_of_ne_nil root

theorem content?_of_below?
    (found : disk.below? location names = some content) :
    disk.content? (location ++ names) = some content := by
  rwa [below?_of_ne_nil] at found
  rintro rfl
  cases found

/-- A tree that can be copied: its path leads to what it holds, and nothing is hidden or ignored. -/
structure Offers (disk : Disk) (path : Path) : Prop where
  reached :
    ∀ names content, disk.below? (disk.target path) names = some content →
      disk.locate path = .ok (disk.target path)
  shown :
    ∀ names content, disk.below? (disk.target path) names = some content →
      disk.showsBelow (disk.target path) names = true

theorem IsTree.offers
    (tree : disk.IsTree)
    (leads : disk.locate path = .ok (disk.target path))
    (shown :
      ∀ file ∈ disk.filesBelow (disk.target path),
        disk.showsBelow (disk.target path) file.1 = true) :
    disk.Offers path where
  reached := fun _ _ _ => leads
  shown := fun names content found =>
    shown (names, content)
      (tree.mem_filesBelow_iff.mpr (content?_of_below? found))

/-! ## Locations outside a tree -/

/-- Locations neither of which holds the other. -/
structure Apart (first second : Location) : Prop where
  notAround : ¬first <+: second
  notInside : ¬second <+: first

theorem Apart.append_ne
    (apart : Apart location root) (names others : List String) :
    location ++ names ≠ root ++ others := by
  intro same
  rcases List.prefix_or_prefix_of_prefix
      (same ▸ List.prefix_append location names)
      (List.prefix_append root others) with around | inside
  · exact apart.notAround around
  · exact apart.notInside inside

theorem Apart.not_prefix
    (apart : Apart location root) (inside : root <+: place) :
    ¬location <+: place := by
  rintro ⟨names, rfl⟩
  obtain ⟨others, same⟩ := inside
  exact apart.append_ne names others same.symm

theorem Apart.below
    (apart : Apart location root)
    (further : location <+: here) (inside : root <+: place) :
    Apart here place where
  notAround := fun around =>
    apart.not_prefix inside (further.trans around)
  notInside := fun around => by
    obtain ⟨names, rfl⟩ := further
    obtain ⟨others, same⟩ := inside.trans around
    exact apart.append_ne names others same.symm

/-- A location apart from a tree below which there are no rules for what the tree shows. -/
structure Outside (location root : Location) : Prop
    extends Apart location root where
  noRules :
    ∀ around, around <+: root → ∀ kind ∈ ruleFiles,
      ¬location <+: around ++ kind

/--
Steps below a location that is apart from a tree lead outside of the tree.  The rules of a
repository may lie two steps below a location around the tree, but under names of their own.
-/
theorem Apart.outside
    (apart : Apart location root) (long : 2 ≤ names.length)
    (unruled : names ≠ ["info", "exclude"]) :
    Outside (location ++ names) root where
  toApart := apart.below (List.prefix_append _ _) (List.prefix_refl root)
  noRules := by
    intro around within kind member below
    have start := (List.prefix_append location names).trans below
    rcases List.prefix_or_prefix_of_prefix start
        (List.prefix_append around kind) with inside | ⟨inner, rfl⟩
    · exact apart.notAround (inside.trans within)
    · rw [List.append_assoc, List.prefix_append_right_inj] at below
      have further : 1 ≤ inner.length := by
        refine List.length_pos_of_ne_nil ?_
        rintro rfl
        rw [List.append_nil] at apart
        exact apart.notAround within
      have fits : inner.length + names.length ≤ kind.length := by
        simpa using below.length_le
      have deep : ∀ kind ∈ ruleFiles,
          3 ≤ kind.length → kind = [".git", "info", "exclude"] := by
        decide
      obtain rfl := deep kind member (by omega)
      change _ ≤ 3 at fits
      obtain ⟨first, rfl⟩ := List.length_eq_one_iff.mp
        (show inner.length = 1 by omega)
      rw [List.singleton_append, List.cons_prefix_cons] at below
      exact unruled
        (below.2.eq_of_length (Nat.le_antisymm below.2.length_le long))

/-! ## What stays -/

theorem findSome?_congr
    {α β : Type} {first second : α → Option β} {members : List α}
    (same : ∀ member ∈ members, first member = second member) :
    members.findSome? first = members.findSome? second := by
  induction members with
  | nil => rfl
  | cons member rest ih =>
      obtain ⟨here, later⟩ := List.forall_mem_cons.mp same
      rw [List.findSome?_cons, List.findSome?_cons, here, ih later]

theorem follow_of_directories
    (directories :
      ∀ place, before.entry? place = some .directory →
        after.entry? place = some .directory)
    {pieces : List String}
    (leads : before.follow here pieces = .ok location) :
    after.follow here pieces = .ok location := by
  induction pieces generalizing here with
  | nil => exact leads
  | cons piece rest ih =>
      rw [follow] at leads ⊢
      cases passed : before.entry? here with
      | none =>
          rw [passed] at leads
          cases leads
      | some entry =>
          rw [passed] at leads
          cases entry with
          | file content => cases leads
          | directory =>
              rw [directories here passed]
              simp only at leads ⊢
              split_ifs at leads ⊢
              all_goals exact ih leads

theorem rulesAt_congr
    (same : after.content? place = before.content? place) :
    after.rulesAt place = before.rulesAt place := by
  have rules : ∀ disk : Disk,
      disk.rulesAt place =
        (disk.content? place).elim [] fun content =>
          IgnoreRule.ofText (IgnoreRule.readableText content) := by
    intro disk
    unfold rulesAt content?
    cases disk.entry? place with
    | none => rfl
    | some entry => cases entry <;> rfl
  rw [rules, rules, same]

namespace Fills

variable (fills : before.Fills location files after)
  (outside : Outside location root)

include fills

theorem locate_of_locate (leads : before.locate path = .ok place) :
    after.locate path = .ok place := by
  unfold locate at leads ⊢
  rw [fills.workingDirectory]
  split_ifs at leads ⊢
  all_goals exact follow_of_directories fills.directories leads

theorem below?_eq (apart : Apart location root) (names : List String) :
    after.below? root names = before.below? root names := by
  cases names with
  | nil => rfl
  | cons name rest =>
      exact fills.kept _ (apart.not_prefix (List.prefix_append root _))

include outside

theorem rulesAt_eq
    {around : Location} (along : around <+: start) (within : root <+: start)
    {kind : List String} (member : kind ∈ ruleFiles) :
    after.rulesAt (around ++ kind) = before.rulesAt (around ++ kind) := by
  apply rulesAt_congr
  apply fills.kept
  rcases List.prefix_or_prefix_of_prefix along within with outer | inner
  · exact outside.noRules around outer kind member
  · exact outside.not_prefix (inner.trans (List.prefix_append around kind))

theorem showsEntry_eq (within : root <+: place) (isDirectory : Bool) :
    after.showsEntry place isDirectory =
      before.showsEntry place isDirectory := by
  have verdicts :
      ruleFiles.findSome? (fun kind =>
          after.verdictOfKind? kind place isDirectory) =
        ruleFiles.findSome? fun kind =>
          before.verdictOfKind? kind place isDirectory := by
    refine findSome?_congr fun kind member => ?_
    unfold verdictOfKind?
    refine findSome?_congr fun count _ => ?_
    rw [fills.rulesAt_eq outside (List.take_prefix count place) within member]
  rw [showsEntry, showsEntry, verdicts]

theorem showsBelow_eq (within : root <+: start) (names : List String) :
    after.showsBelow start names = before.showsBelow start names := by
  unfold showsBelow
  congr 1
  funext count
  exact fills.showsEntry_eq outside
    (within.trans (List.prefix_append start _)) _

/-- A tree outside of what is written can be copied as before. -/
theorem offers
    (offers : before.Offers path) (within : root <+: before.target path) :
    after.Offers path := by
  have apart : Apart location (before.target path) :=
    outside.toApart.below (List.prefix_refl location) within
  constructor
  case reached =>
    intro names content found
    rw [fills.target_eq, fills.below?_eq apart] at found
    rw [fills.target_eq]
    exact fills.locate_of_locate (offers.reached names content found)
  case shown =>
    intro names content found
    rw [fills.target_eq, fills.below?_eq apart] at found
    rw [fills.target_eq, fills.showsBelow_eq outside within]
    exact offers.shown names content found

end Fills

end Disk

end Guidebook
