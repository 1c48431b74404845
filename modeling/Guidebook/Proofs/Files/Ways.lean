import Guidebook.Proofs.Files.Tree

/-!
# Ways through a tree

A joined path is followed like the path that it starts with, and then along the part that is joined
to it.  In a tree the names on the way to something that is there can be followed, so a path that
reaches a directory and goes on along names leads to what stands below the directory, unless it is
too long.
-/

namespace Guidebook

namespace Path

/-- A part does not start afresh if it starts with a name. -/
theorem relative_of_isName
    {part : String}
    (areNames : ∀ name ∈ (Path.mk part).pieces, IsName name) :
    part.toList.head? ≠ some '/' := by
  intro absolute
  exact (areNames "" (empty_mem_pieces_of_leading absolute)).nonempty rfl

theorem target_joinAll
    {names : List String} (areNames : ∀ name ∈ names, IsName name)
    (base : Path) (here : Location) :
    (base.joinAll names).target here = base.target here ++ names := by
  induction names generalizing base with
  | nil => exact (List.append_nil _).symm
  | cons name rest ih =>
      obtain ⟨isName, rest_names⟩ := List.forall_mem_cons.mp areNames
      have single : (Path.mk name).target (base.target here) =
          base.target here ++ [name] := by
        have relative : (Path.mk name).isAbsolute = false := by
          have notAbsolute : name.toList.head? ≠ some '/' := by
            apply relative_of_isName
            rw [pieces_of_noSlash isName.noSlash]
            exact List.forall_mem_singleton.mpr isName
          simpa [isAbsolute] using notAbsolute
        rw [target_eq, relative, if_neg Bool.false_ne_true, steps,
          pieces_of_noSlash isName.noSlash, List.filterMap_cons,
          Component.ofPiece?_name isName]
        rfl
      change ((base.join name).joinAll rest).target here = _
      rw [ih rest_names, target_join, single, List.append_assoc,
        List.singleton_append]

theorem text_join_ne_empty
    {base : Path} {part : String}
    (nonempty : base.text ≠ "" ∨ part ≠ "") :
    (base.join part).text ≠ "" := by
  unfold join
  split_ifs with absolute
  · intro empty
    rw [show part = "" from empty] at absolute
    cases absolute
  · intro empty
    obtain ⟨first, second⟩ := String.append_eq_empty_iff.mp empty
    exact nonempty.elim (absurd first) (absurd second)
  · intro empty
    have middle := (String.append_eq_empty_iff.mp empty).1
    exact absurd (String.append_eq_empty_iff.mp middle).2 (by decide)

theorem text_joinAll_ne_empty
    {base : Path} {names : List String}
    (areNames : ∀ name ∈ names, IsName name)
    (nonempty : base.text ≠ "" ∨ names ≠ []) :
    (base.joinAll names).text ≠ "" := by
  induction names generalizing base with
  | nil => exact nonempty.resolve_right fun further => further rfl
  | cons name rest ih =>
      obtain ⟨isName, rest_names⟩ := List.forall_mem_cons.mp areNames
      exact ih rest_names
        (Or.inl (text_join_ne_empty (Or.inr isName.nonempty)))

end Path

namespace Disk

open Guidebook.Path

variable {disk : Disk} {base path : Path} {part : String}
  {here location : Location} {names : List String} {entry : Entry}

/-- Where a path is followed from. -/
def start (disk : Disk) (path : Path) : Location :=
  if path.isAbsolute then [] else disk.workingDirectory

/-! ## Joined paths -/

theorem follow_append (here : Location) (front back : List String) :
    disk.follow here (front ++ back) =
      (disk.follow here front).bind fun middle =>
        disk.follow middle back := by
  induction front generalizing here with
  | nil => rfl
  | cons piece rest ih =>
      rw [List.cons_append, follow, follow]
      cases disk.entry? here with
      | none => rfl
      | some entry =>
          cases entry with
          | file content => rfl
          | directory =>
              simp only
              split_ifs
              · exact ih here
              · exact ih here.dropLast
              · rfl
              · exact ih (here ++ [piece])

/-- An empty piece in front of others makes no difference. -/
theorem follow_empty_bind
    {pieces : List String} (further : pieces ≠ []) (here : Location) :
    (disk.follow here [""]).bind (fun middle => disk.follow middle pieces) =
      disk.follow here pieces := by
  obtain ⟨piece, rest, rfl⟩ := List.exists_cons_of_ne_nil further
  cases found : disk.entry? here with
  | none =>
      simp only [follow, found]
      rfl
  | some entry =>
      cases entry with
      | file content =>
          simp only [follow, found]
          rfl
      | directory =>
          have stays : disk.follow here [""] = .ok here := by
            rw [follow, found]
            exact if_pos (Or.inl rfl)
          rw [stays]
          rfl

/-- A joined path leads on from where its base leads. -/
theorem follow_join
    (relative : part.toList.head? ≠ some '/') (base : Path) :
    disk.follow (disk.start (base.join part)) (base.join part).pieces =
      (disk.follow (disk.start base) base.pieces).bind fun middle =>
        disk.follow middle (Path.mk part).pieces := by
  obtain ⟨text⟩ := base
  have further : (Path.mk part).pieces ≠ [] := by simp [pieces]
  have notAbsolute : ¬(part.toList.head? == some '/') = true := by
    simpa using relative
  unfold join
  rw [if_neg notAbsolute]
  by_cases empty : text = ""
  · subst empty
    have here : disk.start (Path.mk part) = disk.start (Path.mk "") := by
      rw [start, isAbsolute, if_neg notAbsolute]
      rfl
    rw [if_pos (Or.inl rfl), String.empty_append, here]
    exact (follow_empty_bind further _).symm
  · have here : ∀ more : String,
        disk.start (Path.mk (text ++ more)) = disk.start (Path.mk text) := by
      intro more
      obtain ⟨c, rest, split⟩ :=
        List.exists_cons_of_ne_nil (mt String.toList_eq_nil_iff.mp empty)
      rw [start, start, isAbsolute, isAbsolute, String.toList_append, split]
      rfl
    by_cases slashed : text.toList.getLast? = some '/'
    · rw [if_pos (Or.inr slashed), here]
      obtain ⟨front, rfl⟩ := exists_append_slash slashed
      have trailing := pieces_append_slash front ""
      rw [String.append_empty] at trailing
      rw [pieces_append_slash, trailing, follow_append, follow_append]
      cases disk.follow (disk.start ⟨front ++ "/"⟩) (Path.mk front).pieces with
      | error reason => rfl
      | ok middle => exact (follow_empty_bind further middle).symm
    · rw [if_neg (not_or.mpr ⟨empty, slashed⟩), String.append_assoc, here,
        ← String.append_assoc, pieces_append_slash, follow_append]

theorem follow_joinAll
    (areNames : ∀ name ∈ names, IsName name) (base : Path) :
    disk.follow (disk.start (base.joinAll names)) (base.joinAll names).pieces =
      (disk.follow (disk.start base) base.pieces).bind fun middle =>
        disk.follow middle names := by
  induction names generalizing base with
  | nil =>
      change disk.follow (disk.start base) base.pieces = _
      cases disk.follow (disk.start base) base.pieces <;> rfl
  | cons name rest ih =>
      obtain ⟨isName, rest_names⟩ := List.forall_mem_cons.mp areNames
      have single := pieces_of_noSlash isName.noSlash
      have relative : name.toList.head? ≠ some '/' := by
        apply relative_of_isName
        rw [single]
        exact List.forall_mem_singleton.mpr isName
      change disk.follow (disk.start ((base.join name).joinAll rest))
        ((base.join name).joinAll rest).pieces = _
      rw [ih rest_names, follow_join relative, single]
      cases disk.follow (disk.start base) base.pieces with
      | error reason => rfl
      | ok middle => exact (follow_append middle [name] rest).symm

/-! ## What is there can be reached -/

/-- Names are followed to what stands behind them. -/
theorem IsTree.follow_names
    (tree : disk.IsTree)
    (found : disk.entry? (here ++ names) = some entry) :
    disk.follow here names = .ok (here ++ names) := by
  induction names generalizing here with
  | nil => rw [follow, List.append_nil]
  | cons name rest ih =>
      have isFileName := tree.isFileName found name (by simp)
      have around :=
        tree.directory_of_append found (List.cons_ne_nil name rest)
      rw [← List.singleton_append, ← List.append_assoc] at found ⊢
      rw [List.singleton_append, follow, around]
      simp only
      rw [if_neg (not_or.mpr ⟨isFileName.nonempty, isFileName.notCurrent⟩),
        if_neg isFileName.notParent, if_neg (Nat.not_lt.mpr isFileName.short)]
      exact ih found

/-- A way to something that is there passes through names of files only. -/
theorem IsTree.noNul_of_follow
    (tree : disk.IsTree) {pieces : List String}
    (leads : disk.follow here pieces = .ok location)
    (found : disk.entry? location = some entry) :
    ∀ piece ∈ pieces, '\x00' ∉ piece.toList := by
  induction pieces generalizing here with
  | nil => exact List.forall_mem_nil _
  | cons piece rest ih =>
      rw [follow] at leads
      cases passed : disk.entry? here with
      | none =>
          rw [passed] at leads
          cases leads
      | some around =>
          rw [passed] at leads
          cases around with
          | file content => cases leads
          | directory =>
              simp only at leads
              split_ifs at leads with isNothing isParent isLong
              · refine List.forall_mem_cons.mpr ⟨?_, ih leads⟩
                rcases isNothing with rfl | rfl <;> decide
              · refine List.forall_mem_cons.mpr ⟨?_, ih leads⟩
                rw [isParent]
                decide
              · refine List.forall_mem_cons.mpr ⟨?_, ih leads⟩
                have stands :
                    ∃ next, disk.entry? (here ++ [piece]) = some next := by
                  cases rest with
                  | nil =>
                      rw [Except.ok.inj leads]
                      exact ⟨entry, found⟩
                  | cons next more =>
                      cases stands : disk.entry? (here ++ [piece]) with
                      | some next => exact ⟨next, rfl⟩
                      | none =>
                          rw [follow, stands] at leads
                          cases leads
                obtain ⟨next, stands⟩ := stands
                exact (tree.isFileName stands piece (by simp)).noNul

/-- A path along whose pieces something is found leads there, unless it is empty or too long. -/
theorem IsTree.locate_of_follow
    (tree : disk.IsTree)
    (leads : disk.follow (disk.start path) path.pieces = .ok location)
    (found : disk.entry? location = some entry)
    (nonempty : path.text ≠ "")
    (short : path.text.utf8ByteSize ≤ longestPath) :
    disk.locate path = .ok location := by
  have whole :
      ['/'].intercalate (path.text.toList.splitOn '/') = path.text.toList :=
    List.intercalate_splitOn '/'
  have noNul : path.text.toList.contains '\x00' = false := by
    rw [← Bool.not_eq_true, List.contains_iff_mem, ← whole]
    refine notMem_intercalate (by decide) fun piece member => ?_
    have free :=
      tree.noNul_of_follow leads found (String.ofList piece)
        (List.mem_map_of_mem member)
    rwa [String.toList_ofList] at free
  rw [locate, if_neg nonempty, noNul, if_neg Bool.false_ne_true,
    if_neg (Nat.not_lt.mpr short)]
  exact leads

theorem follow_of_locate
    (leads : disk.locate path = .ok location) :
    disk.follow (disk.start path) path.pieces = .ok location := by
  unfold locate at leads
  split_ifs at leads with empty nul long absolute
  · rwa [start, if_pos absolute]
  · rwa [start, if_neg absolute]

/-! ## Below a directory -/

/-- A path that goes on from a location along names. -/
structure Continues
    (disk : Disk) (path : Path) (location : Location) (names : List String) :
    Prop where
  leads :
    disk.follow (disk.start path) path.pieces = disk.follow location names
  nonempty : path.text ≠ ""
  areNames : ∀ name ∈ names, IsName name

theorem continues_join
    (leads : disk.follow (disk.start base) base.pieces = .ok location)
    (areNames : ∀ name ∈ (Path.mk part).pieces, IsName name) :
    disk.Continues (base.join part) location (Path.mk part).pieces where
  leads := by
    rw [follow_join (relative_of_isName areNames), leads]
    rfl
  nonempty := by
    apply text_join_ne_empty
    right
    rintro rfl
    exact (areNames "" (by decide)).nonempty rfl
  areNames := areNames

theorem continues_joinAll
    (leads : disk.follow (disk.start base) base.pieces = .ok location)
    (areNames : ∀ name ∈ names, IsName name)
    (further : names ≠ []) :
    disk.Continues (base.joinAll names) location names where
  leads := by
    rw [follow_joinAll areNames, leads]
    rfl
  nonempty := text_joinAll_ne_empty areNames (Or.inr further)
  areNames := areNames

theorem Continues.eq_of_locate
    (way : disk.Continues path location names)
    {place : Location} (leads : disk.locate path = .ok place) :
    place = location ++ names := by
  have followed := follow_of_locate leads
  rw [way.leads] at followed
  rw [follow_eq_ok followed, filterMap_ofPiece?_names way.areNames,
    foldl_move_names]

section Below

variable (tree : disk.IsTree) (way : disk.Continues path location names)
  (short : path.text.utf8ByteSize ≤ longestPath)

include tree way short

theorem IsTree.locate_continues
    (found : disk.entry? (location ++ names) = some entry) :
    disk.locate path = .ok (location ++ names) := by
  refine tree.locate_of_follow ?_ found way.nonempty short
  rw [way.leads]
  exact tree.follow_names found

/-- What stands below a directory is what a path leads to that goes on from there. -/
theorem IsTree.at?_continues :
    disk.at? path = disk.entry? (location ++ names) := by
  unfold at?
  cases found : disk.entry? (location ++ names) with
  | some entry =>
      rw [tree.locate_continues way short found]
      exact found
  | none =>
      split
      · rename_i place leads
        rw [way.eq_of_locate leads, found]
      · rfl

theorem IsTree.isDirectory_continues :
    disk.isDirectory path = true ↔
      disk.entry? (location ++ names) = some .directory := by
  unfold isDirectory
  rw [tree.at?_continues way short]
  split
  · rename_i found
    simp [found]
  · rename_i noDirectory
    exact iff_of_false Bool.false_ne_true noDirectory

theorem IsTree.isFile_continues :
    disk.isFile path = true ↔
      ∃ content, disk.entry? (location ++ names) = some (.file content) := by
  unfold isFile
  rw [tree.at?_continues way short]
  split
  · rename_i content found
    simp [found]
  · rename_i noFile
    refine iff_of_false Bool.false_ne_true ?_
    rintro ⟨content, found⟩
    exact noFile content found

theorem IsTree.removeDirectory_continues
    (found : disk.entry? (location ++ names) = some .directory) :
    disk.removeDirectory path = .ok (disk.eraseBelow (location ++ names)) := by
  rw [removeDirectory, tree.locate_continues way short found]
  simp only [found]

theorem IsTree.removeFile_continues
    {content : ByteArray}
    (found : disk.entry? (location ++ names) = some (.file content)) :
    disk.removeFile path = .ok (disk.erase (location ++ names)) := by
  rw [removeFile, tree.locate_continues way short found]
  simp only [found]

end Below

/-! ## What a way passes through -/

/-- The places at which the pieces of a path are followed. -/
def passed (here : Location) : List String → List Location
  | [] => []
  | piece :: rest =>
    here ::
      passed
        ((Component.ofPiece? piece).elim here (Component.move here)) rest

/-- A path leads where it did if all that it passes through stays as it was. -/
theorem follow_congr
    {other : Disk} {pieces : List String}
    (same :
      ∀ place ∈ passed here pieces, other.entry? place = disk.entry? place) :
    other.follow here pieces = disk.follow here pieces := by
  induction pieces generalizing here with
  | nil => rfl
  | cons piece rest ih =>
      obtain ⟨first, later⟩ := List.forall_mem_cons.mp same
      rw [follow, follow, first]
      cases disk.entry? here with
      | none => rfl
      | some entry =>
          cases entry with
          | file content => rfl
          | directory =>
              rw [Component.ofPiece?] at later
              simp only
              split_ifs at later ⊢
              · exact ih later
              · exact ih later
              · rfl
              · exact ih later

/-- A path that leads to a location, and not through what lies below it. -/
structure Reaches (disk : Disk) (path : Path) (location : Location) :
    Prop where
  leads : disk.follow (disk.start path) path.pieces = .ok location
  direct :
    ∀ place ∈ passed (disk.start path) path.pieces,
      location <+: place → place = location

/-- A location is reached as before after changes below it. -/
theorem Reaches.of_changes_below
    {other : Disk}
    (reaches : disk.Reaches path location)
    (sameDirectory : other.workingDirectory = disk.workingDirectory)
    (below :
      ∀ place, other.entry? place ≠ disk.entry? place →
        location <+: place ∧ place ≠ location) :
    other.Reaches path location := by
  have start : other.start path = disk.start path := by
    rw [Disk.start, Disk.start, sameDirectory]
  have unchanged :
      ∀ place ∈ passed (disk.start path) path.pieces,
        other.entry? place = disk.entry? place := by
    intro place member
    by_contra changed
    obtain ⟨inside, different⟩ := below place changed
    exact different (reaches.direct place member inside)
  constructor
  case leads =>
    rw [start, follow_congr unchanged]
    exact reaches.leads
  case direct =>
    rw [start]
    exact reaches.direct

end Disk

end Guidebook
