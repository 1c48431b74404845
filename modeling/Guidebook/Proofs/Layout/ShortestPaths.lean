import Guidebook.Layout
import Guidebook.Proofs.Files.Names

/-!
# Paths in their shortest form

Of all relative paths that lead from the root to the same location, one is written from the names of
that location alone.  Normalizing a path gives this one: the segments that it keeps are the steps of
the way on which dots have been carried out, so what is put behind a path may as well be put behind
its shortest form.
-/

namespace Guidebook.Layout

open Guidebook.Path

/-! ## Segments and locations -/

/-- A segment is put on the segments before it as it moves on from where these lead. -/
theorem normalizeStep_eq_move (soFar : List (List Char)) (segment : List Char) :
    (normalizeStep soFar segment).reverse.map String.ofList =
      (Component.ofPiece? (String.ofList segment)).elim
        (soFar.reverse.map String.ofList)
        (Component.move (soFar.reverse.map String.ofList)) := by
  have text : ∀ letters : List Char,
      String.ofList segment = String.ofList letters ↔ segment = letters :=
    fun _ => String.ofList_inj
  have nothing :
      (String.ofList segment = "" ∨ String.ofList segment = ".") ↔
        (segment = [] ∨ segment = ['.']) :=
    or_congr (text []) (text ['.'])
  have parent : String.ofList segment = ".." ↔ segment = ['.', '.'] :=
    text ['.', '.']
  unfold normalizeStep Component.ofPiece?
  simp only [nothing, parent]
  split_ifs
  · rfl
  · rw [← List.dropLast_reverse, List.map_dropLast]
    rfl
  · rw [List.reverse_cons, List.map_append, List.map_singleton]
    rfl

theorem foldl_normalizeStep (segments soFar : List (List Char)) :
    (segments.foldl normalizeStep soFar).reverse.map String.ofList =
      ((segments.map String.ofList).filterMap Component.ofPiece?).foldl
        Component.move (soFar.reverse.map String.ofList) := by
  induction segments generalizing soFar with
  | nil => rfl
  | cons segment rest ih =>
      rw [List.foldl_cons, ih, normalizeStep_eq_move, List.map_cons,
        List.filterMap_cons]
      cases Component.ofPiece? (String.ofList segment) <;> rfl

/-- The segments that are kept are the names of the location to which the path leads. -/
theorem normalSegments_eq_target (path : String) :
    (normalSegments path.toList).map String.ofList =
      (Path.mk path).target [] := by
  rw [target_eq, ite_self]
  exact foldl_normalizeStep (path.toList.splitOn '/') []

theorem normalize_eq (path : String) :
    normalize path =
      String.ofList (['/'].intercalate
        (((Path.mk path).target []).map String.toList)) := by
  rw [normalize, ← normalSegments_eq_target, List.map_map]
  simp

/-- The shortest form depends on the location only. -/
theorem normalize_eq_of_target_eq
    {path other : String}
    (same : (Path.mk path).target [] = (Path.mk other).target []) :
    normalize path = normalize other := by
  rw [normalize_eq, normalize_eq, same]

theorem isName_of_mem_target {path name : String}
    (member : name ∈ (Path.mk path).target []) :
    IsName name := by
  rw [target_eq, ite_self] at member
  exact isName_of_mem_foldl_move (fun _ => isName_of_mem_steps)
    (List.forall_mem_nil _) name member

/-! ## The shortest form -/

/-- A relative path of names, each a single slash apart from the next. -/
structure IsShortest (path : String) : Prop where
  segments :
    path ≠ "" →
      ∀ segment ∈ (Path.mk path).pieces,
        segment ≠ "" ∧ segment ≠ "." ∧ segment ≠ ".."
  leading : path.toList.head? ≠ some '/'
  trailing : path.toList.getLast? ≠ some '/'

theorem IsShortest.of_segments {path : String}
    (segments :
      path ≠ "" →
        ∀ segment ∈ (Path.mk path).pieces,
          segment ≠ "" ∧ segment ≠ "." ∧ segment ≠ "..") :
    IsShortest path := by
  have nonempty : "" ∈ (Path.mk path).pieces → path = "" := by
    intro found
    by_contra nonempty
    exact (segments nonempty "" found).1 rfl
  refine ⟨segments, fun leading => ?_, fun trailing => ?_⟩
  · have empty := nonempty (empty_mem_pieces_of_leading leading)
    rw [empty] at leading
    cases leading
  · have empty := nonempty (empty_mem_pieces_of_trailing trailing)
    rw [empty] at trailing
    cases trailing

theorem IsShortest.isName {path : String}
    (shortest : IsShortest path) (nonempty : path ≠ "") :
    ∀ segment ∈ (Path.mk path).pieces, IsName segment := by
  intro segment member
  obtain ⟨notEmpty, notCurrent, notParent⟩ :=
    shortest.segments nonempty segment member
  exact ⟨notEmpty, notCurrent, notParent, noSlash_of_mem_pieces member⟩

/-- A path in its shortest form leads through its segments. -/
theorem IsShortest.target_eq {path : String}
    (shortest : IsShortest path) (nonempty : path ≠ "") :
    (Path.mk path).target [] = (Path.mk path).pieces := by
  rw [Path.target_eq, ite_self, steps,
    filterMap_ofPiece?_names (shortest.isName nonempty),
    foldl_move_names, List.nil_append]

theorem IsShortest.normalize_eq_self {path : String}
    (shortest : IsShortest path) :
    normalize path = path := by
  by_cases nonempty : path = ""
  · rw [nonempty]
    rfl
  · rw [normalize_eq, shortest.target_eq nonempty, pieces, List.map_map]
    simp [List.intercalate_splitOn]

theorem isShortest_normalize (path : String) :
    IsShortest (normalize path) := by
  refine IsShortest.of_segments fun nonempty segment member => ?_
  have names : (Path.mk path).target [] ≠ [] := by
    intro none
    rw [normalize_eq, none] at nonempty
    exact nonempty rfl
  rw [normalize_eq, pieces_intercalate names
    fun name member => (isName_of_mem_target member).noSlash] at member
  have isName := isName_of_mem_target member
  exact ⟨isName.nonempty, isName.notCurrent, isName.notParent⟩

/-- Normalizing a path changes nothing about where it leads. -/
theorem target_normalize (path : String) :
    (Path.mk (normalize path)).target [] = (Path.mk path).target [] := by
  by_cases none : (Path.mk path).target [] = []
  · rw [normalize_eq, none]
    rfl
  · have pieces :=
      pieces_intercalate none fun name member =>
        (isName_of_mem_target member).noSlash
    rw [Path.target_eq, ite_self, steps, normalize_eq, pieces,
      filterMap_ofPiece?_names fun name => isName_of_mem_target,
      foldl_move_names, List.nil_append]

theorem target_append_slash (front back : String) :
    (Path.mk (front ++ "/" ++ back)).target [] =
      (steps back).foldl Component.move ((Path.mk front).target []) := by
  rw [Path.target_eq, Path.target_eq, ite_self, ite_self,
    steps_append_slash, List.foldl_append]

/--
The shortest form of a path is the one path of names that leads from the root to where the path
leads.  Hence it is its own shortest form, and a path may be replaced by its shortest form in front
of what follows it.
-/
theorem normalize_unique_shortest (front back : String) :
    (∀ path,
      path = normalize front ↔
        IsShortest path ∧
          (Path.mk path).target [] = (Path.mk front).target []) ∧
    normalize (normalize front) = normalize front ∧
    normalize (front ++ "/" ++ back) =
      normalize (normalize front ++ "/" ++ back) := by
  refine ⟨fun path => ⟨?_, ?_⟩, ?_, ?_⟩
  · rintro rfl
    exact ⟨isShortest_normalize front, target_normalize front⟩
  · rintro ⟨shortest, same⟩
    rw [← shortest.normalize_eq_self]
    exact normalize_eq_of_target_eq same
  · exact (isShortest_normalize front).normalize_eq_self
  · apply normalize_eq_of_target_eq
    rw [target_append_slash, target_append_slash, target_normalize]

end Guidebook.Layout
