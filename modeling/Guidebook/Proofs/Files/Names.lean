import Guidebook.Proofs.Basic
import Guidebook.Proofs.Files.Location

/-!
# Names

A name is a segment of a path that leads one step down: it is neither empty nor made of one or two
dots, and it holds no slash.  A path that is written from names leads down through all of them, and
wherever a path leads from a place that is reached by names, names lead there too.
-/

namespace Guidebook

namespace Path

/-- A text that leads one step down. -/
structure IsName (text : String) : Prop where
  nonempty : text ≠ ""
  notCurrent : text ≠ "."
  notParent : text ≠ ".."
  noSlash : '/' ∉ text.toList

instance (text : String) : Decidable (IsName text) :=
  decidable_of_iff
    (text ≠ "" ∧ text ≠ "." ∧ text ≠ ".." ∧ '/' ∉ text.toList)
    ⟨fun ⟨nonempty, notCurrent, notParent, noSlash⟩ =>
        ⟨nonempty, notCurrent, notParent, noSlash⟩,
      fun ⟨nonempty, notCurrent, notParent, noSlash⟩ =>
        ⟨nonempty, notCurrent, notParent, noSlash⟩⟩

variable {name text : String} {names here : Location}

theorem Component.ofPiece?_name (isName : IsName name) :
    Component.ofPiece? name = some (.name name) := by
  rw [ofPiece?, if_neg (not_or.mpr ⟨isName.nonempty, isName.notCurrent⟩),
    if_neg isName.notParent]

theorem Component.ofPiece?_eq_name
    {piece : String} (found : ofPiece? piece = some (.name name)) :
    piece = name ∧ name ≠ "" ∧ name ≠ "." ∧ name ≠ ".." := by
  unfold ofPiece? at found
  split_ifs at found with isNothing isParent
  · cases found
  · cases found
    obtain ⟨nonempty, notCurrent⟩ := not_or.mp isNothing
    exact ⟨rfl, nonempty, notCurrent, isParent⟩

theorem noSlash_of_mem_pieces {path : Path}
    (found : name ∈ path.pieces) :
    '/' ∉ name.toList := by
  obtain ⟨piece, member, rfl⟩ := List.mem_map.mp found
  rw [String.toList_ofList]
  exact separator_notMem_of_mem_splitOn member

theorem isName_of_mem_steps
    (found : .name name ∈ steps text) :
    IsName name := by
  obtain ⟨piece, member, isName⟩ := List.mem_filterMap.mp found
  obtain ⟨rfl, nonempty, notCurrent, notParent⟩ :=
    Component.ofPiece?_eq_name isName
  exact ⟨nonempty, notCurrent, notParent, noSlash_of_mem_pieces member⟩

theorem pieces_of_noSlash (noSlash : '/' ∉ text.toList) :
    (Path.mk text).pieces = [text] := by
  rw [pieces, List.splitOn_eq_singleton noSlash, List.map_singleton,
    String.ofList_toList]

theorem empty_mem_pieces_of_leading
    (leading : text.toList.head? = some '/') :
    "" ∈ (Path.mk text).pieces := by
  obtain ⟨rest, split⟩ := List.head?_eq_some_iff.mp leading
  have pieces := List.splitOn_append_cons_self (a := '/') [] rest
  rw [List.nil_append, ← split] at pieces
  rw [Path.pieces, pieces]
  exact List.mem_cons_self

theorem empty_mem_pieces_of_trailing
    (trailing : text.toList.getLast? = some '/') :
    "" ∈ (Path.mk text).pieces := by
  obtain ⟨front, rfl⟩ := exists_append_slash trailing
  have pieces := pieces_append_slash front ""
  rw [String.append_empty] at pieces
  rw [pieces]
  exact List.mem_append_right _ (by decide)

/-- The pieces of a text are read back from it. -/
theorem pieces_intercalate
    (nonempty : names ≠ [])
    (noSlash : ∀ name ∈ names, '/' ∉ name.toList) :
    (Path.mk (String.ofList
      (['/'].intercalate (names.map String.toList)))).pieces = names := by
  have free : ∀ piece ∈ names.map String.toList, '/' ∉ piece :=
    List.forall_mem_map.mpr noSlash
  rw [pieces, String.toList_ofList, List.splitOn_intercalate '/' free
      (by simpa using nonempty), List.map_map]
  simp

theorem filterMap_ofPiece?_names
    (areNames : ∀ name ∈ names, IsName name) :
    names.filterMap Component.ofPiece? = names.map .name := by
  rw [List.filterMap_congr fun name member =>
    Component.ofPiece?_name (areNames name member)]
  exact congrFun List.filterMap_eq_map names

/-- Names lead down. -/
theorem foldl_move_names (names here : Location) :
    (names.map Component.name).foldl Component.move here =
      here ++ names := by
  induction names generalizing here with
  | nil => exact (List.append_nil here).symm
  | cons name rest ih =>
      rw [List.map_cons, List.foldl_cons, ih, Component.move,
        List.append_assoc, List.singleton_append]

/-- From a place that is reached by names, steps lead to another such place. -/
theorem isName_of_mem_foldl_move
    {components : List Component}
    (steps_names : ∀ name, .name name ∈ components → IsName name)
    (here_names : ∀ name ∈ here, IsName name) :
    ∀ name ∈ components.foldl Component.move here, IsName name := by
  induction components generalizing here with
  | nil => exact here_names
  | cons component rest ih =>
      refine ih (fun name member =>
        steps_names name (List.mem_cons_of_mem _ member)) ?_
      cases component with
      | root => exact List.forall_mem_nil _
      | current => exact here_names
      | parent =>
          exact fun name member =>
            here_names name (List.dropLast_subset _ member)
      | name text =>
          have isName := steps_names text List.mem_cons_self
          exact List.forall_mem_append.mpr
            ⟨here_names, List.forall_mem_singleton.mpr isName⟩

end Path

end Guidebook
