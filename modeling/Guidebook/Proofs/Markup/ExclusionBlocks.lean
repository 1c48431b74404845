import Guidebook.Proofs.Markup.Locality

/-!
# Blocks of exclusions

What one line does to a block that is open or not, and what follows for a text that is cut where
no block is open.
-/

namespace Guidebook.Markup

open Guidebook.Text

variable {marker : List Char} {excludes : List Char → Bool}
  {line : Line} {block : OpenBlock}

/-! ## Markers -/

/-- What stands behind a start is the rest of the text. -/
theorem afterStart?_eq_some_iff
    {start text rest : List Char} :
    afterStart? start text = some rest ↔ text = start ++ rest := by
  induction start generalizing text with
  | nil => simp [afterStart?]
  | cons expected start ih =>
      cases text with
      | nil => simp [afterStart?]
      | cons c text =>
          rw [afterStart?, List.cons_append, List.cons.injEq]
          by_cases same : expected = c
          · rw [if_pos same, ih]
            exact ⟨fun found => ⟨same.symm, found⟩, And.right⟩
          · rw [if_neg same]
            exact ⟨nofun, fun found => absurd found.1.symm same⟩

theorem parameters?_eq_none_iff :
    parameters? marker line = none ↔ ¬ marker <+: trim line.content := by
  rw [Option.eq_none_iff_forall_ne_some]
  unfold parameters?
  constructor
  · rintro absent ⟨rest, split⟩
    exact absent rest (afterStart?_eq_some_iff.mpr split.symm)
  · intro other rest found
    exact other ⟨rest, (afterStart?_eq_some_iff.mp found).symm⟩

/-! ## One line -/

theorem OpenBlock.kept_sublist_written (block : OpenBlock) :
    block.kept.Sublist block.written := by
  unfold OpenBlock.kept
  split
  · exact List.nil_sublist _
  · exact List.sublist_cons_self _ _

/-- Outside of blocks, a line that is no opener stays. -/
theorem keepLines_plain
    (plain : ∀ c more, parameters? marker line ≠ some (c :: more))
    (rest : List Line) :
    keepLines marker excludes none (line :: rest) =
      (line :: (keepLines marker excludes none rest).1,
        (keepLines marker excludes none rest).2) := by
  rw [keepLines]
  split
  · rename_i c more parameters
    exact absurd parameters (plain c more)
  · rfl

/-- An opener starts a block. -/
theorem keepLines_opener
    {c : Char} {more : List Char}
    (parameters : parameters? marker line = some (c :: more))
    (rest : List Line) :
    keepLines marker excludes none (line :: rest) =
      keepLines marker excludes
        (some ⟨line, [], excludes (c :: more)⟩) rest := by
  rw [keepLines, parameters]

/-- A marker without parameters ends the block that is open. -/
theorem keepLines_ender
    (parameters : parameters? marker line = some [])
    (rest : List Line) :
    keepLines marker excludes (some block) (line :: rest) =
      (block.kept ++ (keepLines marker excludes none rest).1,
        (keepLines marker excludes none rest).2) := by
  rw [keepLines, parameters]

/-- Any other line is added to the block that is open. -/
theorem keepLines_inside
    (inside : parameters? marker line ≠ some [])
    (rest : List Line) :
    keepLines marker excludes (some block) (line :: rest) =
      keepLines marker excludes (some (block.add line)) rest := by
  rw [keepLines]
  split
  · rename_i parameters
    exact absurd parameters inside
  · rfl

/-! ## Many lines -/

/-- Lines behind those that leave no block open are kept as if they stood alone. -/
theorem keepLines_append
    {open? : Option OpenBlock} {front : List Line}
    (closed : (keepLines marker excludes open? front).2 = false)
    (back : List Line) :
    keepLines marker excludes open? (front ++ back) =
      ((keepLines marker excludes open? front).1 ++
          (keepLines marker excludes none back).1,
        (keepLines marker excludes none back).2) := by
  induction front generalizing open? with
  | nil =>
      cases open? with
      | none => rfl
      | some block => cases closed
  | cons line rest ih =>
      rw [List.cons_append]
      cases open? with
      | none =>
          by_cases opens : ∃ c more, parameters? marker line = some (c :: more)
          · obtain ⟨c, more, parameters⟩ := opens
            rw [keepLines_opener parameters] at closed ⊢
            rw [keepLines_opener parameters, ih closed]
          · have plain : ∀ c more, parameters? marker line ≠ some (c :: more) :=
              fun c more found => opens ⟨c, more, found⟩
            rw [keepLines_plain plain] at closed ⊢
            rw [keepLines_plain plain, ih closed, List.cons_append]
      | some block =>
          by_cases parameters : parameters? marker line = some []
          · rw [keepLines_ender parameters] at closed ⊢
            rw [keepLines_ender parameters, ih closed, List.append_assoc]
          · rw [keepLines_inside parameters] at closed ⊢
            rw [keepLines_inside parameters, ih closed]

/-- What stays are lines that are there, in their order. -/
theorem keepLines_sublist
    (open? : Option OpenBlock) (front : List Line) :
    (keepLines marker excludes open? front).1.Sublist
      (open?.elim [] OpenBlock.written ++ front) := by
  fun_induction keepLines marker excludes open? front with
  | case1 => exact List.Sublist.refl _
  | case2 block => simp
  | case3 line rest c more parameters ih => exact ih
  | case4 line rest kept isOpen split _ ih =>
      rw [split] at ih
      exact ih.cons_cons line
  | case5 block line rest _ kept isOpen split ih =>
      rw [split] at ih
      exact block.kept_sublist_written.append (ih.cons line)
  | case6 block line rest _ ih =>
      have same :
          (block.add line).written ++ rest = block.written ++ line :: rest :=
        List.append_assoc block.written [line] rest
      exact same ▸ ih

/-- Lines that are no markers stay. -/
theorem keepLines_unmarked
    {front : List Line}
    (unmarked : ∀ line ∈ front, parameters? marker line = none) :
    keepLines marker excludes none front = (front, false) := by
  induction front with
  | nil => rfl
  | cons line rest ih =>
      obtain ⟨first, later⟩ := List.forall_mem_cons.mp unmarked
      have plain : ∀ c more, parameters? marker line ≠ some (c :: more) := by
        simp [first]
      rw [keepLines_plain plain, ih later]

/-- Lines that do not end the block that is open are added to it. -/
theorem keepLines_body
    {body : List Line}
    (endless : ∀ line ∈ body, parameters? marker line ≠ some [])
    (block : OpenBlock) (rest : List Line) :
    keepLines marker excludes (some block) (body ++ rest) =
      keepLines marker excludes
        (some { block with body := block.body ++ body }) rest := by
  induction body generalizing block with
  | nil => rw [List.nil_append, List.append_nil]
  | cons line more ih =>
      obtain ⟨first, later⟩ := List.forall_mem_cons.mp endless
      rw [List.cons_append, keepLines_inside first, ih later]
      simp only [OpenBlock.add, List.append_assoc, List.singleton_append]

/-- A block between its markers stays without them, or not at all. -/
theorem keepLines_block
    {opener closer : Line} {body : List Line} {parameters : List Char}
    (opens : parameters? marker opener = some parameters)
    (nonempty : parameters ≠ [])
    (endless : ∀ line ∈ body, parameters? marker line ≠ some [])
    (closes : parameters? marker closer = some [])
    (rest : List Line) :
    keepLines marker excludes none (opener :: (body ++ closer :: rest)) =
      ((if excludes parameters then [] else body) ++
          (keepLines marker excludes none rest).1,
        (keepLines marker excludes none rest).2) := by
  obtain ⟨c, more, rfl⟩ := List.exists_cons_of_ne_nil nonempty
  rw [keepLines_opener opens, keepLines_body endless,
    keepLines_ender closes]
  rfl

/-- A block that is never ended stays, with its opener. -/
theorem keepLines_unended
    {opener : Line} {body : List Line} {parameters : List Char}
    (opens : parameters? marker opener = some parameters)
    (nonempty : parameters ≠ [])
    (endless : ∀ line ∈ body, parameters? marker line ≠ some []) :
    keepLines marker excludes none (opener :: body) = (opener :: body, true) := by
  obtain ⟨c, more, rfl⟩ := List.exists_cons_of_ne_nil nonempty
  have whole :
      keepLines marker excludes
          (some ⟨opener, [], excludes (c :: more)⟩) (body ++ []) =
        (opener :: body, true) :=
    keepLines_body endless _ []
  rw [keepLines_opener opens, ← whole, List.append_nil]

namespace ExclusionKind

variable {kind : ExclusionKind} {variant : Variant}

/-- A pass over a text that is cut where no block is open leaves what it leaves of the parts. -/
theorem exclude_append
    {front : String}
    (ends : EndsLine front.toList)
    (closed : (kind.keep variant front).2 = false)
    (back : String) :
    kind.exclude variant (front ++ back) =
      kind.exclude variant front ++ kind.exclude variant back := by
  simp only [exclude, keep] at closed ⊢
  rw [String.toList_append, lines_append ends, keepLines_append closed,
    List.flatMap_append, String.ofList_append]

/-- The lines that a pass keeps are the lines of the text that it leaves. -/
theorem lines_exclude (text : String) :
    lines (kind.exclude variant text).toList = (kind.keep variant text).1 := by
  have consecutive : Consecutive (kind.keep variant text).1 :=
    (consecutive_lines text.toList).sublist (keepLines_sublist none _)
  rw [exclude, String.toList_ofList, consecutive.lines_flatMap]

/-- A pass writes no lines of its own. -/
theorem lines_exclude_sublist (text : String) :
    (lines (kind.exclude variant text).toList).Sublist (lines text.toList) := by
  rw [lines_exclude]
  exact keepLines_sublist none _

/-- A pass over a text without markers changes nothing. -/
theorem exclude_unmarked
    {text : String}
    (unmarked :
      ∀ line ∈ lines text.toList, parameters? kind.marker line = none) :
    kind.exclude variant text = text := by
  rw [exclude, keep, keepLines_unmarked unmarked, lines_flatMap_text,
    String.ofList_toList]

theorem endsLine_exclude
    {front : String}
    (ends : EndsLine front.toList) :
    EndsLine (kind.exclude variant front).toList := by
  rw [exclude, String.toList_ofList, List.flatMap_def]
  refine EndsLine.flatten (List.forall_mem_map.mpr fun line kept => ?_)
  have present : line ∈ lines front.toList :=
    (keepLines_sublist none _).mem kept
  exact EndsLine.of_terminator (endsLine_text_of_mem_lines ends line present)

end ExclusionKind

end Guidebook.Markup
