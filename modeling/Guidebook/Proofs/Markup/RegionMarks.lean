import Guidebook.Proofs.Markup.TaggedRegions

/-!
# Marks in regions

The regions of several tags are read one tag after the other, and each reading leaves out the marks
of its own tag only.  Where a region holds marks of another tag that is selected with it, these stay
in the selection; where none does, the selection is free of marks.
-/

namespace Guidebook.Markup

open Guidebook.Text

/-! ## The lines of a selection -/

theorem unlines_cons (content : List Char) (rest : List (List Char)) :
    unlines (content :: rest) = content ++ ['\n'] ++ unlines rest :=
  List.flatMap_cons

/--
What does not depend on a carriage return at the end holds of the lines that are written if it holds
of those that they are read as: a carriage return in front of the new line feed is read as its part.
-/
theorem forall_mem_lines_unlines_iff
    (accepts : List Char → Prop)
    (ignores : ∀ content, accepts (content ++ ['\r']) ↔ accepts content)
    {contents : List (List Char)}
    (free : ∀ content ∈ contents, '\n' ∉ content) :
    (∀ line ∈ lines (unlines contents), accepts line.content) ↔
      ∀ content ∈ contents, accepts content := by
  induction contents with
  | nil => exact iff_of_true (List.forall_mem_nil _) (List.forall_mem_nil _)
  | cons content rest ih =>
      obtain ⟨first_free, rest_free⟩ := List.forall_mem_cons.mp free
      have ends : EndsLine (content ++ ['\n']) := Or.inr (by simp)
      obtain ⟨line, single, read⟩ := lines_row_lineFeed first_free
      have same : accepts line.content ↔ accepts content := by
        rcases read with same | returned
        · rw [same]
        · rw [← returned, ignores]
      rw [unlines_cons, lines_append ends, single, List.singleton_append,
        List.forall_mem_cons, List.forall_mem_cons, same, ih rest_free]

/-! ## Marks at the end of a line -/

/-- A part with a last character is found as well if another character is added behind it. -/
theorem concat_infix_concat_iff
    {α : Type} {part text : List α} {last added : α}
    (differs : last ≠ added) :
    part ++ [last] <:+: text ++ [added] ↔ part ++ [last] <:+: text := by
  rw [List.infix_concat_iff, or_iff_right]
  intro atEnd
  rcases List.suffix_concat_iff.mp atEnd with empty | ⟨front, same, -⟩
  · simp at empty
  · exact differs (List.append_singleton_inj.mp same).2

namespace Tag

variable {tag : String}

theorem marks_return_iff (content terminator : List Char) :
    Marks tag ⟨content ++ ['\r'], terminator⟩ ↔
      Marks tag ⟨content, terminator⟩ := by
  have differs : '[' ≠ '\r' := by decide
  exact or_congr (concat_infix_concat_iff differs)
    (concat_infix_concat_iff differs)

/-- The lines taken for a tag are lines of the text that do not mark it. -/
theorem of_mem_regionLines
    {rows : List Line} {line : Line}
    (member : line ∈ regionLines tag rows) :
    line ∈ rows ∧ ¬Marks tag line := by
  obtain ⟨⟨front, taken⟩, found, rfl⟩ := List.mem_map.mp member
  obtain ⟨placed, holds⟩ := List.mem_filter.mp found
  obtain ⟨back, rfl⟩ := exists_behind_of_mem_withFronts placed
  exact ⟨List.mem_append_right _ List.mem_cons_self,
    (of_decide_eq_true holds).2⟩

end Tag

/-! ## Marks in selections -/

/-- A selection holds the marks that stand in the lines taken for its tags. -/
theorem selection_unmarked_iff
    {content target selected : String} {tags : List String}
    (succeeded : selectTags content tags target = .ok selected) :
    (∀ line ∈ lines selected.toList, ∀ tag ∈ tags, ¬Tag.Marks tag line) ↔
      ∀ tag ∈ tags, ∀ line ∈ Tag.regionLines tag (lines content.toList),
        ∀ other ∈ tags, ¬Tag.Marks other line := by
  have ignores :
      ∀ content : List Char,
        (∀ tag ∈ tags, ¬Tag.Marks tag ⟨content ++ ['\r'], []⟩) ↔
          ∀ tag ∈ tags, ¬Tag.Marks tag ⟨content, []⟩ := by
    intro content
    simp only [Tag.marks_return_iff]
  have free :
      ∀ row ∈ (tags.flatMap fun tag =>
          Tag.regionLines tag (lines content.toList)).map Line.content,
        '\n' ∉ row := by
    intro row member
    obtain ⟨line, taken, rfl⟩ := List.mem_map.mp member
    obtain ⟨tag, -, inRegion⟩ := List.mem_flatMap.mp taken
    exact lineFeed_notMem_content _ line (Tag.of_mem_regionLines inRegion).1
  -- A line that ends with a second carriage return loses it when the selection is read again, which
  -- the marks do not depend on.
  rw [(selectTags_eq_ok_iff.mp succeeded).2]
  refine (forall_mem_lines_unlines_iff
    (fun content => ∀ tag ∈ tags, ¬Tag.Marks tag ⟨content, []⟩)
    ignores free).trans ?_
  rw [List.forall_mem_map, List.forall_mem_flatMap]
  exact Iff.rfl

/--
A selection is free of the marks of its tags exactly where no line in a region of one of them, which
does not mark this tag itself, marks another of them.
-/
theorem selectTags_unmarked_iff
    {content target selected : String} {tags : List String}
    (succeeded : selectTags content tags target = .ok selected) :
    (∀ line ∈ lines selected.toList, ∀ tag ∈ tags, ¬Tag.Marks tag line) ↔
      ∀ tag ∈ tags, ∀ other ∈ tags, other ≠ tag →
        ∀ line ∈ Tag.regionLines tag (lines content.toList),
          ¬Tag.Marks other line := by
  rw [selection_unmarked_iff succeeded]
  constructor
  · intro free tag wanted other alsoWanted _ line taken
    exact free tag wanted line taken other alsoWanted
  · intro free tag wanted line taken other alsoWanted
    by_cases same : other = tag
    · rw [same]
      exact (Tag.of_mem_regionLines taken).2
    · exact free tag wanted other alsoWanted same line taken

/-- The lines of a file in which the region of a tag stands inside that of another. -/
def nestedRegions : String :=
  "tag::a[]\ntag::b[]\nx\nend::b[]\nend::a[]\n"

theorem selectTags_unmarked_iff_nestedRegions :
    let selected := "tag::b[]\nx\nend::b[]\nx\n"
    selectTags nestedRegions ["a", "b"] "X" = .ok selected ∧
      ((∀ line ∈ lines selected.toList, ∀ tag ∈ ["a", "b"], ¬Tag.Marks tag line) ↔
        ∀ tag ∈ ["a", "b"], ∀ other ∈ ["a", "b"], other ≠ tag →
          ∀ line ∈ Tag.regionLines tag (lines nestedRegions.toList),
            ¬Tag.Marks other line) := by
  intro selected
  have succeeded : selectTags nestedRegions ["a", "b"] "X" = .ok selected := by
    decide
  exact ⟨succeeded, selectTags_unmarked_iff succeeded⟩

/-- A selection is not always free of the marks of its tags. -/
theorem selectTags_keeps_marks :
    ¬∀ (content target selected : String) (tags : List String),
      selectTags content tags target = .ok selected →
        ∀ line ∈ lines selected.toList, ∀ tag ∈ tags, ¬Tag.Marks tag line := by
  intro always
  have free :=
    always nestedRegions "X" "tag::b[]\nx\nend::b[]\nx\n" ["a", "b"] (by decide)
  revert free
  decide

end Guidebook.Markup
