import Guidebook.Text.Line
import Mathlib.Tactic.Common

/-!
# Lines of a text

A text ends a line if it is empty or its last character is a line feed.  Behind such a text a new
line starts, so the lines of what follows are found as if it stood alone.  Every text is put
together from single lines, all of which but the last end.
-/

namespace Guidebook.Text

/-- A text behind which a new line starts. -/
def EndsLine (text : List Char) : Prop :=
  text = [] ∨ text.getLast? = some '\n'

namespace EndsLine

theorem nil : EndsLine [] :=
  Or.inl rfl

theorem append
    {front back : List Char}
    (front_ends : EndsLine front)
    (back_ends : EndsLine back) :
    EndsLine (front ++ back) := by
  rcases back_ends with empty | last
  · subst empty
    rwa [List.append_nil]
  · right
    rw [List.getLast?_append, last]
    rfl

theorem of_cons
    {c : Char} {text : List Char}
    (ends : EndsLine (c :: text)) :
    EndsLine text := by
  rcases ends with empty | last
  · cases empty
  · cases text with
    | nil => exact nil
    | cons next rest =>
        right
        rwa [List.getLast?_cons_cons] at last

theorem flatten
    {pieces : List (List Char)}
    (ends : ∀ piece ∈ pieces, EndsLine piece) :
    EndsLine pieces.flatten := by
  induction pieces with
  | nil => exact nil
  | cons piece rest ih =>
      rw [List.flatten_cons]
      exact (ends piece List.mem_cons_self).append
        (ih fun other member => ends other (List.mem_cons_of_mem _ member))

/-- A text that ends a line is empty, or another text and a line feed. -/
theorem cases
    {text : List Char}
    (ends : EndsLine text) :
    text = [] ∨ ∃ front, text = front ++ ['\n'] := by
  rcases ends with empty | last
  · exact Or.inl empty
  · exact Or.inr (List.getLast?_eq_some_iff.mp last)

theorem of_terminator
    {line : Line}
    (ended : line.terminator.getLast? = some '\n') :
    EndsLine line.text := by
  right
  rw [Line.text, List.getLast?_append, ended]
  rfl

end EndsLine

/-! ## Reading on -/

theorem lines_eq_nil_iff {text : List Char} :
    lines text = [] ↔ text = [] := by
  constructor
  · intro empty
    rw [← lines_flatMap_text text, empty]
    rfl
  · rintro rfl
    rfl

/-- A character that ends no line belongs to the line that follows it. -/
theorem lines_cons
    {c : Char} {rest : List Char} {line : Line} {more : List Line}
    (inside : c ≠ '\n')
    (alone : c = '\r' → rest.head? ≠ some '\n')
    (split : lines rest = line :: more) :
    lines (c :: rest) = ⟨c :: line.content, line.terminator⟩ :: more := by
  rw [lines]
  · rw [split]
  · exact inside
  · rintro later rfl rfl
    exact alone rfl rfl

/-- The lines of a text behind one that ends a line are those that it has alone. -/
theorem lines_append
    {front : List Char}
    (ends : EndsLine front)
    (back : List Char) :
    lines (front ++ back) = lines front ++ lines back := by
  fun_induction lines front with
  | case1 => rfl
  | case2 rest ih =>
      rw [List.cons_append, lines, ih ends.of_cons, List.cons_append]
  | case3 rest ih =>
      rw [List.cons_append, List.cons_append, lines, ih ends.of_cons.of_cons,
        List.cons_append]
  | case4 c rest inside _ empty ih =>
      rw [lines_eq_nil_iff.mp empty] at ends
      rcases ends with none | last
      · cases none
      · exact absurd (Option.some.inj last) inside
  | case5 c rest inside alone line more split ih =>
      have split_append := ih ends.of_cons
      rw [split, List.cons_append] at split_append
      refine lines_cons inside (fun isReturn => ?_) split_append
      cases rest with
      | nil => cases split
      | cons next later =>
          intro first
          cases Option.some.inj first
          exact alone later isReturn rfl

/-! ## Single lines -/

/-- What can stand at the end of a line. -/
theorem terminator_of_mem_lines (text : List Char) :
    ∀ line ∈ lines text,
      line.terminator = [] ∨ line.terminator = ['\n'] ∨
        line.terminator = ['\r', '\n'] := by
  fun_induction lines text with
  | case1 => exact List.forall_mem_nil _
  | case2 rest ih =>
      exact List.forall_mem_cons.mpr ⟨Or.inr (Or.inl rfl), ih⟩
  | case3 rest ih =>
      exact List.forall_mem_cons.mpr ⟨Or.inr (Or.inr rfl), ih⟩
  | case4 c rest inside _ empty ih =>
      exact List.forall_mem_singleton.mpr (Or.inl rfl)
  | case5 c rest inside _ line more split ih =>
      rw [split] at ih
      obtain ⟨first, later⟩ := List.forall_mem_cons.mp ih
      exact List.forall_mem_cons.mpr ⟨first, later⟩

/-- No line feed stands inside a line. -/
theorem lineFeed_notMem_content (text : List Char) :
    ∀ line ∈ lines text, '\n' ∉ line.content := by
  fun_induction lines text with
  | case1 => exact List.forall_mem_nil _
  | case2 rest ih =>
      exact List.forall_mem_cons.mpr ⟨List.not_mem_nil, ih⟩
  | case3 rest ih =>
      exact List.forall_mem_cons.mpr ⟨List.not_mem_nil, ih⟩
  | case4 c rest inside _ empty ih =>
      exact List.forall_mem_singleton.mpr
        (by simpa using Ne.symm inside)
  | case5 c rest inside _ line more split ih =>
      rw [split] at ih
      obtain ⟨first, later⟩ := List.forall_mem_cons.mp ih
      exact List.forall_mem_cons.mpr
        ⟨by simpa [first] using Ne.symm inside, later⟩

/-- Every line of a text that ends a line has an end. -/
theorem endsLine_text_of_mem_lines
    {text : List Char}
    (ends : EndsLine text) :
    ∀ line ∈ lines text, line.terminator.getLast? = some '\n' := by
  fun_induction lines text with
  | case1 => exact List.forall_mem_nil _
  | case2 rest ih =>
      exact List.forall_mem_cons.mpr ⟨rfl, ih ends.of_cons⟩
  | case3 rest ih =>
      exact List.forall_mem_cons.mpr ⟨rfl, ih ends.of_cons.of_cons⟩
  | case4 c rest inside _ empty ih =>
      rw [lines_eq_nil_iff.mp empty] at ends
      rcases ends with none | last
      · cases none
      · exact absurd (Option.some.inj last) inside
  | case5 c rest inside _ line more split ih =>
      rw [split] at ih
      obtain ⟨first, later⟩ := List.forall_mem_cons.mp (ih ends.of_cons)
      exact List.forall_mem_cons.mpr ⟨first, later⟩

/-! ## Lines one after the other -/

/-- Lines as they follow each other in a text. -/
structure Consecutive (written : List Line) : Prop where
  alone : ∀ line ∈ written, lines line.text = [line]
  /-- Only the last line may lack an end. -/
  ended :
    written.Pairwise fun earlier _ => earlier.terminator.getLast? = some '\n'

/-- A line of a text is its only line where it stands alone. -/
theorem lines_text_of_mem_lines (text : List Char) :
    ∀ line ∈ lines text, lines line.text = [line] := by
  fun_induction lines text with
  | case1 => exact List.forall_mem_nil _
  | case2 rest ih => exact List.forall_mem_cons.mpr ⟨rfl, ih⟩
  | case3 rest ih => exact List.forall_mem_cons.mpr ⟨rfl, ih⟩
  | case4 c rest inside _ empty ih =>
      refine List.forall_mem_singleton.mpr ?_
      rw [Line.text, List.append_nil, lines]
      · rfl
      · exact inside
      · rintro later _ none
        cases none
  | case5 c rest inside alone line more split ih =>
      rw [split] at ih
      obtain ⟨first, later⟩ := List.forall_mem_cons.mp ih
      refine List.forall_mem_cons.mpr
        ⟨lines_cons inside (fun isReturn head => ?_) first, later⟩
      have whole := lines_flatMap_text rest
      obtain ⟨behind, same⟩ := List.head?_eq_some_iff.mp head
      have starts : line.text = '\n' :: behind := same
      rw [split, List.flatMap_cons, starts, List.cons_append] at whole
      exact alone _ isReturn whole.symm

theorem pairwise_ended (text : List Char) :
    (lines text).Pairwise fun earlier _ =>
      earlier.terminator.getLast? = some '\n' := by
  fun_induction lines text with
  | case1 => exact List.Pairwise.nil
  | case2 rest ih => exact List.Pairwise.cons (fun _ _ => rfl) ih
  | case3 rest ih => exact List.Pairwise.cons (fun _ _ => rfl) ih
  | case4 c rest inside _ empty ih => exact List.pairwise_singleton _ _
  | case5 c rest inside _ line more split ih =>
      rw [split] at ih
      obtain ⟨first, later⟩ := List.pairwise_cons.mp ih
      exact List.Pairwise.cons first later

theorem consecutive_lines (text : List Char) :
    Consecutive (lines text) where
  alone := lines_text_of_mem_lines text
  ended := pairwise_ended text

namespace Consecutive

variable {written kept : List Line}

theorem sublist
    (consecutive : Consecutive written)
    (sub : kept.Sublist written) :
    Consecutive kept where
  alone := fun line member => consecutive.alone line (sub.mem member)
  ended := consecutive.ended.sublist sub

/-- Lines that follow each other are those of the text that they make up. -/
theorem lines_flatMap
    (consecutive : Consecutive written) :
    lines (written.flatMap Line.text) = written := by
  induction written with
  | nil => rfl
  | cons line rest ih =>
      have single : lines line.text = [line] :=
        consecutive.alone line List.mem_cons_self
      rw [List.flatMap_cons]
      cases rest with
      | nil => rwa [List.flatMap_nil, List.append_nil]
      | cons next more =>
          have ended : line.terminator.getLast? = some '\n' :=
            (List.pairwise_cons.mp consecutive.ended).1 next List.mem_cons_self
          rw [lines_append (EndsLine.of_terminator ended), single,
            ih (consecutive.sublist (List.sublist_cons_self line _))]
          rfl

end Consecutive

end Guidebook.Text
