import Guidebook.Proofs.Text.LineFeeds
import Guidebook.Proofs.Text.Lines
import Guidebook.Text.Ascii
import Guidebook.Text.Blank

/-!
# Rows of a text

The rows of a text are the stretches between its line feeds.  A row is sheltered if the first
character that is not blank, should there be one, is no letter.  Whether all rows of a text are
sheltered is found by reading it once, so it can be seen piece by piece for a text that is put
together from literals and from texts without line feeds.
-/

namespace Guidebook.Text

/-! ## Rows -/

/-- Every row of a text satisfies a predicate. -/
inductive EachRow (accepts : List Char → Prop) : List Char → Prop
  | last
      {row : List Char}
      (free : '\n' ∉ row)
      (accepted : accepts row) :
      EachRow accepts row
  | next
      {row rest : List Char}
      (free : '\n' ∉ row)
      (accepted : accepts row)
      (later : EachRow accepts rest) :
      EachRow accepts (row ++ '\n' :: rest)

/-- A text is a row, or a row with a text behind its line feed. -/
theorem row_induction
    {motive : List Char → Prop}
    (last : ∀ row, '\n' ∉ row → motive row)
    (next :
      ∀ row rest, '\n' ∉ row → motive rest → motive (row ++ '\n' :: rest))
    (text : List Char) :
    motive text := by
  induction length : text.length using Nat.strongRecOn generalizing text with
  | ind count ih =>
      by_cases member : '\n' ∈ text
      · obtain ⟨row, rest, rfl, free⟩ := List.eq_append_cons_of_mem member
        refine next row rest free (ih rest.length ?_ rest rfl)
        rw [← length, List.length_append, List.length_cons]
        omega
      · exact last text member

namespace EachRow

variable {accepts others : List Char → Prop} {front back : List Char}

/-- The rows of two texts with a line feed between them are those of both. -/
theorem append
    (front_rows : EachRow accepts front)
    (back_rows : EachRow accepts back) :
    EachRow accepts (front ++ '\n' :: back) := by
  induction front_rows with
  | last free accepted => exact next free accepted back_rows
  | next free accepted _ ih =>
      rw [List.append_assoc, List.cons_append]
      exact next free accepted ih

theorem mono
    (implies : ∀ row, accepts row → others row)
    (rows : EachRow accepts front) :
    EachRow others front := by
  induction rows with
  | last free accepted => exact last free (implies _ accepted)
  | next free accepted _ ih => exact next free (implies _ accepted) ih

/-- A carriage return at the end belongs to the last row. -/
theorem append_return
    (keeps : ∀ row, accepts row → accepts (row ++ ['\r']))
    (rows : EachRow accepts front) :
    EachRow accepts (front ++ ['\r']) := by
  induction rows with
  | last free accepted =>
      exact last (by simpa using free) (keeps _ accepted)
  | next free accepted _ ih =>
      rw [List.append_assoc, List.cons_append]
      exact next free accepted ih

/-- The end of a line adds at most an empty row. -/
theorem append_terminator
    (empty : accepts [])
    (keeps : ∀ row, accepts row → accepts (row ++ ['\r']))
    (rows : EachRow accepts front)
    {terminator : List Char}
    (ending :
      terminator = [] ∨ terminator = ['\n'] ∨ terminator = ['\r', '\n']) :
    EachRow accepts (front ++ terminator) := by
  have none_behind : EachRow accepts [] := last List.not_mem_nil empty
  rcases ending with rfl | rfl | rfl
  · rwa [List.append_nil]
  · exact rows.append none_behind
  · have returned := (rows.append_return keeps).append none_behind
    rwa [List.append_assoc, List.singleton_append] at returned

end EachRow

/-! ## Rows and lines -/

/-- A row with its line feed is one line, which has no carriage return at its end. -/
theorem lines_row_lineFeed
    {row : List Char}
    (free : '\n' ∉ row) :
    ∃ line, lines (row ++ ['\n']) = [line] ∧
      (line.content = row ∨ line.content ++ ['\r'] = row) := by
  induction row with
  | nil => exact ⟨⟨[], ['\n']⟩, rfl, Or.inl rfl⟩
  | cons c rest ih =>
      have inside : c ≠ '\n' := fun same => free (same ▸ List.mem_cons_self)
      obtain ⟨line, split, content⟩ :=
        ih fun member => free (List.mem_cons_of_mem _ member)
      by_cases returned : c = '\r' ∧ rest = []
      · obtain ⟨rfl, rfl⟩ := returned
        exact ⟨⟨[], ['\r', '\n']⟩, rfl, Or.inr rfl⟩
      · refine ⟨⟨c :: line.content, line.terminator⟩,
          lines_cons inside (fun isReturn first => ?_) split, ?_⟩
        · cases rest with
          | nil => exact returned ⟨isReturn, rfl⟩
          | cons next more =>
              cases Option.some.inj first
              exact free (List.mem_cons_of_mem _ List.mem_cons_self)
        · rcases content with same | same
          · exact Or.inl (by rw [same])
          · exact Or.inr (by rw [List.cons_append, same])

/-- A row that no line feed follows is one line, unless it is empty. -/
theorem lines_row
    {row : List Char}
    (free : '\n' ∉ row)
    (nonempty : row ≠ []) :
    lines row = [⟨row, []⟩] := by
  induction row with
  | nil => exact absurd rfl nonempty
  | cons c rest ih =>
      have inside : c ≠ '\n' := fun same => free (same ▸ List.mem_cons_self)
      have rest_free : '\n' ∉ rest :=
        fun member => free (List.mem_cons_of_mem _ member)
      cases rest with
      | nil =>
          rw [lines]
          · rfl
          · exact inside
          · rintro later _ empty
            cases empty
      | cons next more =>
          refine lines_cons inside (fun _ first => ?_)
            (ih rest_free (List.cons_ne_nil next more))
          cases Option.some.inj first
          exact rest_free List.mem_cons_self

/-- What holds of all rows holds of all lines, if a carriage return may be left out. -/
theorem EachRow.lines
    {accepts : List Char → Prop}
    (keeps : ∀ row, accepts (row ++ ['\r']) → accepts row)
    {text : List Char}
    (rows : EachRow accepts text) :
    ∀ line ∈ Text.lines text, accepts line.content := by
  induction rows with
  | @last row free accepted =>
      by_cases empty : row = []
      · subst empty
        exact List.forall_mem_nil _
      · rw [lines_row free empty]
        exact List.forall_mem_singleton.mpr accepted
  | @next row rest free accepted later ih =>
      obtain ⟨line, split, content⟩ := lines_row_lineFeed free
      have ends : EndsLine (row ++ ['\n']) := Or.inr (by simp)
      rw [← List.singleton_append, ← List.append_assoc, lines_append ends, split,
        List.singleton_append]
      refine List.forall_mem_cons.mpr ⟨?_, ih⟩
      rcases content with same | same
      · rwa [same]
      · exact keeps _ (same ▸ accepted)

/-- What holds of single lines, and of a line with a text behind it, holds of every text. -/
theorem line_induction
    {motive : List Char → Prop}
    (empty : motive [])
    (single : ∀ text line, lines text = [line] → motive text)
    (next :
      ∀ front back, EndsLine front → motive front → motive back →
        motive (front ++ back))
    (text : List Char) :
    motive text := by
  induction text using row_induction with
  | last row free =>
      by_cases none : row = []
      · subst none
        exact empty
      · exact single row _ (lines_row free none)
  | next row rest free ih =>
      obtain ⟨line, split, _⟩ := lines_row_lineFeed free
      have together := next (row ++ ['\n']) rest (Or.inr (by simp))
        (single _ line split) ih
      rwa [List.append_assoc, List.singleton_append] at together

/-! ## Sheltered rows -/

/-- A row whose first character that is not blank is no letter. -/
def Sheltered (row : List Char) : Prop :=
  ∀ c ∈ (trimStart row).head?, isLetter c = false

/-- What has been read of a row. -/
inductive RowState where
  /-- Nothing but blank characters. -/
  | margin
  /-- A character first that is neither blank nor a letter. -/
  | sheltered
  /-- A letter first; there is no way out of this state. -/
  | exposed
deriving DecidableEq

namespace RowState

/-- The state behind one more character. -/
def next : RowState → Char → RowState
  | .margin, c =>
    if isBlank c then .margin else if isLetter c then .exposed else .sheltered
  | .sheltered, c => if c = '\n' then .margin else .sheltered
  | .exposed, _ => .exposed

theorem foldl_exposed (text : List Char) :
    text.foldl next .exposed = .exposed := by
  induction text with
  | nil => rfl
  | cons c rest ih => exact ih

theorem foldl_sheltered
    {row : List Char}
    (free : '\n' ∉ row) :
    row.foldl next .sheltered = .sheltered := by
  induction row with
  | nil => rfl
  | cons c rest ih =>
      rw [List.mem_cons, not_or] at free
      rw [List.foldl_cons, next, if_neg (Ne.symm free.1)]
      exact ih free.2

/-- A row that has been read without finding a letter first is sheltered. -/
theorem sheltered_of_foldl
    {row : List Char}
    (free : '\n' ∉ row)
    (found : row.foldl next .margin ≠ .exposed) :
    Sheltered row := by
  induction row with
  | nil => exact fun c member => absurd member (Option.not_mem_none c)
  | cons c rest ih =>
      unfold Sheltered trimStart
      by_cases blank : isBlank c
      · rw [List.foldl_cons, next, if_pos blank] at found
        rw [List.dropWhile_cons_of_pos blank]
        exact ih (fun member => free (List.mem_cons_of_mem _ member)) found
      · rw [List.dropWhile_cons_of_neg blank]
        intro first same
        cases Option.mem_some_iff.mp same
        by_contra letter
        rw [List.foldl_cons, next, if_neg blank,
          if_pos (Bool.not_eq_false _ ▸ letter), foldl_exposed] at found
        exact found rfl

/-- A text is read row by row. -/
theorem foldl_lineFeed
    {row : List Char}
    (found : row.foldl next .margin ≠ .exposed) :
    next (row.foldl next .margin) '\n' = .margin := by
  cases state : row.foldl next .margin with
  | margin => rfl
  | sheltered => rfl
  | exposed => exact absurd state found

/-- All rows are sheltered where reading a text finds no letter first. -/
theorem eachRow_sheltered
    {text : List Char}
    (found : text.foldl next .margin ≠ .exposed) :
    EachRow Sheltered text := by
  induction text using row_induction with
  | last row free => exact EachRow.last free (sheltered_of_foldl free found)
  | next row rest free ih =>
      rw [List.foldl_append, List.foldl_cons] at found
      have row_found : row.foldl next .margin ≠ .exposed := by
        intro exposed
        rw [exposed] at found
        exact found (foldl_exposed rest)
      rw [foldl_lineFeed row_found] at found
      exact EachRow.next free (sheltered_of_foldl free row_found) (ih found)

end RowState

/-- How a piece of a text takes the reading of rows from one state to another. -/
structure Reads (start : RowState) (text : String) (stop : RowState) :
    Prop where
  foldl_eq : text.toList.foldl RowState.next start = stop

namespace Reads

variable {start middle stop : RowState} {front back text : String}

theorem append
    (first : Reads start front middle)
    (second : Reads middle back stop) :
    Reads start (front ++ back) stop := by
  constructor
  rw [String.toList_append, List.foldl_append, first.foldl_eq, second.foldl_eq]

/-- A literal is read character by character. -/
theorem literal
    {text : List Char}
    (stop : RowState)
    (read : text.foldl RowState.next start = stop) :
    Reads start (String.ofList text) stop := by
  constructor
  rwa [String.toList_ofList]

/-- A text without line feeds stays in the row that shelters it. -/
theorem inside
    (free : NoLineFeed text) :
    Reads .sheltered text .sheltered :=
  ⟨RowState.foldl_sheltered free.notMem⟩

/-- What is read alike from the margin and in a sheltered row is read so wherever no letter is
exposed. -/
theorem unexposed
    (safe : start ≠ .exposed)
    (fromMargin : Reads .margin text stop)
    (fromSheltered : Reads .sheltered text stop) :
    Reads start text stop := by
  cases start with
  | margin => exact fromMargin
  | sheltered => exact fromSheltered
  | exposed => exact absurd rfl safe

theorem eachRow
    (read : Reads .margin text stop)
    (found : stop ≠ .exposed) :
    EachRow Sheltered text.toList :=
  RowState.eachRow_sheltered (read.foldl_eq ▸ found)

end Reads

end Guidebook.Text
