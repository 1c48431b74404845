import Guidebook.Proofs.Text.Rows
import Mathlib.Data.List.Infix
import Mathlib.Data.List.Zip

/-!
# Where the lines of a text stand

A text falls into lines in one way: every line feed ends one, together with a carriage return just
in front of it, and what is left behind the last of them is a line if it is not empty.  Counted in
bytes, a line starts where those in front of it end, so its bytes can be cut out of the text.
-/

namespace Guidebook.Text

/-! ## Falling into lines -/

/-- A line that a line feed ends.  A carriage return just in front of it belongs to the end. -/
structure Line.IsEnded (line : Line) : Prop where
  free : '\n' ∉ line.content
  terminated :
    (line.terminator = ['\n'] ∧ line.content.getLast? ≠ some '\r') ∨
      line.terminator = ['\r', '\n']

/-- A text falls into lines at its line feeds. -/
inductive FallsInto : List Char → List Line → Prop
  | nil :
      FallsInto [] []
  | last
      {content : List Char}
      (free : '\n' ∉ content)
      (nonempty : content ≠ []) :
      FallsInto content [⟨content, []⟩]
  | next
      {line : Line} {rest : List Char} {rows : List Line}
      (ended : line.IsEnded)
      (later : FallsInto rest rows) :
      FallsInto (line.text ++ rest) (line :: rows)

/-- A line that a line feed ends is read up to its end. -/
theorem lines_ended
    {line : Line} (ended : line.IsEnded) (rest : List Char) :
    lines (line.text ++ rest) = line :: lines rest := by
  obtain ⟨content, terminator⟩ := line
  obtain ⟨free, terminated⟩ := ended
  simp only [Line.text] at free terminated ⊢
  induction content with
  | nil =>
      rcases terminated with ⟨rfl, -⟩ | rfl
      · rfl
      · rfl
  | cons c content ih =>
      obtain ⟨inside, behind_free⟩ := List.ne_and_not_mem_of_not_mem_cons free
      have behind :
          (terminator = ['\n'] ∧ content.getLast? ≠ some '\r') ∨
            terminator = ['\r', '\n'] := by
        rcases terminated with ⟨feed, noReturn⟩ | both
        · refine Or.inl ⟨feed, fun returned => noReturn ?_⟩
          rw [List.getLast?_cons, returned]
          rfl
        · exact Or.inr both
      refine lines_cons (Ne.symm inside) (fun isReturn => ?_)
        (ih behind_free behind)
      -- Only in front of its own line feed would a carriage return end the line.
      cases content with
      | nil =>
          rcases terminated with ⟨-, noReturn⟩ | rfl
          · exact absurd (congrArg some isReturn) noReturn
          · simp
      | cons next more =>
          have first := (List.ne_and_not_mem_of_not_mem_cons behind_free).1
          simpa using Ne.symm first

namespace FallsInto

variable {text : List Char} {rows : List Line}

theorem lines_eq (falls : FallsInto text rows) : lines text = rows := by
  induction falls with
  | nil => rfl
  | last free nonempty => exact lines_row free nonempty
  | next ended later ih => rw [lines_ended ended, ih]

theorem exists_rows (text : List Char) : ∃ rows, FallsInto text rows := by
  induction text using row_induction with
  | last row free =>
      by_cases empty : row = []
      · exact ⟨[], empty ▸ nil⟩
      · exact ⟨_, last free empty⟩
  | next row rest free ih =>
      obtain ⟨rows, later⟩ := ih
      by_cases returned : row.getLast? = some '\r'
      · obtain ⟨content, rfl⟩ := List.getLast?_eq_some_iff.mp returned
        have ended : Line.IsEnded ⟨content, ['\r', '\n']⟩ :=
          { free := fun member => free (List.mem_append_left _ member)
            terminated := Or.inr rfl }
        have whole := next ended later
        rw [Line.text, List.append_assoc] at whole
        rw [List.append_assoc]
        exact ⟨_, whole⟩
      · have ended : Line.IsEnded ⟨row, ['\n']⟩ :=
          { free := free
            terminated := Or.inl ⟨rfl, returned⟩ }
        have whole := next ended later
        rw [Line.text, List.append_assoc] at whole
        exact ⟨_, whole⟩

end FallsInto

/-- The lines of a text are those into which it falls. -/
theorem fallsInto_iff {text : List Char} {rows : List Line} :
    FallsInto text rows ↔ rows = lines text := by
  constructor
  · exact fun falls => falls.lines_eq.symm
  · rintro rfl
    obtain ⟨rows, falls⟩ := FallsInto.exists_rows text
    rwa [falls.lines_eq]

/-! ## Bytes -/

theorem byteLength_eq_utf8ByteSize (text : List Char) :
    byteLength text = (String.ofList text).utf8ByteSize := by
  induction text with
  | nil => rfl
  | cons c rest ih =>
      have step : byteLength (c :: rest) = c.utf8Size + byteLength rest := rfl
      rw [step, ih, ← List.singleton_append, String.ofList_append,
        String.utf8ByteSize_append, ← String.singleton_eq_ofList,
        String.utf8ByteSize_singleton]

@[simp]
theorem byteLength_nil : byteLength [] = 0 :=
  rfl

@[simp]
theorem byteLength_append (front back : List Char) :
    byteLength (front ++ back) = byteLength front + byteLength back := by
  simp only [byteLength_eq_utf8ByteSize, String.ofList_append,
    String.utf8ByteSize_append]

theorem byteLength_pos {text : List Char} (nonempty : text ≠ []) :
    0 < byteLength text := by
  obtain ⟨c, rest, rfl⟩ := List.exists_cons_of_ne_nil nonempty
  exact Nat.add_pos_left c.utf8Size_pos _

theorem length_lines_le (text : List Char) :
    (lines text).length ≤ text.length := by
  fun_induction lines text with
  | case1 => exact Nat.le_refl 0
  | case2 rest ih => exact Nat.succ_le_succ ih
  | case3 rest ih => exact Nat.succ_le_succ (Nat.le_succ_of_le ih)
  | case4 c rest _ _ empty ih => exact Nat.succ_le_succ (Nat.zero_le _)
  | case5 c rest _ _ line more split ih =>
      rw [split] at ih
      exact Nat.le_succ_of_le ih

/-- A line takes at least one byte. -/
theorem length_lines_le_utf8ByteSize (text : String) :
    (lines text.toList).length ≤ text.utf8ByteSize := by
  have bytes : ∀ part : List Char, part.length ≤ byteLength part := by
    intro part
    induction part with
    | nil => exact Nat.le_refl 0
    | cons c rest ih =>
        have step : byteLength (c :: rest) = c.utf8Size + byteLength rest := rfl
        have positive := c.utf8Size_pos
        rw [step, List.length_cons]
        omega
  calc
    (lines text.toList).length ≤ text.toList.length := length_lines_le _
    _ ≤ byteLength text.toList := bytes _
    _ = text.utf8ByteSize := by
      rw [byteLength_eq_utf8ByteSize, String.ofList_toList]

/-- The bytes of a text that stands between two others follow those of the first. -/
theorem extract_between (front middle back : String) :
    (front ++ middle ++ back).toByteArray.extract front.utf8ByteSize
        (front.utf8ByteSize + middle.utf8ByteSize) =
      middle.toByteArray := by
  simp only [String.toByteArray_append, ByteArray.append_assoc,
    ← String.size_toByteArray]
  calc
    (front.toByteArray ++ (middle.toByteArray ++ back.toByteArray)).extract
          (front.toByteArray.size + 0)
          (front.toByteArray.size + middle.toByteArray.size) =
        (middle.toByteArray ++ back.toByteArray).extract 0
          middle.toByteArray.size :=
      ByteArray.extract_append_size_add
    _ = middle.toByteArray := ByteArray.extract_append_eq_left rfl

/-! ## Lines behind others -/

/-- The lines of a sequence, each with those in front of it. -/
def withFronts (rows : List Line) : List (List Line × Line) :=
  rows.inits.zip rows

theorem withFronts_cons (first : Line) (rest : List Line) :
    withFronts (first :: rest) =
      ([], first) :: (withFronts rest).map (Prod.map (first :: ·) id) := by
  rw [withFronts, List.inits_cons, List.zip_cons_cons, List.zip_map_left,
    withFronts]

theorem withFronts_concat (rows : List Line) (line : Line) :
    withFronts (rows ++ [line]) = withFronts rows ++ [(rows, line)] := by
  induction rows with
  | nil => rfl
  | cons first rest ih =>
      rw [List.cons_append, withFronts_cons, withFronts_cons, ih]
      simp

theorem exists_behind_of_mem_withFronts
    {rows front : List Line} {line : Line}
    (member : (front, line) ∈ withFronts rows) :
    ∃ back, rows = front ++ line :: back := by
  induction rows generalizing front with
  | nil => cases member
  | cons first rest ih =>
      rw [withFronts_cons] at member
      rcases List.mem_cons.mp member with same | later
      · cases same
        exact ⟨rest, rfl⟩
      · obtain ⟨⟨others, other⟩, found, same⟩ := List.mem_map.mp later
        cases same
        obtain ⟨back, rfl⟩ := ih found
        exact ⟨back, rfl⟩

/-- Of two lines, the first one and what is in front of it are in front of the second. -/
theorem withFronts_pairwise (rows : List Line) :
    (withFronts rows).Pairwise fun earlier later =>
      earlier.1 ++ [earlier.2] <+: later.1 := by
  induction rows with
  | nil => exact List.Pairwise.nil
  | cons first rest ih =>
      rw [withFronts_cons, List.pairwise_cons, List.pairwise_map]
      constructor
      · intro later member
        obtain ⟨⟨front, line⟩, -, rfl⟩ := List.mem_map.mp member
        exact ⟨front, rfl⟩
      · exact ih.imp fun ahead => List.prefix_cons_iff.mpr (Or.inr ⟨_, rfl, ahead⟩)

/-- Offsets are the numbers of bytes in front. -/
theorem withOffsets_eq (offset : Nat) (rows : List Line) :
    withOffsets offset rows =
      (withFronts rows).map fun entry =>
        (entry.2, offset + byteLength (entry.1.flatMap Line.text)) := by
  induction rows generalizing offset with
  | nil => rfl
  | cons first rest ih =>
      rw [withOffsets, withFronts_cons, List.map_cons, List.map_map, ih]
      simp [Nat.add_assoc, Function.comp_def]

end Guidebook.Text
