/-!
# Lines

A text is a sequence of lines.  A line ends with a line feed, with a carriage return and a line
feed, or with the text; a carriage return elsewhere belongs to the line it stands in.  Putting the
lines of a text back together gives the text.
-/

namespace Guidebook.Text

/-- A line and what ends it. -/
structure Line where
  content : List Char
  terminator : List Char
deriving DecidableEq

/-- The line as it stands in its text. -/
def Line.text (line : Line) : List Char :=
  line.content ++ line.terminator

/-- The lines of a text; an empty text has none. -/
def lines : List Char → List Line
  | [] => []
  | '\n' :: rest => ⟨[], ['\n']⟩ :: lines rest
  | '\r' :: '\n' :: rest => ⟨[], ['\r', '\n']⟩ :: lines rest
  | c :: rest =>
    match lines rest with
    | [] => [⟨[c], []⟩]
    | line :: more => ⟨c :: line.content, line.terminator⟩ :: more

/-- The contents of the lines of a text. -/
def lineContents (text : List Char) : List (List Char) :=
  (lines text).map Line.content

/-- The number of bytes that a text takes in UTF-8. -/
def byteLength (text : List Char) : Nat :=
  text.foldr (fun c size => c.utf8Size + size) 0

/-- Each line of a sequence with the offset, in bytes, at which it starts. -/
def withOffsets (offset : Nat) : List Line → List (Line × Nat)
  | [] => []
  | line :: rest => (line, offset) :: withOffsets (offset + byteLength line.text) rest

theorem lines_flatMap_text (text : List Char) : (lines text).flatMap Line.text = text := by
  fun_induction lines text with
  | case1 => rfl
  | case2 rest ih => simp [Line.text, ih]
  | case3 rest ih => simp [Line.text, ih]
  | case4 c rest _ _ empty ih => simp_all [Line.text]
  | case5 c rest _ _ line more split ih => simp_all [Line.text]

end Guidebook.Text
