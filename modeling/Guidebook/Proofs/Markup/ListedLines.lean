import Guidebook.Proofs.Markup.Occurrences
import Guidebook.Proofs.Text.Spans

/-!
# Lines that are listed

The lines of a text that hold an invocation are listed in the order of the text, each as often as it
stands there, with the bytes that it takes.  These bytes, cut out of the text, are those of the
line, and those of different entries of the list lie apart.
-/

namespace Guidebook.Markup

open Guidebook.Text

theorem content_ne_nil_of_invokes
    {name : String} {content : List Char}
    (found : invokes name content) :
    content ≠ [] := by
  rintro rfl
  cases found

namespace InvokingLine

/-- The entry of a line behind others: its bytes follow theirs. -/
def behind (front : List Line) (line : Line) : InvokingLine :=
  let start := (String.ofList (front.flatMap Line.text)).utf8ByteSize
  let content := String.ofList line.content
  ⟨content, start, start + content.utf8ByteSize⟩

variable {front : List Line} {line : Line}

theorem start_lt_stop (nonempty : line.content ≠ []) :
    (behind front line).start < (behind front line).stop := by
  have positive := byteLength_pos nonempty
  rw [byteLength_eq_utf8ByteSize] at positive
  exact Nat.lt_add_of_pos_right positive

/-- The bytes of a line are cut out of every text in which it stands behind the others. -/
theorem extract_behind
    {text : String} {back : List Line}
    (split : lines text.toList = front ++ line :: back) :
    text.toByteArray.extract (behind front line).start
        (behind front line).stop =
      (behind front line).line.toByteArray := by
  have whole : text.toList = (front ++ line :: back).flatMap Line.text := by
    rw [← split, lines_flatMap_text]
  have parts :
      text =
        String.ofList (front.flatMap Line.text) ++
            String.ofList line.content ++
          String.ofList (line.terminator ++ back.flatMap Line.text) := by
    rw [← String.toList_inj, whole]
    simp [Line.text]
  conv_lhs => rw [parts]
  exact extract_between _ _ _

theorem stop_le_start
    {laterFront : List Line} {later : Line}
    (ahead : front ++ [line] <+: laterFront) :
    (behind front line).stop ≤ (behind laterFront later).start := by
  obtain ⟨others, rfl⟩ := ahead
  simp only [behind, ← byteLength_eq_utf8ByteSize, List.flatMap_append,
    List.flatMap_singleton, byteLength_append, Line.text]
  omega

end InvokingLine

/-- The list has the entries of the lines that hold an invocation. -/
theorem invokingLines_eq (name text : String) :
    invokingLines name text =
      ((withFronts (lines text.toList)).filter fun entry =>
          invokes name entry.2.content).map fun entry =>
        InvokingLine.behind entry.1 entry.2 := by
  rw [invokingLines, withOffsets_eq, List.filter_map, List.map_map]
  simp only [Function.comp_def, Nat.zero_add, InvokingLine.behind,
    byteLength_eq_utf8ByteSize]

/--
A text falls into lines in one way.  The list has, in the order of the text, the entries of those
that hold an invocation and no other.  The bytes from the start of an entry to its stop are those of
its line, of which there is at least one, and no entry starts before the one in front of it stops.
-/
theorem invokingLines_are_spans (name text : String) :
    let rows := lines text.toList
    let listed := invokingLines name text
    (∀ others, FallsInto text.toList others ↔ others = rows) ∧
    (listed =
      ((withFronts rows).filter fun entry =>
          invokes name entry.2.content).map fun entry =>
        InvokingLine.behind entry.1 entry.2) ∧
    (∀ entry ∈ listed,
      text.toByteArray.extract entry.start entry.stop =
          entry.line.toByteArray ∧
        entry.start < entry.stop) ∧
    listed.Pairwise fun earlier later => earlier.stop ≤ later.start := by
  intro rows listed
  have entries : listed = _ := invokingLines_eq name text
  refine ⟨fun _ => fallsInto_iff, entries, fun entry member => ?_, ?_⟩
  · rw [entries] at member
    obtain ⟨⟨front, line⟩, found, rfl⟩ := List.mem_map.mp member
    obtain ⟨placed, invoked⟩ := List.mem_filter.mp found
    obtain ⟨back, split⟩ := exists_behind_of_mem_withFronts placed
    exact ⟨InvokingLine.extract_behind split,
      InvokingLine.start_lt_stop (content_ne_nil_of_invokes invoked)⟩
  · rw [entries, List.pairwise_map]
    exact ((withFronts_pairwise rows).imp InvokingLine.stop_le_start).filter _

/-- Equal lines are told apart by their bytes, of which an accented letter takes two. -/
example :
    invokingLines "foo" "é\r\nfoo:a[]\r\n\nfoo:a[]\n" =
      [⟨"foo:a[]", 4, 11⟩, ⟨"foo:a[]", 14, 21⟩] := by
  decide

end Guidebook.Markup
