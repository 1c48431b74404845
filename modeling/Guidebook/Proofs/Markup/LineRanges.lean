import Guidebook.Markup.Selection
import Guidebook.Proofs.Text.Numeral
import Guidebook.Proofs.Text.Spans

/-!
# Ranges of lines

A range names the first and the last line that are shown, counted from one, on both sides of two
dots; minus one stands for the last line of the file.  It selects lines that are there, or it is
refused.  Two ranges of which the second goes on behind the first select what one does that takes in
both.
-/

namespace Guidebook.Markup

open Guidebook.Text

/-! ## Cutting a range -/

/-- Whether a dot stands first does not depend on what follows the next dot. -/
theorem startsWithDot_iff {front back : List Char} :
    ['.'] <+: front ++ ['.'] ↔
      ∃ rest, front ++ '.' :: back = '.' :: rest := by
  cases front with
  | nil => simp
  | cons c more => simp [List.cons_prefix_cons, eq_comm]

/-- A range is cut at the first two dots in a row. -/
theorem cutRange_eq_some_iff {text first last : List Char} :
    cutRange text = some (first, last) ↔
      text = first ++ '.' :: '.' :: last ∧
        ¬['.', '.'] <:+: first ++ ['.'] := by
  constructor
  · intro found
    fun_induction cutRange text generalizing first with
    | case1 rest =>
        cases found
        exact ⟨rfl, by decide⟩
    | case2 => cases found
    | case3 c rest alone ih =>
        obtain ⟨⟨front, back⟩, deeper, same⟩ := Option.map_eq_some_iff.mp found
        cases same
        obtain ⟨rfl, absent⟩ := ih deeper
        refine ⟨rfl, fun occurs => ?_⟩
        rcases List.infix_cons_iff.mp occurs with starts | later
        · obtain ⟨dot, next⟩ := List.cons_prefix_cons.mp starts
          obtain ⟨rest, split⟩ := startsWithDot_iff.mp next
          exact alone rest dot.symm split
        · exact absent later
  · rintro ⟨rfl, absent⟩
    induction first with
    | nil => rfl
    | cons c front ih =>
        rw [List.cons_append, List.infix_cons_iff, not_or] at absent
        rw [List.cons_append, cutRange, ih absent.2]
        · rfl
        · intro rest dot split
          exact absent.1 (List.cons_prefix_cons.mpr
            ⟨dot.symm, startsWithDot_iff.mpr ⟨rest, split⟩⟩)

/-! ## What a range names -/

/-- A range of a file with so many lines, its parts, and what they denote. -/
structure IsRange
    (count : Nat) (range first last : List Char)
    (start : Nat) (bound : Int) (stop : Nat) : Prop where
  split : range = first ++ '.' :: '.' :: last
  earliest : ¬['.', '.'] <:+: first ++ ['.']
  start_denoted : Denotes (trim first) start
  start_fits : start < UInt64.size
  bound_denoted : Denotes (trim last) bound
  bound_fits : Int64.minValue.toInt ≤ bound ∧ bound ≤ Int64.maxValue.toInt
  /-- Minus one stands for the last line. -/
  stop_eq : (stop : Int) = if bound = -1 then (count : Int) else bound
  inside : 1 ≤ start ∧ start ≤ stop ∧ stop ≤ count

/-- A range names the lines from one number to another. -/
def NamesLines
    (count : Nat) (range : List Char) (start stop : Nat) : Prop :=
  ∃ first last bound, IsRange count range first last start bound stop

/-- The last step in reading a range finds the last line and compares. -/
theorem checked_eq_some_iff
    {count first start stop : Nat} {bound : Int} :
    (do
      let last ←
        if bound = -1 then some count
        else if bound < 0 then none
        else some bound.toNat
      guard (1 ≤ first ∧ first ≤ last ∧ last ≤ count)
      return (first, last) : Option (Nat × Nat)) = some (start, stop) ↔
      first = start ∧
        (stop : Int) = (if bound = -1 then (count : Int) else bound) ∧
        1 ≤ start ∧ start ≤ stop ∧ stop ≤ count := by
  have guarded (last : Nat) :
      (do
        guard (1 ≤ first ∧ first ≤ last ∧ last ≤ count)
        return (first, last) : Option (Nat × Nat)) = some (start, stop) ↔
        first = start ∧ last = stop ∧
          1 ≤ start ∧ start ≤ stop ∧ stop ≤ count := by
    simp only [option_bind_eq_some, Option.guard_eq_some', pure,
      Option.some.injEq, Prod.mk.injEq]
    constructor
    · rintro ⟨-, holds, rfl, rfl⟩
      exact ⟨rfl, rfl, holds⟩
    · rintro ⟨rfl, rfl, holds⟩
      exact ⟨.unit, holds, rfl, rfl⟩
  split
  · exact (guarded count).trans (by omega)
  · split
    · refine iff_of_false nofun ?_
      omega
    · exact (guarded bound.toNat).trans (by omega)

/-- Reading a range finds the lines that it names. -/
theorem lineRange?_eq_some_iff
    {count start stop : Nat} {range : List Char} :
    lineRange? count range = some (start, stop) ↔
      NamesLines count range start stop := by
  unfold lineRange?
  simp only [option_bind_eq_some, checked_eq_some_iff]
  constructor
  · rintro ⟨⟨first, last⟩, cut, _, read, bound, boundRead, rfl, stop_eq, inside⟩
    obtain ⟨split, earliest⟩ := cutRange_eq_some_iff.mp cut
    obtain ⟨denoted, fits⟩ := (boundedNatural?_eq_some_iff inside.1).mp read
    obtain ⟨bound_denoted, least, largest⟩ :=
      boundedInteger?_eq_some_iff.mp boundRead
    exact ⟨first, last, bound, split, earliest, denoted,
      Nat.lt_of_le_pred (by decide) fits, bound_denoted, ⟨least, largest⟩,
      stop_eq, inside⟩
  · rintro ⟨first, last, bound, range⟩
    refine ⟨(first, last),
      cutRange_eq_some_iff.mpr ⟨range.split, range.earliest⟩, start,
      (boundedNatural?_eq_some_iff range.inside.1).mpr
        ⟨range.start_denoted, Nat.le_pred_of_lt range.start_fits⟩, bound,
      boundedInteger?_eq_some_iff.mpr
        ⟨range.bound_denoted, range.bound_fits⟩,
      rfl, range.stop_eq, range.inside⟩

/-! ## What is selected -/

section Selection

variable {content range target result : String} {start stop : Nat}

/-- Every number between the first and the last is that of a line. -/
theorem map_some_slice
    {rows : List Line}
    (inside : 1 ≤ start ∧ start ≤ stop ∧ stop ≤ rows.length) :
    ((rows.drop (start - 1)).take (stop + 1 - start)).map some =
      (List.range' start (stop + 1 - start)).map fun number =>
        rows[number - 1]? := by
  refine List.ext_getElem ?_ fun index _ small => ?_
  · simp only [List.length_map, List.length_take, List.length_drop,
      List.length_range']
    omega
  · rw [List.length_map, List.length_range'] at small
    have place : start + index - 1 = start - 1 + index := by omega
    have within : start - 1 + index < rows.length := by omega
    simp [place, within]

/-- The text of the lines from one number to another, each ended by a line feed. -/
def linesBetween (rows : List Line) (start stop : Nat) : List Char :=
  unlines (((rows.drop (start - 1)).take (stop + 1 - start)).map Line.content)

theorem linesBetween_eq_iff
    {rows : List Line} {text : List Char}
    (inside : 1 ≤ start ∧ start ≤ stop ∧ stop ≤ rows.length) :
    text = linesBetween rows start stop ↔
      ∃ shown : List Line,
        shown.map some =
            ((List.range' start (stop + 1 - start)).map fun number =>
              rows[number - 1]?) ∧
          text = shown.flatMap fun line => line.content ++ ['\n'] := by
  rw [linesBetween, unlines, List.flatMap_map]
  constructor
  · rintro rfl
    exact ⟨_, map_some_slice inside, rfl⟩
  · rintro ⟨shown, same, rfl⟩
    rw [← map_some_slice inside] at same
    rw [List.map_injective_iff.mpr (Option.some_injective _) same]

theorem selectLines_of_namesLines
    (named :
      NamesLines (lines content.toList).length range.toList start stop)
    (target : String) :
    selectLines content range target =
      .ok (String.ofList (linesBetween (lines content.toList) start stop)) := by
  rw [← lineRange?_eq_some_iff] at named
  simp only [selectLines, lineContents, List.length_map, named, linesBetween,
    List.map_take, List.map_drop]

theorem selectLines_of_not_namesLines
    (unnamed :
      ¬∃ start stop,
        NamesLines (lines content.toList).length range.toList start stop)
    (target : String) :
    selectLines content range target =
      .error (.invalidLineRange target range) := by
  have refused :
      lineRange? (lines content.toList).length range.toList = none := by
    rw [Option.eq_none_iff_forall_ne_some]
    rintro ⟨start, stop⟩ found
    exact unnamed ⟨start, stop, lineRange?_eq_some_iff.mp found⟩
  simp only [selectLines, lineContents, List.length_map, refused]

/-- A range selects the lines that it names, or it is refused. -/
theorem selectLines_cases (content range target : String) :
    (∃ start stop,
      NamesLines (lines content.toList).length range.toList start stop ∧
        selectLines content range target =
          .ok (String.ofList
            (linesBetween (lines content.toList) start stop))) ∨
      (¬∃ start stop,
        NamesLines (lines content.toList).length range.toList start stop) ∧
        selectLines content range target =
          .error (.invalidLineRange target range) := by
  by_cases named :
      ∃ start stop,
        NamesLines (lines content.toList).length range.toList start stop
  · obtain ⟨start, stop, names⟩ := named
    exact Or.inl ⟨start, stop, names, selectLines_of_namesLines names target⟩
  · exact Or.inr ⟨named, selectLines_of_not_namesLines named target⟩

theorem selectLines_eq_ok_iff :
    selectLines content range target = .ok result ↔
      ∃ start stop,
        NamesLines (lines content.toList).length range.toList start stop ∧
          result.toList = linesBetween (lines content.toList) start stop := by
  constructor
  · intro succeeded
    rcases selectLines_cases content range target with
      ⟨start, stop, names, passed⟩ | ⟨-, refused⟩
    · rw [passed] at succeeded
      cases succeeded
      exact ⟨start, stop, names, String.toList_ofList⟩
    · rw [refused] at succeeded
      cases succeeded
  · rintro ⟨start, stop, names, same⟩
    rw [selectLines_of_namesLines names, ← same, String.ofList_toList]

theorem selectLines_eq_error_iff {reason : Error} :
    selectLines content range target = .error reason ↔
      (¬∃ start stop,
        NamesLines (lines content.toList).length range.toList start stop) ∧
        reason = .invalidLineRange target range := by
  constructor
  · intro failed
    rcases selectLines_cases content range target with
      ⟨start, stop, names, passed⟩ | ⟨unnamed, refused⟩
    · rw [passed] at failed
      cases failed
    · rw [refused] at failed
      cases failed
      exact ⟨unnamed, rfl⟩
  · rintro ⟨unnamed, rfl⟩
    exact selectLines_of_not_namesLines unnamed target

end Selection

/-! ## Ranges that are written -/

theorem trim_digits (value : Nat) :
    trim (toString value).toList = (toString value).toList := by
  refine trim_eq_self fun c member => isBlank_of_isDigit ?_
  rw [toList_toString] at member
  exact isDigit_of_mem_toDigits c member

theorem denotes_digits (value : Nat) :
    Denotes (trim (toString value).toList) value := by
  rw [trim_digits, toList_toString]
  exact .unsigned (isNumeral_toDigits value)

/-- The two dots behind a number are the first in a row. -/
theorem dots_behind_digits (value : Nat) :
    ¬['.', '.'] <:+: (toString value).toList ++ ['.'] := by
  have absent : '.' ∉ (toString value).toList := by
    rw [toList_toString]
    exact fun member => absurd (isDigit_of_mem_toDigits '.' member) (by decide)
  intro occurs
  have twice := occurs.sublist.count_le '.'
  rw [List.count_append, List.count_eq_zero.mpr absent] at twice
  exact absurd twice (by decide)

/-- The number behind one that fits with a sign fits without one. -/
theorem succ_fits
    {value : Nat} (fits : (value : Int) ≤ Int64.maxValue.toInt) :
    value + 1 < UInt64.size := by
  have largest : Int64.maxValue.toInt = 9223372036854775807 := by decide
  have size : UInt64.size = 18446744073709551616 := rfl
  omega

/-- Two numbers with two dots between them. -/
theorem namesLines_between
    {count start stop : Nat}
    (inside : 1 ≤ start ∧ start ≤ stop ∧ stop ≤ count)
    (fits : (stop : Int) ≤ Int64.maxValue.toInt) :
    NamesLines count (toString start ++ ".." ++ toString stop).toList
      start stop :=
  ⟨(toString start).toList, (toString stop).toList, stop,
    { split := by simp
      earliest := dots_behind_digits start
      start_denoted := denotes_digits start
      start_fits := by
        have behind := succ_fits fits
        omega
      bound_denoted := denotes_digits stop
      bound_fits := ⟨Int.le_trans (by decide) (Int.natCast_nonneg stop), fits⟩
      stop_eq := by rw [if_neg (by omega)]
      inside := inside }⟩

theorem denotes_minusOne : Denotes (trim ['-', '1']) (-1) := by
  have one : IsNumeral ['1'] 1 := isNumeral_toDigits 1
  have trimmed : trim ['-', '1'] = ['-', '1'] := by decide
  rw [trimmed]
  exact .negative one

/-- A number, two dots and minus one. -/
theorem namesLines_onward
    {count start : Nat}
    (inside : 1 ≤ start ∧ start ≤ count)
    (fits : start < UInt64.size) :
    NamesLines count (toString start ++ "..-1").toList start count :=
  ⟨(toString start).toList, ['-', '1'], -1,
    { split := by simp
      earliest := dots_behind_digits start
      start_denoted := denotes_digits start
      start_fits := fits
      bound_denoted := denotes_minusOne
      bound_fits := by decide
      stop_eq := by rw [if_pos rfl]
      inside := ⟨inside.1, inside.2, Nat.le_refl count⟩ }⟩

/-! ## Ranges next to each other -/

/-- The lines up to a number and those behind it are all lines. -/
theorem linesBetween_append (rows : List Line) (middle : Nat) :
    linesBetween rows 1 middle ++
        linesBetween rows (middle + 1) rows.length =
      linesBetween rows 1 rows.length := by
  have front : (rows.drop (1 - 1)).take (middle + 1 - 1) = rows.take middle := by
    simp
  have back :
      (rows.drop (middle + 1 - 1)).take (rows.length + 1 - (middle + 1)) =
        rows.drop middle :=
    List.take_of_length_le (by simp)
  have all : (rows.drop (1 - 1)).take (rows.length + 1 - 1) = rows := by
    simp
  rw [linesBetween, linesBetween, linesBetween, front, back, all, unlines,
    unlines, unlines, ← List.flatMap_append, ← List.map_append,
    List.take_append_drop]

/--
A text falls into lines in one way.  A range selects lines exactly if it names some, and then these,
each with a line feed behind it: for every number from the first to the last there is a line, and it
is shown.  Any other range is refused as invalid.  Of a text whose size fits into 64 bits with a
sign, what a range up to a line selects and what one from the next line on selects are together the
whole.
-/
theorem selectLines_selects_range (content target : String) :
    let rows := lines content.toList
    (∀ others, FallsInto content.toList others ↔ others = rows) ∧
    (∀ range selected,
      selectLines content range target = .ok selected ↔
        ∃ start stop,
          NamesLines rows.length range.toList start stop ∧
            ∃ shown : List Line,
              shown.map some =
                  ((List.range' start (stop + 1 - start)).map fun number =>
                    rows[number - 1]?) ∧
                selected.toList =
                  shown.flatMap fun line => line.content ++ ['\n']) ∧
    (∀ range reason,
      selectLines content range target = .error reason ↔
        (¬∃ start stop, NamesLines rows.length range.toList start stop) ∧
          reason = .invalidLineRange target range) ∧
    ((content.utf8ByteSize : Int) ≤ Int64.maxValue.toInt →
      ∀ middle, 1 ≤ middle → middle < rows.length →
        ∃ front back,
          selectLines content ("1.." ++ toString middle) target = .ok front ∧
          selectLines content (toString (middle + 1) ++ "..-1") target =
            .ok back ∧
          selectLines content "1..-1" target = .ok (front ++ back)) := by
  intro rows
  refine ⟨fun _ => fallsInto_iff, fun range selected => ?_,
    fun _ _ => selectLines_eq_error_iff, fun small middle one_le lt => ?_⟩
  · rw [selectLines_eq_ok_iff]
    refine exists_congr fun start => exists_congr fun stop =>
      and_congr_right fun named => ?_
    obtain ⟨_, _, _, isRange⟩ := named
    exact linesBetween_eq_iff isRange.inside
  · have size : rows.length ≤ content.utf8ByteSize :=
      length_lines_le_utf8ByteSize content
    have fits : (middle : Int) ≤ Int64.maxValue.toInt := by omega
    have one : toString 1 ++ ".." = "1.." := by decide
    have front :
        NamesLines rows.length (toString 1 ++ ".." ++ toString middle).toList
          1 middle :=
      namesLines_between ⟨Nat.le_refl 1, one_le, Nat.le_of_lt lt⟩ fits
    rw [one] at front
    have back :
        NamesLines rows.length (toString (middle + 1) ++ "..-1").toList
          (middle + 1) rows.length :=
      namesLines_onward ⟨by omega, lt⟩ (succ_fits fits)
    have all : toString 1 ++ "..-1" = "1..-1" := by decide
    have whole :
        NamesLines rows.length (toString 1 ++ "..-1").toList 1 rows.length :=
      namesLines_onward ⟨Nat.le_refl 1, by omega⟩ (by decide)
    rw [all] at whole
    refine ⟨_, _, selectLines_of_namesLines front target,
      selectLines_of_namesLines back target, ?_⟩
    rw [selectLines_of_namesLines whole, ← String.ofList_append,
      linesBetween_append]

theorem selectLines_selects_range_threeLines :
    let content := "a\r\nb\nc"
    (content.utf8ByteSize : Int) ≤ Int64.maxValue.toInt ∧
      2 < (lines content.toList).length ∧
      ∃ front back,
        selectLines content ("1.." ++ toString 2) "X" = .ok front ∧
        selectLines content (toString (2 + 1) ++ "..-1") "X" = .ok back ∧
        selectLines content "1..-1" "X" = .ok (front ++ back) := by
  intro content
  have small : (content.utf8ByteSize : Int) ≤ Int64.maxValue.toInt := by decide
  have several : 2 < (lines content.toList).length := by decide
  exact ⟨small, several,
    (selectLines_selects_range content "X").2.2.2 small 2 (by decide) several⟩

/-- A sign and blanks are allowed, and a carriage return at the end of a line is left out. -/
example :
    selectLines "a\r\n\nb" " +2 ..-1" "X" = .ok "\nb\n" ∧
      selectLines "a\r\n\nb" "1...2" "X" = .error (.invalidLineRange "X" "1...2") := by
  decide

end Guidebook.Markup
