import Guidebook.Text.Blank
import Mathlib.Data.List.Induction
import Mathlib.Data.List.TakeWhile

/-!
# Trimming

What trimming does to a text with a character before or behind it, blank or solid.
-/

namespace Guidebook.Text

/-- The visible characters of ASCII are solid. -/
theorem isBlank_of_visible
    {c : Char} (visible : 0x20 < c.toNat ∧ c.toNat < 0x7F) :
    isBlank c = false := by
  simp only [isBlank, Bool.or_eq_false_iff, Bool.and_eq_false_iff,
    decide_eq_false_iff_not, beq_eq_false_iff_ne]
  omega

theorem trimStart_cons
    {c : Char} (solid : isBlank c = false) (rest : List Char) :
    trimStart (c :: rest) = c :: rest :=
  List.dropWhile_cons_of_neg (by simp [solid])

theorem trimEnd_isStart (text : List Char) :
    trimEnd text <+: text := by
  have suffix := List.dropWhile_suffix (l := text.reverse) isBlank
  simpa [trimEnd] using List.reverse_prefix.mpr suffix

theorem trimEnd_append_blank
    {c : Char} (blank : isBlank c) (text : List Char) :
    trimEnd (text ++ [c]) = trimEnd text := by
  simp [trimEnd, blank]

theorem trimEnd_append_cons
    {c : Char} (solid : isBlank c = false) (front back : List Char) :
    trimEnd (front ++ c :: back) = front ++ c :: trimEnd back := by
  induction back using List.reverseRecOn with
  | nil => simp [trimEnd, solid]
  | append_singleton rest last ih =>
      by_cases blank : isBlank last
      · rw [← List.cons_append, ← List.append_assoc,
          trimEnd_append_blank blank, trimEnd_append_blank blank, ih]
      · simp [trimEnd, blank]

theorem trim_append_blank
    {c : Char} (blank : isBlank c) (text : List Char) :
    trim (text ++ [c]) = trim text := by
  unfold trim
  have start :
      trimStart (text ++ [c]) =
        if (trimStart text).isEmpty then [] else trimStart text ++ [c] := by
    simp [trimStart, List.dropWhile_append, blank]
  rw [start]
  split
  · rename_i empty
    rw [List.isEmpty_iff.mp empty]
  · exact trimEnd_append_blank blank _

/-- Trimming a text that starts with a solid character trims what stands behind it. -/
theorem trim_cons
    {c : Char} (solid : isBlank c = false) (text : List Char) :
    trim (c :: text) = c :: trimEnd text := by
  rw [trim, trimStart_cons solid]
  exact trimEnd_append_cons solid [] text

theorem trim_eq_self
    {text : List Char} (solid : ∀ c ∈ text, isBlank c = false) :
    trim text = text := by
  have kept :
      ∀ part : List Char, (∀ c ∈ part, isBlank c = false) →
        part.dropWhile isBlank = part := by
    rintro (_ | ⟨c, rest⟩) part_solid
    · rfl
    · exact trimStart_cons (part_solid c List.mem_cons_self) rest
  have backwards : ∀ c ∈ text.reverse, isBlank c = false :=
    fun c member => solid c (List.mem_reverse.mp member)
  rw [trim, trimStart, kept text solid, trimEnd, kept _ backwards,
    List.reverse_reverse]

/-- A text and the blanks around it. -/
theorem exists_margins (text : List Char) :
    ∃ front back,
      text = front ++ (trim text ++ back) ∧ ∀ c ∈ front, isBlank c := by
  obtain ⟨back, split⟩ := trimEnd_isStart (trimStart text)
  refine ⟨text.takeWhile isBlank, back, ?_, fun c => List.mem_takeWhile_imp⟩
  rw [trim, split]
  exact List.takeWhile_append_dropWhile.symm

/-- The character that ends a trimmed text is the last that is solid. -/
theorem getLast?_trim
    {c : Char} (solid : isBlank c = false) (text : List Char) :
    (trim (text ++ [c])).getLast? = some c := by
  have start : ∃ front, trimStart (text ++ [c]) = front ++ [c] := by
    unfold trimStart
    rw [List.dropWhile_append]
    split
    · exact ⟨[], by simp [solid]⟩
    · exact ⟨_, rfl⟩
  obtain ⟨front, split⟩ := start
  rw [trim, split, trimEnd_append_cons solid]
  exact List.getLast?_concat

/-- A trimmed text starts as the text does behind its blank margin. -/
theorem head?_trim
    {c : Char} {text : List Char}
    (first : (trim text).head? = some c) :
    (trimStart text).head? = some c := by
  obtain ⟨behind, split⟩ := trimEnd_isStart (trimStart text)
  cases trimmed : trim text with
  | nil => simp [trimmed] at first
  | cons other rest =>
      rw [trimmed] at first
      unfold trim at trimmed
      rw [← split, trimmed]
      exact first

end Guidebook.Text
