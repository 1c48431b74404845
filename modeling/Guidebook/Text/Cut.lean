/-!
# Cutting texts

A text is cut at the first or at the last occurrence of a character, which the parts leave out.
-/

namespace Guidebook.Text

/-- The parts before and after the first occurrence of a character. -/
def cut (separator : Char) : List Char → Option (List Char × List Char)
  | [] => none
  | c :: rest =>
    if c = separator then some ([], rest)
    else (cut separator rest).map fun parts => (c :: parts.1, parts.2)

/-- The parts before and after the last occurrence of a character. -/
def cutLast (separator : Char) (text : List Char) : Option (List Char × List Char) :=
  (cut separator text.reverse).map fun parts => (parts.2.reverse, parts.1.reverse)

/-- The parts before and after the first `..` of a text. -/
def cutRange : List Char → Option (List Char × List Char)
  | '.' :: '.' :: rest => some ([], rest)
  | [] => none
  | c :: rest => (cutRange rest).map fun parts => (c :: parts.1, parts.2)

/-- A text less its last characters as long as they are the given one. -/
def dropTrailing (c : Char) (text : List Char) : List Char :=
  (text.reverse.dropWhile (· = c)).reverse

theorem cut_eq_some {separator : Char} {text before after : List Char}
    (found : cut separator text = some (before, after)) :
    text = before ++ separator :: after ∧ separator ∉ before := by
  induction text generalizing before with
  | nil => simp [cut] at found
  | cons c rest ih =>
    by_cases here : c = separator
    · simp only [cut, here, ↓reduceIte, Option.some.injEq, Prod.mk.injEq] at found
      obtain ⟨rfl, rfl⟩ := found
      simp [here]
    · simp only [cut, here, ↓reduceIte, Option.map_eq_some_iff, Prod.mk.injEq] at found
      obtain ⟨⟨first, second⟩, deeper, rfl, rfl⟩ := found
      obtain ⟨rfl, absent⟩ := ih deeper
      simp [absent, Ne.symm here]

theorem cut_append_cons {separator : Char} {before : List Char}
    (absent : separator ∉ before) (after : List Char) :
    cut separator (before ++ separator :: after) = some (before, after) := by
  induction before with
  | nil => simp [cut]
  | cons c rest ih =>
    rw [List.mem_cons, not_or] at absent
    rw [List.cons_append, cut, if_neg (Ne.symm absent.1), ih absent.2]
    rfl

theorem cut_eq_none_iff {separator : Char} {text : List Char} :
    cut separator text = none ↔ separator ∉ text := by
  induction text with
  | nil => simp [cut]
  | cons c rest ih =>
    by_cases here : c = separator
    · simp [cut, here]
    · simp [cut, here, ih, Ne.symm here]

end Guidebook.Text
