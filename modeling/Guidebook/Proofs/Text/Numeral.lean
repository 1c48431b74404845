import Guidebook.Proofs.Basic
import Guidebook.Proofs.Text.Blank
import Guidebook.Text.Numeral
import Mathlib.Algebra.Group.Nat.Defs
import Mathlib.Data.List.TakeWhile
import Mathlib.Data.Option.Basic
import Mathlib.Tactic.Common

/-!
# Numbers in decimal

The digits with which a number is written denote it, filled with zeros in front or not, and they are
found at the start of a text that goes on with something else.
-/

namespace Guidebook.Text

theorem isDigit_eq (c : Char) :
    isDigit c = c.isDigit := by
  rw [Bool.eq_iff_iff]
  simp [isDigit, Char.isDigit, Char.le_def]

theorem digitsValue_eq_ofDigitChars (soFar : Nat) (digits : List Char) :
    digitsValue soFar digits = Nat.ofDigitChars 10 digits soFar := by
  induction digits generalizing soFar with
  | nil => rfl
  | cons c rest ih =>
      have zero : '0'.toNat = 48 := by decide
      rw [Nat.ofDigitChars_cons, ← ih, zero, Nat.mul_comm,
        digitsValue.eq_def]

theorem toList_toString (value : Nat) :
    (toString value).toList = Nat.toDigits 10 value := by
  rw [Nat.toString_eq_repr, Nat.toList_repr]

/-! ## Digits of a number -/

theorem isDigit_of_mem_toDigits {value : Nat} :
    ∀ c ∈ Nat.toDigits 10 value, isDigit c := by
  intro c member
  rw [isDigit_eq]
  exact Nat.isDigit_of_mem_toDigits (by decide) (by decide) member

/-- A number has a digit first. -/
theorem exists_toDigits (value : Nat) :
    ∃ c rest, Nat.toDigits 10 value = c :: rest ∧ isDigit c := by
  obtain ⟨c, rest, split⟩ :=
    List.exists_cons_of_ne_nil (Nat.toDigits_ne_nil (b := 10) (n := value))
  exact ⟨c, rest, split,
    isDigit_of_mem_toDigits c (split ▸ List.mem_cons_self)⟩

theorem digitsValue_toDigits (value : Nat) :
    digitsValue 0 (Nat.toDigits 10 value) = value := by
  rw [digitsValue_eq_ofDigitChars]
  exact Nat.ofDigitChars_toDigits (by decide) (by decide)

/-- Only the number zero is written with a zero in front. -/
theorem head?_toDigits_ne_zero
    {value : Nat} (positive : 0 < value) :
    (Nat.toDigits 10 value).head? ≠ some '0' := by
  induction value using Nat.strongRecOn with
  | _ value ih =>
      rw [Nat.toDigits_eq_if (by decide)]
      split
      · rename_i single
        have digits : ∀ digit < 10, 0 < digit → digit.digitChar ≠ '0' := by
          decide
        simpa using digits value single positive
      · rename_i several
        have front := ih (value / 10) (by omega) (by omega)
        obtain ⟨first, rest, split, _⟩ := exists_toDigits (value / 10)
        rw [split] at front ⊢
        exact front

/-! ## Digits filled with zeros -/

theorem isDigit_of_mem_padded {count value : Nat} :
    ∀ c ∈ padded count value, isDigit c := by
  intro c member
  rw [padded, toList_toString, List.mem_append] at member
  rcases member with filled | written
  · rw [List.eq_of_mem_replicate filled]
    decide
  · exact isDigit_of_mem_toDigits c written

theorem digitsValue_padded (count value : Nat) :
    digitsValue 0 (padded count value) = value := by
  have zeros :
      ∀ (filled : Nat) (digits : List Char),
        digitsValue 0 (List.replicate filled '0' ++ digits) =
          digitsValue 0 digits := by
    intro filled digits
    induction filled with
    | zero => rfl
    | succ filled ih => exact ih
  rw [padded, toList_toString, zeros, digitsValue_toDigits]

theorem length_padded
    {count value : Nat}
    (positive : 0 < count)
    (fits : value < 10 ^ count) :
    (padded count value).length = count := by
  have digits : (Nat.toDigits 10 value).length ≤ count :=
    (Nat.length_toDigits_le_iff (by decide) positive).mpr fits
  rw [padded, toList_toString, List.length_append, List.length_replicate]
  omega

theorem padded_ne_nil (count value : Nat) :
    padded count value ≠ [] := by
  rw [padded, toList_toString]
  exact List.append_ne_nil_of_right_ne_nil _ Nat.toDigits_ne_nil

/-! ## Digits at the start of a text -/

theorem isBlank_of_isDigit
    {c : Char} (digit : isDigit c) :
    isBlank c = false := by
  simp only [isDigit, Bool.and_eq_true, decide_eq_true_eq, Char.le_def,
    UInt32.le_iff_toNat_le] at digit
  have digits : '0'.val.toNat = 48 ∧ '9'.val.toNat = 57 := by decide
  apply isBlank_of_visible
  unfold Char.toNat
  omega

/-- There is a digit first with zeros in front, too. -/
theorem exists_padded (count value : Nat) :
    ∃ c rest, padded count value = c :: rest ∧ isDigit c := by
  obtain ⟨c, rest, split⟩ :=
    List.exists_cons_of_ne_nil (padded_ne_nil count value)
  exact ⟨c, rest, split,
    isDigit_of_mem_padded c (split ▸ List.mem_cons_self)⟩

theorem trimStart_padded (count value : Nat) (rest : List Char) :
    trimStart (padded count value ++ rest) = padded count value ++ rest := by
  obtain ⟨c, more, split, digit⟩ := exists_padded count value
  rw [split, List.cons_append, trimStart_cons (isBlank_of_isDigit digit)]

theorem takeWhile_padded
    (count value : Nat) {c : Char} (stops : isDigit c = false)
    (rest : List Char) :
    (padded count value ++ c :: rest).takeWhile isDigit =
      padded count value := by
  rw [takeWhile_append_cons_of_not stops]
  exact List.takeWhile_eq_self_iff.mpr isDigit_of_mem_padded

theorem dropWhile_padded
    (count value : Nat) {c : Char} (stops : isDigit c = false)
    (rest : List Char) :
    (padded count value ++ c :: rest).dropWhile isDigit = c :: rest := by
  have nothing : (padded count value).dropWhile isDigit = [] :=
    List.dropWhile_eq_nil_iff.mpr isDigit_of_mem_padded
  rw [dropWhile_append_cons_of_not stops, nothing, List.nil_append]

/-! ## Numerals with a sign -/

/-- A run of digits and the number that it denotes. -/
structure IsNumeral (digits : List Char) (value : Nat) : Prop where
  nonempty : digits ≠ []
  decimal : ∀ c ∈ digits, isDigit c
  value_eq : value = Nat.ofDigitChars 10 digits 0

/-- A text and the integer that it denotes: a run of digits with a sign in front or without one. -/
inductive Denotes : List Char → Int → Prop
  | unsigned
      {digits : List Char} {value : Nat}
      (numeral : IsNumeral digits value) :
      Denotes digits value
  | positive
      {digits : List Char} {value : Nat}
      (numeral : IsNumeral digits value) :
      Denotes ('+' :: digits) value
  | negative
      {digits : List Char} {value : Nat}
      (numeral : IsNumeral digits value) :
      Denotes ('-' :: digits) (-value)

theorem natural?_eq_some_iff {text : List Char} {value : Nat} :
    natural? text = some value ↔ IsNumeral text value := by
  unfold natural?
  rw [digitsValue_eq_ofDigitChars]
  constructor
  · intro read
    split at read
    · rename_i digits
      cases read
      exact ⟨digits.1, List.all_eq_true.mp digits.2, rfl⟩
    · cases read
  · rintro ⟨nonempty, decimal, rfl⟩
    rw [if_pos ⟨nonempty, List.all_eq_true.mpr decimal⟩]

theorem isNumeral_toDigits (value : Nat) :
    IsNumeral (Nat.toDigits 10 value) value where
  nonempty := Nat.toDigits_ne_nil
  decimal := isDigit_of_mem_toDigits
  value_eq := (Nat.ofDigitChars_toDigits (by decide) (by decide)).symm

namespace Denotes

variable {rest : List Char} {value : Int}

theorem positive_iff :
    Denotes ('+' :: rest) value ↔
      ∃ number : Nat, IsNumeral rest number ∧ (number : Int) = value := by
  constructor
  · intro denotes
    cases denotes with
    | unsigned numeral =>
        exact absurd (numeral.decimal '+' List.mem_cons_self) (by decide)
    | positive numeral => exact ⟨_, numeral, rfl⟩
  · rintro ⟨number, numeral, rfl⟩
    exact positive numeral

theorem negative_iff :
    Denotes ('-' :: rest) value ↔
      ∃ number : Nat, IsNumeral rest number ∧ -(number : Int) = value := by
  constructor
  · intro denotes
    cases denotes with
    | unsigned numeral =>
        exact absurd (numeral.decimal '-' List.mem_cons_self) (by decide)
    | negative numeral => exact ⟨_, numeral, rfl⟩
  · rintro ⟨number, numeral, rfl⟩
    exact negative numeral

theorem unsigned_iff
    {text : List Char}
    (noPlus : ∀ rest, text ≠ '+' :: rest)
    (noMinus : ∀ rest, text ≠ '-' :: rest) :
    Denotes text value ↔
      ∃ number : Nat, IsNumeral text number ∧ (number : Int) = value := by
  constructor
  · intro denotes
    cases denotes with
    | unsigned numeral => exact ⟨_, numeral, rfl⟩
    | positive numeral => exact absurd rfl (noPlus _)
    | negative numeral => exact absurd rfl (noMinus _)
  · rintro ⟨number, numeral, rfl⟩
    exact unsigned numeral

end Denotes

theorem boundedInteger?_eq_some_iff
    {least largest value : Int} {text : List Char} :
    boundedInteger? least largest text = some value ↔
      Denotes text value ∧ least ≤ value ∧ value ≤ largest := by
  unfold boundedInteger?
  rw [Option.filter_eq_some_iff, decide_eq_true_eq]
  refine and_congr_left fun _ => ?_
  split
  · simp only [Option.map_eq_some_iff, natural?_eq_some_iff,
      Denotes.positive_iff, Int.ofNat_eq_natCast]
  · simp only [Option.map_eq_some_iff, natural?_eq_some_iff,
      Denotes.negative_iff, Int.ofNat_eq_natCast]
  · rename_i noPlus noMinus
    rw [Denotes.unsigned_iff noPlus noMinus]
    simp only [Option.map_eq_some_iff, natural?_eq_some_iff,
      Int.ofNat_eq_natCast]

/-- A reader that takes no minus sign finds the numbers from one on all the same. -/
theorem boundedNatural?_eq_some_iff
    {largest value : Nat} (positive : 1 ≤ value) {text : List Char} :
    boundedNatural? largest text = some value ↔
      Denotes text value ∧ value ≤ largest := by
  unfold boundedNatural?
  rw [Option.filter_eq_some_iff, decide_eq_true_eq, natural?_eq_some_iff]
  refine and_congr_left fun _ => ?_
  split
  · simp only [Denotes.positive_iff, Int.natCast_inj, exists_eq_right]
  · rename_i noPlus
    by_cases minus : ∃ rest, text = '-' :: rest
    · obtain ⟨rest, rfl⟩ := minus
      rw [Denotes.negative_iff]
      refine iff_of_false (fun numeral => ?_) ?_
      · exact absurd (numeral.decimal '-' List.mem_cons_self) (by decide)
      · rintro ⟨number, -, same⟩
        omega
    · rw [Denotes.unsigned_iff noPlus (not_exists.mp minus)]
      simp only [Int.natCast_inj, exists_eq_right]

end Guidebook.Text
