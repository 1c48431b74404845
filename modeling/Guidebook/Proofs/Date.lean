import Guidebook.Date
import Guidebook.Proofs.Text.Numeral

/-!
# Dates that have been written

A date is read back from its text, in the lenient form as well as in the strict one.  Month and day
have two digits and the year has four, so each number ends where the next dash stands; a year that
needs more digits, or lies before year zero, has a sign and may have any number of them.
-/

namespace Guidebook

open Guidebook.Text

namespace Date

/-! ## Numbers of a date -/

theorem readNumber?_padded
    {count value : Nat}
    (positive : 0 < count)
    (fits : value < 10 ^ count)
    (rest : List Char) :
    readNumber? count (padded count value ++ rest) = some (value, rest) := by
  have taken : (padded count value ++ rest).take count = padded count value :=
    List.take_left' (length_padded positive fits)
  have digits :
      (padded count value).takeWhile isDigit = padded count value :=
    List.takeWhile_eq_self_iff.mpr isDigit_of_mem_padded
  have nonempty : (padded count value).isEmpty = false :=
    List.isEmpty_eq_false_iff.mpr (padded_ne_nil count value)
  unfold readNumber?
  simp only [trimStart_padded, taken, digits, nonempty, digitsValue_padded,
    List.drop_left]
  rfl

/-- A year is read up to the dash behind it. -/
theorem readYear?_yearText (year : Int) (rest : List Char) :
    readYear? (yearText year ++ '-' :: rest) = some (year, '-' :: rest) := by
  have stops : isDigit '-' = false := by decide
  unfold yearText
  split
  · rename_i short
    have fits : year.toNat < 10 ^ 4 := by omega
    have written := readNumber?_padded (by decide) fits ('-' :: rest)
    have whole : ((year.toNat : Nat) : Int) = year := by omega
    obtain ⟨c, more, split, digit⟩ := exists_padded 4 year.toNat
    have unsigned : c ≠ '-' ∧ c ≠ '+' := by
      constructor <;> rintro rfl <;> exact absurd digit (by decide)
    unfold readYear?
    rw [trimStart_padded, written]
    rw [split, List.cons_append]
    split
    · exact absurd (List.cons.inj ‹_›).1 unsigned.1
    · exact absurd (List.cons.inj ‹_›).1 unsigned.2
    · rw [Option.map_some, whole]
  · have nonempty : (padded 4 year.natAbs).isEmpty = false :=
      List.isEmpty_eq_false_iff.mpr (padded_ne_nil 4 year.natAbs)
    split
    · have solid : isBlank '-' = false := by decide
      have whole : -(year.natAbs : Int) = year := by omega
      rw [List.cons_append, readYear?, trimStart_cons solid]
      simp only [takeWhile_padded _ _ stops, dropWhile_padded _ _ stops,
        nonempty, digitsValue_padded, whole]
      rfl
    · have solid : isBlank '+' = false := by decide
      have whole : (year.natAbs : Int) = year := by omega
      rw [List.cons_append, readYear?, trimStart_cons solid]
      simp only [takeWhile_padded _ _ stops, dropWhile_padded _ _ stops,
        nonempty, digitsValue_padded, whole]
      rfl

/-! ## The whole date -/

theorem readWith?_text
    {gap : List Char → List Char}
    (nothing : gap [] = [])
    (dash : ∀ rest, gap ('-' :: rest) = '-' :: rest)
    (date : Date) :
    readWith? gap date.text.toList = some date := by
  obtain ⟨year, month, day, valid⟩ := date
  have most : month ≤ 12 ∧ day ≤ daysIn year month :=
    ⟨valid.2.2.2.1, valid.2.2.2.2.2⟩
  have longest : daysIn year month ≤ 31 := by
    unfold daysIn
    split
    · split <;> decide
    · split <;> decide
  have months : month < 10 ^ 2 := by omega
  have days : day < 10 ^ 2 := by omega
  have written :
      (text ⟨year, month, day, valid⟩).toList =
        yearText year ++
          '-' :: (padded 2 month ++ '-' :: (padded 2 day ++ [])) := by
    simp [text]
  have present :
      ofParts? year month day = some ⟨year, month, day, valid⟩ :=
    dif_pos valid
  simp only [readWith?, written, readYear?_yearText, dash, afterDash?,
    readNumber?_padded (by decide) months, readNumber?_padded (by decide) days,
    nothing, present, Option.bind_eq_bind, Option.bind_some]
  rfl

/-- A date is read back from its text. -/
theorem parse?_text (date : Date) :
    parse? date.text = some date :=
  readWith?_text rfl (fun _ => trimStart_cons (by decide) _) date

/-- No blanks stand in the text of a date, so the strict form reads it as well. -/
theorem parseStrict?_text (date : Date) :
    parseStrict? date.text = some date :=
  readWith?_text rfl (fun _ => rfl) date

end Date

end Guidebook
