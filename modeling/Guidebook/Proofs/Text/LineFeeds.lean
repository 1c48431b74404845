import Guidebook.Proofs.Basic
import Guidebook.Text.Cut
import Guidebook.Text.LowerCase
import Mathlib.Tactic.Common

/-!
# Texts without line feeds

Parts of a text without line feeds have none, and neither has what is put together from such texts
or the lower-case form of one.
-/

namespace Guidebook.Text

/-! ## Parts of texts -/

/-- A text is its parts with the last separator between them. -/
theorem cutLast_eq_some
    {separator : Char} {text before after : List Char}
    (found : cutLast separator text = some (before, after)) :
    text = before ++ separator :: after := by
  obtain ⟨parts, cutBackwards, same⟩ := Option.map_eq_some_iff.mp found
  cases same
  rw [← List.reverse_inj, (cut_eq_some cutBackwards).1]
  simp

/-! ## Lower case -/

namespace LowerCase

/-- No letter has the line feed as its lower-case letter. -/
theorem lowerCode_ne_lineFeed
    {code : Nat} (other : code ≠ 10) :
    lowerCode code ≠ 10 := by
  have beyond :
      ∀ row ∈ shifts, (10 : Int) < row.1 + row.2.2.2 := by
    decide +kernel
  unfold lowerCode
  split
  · rename_i row found
    have member := List.mem_of_find?_eq_some found
    have holds := List.find?_some found
    simp only [Bool.and_eq_true, decide_eq_true_eq] at holds
    have bound := beyond row member
    omega
  · exact other

theorem eq_lineFeed_of_ofNat
    {code : Nat} (same : Char.ofNat code = '\n') :
    code = 10 := by
  by_cases valid : code.isValidChar
  · rw [Char.ofNat, dif_pos valid] at same
    exact congrArg Char.toNat same
  · rw [Char.ofNat, dif_neg valid] at same
    cases same

theorem lineFeed_notMem_lowerChar
    {c : Char} (other : c ≠ '\n') :
    '\n' ∉ lowerChar c := by
  unfold lowerChar
  split
  · decide
  · intro member
    have code := eq_lineFeed_of_ofNat (List.mem_singleton.mp member).symm
    exact lowerCode_ne_lineFeed
      (fun same => other (Char.toNat_inj.mp same)) code

theorem lineFeed_notMem_lowerBehind
    {text : List Char} (free : '\n' ∉ text) (before : List Char) :
    '\n' ∉ lowerBehind before text := by
  induction text generalizing before with
  | nil => exact List.not_mem_nil
  | cons c after ih =>
      rw [List.mem_cons, not_or] at free
      rw [lowerBehind, List.mem_append, not_or]
      refine ⟨?_, ih free.2 (c :: before)⟩
      split
      · split <;> decide
      · exact lineFeed_notMem_lowerChar (Ne.symm free.1)

end LowerCase

theorem lineFeed_notMem_lowerCase
    {text : List Char} (free : '\n' ∉ text) :
    '\n' ∉ lowerCase text :=
  LowerCase.lineFeed_notMem_lowerBehind free []

/-! ## Texts within a row -/

/-- A text that stays within one row. -/
structure NoLineFeed (text : String) : Prop where
  notMem : '\n' ∉ text.toList

namespace NoLineFeed

theorem empty : NoLineFeed "" :=
  ⟨List.not_mem_nil⟩

theorem append
    {front back : String}
    (front_free : NoLineFeed front)
    (back_free : NoLineFeed back) :
    NoLineFeed (front ++ back) := by
  constructor
  rw [String.toList_append]
  exact fun member =>
    (List.mem_append.mp member).elim front_free.notMem back_free.notMem

theorem ofList
    {text : List Char}
    (free : '\n' ∉ text) :
    NoLineFeed (String.ofList text) := by
  constructor
  rwa [String.toList_ofList]

/-- A literal is a text of its characters, which can be looked through. -/
theorem literal
    {text : List Char}
    (free : text.contains '\n' = false) :
    NoLineFeed (String.ofList text) :=
  ofList fun member =>
    Bool.false_ne_true (free.symm.trans (List.contains_iff_mem.mpr member))

theorem intercalate
    {separator : String} {parts : List String}
    (separator_free : NoLineFeed separator)
    (parts_free : ∀ part ∈ parts, NoLineFeed part) :
    NoLineFeed (String.intercalate separator parts) := by
  induction parts with
  | nil => exact empty
  | cons part rest ih =>
      obtain ⟨part_free, rest_free⟩ := List.forall_mem_cons.mp parts_free
      cases rest with
      | nil => rwa [String.intercalate_singleton]
      | cons next more =>
          rw [String.intercalate_cons_cons]
          exact (part_free.append separator_free).append (ih rest_free)

end NoLineFeed

end Guidebook.Text
