import Guidebook.Markup.Invocation
import Guidebook.Proofs.Basic
import Guidebook.Proofs.Text.Blank
import Mathlib.Data.List.TakeWhile
import Mathlib.Data.Option.Basic

/-!
# The grammar of invocations

Blanks around it aside, a row spells an invocation if it is a word, a colon, a target without blanks
and opening brackets, and a text in brackets.  A macro accepts exactly the rows that spell an
invocation of its name.  A row spells at most one: the word ends at the first colon, the target at
the first opening bracket behind it, and the text in brackets at the end of the row.
-/

namespace Guidebook.Markup

open Guidebook.Text

/-! ## Words -/

theorem isBlank_of_isWordChar
    {c : Char} (inWord : isWordChar c) :
    isBlank c = false := by
  simp only [isWordChar, isLetter, isDigit, Bool.or_eq_true, Bool.and_eq_true,
    decide_eq_true_eq, beq_iff_eq, Char.le_def, UInt32.le_iff_toNat_le]
    at inWord
  have digits : '0'.val.toNat = 48 ∧ '9'.val.toNat = 57 := by decide
  have upper : 'A'.val.toNat = 65 ∧ 'Z'.val.toNat = 90 := by decide
  have lower : 'a'.val.toNat = 97 ∧ 'z'.val.toNat = 122 := by decide
  rcases inWord with ((letter | digit) | rfl) | rfl
  · apply isBlank_of_visible
    unfold Char.toNat
    omega
  · apply isBlank_of_visible
    unfold Char.toNat
    omega
  · decide
  · decide

theorem isBlank_of_isLetter
    {c : Char} (letter : isLetter c) :
    isBlank c = false :=
  isBlank_of_isWordChar (by simp [isWordChar, letter])

/-- A letter with the letters, digits, underscores and dashes behind it. -/
def IsWord (word : List Char) : Prop :=
  ∃ first others,
    word = first :: others ∧ isLetter first ∧ ∀ c ∈ others, isWordChar c

namespace IsWord

variable {word : List Char}

/-- Whether a literal is a word can be looked up. -/
theorem of_all
    (letter : word.head?.any isLetter)
    (wordChars : word.all isWordChar) :
    IsWord word := by
  cases word with
  | nil => cases letter
  | cons first others =>
      have inWord := List.forall_mem_cons.mp (List.all_eq_true.mp wordChars)
      exact ⟨first, others, rfl, letter, inWord.2⟩

theorem ne_nil (isWord : IsWord word) : word ≠ [] := by
  obtain ⟨first, others, rfl, _⟩ := isWord
  exact List.cons_ne_nil first others

theorem isWordChar_of_mem (isWord : IsWord word) :
    ∀ c ∈ word, isWordChar c := by
  obtain ⟨first, others, rfl, letter, inWord⟩ := isWord
  exact List.forall_mem_cons.mpr ⟨by simp [isWordChar, letter], inWord⟩

theorem colon_notMem (isWord : IsWord word) : ':' ∉ word :=
  fun member =>
    absurd (isWord.isWordChar_of_mem ':' member) (by decide)

end IsWord

namespace Invocation

theorem leadingWord_append (text : List Char) :
    (leadingWord text).1 ++ (leadingWord text).2 = text := by
  cases text with
  | nil => rfl
  | cons c rest =>
      rw [leadingWord]
      split
      · exact congrArg (c :: ·) List.takeWhile_append_dropWhile
      · rfl

/-- What stands at the start of a text is a word, if anything is found there. -/
theorem isWord_leadingWord
    {text : List Char}
    (found : (leadingWord text).1 ≠ []) :
    IsWord (leadingWord text).1 := by
  cases text with
  | nil => exact absurd rfl found
  | cons c rest =>
      rw [leadingWord] at found ⊢
      split
      · rename_i letter
        exact ⟨c, _, rfl, letter, fun _ => List.mem_takeWhile_imp⟩
      · rename_i other
        rw [if_neg other] at found
        exact absurd rfl found

/-- A word is read up to a character behind it that does not continue it. -/
theorem leadingWord_append_cons
    {word : List Char} {c : Char}
    (isWord : IsWord word)
    (stops : isWordChar c = false)
    (rest : List Char) :
    leadingWord (word ++ c :: rest) = (word, c :: rest) := by
  obtain ⟨first, others, rfl, letter, inWord⟩ := isWord
  rw [List.cons_append, leadingWord, if_pos letter,
    takeWhile_append_cons_of_not stops, dropWhile_append_cons_of_not stops,
    List.takeWhile_eq_self_iff.mpr inWord,
    List.dropWhile_eq_nil_iff.mpr inWord, List.nil_append]

theorem beforeClosing?_eq_some_iff
    {text inner : List Char} :
    beforeClosing? text = some inner ↔ text = inner ++ [']'] := by
  unfold beforeClosing?
  constructor
  · intro closed
    split at closed
    · rename_i last
      cases closed
      obtain ⟨front, rfl⟩ := List.getLast?_eq_some_iff.mp last
      rw [List.dropLast_concat]
    · cases closed
  · rintro rfl
    rw [List.getLast?_concat, if_pos rfl, List.dropLast_concat]

/-! ## Rows that spell an invocation -/

/-- A row that consists of an invocation, blanks around it aside, and the parts of the latter. -/
structure Spells (name target attributes row : List Char) : Prop where
  isWord : IsWord name
  /-- The target ends at the first opening bracket. -/
  unbracketed : '[' ∉ target
  solid : ∀ c ∈ target, isBlank c = false
  trim_eq :
    trim row = name ++ ':' :: (target ++ '[' :: (attributes ++ [']']))

namespace Spells

variable {name other target otherTarget attributes otherAttributes row :
  List Char}

/-- The parts of an invocation are told by the row. -/
theorem unique
    (first : Spells name target attributes row)
    (second : Spells other otherTarget otherAttributes row) :
    name = other ∧ target = otherTarget ∧ attributes = otherAttributes := by
  have whole := first.trim_eq.symm.trans second.trim_eq
  obtain ⟨sameName, behind⟩ :=
    (append_cons_inj_of_notMem_front first.isWord.colon_notMem
      second.isWord.colon_notMem).mp whole
  obtain ⟨sameTarget, closed⟩ :=
    (append_cons_inj_of_notMem_front first.unbracketed
      second.unbracketed).mp behind
  exact ⟨sameName, sameTarget, List.append_cancel_right closed⟩

end Spells

/-- The invocation with the given parts. -/
def ofParts (name : String) (target attributes : List Char) : Invocation :=
  ⟨name, String.ofList target, Attributes.parse (String.ofList attributes)⟩

variable {name : String} {row : List Char}

/-- A macro accepts the rows that spell an invocation of it. -/
theorem parse?_of_spells
    {target attributes : List Char}
    (spells : Spells name.toList target attributes row) :
    parse? name row = some (ofParts name target attributes) := by
  have bracketed :
      cut '[' (target ++ '[' :: (attributes ++ [']'])) =
        some (target, attributes ++ [']']) :=
    cut_append_cons spells.unbracketed _
  have closed :
      beforeClosing? (attributes ++ [']']) = some attributes :=
    beforeClosing?_eq_some_iff.mpr rfl
  have solid : (!target.any isBlank) = true := by
    simpa using spells.solid
  have colon : isWordChar ':' = false := by decide
  unfold parse?
  rw [spells.trim_eq, leadingWord_append_cons spells.isWord colon]
  simp only [Option.bind_eq_bind, Option.bind_eq_some_iff,
    Option.guard_eq_some']
  exact ⟨(), ⟨spells.isWord.ne_nil, trivial⟩, _, bracketed, attributes, closed, (),
    solid, rfl⟩

theorem spells_of_parse?
    {invocation : Invocation}
    (accepted : parse? name row = some invocation) :
    ∃ target attributes,
      Spells name.toList target attributes row ∧
        invocation = ofParts name target attributes := by
  unfold parse? at accepted
  simp only [Option.bind_eq_bind, Option.bind_eq_some_iff,
    Option.guard_eq_some'] at accepted
  obtain ⟨⟨⟩, ⟨nonempty, named⟩, accepted⟩ := accepted
  split at accepted
  · rename_i afterColon behind
    simp only [Option.bind_eq_some_iff, Option.guard_eq_some'] at accepted
    obtain ⟨⟨target, bracketed⟩, found, attributes, closed, ⟨⟩, solid, same⟩ :=
      accepted
    cases same
    obtain ⟨split, unbracketed⟩ := cut_eq_some found
    have closing : bracketed = attributes ++ [']'] :=
      beforeClosing?_eq_some_iff.mp closed
    refine ⟨target, attributes, ?_, rfl⟩
    exact
      { isWord := named ▸ isWord_leadingWord nonempty
        unbracketed := unbracketed
        solid := by simpa using solid
        trim_eq := by
          rw [← leadingWord_append (trim row), named, behind, split,
            closing] }
  · cases accepted

/-- At most one macro accepts a line. -/
theorem parse?_unique
    {other : String}
    (accepted : (parse? name row).isSome)
    (acceptedOther : (parse? other row).isSome) :
    name = other := by
  obtain ⟨invocation, found⟩ := Option.isSome_iff_exists.mp accepted
  obtain ⟨another, foundOther⟩ := Option.isSome_iff_exists.mp acceptedOther
  obtain ⟨_, _, spells, _⟩ := spells_of_parse? found
  obtain ⟨_, _, spellsOther, _⟩ := spells_of_parse? foundOther
  exact String.toList_inj.mp (spells.unique spellsOther).1

/--
A macro accepts a row exactly if the row spells an invocation of it.  The row tells the parts, which
make up the invocation that is read, and no other macro accepts the row.
-/
theorem parse?_reads_spelled (name : String) (row : List Char) :
    ((parse? name row).isSome ↔
      ∃ target attributes, Spells name.toList target attributes row) ∧
    (∀ target attributes, Spells name.toList target attributes row →
      parse? name row =
          some ⟨name, String.ofList target,
            Attributes.parse (String.ofList attributes)⟩ ∧
        ∀ otherTarget otherAttributes,
          Spells name.toList otherTarget otherAttributes row →
            otherTarget = target ∧ otherAttributes = attributes) ∧
    ∀ other, (parse? name row).isSome → (parse? other row).isSome →
      other = name := by
  refine ⟨?_, fun target attributes spells => ?_, fun other => ?_⟩
  · rw [Option.isSome_iff_exists]
    constructor
    · rintro ⟨invocation, accepted⟩
      obtain ⟨target, attributes, spells, _⟩ := spells_of_parse? accepted
      exact ⟨target, attributes, spells⟩
    · rintro ⟨target, attributes, spells⟩
      exact ⟨_, parse?_of_spells spells⟩
  · exact ⟨parse?_of_spells spells,
      fun _ _ spellsToo => (spellsToo.unique spells).2⟩
  · exact fun accepted acceptedOther => parse?_unique acceptedOther accepted

theorem parse?_reads_spelled_brackets :
    let row := "\u2003test:a:b]é[x=[1],y]\r ".toList
    Spells "test".toList "a:b]é".toList "x=[1],y".toList row ∧
    parse? "test" row =
      some ⟨"test", String.ofList "a:b]é".toList,
        Attributes.parse (String.ofList "x=[1],y".toList)⟩ ∧
    (parse? "test-x" row).isSome = false := by
  intro row
  have solid : "a:b]é".toList.any isBlank = false := by decide
  have spells : Spells "test".toList "a:b]é".toList "x=[1],y".toList row :=
    { isWord := IsWord.of_all (by decide) (by decide)
      unbracketed := by decide
      solid := fun c member =>
        Bool.eq_false_iff.mpr (List.any_eq_false.mp solid c member)
      trim_eq := by decide +kernel }
  obtain ⟨accepts, reads, alone⟩ := parse?_reads_spelled "test" row
  have accepted := accepts.mpr ⟨_, _, spells⟩
  refine ⟨spells, (reads _ _ spells).1, ?_⟩
  rw [Bool.eq_false_iff]
  exact fun acceptedToo => absurd (alone "test-x" accepted acceptedToo) (by decide)

end Invocation

end Guidebook.Markup
