import Guidebook.Proofs.Markup.Grammar
import Mathlib.Data.List.DropRight

/-!
# Tokens and characters of a line

A token of a character outside words stands between the tokens of what is before the character and
of what is behind it.  A word is a token by itself if none is being read in front of it.  A word is
being read at the end of a text if there is a letter among the word characters at its end; where
none is, the text may be cut without any effect on the tokens.
-/

namespace Guidebook.Markup

open Guidebook.Text

/-! ## Boundaries of words -/

/-- A text at whose end no word is being read: the word characters at its end hold no letter. -/
def AtBoundary (front : List Char) : Prop :=
  ∀ c ∈ front.rtakeWhile isWordChar, isLetter c = false

namespace AtBoundary

variable {front : List Char} {c : Char}

theorem nil : AtBoundary [] :=
  List.forall_mem_nil _

/-- Behind a character outside words no word is being read. -/
theorem concat_outside
    (outside : isWordChar c = false) (front : List Char) :
    AtBoundary (front ++ [c]) := by
  rw [AtBoundary, List.rtakeWhile_concat_neg _ _ _ (by simp [outside])]
  exact List.forall_mem_nil _

theorem concat_iff (inWord : isWordChar c) :
    AtBoundary (front ++ [c]) ↔ AtBoundary front ∧ isLetter c = false := by
  rw [AtBoundary, List.rtakeWhile_concat_pos _ _ _ inWord,
    List.forall_mem_append, List.forall_mem_singleton, AtBoundary]

theorem of_outside
    (outside : ∀ c ∈ front, isWordChar c = false) :
    AtBoundary front := by
  rcases List.eq_nil_or_concat' front with rfl | ⟨earlier, last, rfl⟩
  · exact nil
  · exact concat_outside (outside last (by simp)) earlier

end AtBoundary

/-- At the end of every text a word is being read, or none. -/
theorem exists_boundary (text : List Char) :
    ∃ front word,
      text = front ++ word ∧ AtBoundary front ∧ (word = [] ∨ IsWord word) := by
  induction text using List.reverseRecOn with
  | nil => exact ⟨[], [], rfl, .nil, Or.inl rfl⟩
  | append_singleton text c ih =>
      obtain ⟨front, word, rfl, boundary, reading⟩ := ih
      cases inWord : isWordChar c with
      | false =>
          exact ⟨front ++ word ++ [c], [], (List.append_nil _).symm,
            .concat_outside inWord _, Or.inl rfl⟩
      | true =>
          rcases reading with rfl | isWord
          · rw [List.append_nil]
            cases letter : isLetter c with
            | true =>
                exact ⟨front, [c], rfl, boundary,
                  Or.inr ⟨c, [], rfl, letter, List.forall_mem_nil _⟩⟩
            | false =>
                exact ⟨front ++ [c], [], (List.append_nil _).symm,
                  (AtBoundary.concat_iff inWord).mpr ⟨boundary, letter⟩,
                  Or.inl rfl⟩
          · refine ⟨front, word ++ [c], List.append_assoc front word [c],
              boundary, Or.inr ?_⟩
            obtain ⟨first, others, rfl, letter, later⟩ := isWord
            refine ⟨first, others ++ [c], rfl, letter, ?_⟩
            exact List.forall_mem_append.mpr
              ⟨later, List.forall_mem_singleton.mpr inWord⟩

/-! ## Cutting a text -/

namespace Token

variable {c : Char} {text front read : List Char}

/-- A character outside words stands between the tokens of the texts around it. -/
theorem scanBehind_append
    (outside : isWordChar c = false)
    (read front back : List Char) :
    scanBehind read (front ++ c :: back) =
      scanBehind read front ++ ofChar c :: scan back := by
  induction front generalizing read with
  | nil =>
      have noLetter : isLetter c = false := by
        cases letter : isLetter c with
        | false => rfl
        | true => simp [isWordChar, letter] at outside
      simp [scanBehind, scan, noLetter, outside]
  | cons next rest ih =>
      rw [List.cons_append, scanBehind, scanBehind]
      split
      · exact ih (next :: read)
      · rw [ih [], List.append_assoc, List.cons_append]

theorem scan_append
    (outside : isWordChar c = false)
    (front back : List Char) :
    scan (front ++ c :: back) = scan front ++ ofChar c :: scan back :=
  scanBehind_append outside [] front back

theorem scanBehind_word
    {read word : List Char}
    (begun : read ≠ [])
    (inWord : ∀ c ∈ word, isWordChar c) :
    scanBehind read word = [.word (read.reverse ++ word)] := by
  induction word generalizing read with
  | nil =>
      cases read with
      | nil => exact absurd rfl begun
      | cons last earlier => simp [scanBehind, pending]
  | cons c rest ih =>
      obtain ⟨first, later⟩ := List.forall_mem_cons.mp inWord
      rw [scanBehind, if_pos (Or.inr ⟨begun, first⟩),
        ih (List.cons_ne_nil c read) later]
      simp

/-- A word is a single token. -/
theorem scan_word
    {word : List Char}
    (isWord : IsWord word) :
    scan word = [.word word] := by
  obtain ⟨first, others, rfl, letter, inWord⟩ := isWord
  rw [scan, scanBehind, if_pos (Or.inl letter),
    scanBehind_word (List.cons_ne_nil first []) inWord]
  rfl

theorem ofChar_ne_word (c : Char) (text : List Char) :
    ofChar c ≠ .word text := by
  unfold ofChar
  split <;> exact Token.noConfusion

theorem ofChar_injective : Function.Injective ofChar := by
  intro first second same
  unfold ofChar at same
  split at same <;> split at same <;> simp_all

/-- A character that begins no word is a token where no word is being read. -/
theorem scan_cons (other : isLetter c = false) (rest : List Char) :
    scan (c :: rest) = ofChar c :: scan rest := by
  rw [scan, scanBehind, if_neg (by simp [other])]
  rfl

/-- A text may be cut where no word is being read. -/
theorem scan_append_of_atBoundary
    (boundary : AtBoundary front) (back : List Char) :
    scan (front ++ back) = scan front ++ scan back := by
  induction front using List.reverseRecOn generalizing back with
  | nil => rfl
  | append_singleton front c ih =>
      rw [List.append_assoc, List.singleton_append]
      cases inWord : isWordChar c with
      | false =>
          rw [scan_append inWord front back, scan_append inWord front []]
          simp [scan, scanBehind, pending]
      | true =>
          obtain ⟨earlier, other⟩ :=
            (AtBoundary.concat_iff inWord).mp boundary
          rw [ih earlier, ih earlier, scan_cons other, scan_cons other]
          simp [scan, scanBehind, pending]

/-- Where no word is being read, the last character is the last token. -/
theorem scan_concat (boundary : AtBoundary (front ++ [c])) :
    ∃ tokens, scan (front ++ [c]) = tokens ++ [ofChar c] := by
  cases inWord : isWordChar c with
  | false => exact ⟨scan front, scan_append inWord front []⟩
  | true =>
      obtain ⟨earlier, other⟩ := (AtBoundary.concat_iff inWord).mp boundary
      refine ⟨scan front, ?_⟩
      rw [scan_append_of_atBoundary earlier, scan_cons other]
      rfl

/-- Where no word is being read, the last token is no word. -/
theorem scan_ne_concat_word
    (boundary : AtBoundary front) (tokens : List Token) (word : List Char) :
    scan front ≠ tokens ++ [.word word] := by
  intro same
  rcases List.eq_nil_or_concat' front with rfl | ⟨earlier, c, rfl⟩
  · exact absurd same.symm (List.append_ne_nil_of_right_ne_nil _ (by simp))
  · obtain ⟨others, split⟩ := scan_concat boundary
    rw [split] at same
    have last := (List.append_inj' same rfl).2
    exact ofChar_ne_word c word (List.cons.inj last).1

/-- The last token of a text is a word if the text ends in it, where no word was read before. -/
theorem scan_eq_concat_word_iff {tokens : List Token} {word : List Char} :
    scan text = tokens ++ [.word word] ↔
      ∃ front, text = front ++ word ∧ AtBoundary front ∧ IsWord word ∧
        scan front = tokens := by
  constructor
  · intro same
    obtain ⟨front, last, rfl, boundary, reading⟩ := exists_boundary text
    rw [scan_append_of_atBoundary boundary] at same
    rcases reading with rfl | isWord
    · have bare : scan front ++ scan [] = scan front := List.append_nil _
      exact absurd (bare.symm.trans same)
        (scan_ne_concat_word boundary tokens word)
    · rw [scan_word isWord] at same
      obtain ⟨sameTokens, sameLast⟩ := List.append_inj' same rfl
      cases sameLast
      exact ⟨front, rfl, boundary, isWord, sameTokens⟩
  · rintro ⟨front, rfl, boundary, isWord, rfl⟩
    rw [scan_append_of_atBoundary boundary, scan_word isWord]

/-- A token of a character stands behind the word that has been read. -/
theorem exists_eq_pending_append
    {tokens front back : List Token}
    (same : pending read ++ tokens = front ++ ofChar c :: back) :
    ∃ more, front = pending read ++ more ∧ tokens = more ++ ofChar c :: back := by
  cases read with
  | nil => exact ⟨front, rfl, same⟩
  | cons last earlier =>
      cases front with
      | nil => exact absurd (List.cons.inj same).1.symm (ofChar_ne_word c _)
      | cons token more =>
          obtain ⟨rfl, rest⟩ := List.cons.inj same
          exact ⟨more, rfl, rest⟩

/-- A token of a character is found where the character stands. -/
theorem exists_of_scanBehind_eq
    {front back : List Token}
    (same : scanBehind read text = front ++ ofChar c :: back) :
    ∃ before behind, text = before ++ c :: behind ∧
      scanBehind read before = front ∧ scan behind = back := by
  induction text generalizing read front with
  | nil =>
      have nothing : pending read ++ [] = front ++ ofChar c :: back := by
        rw [List.append_nil]
        exact same
      obtain ⟨more, -, absurdity⟩ := exists_eq_pending_append nothing
      simp at absurdity
  | cons next rest ih =>
      rw [scanBehind] at same
      split at same
      · rename_i reading
        obtain ⟨before, behind, rfl, first, later⟩ := ih same
        refine ⟨next :: before, behind, rfl, ?_, later⟩
        rw [scanBehind, if_pos reading, first]
      · rename_i ended
        obtain ⟨more, rfl, split⟩ := exists_eq_pending_append same
        cases more with
        | nil =>
            obtain ⟨sameChar, rfl⟩ := List.cons.inj split
            cases ofChar_injective sameChar
            exact ⟨[], rest, rfl, (List.append_nil _).symm, rfl⟩
        | cons token more =>
            obtain ⟨rfl, deeper⟩ := List.cons.inj split
            obtain ⟨before, behind, rfl, first, later⟩ := ih deeper
            refine ⟨next :: before, behind, rfl, ?_, later⟩
            rw [scanBehind, if_neg ended, first]

/-- The token of a character outside words divides the tokens as the character divides the text. -/
theorem scan_eq_append_ofChar_iff
    {front back : List Token}
    (outside : isWordChar c = false) :
    scan text = front ++ ofChar c :: back ↔
      ∃ before behind, text = before ++ c :: behind ∧
        scan before = front ∧ scan behind = back := by
  constructor
  · exact exists_of_scanBehind_eq
  · rintro ⟨before, behind, rfl, rfl, rfl⟩
    exact scan_append outside before behind

end Token

end Guidebook.Markup
