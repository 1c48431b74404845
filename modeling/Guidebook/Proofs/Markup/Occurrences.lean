import Guidebook.Proofs.Markup.Tokens

/-!
# Occurrences of a name in a line

Before a line is parsed, its tokens are searched for the name of the macro, a colon and brackets.
What is found can be told from the characters of the line: the name stands where no word is being
read, the colon follows it at once, and behind the colon there are brackets.  So the search lets
every line pass that the macro accepts.
-/

namespace Guidebook.Markup

open Guidebook.Text

/-! ## What is searched for -/

theorem holdsBrackets_append
    {behind : List Token}
    (closed : .closeBracket ∈ behind)
    (front : List Token) :
    holdsBrackets (front ++ .openBracket :: behind) := by
  unfold holdsBrackets
  induction front with
  | nil => simpa using closed
  | cons token rest ih =>
      rw [List.cons_append, List.dropWhile_cons]
      by_cases opens : token = .openBracket
      · simp [opens, closed]
      · simpa [opens] using ih

/-- What is found in tokens is found behind another token. -/
theorem tokensInvoke_cons
    {name : List Char} {tokens : List Token}
    (found : tokensInvoke name tokens)
    (token : Token) :
    tokensInvoke name (token :: tokens) := by
  unfold tokensInvoke
  split
  · rename_i same
    cases same
    rw [found, Bool.or_true]
  · rename_i same
    cases same
    exact found
  · contradiction

theorem tokensInvoke_append
    {name : List Char} {tokens : List Token}
    (found : tokensInvoke name tokens)
    (front : List Token) :
    tokensInvoke name (front ++ tokens) := by
  induction front with
  | nil => exact found
  | cons token rest ih => exact tokensInvoke_cons ih token

theorem tokensInvoke_word
    {name : List Char} {behind : List Token}
    (brackets : holdsBrackets behind) :
    tokensInvoke name (.word name :: .colon :: behind) := by
  rw [tokensInvoke, brackets, beq_self_eq_true]
  rfl

theorem tokensInvoke_iff {name : List Char} {tokens : List Token} :
    tokensInvoke name tokens ↔
      ∃ front back, tokens = front ++ .word name :: .colon :: back ∧
        holdsBrackets back := by
  constructor
  · intro found
    fun_induction tokensInvoke name tokens with
    | case1 text rest ih =>
        rcases Bool.or_eq_true_iff.mp found with here | later
        · obtain ⟨same, brackets⟩ := Bool.and_eq_true_iff.mp here
          rw [eq_of_beq same]
          exact ⟨[], rest, rfl, brackets⟩
        · obtain ⟨front, back, split, brackets⟩ := ih later
          exact ⟨.word text :: front, back, by rw [split, List.cons_append],
            brackets⟩
    | case2 token rest _ ih =>
        obtain ⟨front, back, rfl, brackets⟩ := ih found
        exact ⟨token :: front, back, rfl, brackets⟩
    | case3 => cases found
  · rintro ⟨front, back, rfl, brackets⟩
    exact tokensInvoke_append (tokensInvoke_word brackets) front

theorem holdsBrackets_iff {tokens : List Token} :
    holdsBrackets tokens ↔
      ∃ front between back,
        tokens =
          front ++ .openBracket :: (between ++ .closeBracket :: back) := by
  constructor
  · intro found
    induction tokens with
    | nil => cases found
    | cons token rest ih =>
        by_cases opens : token = .openBracket
        · subst opens
          have closes : Token.closeBracket ∈ rest := by
            simpa [holdsBrackets] using found
          obtain ⟨between, back, rfl⟩ := List.append_of_mem closes
          exact ⟨[], between, back, rfl⟩
        · have later : holdsBrackets rest := by
            simpa [holdsBrackets, opens] using found
          obtain ⟨front, between, back, rfl⟩ := ih later
          exact ⟨token :: front, between, back, rfl⟩
  · rintro ⟨front, between, back, rfl⟩
    exact holdsBrackets_append
      (List.mem_append_right _ List.mem_cons_self) front

/-- Brackets are found among the tokens of a text where they stand in the text. -/
theorem holdsBrackets_scan_iff {text : List Char} :
    holdsBrackets (Token.scan text) ↔
      ∃ front between back,
        text = front ++ '[' :: (between ++ ']' :: back) := by
  have opening : isWordChar '[' = false := by decide
  have closing : isWordChar ']' = false := by decide
  rw [holdsBrackets_iff]
  constructor
  · rintro ⟨front, between, back, split⟩
    obtain ⟨before, behind, rfl, -, later⟩ :=
      (Token.scan_eq_append_ofChar_iff opening).mp split
    obtain ⟨inside, after, rfl, -, -⟩ :=
      (Token.scan_eq_append_ofChar_iff closing).mp later
    exact ⟨before, inside, after, rfl⟩
  · rintro ⟨front, between, back, rfl⟩
    refine ⟨Token.scan front, Token.scan between, Token.scan back, ?_⟩
    rw [Token.scan_append opening, Token.scan_append closing]
    rfl

/-! ## Lines that hold an invocation -/

/-- A line in which a name and a colon stand between two texts, as in an invocation. -/
structure InvokedBetween (name front back line : List Char) : Prop where
  split : line = front ++ (name ++ ':' :: back)
  /-- The name does not continue a word. -/
  boundary : AtBoundary front
  bracketed :
    ∃ before between behind,
      back = before ++ '[' :: (between ++ ']' :: behind)

/-- What stands in a line as in an invocation is found. -/
theorem invokes_of_invokedBetween
    {name : String} {front back line : List Char}
    (isWord : IsWord name.toList)
    (invoked : InvokedBetween name.toList front back line) :
    invokes name line := by
  have colon : isWordChar ':' = false := by decide
  have tokens :
      Token.scan line =
        Token.scan front ++ .word name.toList :: .colon :: Token.scan back := by
    rw [invoked.split, Token.scan_append_of_atBoundary invoked.boundary,
      Token.scan_append colon, Token.scan_word isWord]
    rfl
  rw [invokes, tokensInvoke_iff]
  exact ⟨_, _, tokens, holdsBrackets_scan_iff.mpr invoked.bracketed⟩

theorem exists_invokedBetween
    {name : String} {line : List Char}
    (found : invokes name line) :
    IsWord name.toList ∧
      ∃ front back, InvokedBetween name.toList front back line := by
  have colon : isWordChar ':' = false := by decide
  rw [invokes, tokensInvoke_iff] at found
  obtain ⟨tokens, later, split, brackets⟩ := found
  have divided :
      Token.scan line =
        (tokens ++ [.word name.toList]) ++ Token.ofChar ':' :: later := by
    rw [split, List.append_assoc]
    rfl
  obtain ⟨ahead, back, rfl, named, rfl⟩ :=
    (Token.scan_eq_append_ofChar_iff colon).mp divided
  obtain ⟨front, rfl, boundary, isWord, -⟩ :=
    Token.scan_eq_concat_word_iff.mp named
  exact ⟨isWord, front, back,
    { split := List.append_assoc front name.toList _
      boundary := boundary
      bracketed := holdsBrackets_scan_iff.mp brackets }⟩

/--
A line holds an invocation of a name exactly if the name is a word and stands in the line, with a
colon at once behind it and brackets behind that, where the word characters in front of it hold no
letter.
-/
theorem invokes_iff_invokedBetween (name : String) (line : List Char) :
    invokes name line ↔
      IsWord name.toList ∧
        ∃ front back, InvokedBetween name.toList front back line := by
  constructor
  · exact exists_invokedBetween
  · rintro ⟨isWord, front, back, invoked⟩
    exact invokes_of_invokedBetween isWord invoked

/-- A digit in front of a name does not continue a word, unless a letter stands before it. -/
example :
    invokes "foo" "x 1foo:a b]c[d]".toList = true ∧
      invokes "foo" "x1foo:a b]c[d]".toList = false := by
  decide

/-! ## Accepted lines -/

/-- The tokens of a line that a macro accepts hold an invocation of the macro. -/
theorem Invocation.invokes_of_parse?
    {name : String} {row : List Char} {invocation : Invocation}
    (accepted : parse? name row = some invocation) :
    invokes name row := by
  obtain ⟨target, attributes, spells, _⟩ := spells_of_parse? accepted
  obtain ⟨front, back, margins, blank⟩ := exists_margins row
  have outside : ∀ c ∈ front, isWordChar c = false := by
    intro c member
    by_contra inWord
    have solid := isBlank_of_isWordChar (Bool.not_eq_false _ ▸ inWord)
    rw [blank c member] at solid
    cases solid
  have written :
      row =
        front ++ (name.toList ++
          ':' :: (target ++ '[' :: (attributes ++ ']' :: back))) := by
    rw [margins, spells.trim_eq]
    simp
  exact invokes_of_invokedBetween spells.isWord
    { split := written
      boundary := .of_outside outside
      bracketed := ⟨target, attributes, back, rfl⟩ }

end Guidebook.Markup
