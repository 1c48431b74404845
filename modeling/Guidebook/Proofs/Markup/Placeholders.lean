import Guidebook.Markup.Placeholder
import Guidebook.Proofs.Markup.Rewriting

/-!
# Placeholders in a text

A text starts with at most one placeholder.  Read from left to right, it is taken apart in one way
into placeholders and single characters: where a placeholder starts it is taken as a whole, and
where none does a single character is.  Rewriting asks what to put in place of each of these
placeholders, in order, until an answer is a failure; what has been put in is not read again.
-/

namespace Guidebook.Markup

open Guidebook.Text

/-! ## Placeholders at the start of a text -/

namespace Placeholder

variable {text word rest : List Char} {placeholder : Placeholder}

/-- The reader of words is that of invocations. -/
theorem word?_eq_some_iff {parts : List Char × List Char} :
    word? text = some parts ↔
      Invocation.leadingWord text = parts ∧ parts.1 ≠ [] := by
  cases text with
  | nil =>
      constructor
      · intro impossible
        cases impossible
      · rintro ⟨rfl, nonempty⟩
        exact absurd rfl nonempty
  | cons c rest =>
      rw [word?, Invocation.leadingWord]
      split
      · rw [Option.some.injEq]
        refine ⟨?_, And.left⟩
        rintro rfl
        exact ⟨rfl, List.cons_ne_nil _ _⟩
      · constructor
        · intro impossible
          cases impossible
        · rintro ⟨rfl, nonempty⟩
          exact absurd rfl nonempty

/-- What is read as a word is one, and stands at the start of the text. -/
theorem isWord_of_word?
    (found : word? text = some (word, rest)) :
    IsWord word ∧ text = word ++ rest := by
  obtain ⟨reads, nonempty⟩ := word?_eq_some_iff.mp found
  have isWord := Invocation.isWord_leadingWord (reads ▸ nonempty)
  have whole := Invocation.leadingWord_append text
  rw [reads] at isWord whole
  exact ⟨isWord, whole.symm⟩

theorem word?_append_cons
    {c : Char}
    (isWord : IsWord word)
    (stops : isWordChar c = false)
    (rest : List Char) :
    word? (word ++ c :: rest) = some (word, c :: rest) :=
  word?_eq_some_iff.mpr
    ⟨Invocation.leadingWord_append_cons isWord stops rest, isWord.ne_nil⟩

/-- A placeholder whose name is a word, as is its qualifier if it has one. -/
structure OfWords (placeholder : Placeholder) : Prop where
  name : IsWord placeholder.name.toList
  qualifier :
    ∀ qualifier ∈ placeholder.qualifier, IsWord qualifier.toList

/-- A text starts with a placeholder of words exactly if the placeholder is read there. -/
theorem leading?_eq_some_iff :
    leading? text = some placeholder ↔
      placeholder.OfWords ∧ placeholder.text <+: text := by
  have atSign : isWordChar '@' = false := by decide
  have colon : isWordChar ':' = false := by decide
  constructor
  · intro found
    unfold leading? at found
    split at found
    · split at found
      · rename_i name behind first
        cases found
        obtain ⟨isWord, rfl⟩ := isWord_of_word? first
        exact
          ⟨{ name := by simpa using isWord
             qualifier := by simp },
            behind, by simp [Placeholder.text]⟩
      · rename_i qualifier afterColon first
        split at found
        · rename_i name behind second
          cases found
          obtain ⟨qualifier_isWord, rfl⟩ := isWord_of_word? first
          obtain ⟨name_isWord, rfl⟩ := isWord_of_word? second
          exact
            ⟨{ name := by simpa using name_isWord
               qualifier := by simpa using qualifier_isWord },
              behind, by simp [Placeholder.text]⟩
        · cases found
      · cases found
    · cases found
  · rintro ⟨words, behind, rfl⟩
    obtain ⟨qualifier?, name⟩ := placeholder
    cases qualifier? with
    | none =>
        have first := word?_append_cons words.name atSign behind
        simp [Placeholder.text, leading?, first]
    | some qualifier =>
        have first := word?_append_cons (words.qualifier qualifier rfl) colon
          (name.toList ++ '@' :: behind)
        have second := word?_append_cons words.name atSign behind
        simp [Placeholder.text, leading?, first, second]

theorem OfWords.lineFeed_notMem_text (words : placeholder.OfWords) :
    '\n' ∉ placeholder.text := by
  have outside :
      ∀ {word : List Char}, IsWord word → '\n' ∉ word :=
    fun isWord member =>
      absurd (isWord.isWordChar_of_mem '\n' member) (by decide)
  have name_free := outside words.name
  unfold Placeholder.text
  split
  · simp [name_free]
  · rename_i qualifier qualified
    have qualifier_free := outside (words.qualifier qualifier qualified)
    simp [name_free, qualifier_free]

theorem text_ne_nil (placeholder : Placeholder) :
    placeholder.text ≠ [] := by
  unfold Placeholder.text
  split <;> exact List.cons_ne_nil _ _

end Placeholder

/-! ## Taking a text apart -/

/-- A text taken apart from left to right: into the placeholder that starts at a place, or into the
single character that stands there if none does. -/
inductive TakenApart : List Char → List Part → Prop
  | done :
      TakenApart [] []
  | found
      {placeholder : Placeholder} {rest : List Char} {others : List Part}
      (words : placeholder.OfWords)
      (later : TakenApart rest others) :
      TakenApart (placeholder.text ++ rest) (.placeholder placeholder :: others)
  | passed
      {c : Char} {rest : List Char} {others : List Part}
      (unmatched :
        ∀ placeholder : Placeholder, placeholder.OfWords →
          ¬ placeholder.text <+: c :: rest)
      (later : TakenApart rest others) :
      TakenApart (c :: rest) (.literal c :: others)

theorem partsBehind_eq (taken : Nat) (text : List Char) :
    partsBehind taken text = parts (text.drop taken) := by
  induction text generalizing taken with
  | nil => rw [List.drop_nil, parts, partsBehind, partsBehind]
  | cons c rest ih =>
      cases taken with
      | zero => rfl
      | succ taken => exact ih taken

theorem parts_text_append
    {placeholder : Placeholder}
    (words : placeholder.OfWords) (rest : List Char) :
    parts (placeholder.text ++ rest) =
      .placeholder placeholder :: parts rest := by
  have leads :
      Placeholder.leading? (placeholder.text ++ rest) = some placeholder :=
    Placeholder.leading?_eq_some_iff.mpr ⟨words, List.prefix_append _ _⟩
  obtain ⟨c, more, split⟩ :=
    List.exists_cons_of_ne_nil placeholder.text_ne_nil
  have length : placeholder.text.length - 1 = more.length := by
    rw [split]
    rfl
  rw [split, List.cons_append] at leads ⊢
  rw [parts, partsBehind]
  simp only [leads, partsBehind_eq, length, List.drop_left]

theorem parts_cons_unmatched
    {c : Char} {rest : List Char}
    (unmatched :
      ∀ placeholder : Placeholder, placeholder.OfWords →
        ¬ placeholder.text <+: c :: rest) :
    parts (c :: rest) = .literal c :: parts rest := by
  have none : Placeholder.leading? (c :: rest) = none := by
    rw [Option.eq_none_iff_forall_ne_some]
    intro placeholder leads
    obtain ⟨words, starts⟩ := Placeholder.leading?_eq_some_iff.mp leads
    exact unmatched placeholder words starts
  rw [parts, partsBehind]
  simp only [none, parts]

namespace TakenApart

variable {text : List Char} {found : List Part}

theorem parts_eq (apart : TakenApart text found) : parts text = found := by
  induction apart with
  | done => rfl
  | found words later ih => rw [parts_text_append words, ih]
  | passed unmatched later ih => rw [parts_cons_unmatched unmatched, ih]

theorem of_parts (text : List Char) : TakenApart text (parts text) := by
  induction length : text.length using Nat.strongRecOn generalizing text with
  | ind count ih =>
      cases text with
      | nil => exact done
      | cons c rest =>
          by_cases matched :
              ∃ placeholder : Placeholder,
                placeholder.OfWords ∧ placeholder.text <+: c :: rest
          · obtain ⟨placeholder, words, behind, split⟩ := matched
            have shorter : behind.length < count := by
              rw [← length, ← split, List.length_append]
              exact Nat.lt_add_of_pos_left
                (List.length_pos_of_ne_nil placeholder.text_ne_nil)
            rw [← split, parts_text_append words]
            exact .found words (ih behind.length shorter behind rfl)
          · have unmatched :
                ∀ placeholder : Placeholder, placeholder.OfWords →
                  ¬ placeholder.text <+: c :: rest :=
              fun placeholder words starts =>
                matched ⟨placeholder, words, starts⟩
            rw [parts_cons_unmatched unmatched]
            exact .passed unmatched
              (ih rest.length (by simp [← length]) rest rfl)

end TakenApart

/-- The parts of a text are those into which it is taken apart. -/
theorem takenApart_iff {text : List Char} {found : List Part} :
    TakenApart text found ↔ found = parts text := by
  constructor
  · exact fun apart => apart.parts_eq.symm
  · rintro rfl
    exact TakenApart.of_parts text

/-! ## Putting parts together -/

namespace Part

/-- A part as it stands in its text. -/
def text : Part → List Char
  | .literal c => [c]
  | .placeholder content => content.text

/-- The placeholder that a part is, if it is one. -/
def placeholder? : Part → Option Placeholder
  | .literal _ => none
  | .placeholder content => some content

/-- The texts of parts, with the answers in place of the placeholders. -/
def withAnswers : List Part → List (Option String) → List (List Char)
  | [], _ => []
  | .literal c :: rest, answers => [c] :: withAnswers rest answers
  | .placeholder content :: rest, answers =>
    (answers.head?.join.map String.toList).getD content.text ::
      withAnswers rest answers.tail

end Part

/-- Nothing is lost when a text is taken apart. -/
theorem TakenApart.flatMap_text
    {text : List Char} {found : List Part}
    (apart : TakenApart text found) :
    found.flatMap Part.text = text := by
  induction apart with
  | done => rfl
  | found words later ih => rw [List.flatMap_cons, ih, Part.text]
  | passed unmatched later ih =>
      rw [List.flatMap_cons, ih, Part.text, List.singleton_append]

theorem parts_flatMap_text (text : List Char) :
    (parts text).flatMap Part.text = text :=
  (TakenApart.of_parts text).flatMap_text

theorem placeholders_eq (text : String) :
    placeholders text = (parts text.toList).filterMap Part.placeholder? :=
  rfl

section Answers

variable {m : Type → Type} [Monad m] [LawfulMonad m]
  {replace : Placeholder → m (Option String)}

theorem rewritePart_placeholder (content : Placeholder) :
    rewritePart replace (.placeholder content) =
      (fun answer => (answer.map String.toList).getD content.text) <$>
        replace content := by
  rw [rewritePart, map_eq_pure_bind]
  congr
  funext answer
  cases answer <;> rfl

theorem mapM_rewritePart (found : List Part) :
    found.mapM (rewritePart replace) =
      Part.withAnswers found <$>
        (found.filterMap Part.placeholder?).mapM replace := by
  induction found with
  | nil => simp [Part.withAnswers]
  | cons part rest ih =>
      rw [List.mapM_cons, ih]
      cases part with
      | literal c =>
          have kept : rewritePart replace (.literal c) = pure [c] := rfl
          have unasked : (Part.literal c).placeholder? = none := rfl
          simp [kept, List.filterMap_cons_none unasked, Part.withAnswers]
      | placeholder content =>
          have asked :
              (Part.placeholder content).placeholder? = some content := rfl
          simp [rewritePart_placeholder, List.filterMap_cons_some asked,
            Part.withAnswers]

/-- Rewriting asks for all placeholders and puts the answers in place. -/
theorem rewritePlaceholders_eq (text : String) :
    rewritePlaceholders replace text =
      (fun answers =>
          String.ofList (Part.withAnswers (parts text.toList) answers).flatten) <$>
        (placeholders text).mapM replace := by
  rw [rewritePlaceholders, mapM_rewritePart, placeholders_eq]
  simp

end Answers

/-! ## The whole text -/

/--
A text is taken apart in one way, and its placeholders are those that are found then.  Rewriting
asks for them, once each and in their order, and puts the answers in their place; or it fails as the
first of these questions that fails does, and asks no more.
-/
theorem rewritePlaceholders_asks_for_leftmost
    {σ : Type} (text : String)
    (replace : Placeholder → ExceptT Error (StateM σ) (Option String))
    (before : σ) :
    let found := parts text.toList
    let asked := found.filterMap Part.placeholder?
    let rewriting := (rewritePlaceholders replace text).run.run before
    (∀ others, TakenApart text.toList others ↔ others = found) ∧
    placeholders text = asked ∧
    ((∃ answers after,
        GoThrough replace before asked answers after ∧
          rewriting =
            (.ok (String.ofList (Part.withAnswers found answers).flatten),
              after)) ∨
      ∃ earlier failing later answers middle reason after,
        asked = earlier ++ failing :: later ∧
          GoThrough replace before earlier answers middle ∧
          (replace failing).run.run middle = (.error reason, after) ∧
          rewriting = (.error reason, after)) := by
  intro found asked rewriting
  refine ⟨fun _ => takenApart_iff, placeholders_eq text, ?_⟩
  have answered :
      rewriting =
        ((fun answers =>
            String.ofList (Part.withAnswers found answers).flatten) <$>
          asked.mapM replace).run.run before := by
    change (rewritePlaceholders replace text).run.run before = _
    rw [rewritePlaceholders_eq, placeholders_eq]
  rw [answered]
  exact run_map_mapM_cases _ replace asked before

/-- A placeholder may start inside what has begun like one and is none. -/
example :
    placeholders "@a:@b:c@d@ @@e@" = [⟨some "b", "c"⟩, ⟨none, "e"⟩] := by
  decide

end Guidebook.Markup
