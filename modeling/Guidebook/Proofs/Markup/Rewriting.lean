import Guidebook.Proofs.Markup.Occurrences
import Guidebook.Proofs.Text.Spans

/-!
# Rewriting the lines of a macro

Rewriting asks what to put in place of each line that the macro accepts, once and in the order of
the text, until an answer is a failure.  The search for tokens in front of the parser changes
nothing about that, as it lets all these lines pass.  What is put in place of a line leaves its end
and all other lines as they are.
-/

namespace Guidebook.Markup

open Guidebook.Text

/-! ## Asking -/

/-- Steps that go through one after the other, with their results and the states around them. -/
inductive GoThrough
    {σ α β : Type} (action : α → ExceptT Error (StateM σ) β) :
    σ → List α → List β → σ → Prop where
  | nil {state : σ} :
      GoThrough action state [] [] state
  | cons {before middle after : σ} {input : α} {result : β}
      {inputs : List α} {results : List β}
      (first : (action input).run.run before = (.ok result, middle))
      (later : GoThrough action middle inputs results after) :
      GoThrough action before (input :: inputs) (result :: results) after

/-- Either all steps go through, or those in front of one that fails, behind which none is taken. -/
theorem run_mapM_cases
    {σ α β : Type} (action : α → ExceptT Error (StateM σ) β)
    (inputs : List α) (before : σ) :
    (∃ results after,
      GoThrough action before inputs results after ∧
        (inputs.mapM action).run.run before = (.ok results, after)) ∨
    ∃ earlier failing later results middle reason after,
      inputs = earlier ++ failing :: later ∧
        GoThrough action before earlier results middle ∧
        (action failing).run.run middle = (.error reason, after) ∧
        (inputs.mapM action).run.run before = (.error reason, after) := by
  induction inputs generalizing before with
  | nil => exact Or.inl ⟨[], before, .nil, rfl⟩
  | cons input rest ih =>
      rw [List.mapM_cons, run_bind_state]
      rcases first : (action input).run.run before with ⟨outcome, middle⟩
      cases outcome with
      | error reason =>
          exact Or.inr
            ⟨[], input, rest, [], before, reason, middle, rfl, .nil, first, rfl⟩
      | ok result =>
          simp only [run_bind_state]
          rcases ih middle with
            ⟨results, after, through, run⟩ |
            ⟨earlier, failing, later, results, last, reason, after, split,
              through, fails, run⟩
          · rw [run]
            exact Or.inl ⟨result :: results, after, .cons first through, rfl⟩
          · rw [run]
            exact Or.inr ⟨input :: earlier, failing, later, result :: results,
              last, reason, after, by rw [split, List.cons_append],
              .cons first through, fails, rfl⟩

/-- What is made of the results of all steps is had, or the failure of the first step that fails. -/
theorem run_map_mapM_cases
    {σ α β γ : Type} (assemble : List β → γ)
    (action : α → ExceptT Error (StateM σ) β)
    (inputs : List α) (before : σ) :
    (∃ results after,
      GoThrough action before inputs results after ∧
        (assemble <$> inputs.mapM action).run.run before =
          (.ok (assemble results), after)) ∨
    ∃ earlier failing later results middle reason after,
      inputs = earlier ++ failing :: later ∧
        GoThrough action before earlier results middle ∧
        (action failing).run.run middle = (.error reason, after) ∧
        (assemble <$> inputs.mapM action).run.run before =
          (.error reason, after) := by
  rw [run_map_state]
  rcases run_mapM_cases action inputs before with
    ⟨results, after, through, run⟩ |
    ⟨earlier, failing, later, results, middle, reason, after, split, through,
      fails, run⟩
  · rw [run]
    exact Or.inl ⟨results, after, through, rfl⟩
  · rw [run]
    exact Or.inr ⟨earlier, failing, later, results, middle, reason, after,
      split, through, fails, rfl⟩

/-! ## Putting answers in place -/

/-- The invocations that a macro accepts, in the order of their lines. -/
def acceptedInvocations (name : String) (written : List Line) : List Invocation :=
  written.filterMap fun line => Invocation.parse? name line.content

/-- A line with the replacement in place of its content, if there is one. -/
def withReplacement (line : Line) (replacement : Option String) : List Char :=
  (replacement.map String.toList).getD line.content ++ line.terminator

/-- The texts of lines, with the answers in place of those that a macro accepts. -/
def withAnswers
    (name : String) : List Line → List (Option String) → List (List Char)
  | [], _ => []
  | line :: rest, answers =>
    match Invocation.parse? name line.content with
    | none => line.text :: withAnswers name rest answers
    | some _ =>
      withReplacement line answers.head?.join ::
        withAnswers name rest answers.tail

section Answers

variable {m : Type → Type} [Monad m] [LawfulMonad m]
  {name : String} {replace : Invocation → m (Option String)}

/-- What is put in place of a line is up to the parser alone. -/
theorem rewriteLine_eq (line : Line) :
    rewriteLine name replace line =
      match Invocation.parse? name line.content with
      | none => pure line.text
      | some invocation => withReplacement line <$> replace invocation := by
  have passed :
      (if invokes name line.content then
          Invocation.parse? name line.content else none) =
        Invocation.parse? name line.content := by
    split
    · rfl
    · rename_i missed
      cases accepted : Invocation.parse? name line.content with
      | none => rfl
      | some invocation =>
          exact absurd (Invocation.invokes_of_parse? accepted) missed
  unfold rewriteLine
  simp only [passed]
  cases Invocation.parse? name line.content with
  | none => rfl
  | some invocation =>
      simp only [map_eq_pure_bind]
      congr
      funext answer
      cases answer <;> rfl

theorem mapM_rewriteLine (written : List Line) :
    written.mapM (rewriteLine name replace) =
      withAnswers name written <$>
        (acceptedInvocations name written).mapM replace := by
  induction written with
  | nil => simp [acceptedInvocations, withAnswers]
  | cons line rest ih =>
      rw [List.mapM_cons, rewriteLine_eq, ih]
      cases accepted : Invocation.parse? name line.content with
      | none => simp [acceptedInvocations, withAnswers, accepted]
      | some invocation =>
          simp [acceptedInvocations, withAnswers, accepted]

/-- Rewriting asks for all invocations and puts the answers in place. -/
theorem rewriteInvocations_eq (text : String) :
    rewriteInvocations name replace text =
      (fun answers =>
          String.ofList (withAnswers name (lines text.toList) answers).flatten) <$>
        (acceptedInvocations name (lines text.toList)).mapM replace := by
  rw [rewriteInvocations, mapM_rewriteLine]
  simp

end Answers

/-! ## Lines that are listed -/

theorem withOffsets_fst (offset : Nat) (written : List Line) :
    (withOffsets offset written).map Prod.fst = written := by
  induction written generalizing offset with
  | nil => rfl
  | cons line rest ih => rw [withOffsets, List.map_cons, ih]

/-- The lines that are listed are those whose tokens hold an invocation. -/
theorem invokingLines_line (name text : String) :
    (invokingLines name text).map InvokingLine.line =
      ((lines text.toList).filter fun line =>
        invokes name line.content).map fun line =>
          String.ofList line.content := by
  rw [invokingLines, List.map_map]
  conv_rhs =>
    rw [← withOffsets_fst 0 (lines text.toList), List.filter_map,
      List.map_map]
  rfl

/-- The lines that a macro accepts are listed, each as often as it stands in the text. -/
theorem accepted_sublist_listed (name text : String) :
    (((lines text.toList).filter fun line =>
        (Invocation.parse? name line.content).isSome).map fun line =>
          String.ofList line.content).Sublist
      ((invokingLines name text).map InvokingLine.line) := by
  rw [invokingLines_line]
  refine (List.monotone_filter_right _ fun line accepted => ?_).map _
  obtain ⟨invocation, found⟩ := Option.isSome_iff_exists.mp accepted
  exact Invocation.invokes_of_parse? found

/-! ## The whole text -/

/--
A text falls into lines in one way, and those that a macro accepts are found by their tokens and
listed.  Rewriting asks for these lines, once each and in their order, and puts the answers in their
place; or it fails as the first of these questions that fails does, and asks no more.
-/
theorem rewriteInvocations_asks_for_accepted
    {σ : Type} (name text : String)
    (replace : Invocation → ExceptT Error (StateM σ) (Option String))
    (before : σ) :
    let written := lines text.toList
    let asked := acceptedInvocations name written
    let rewriting := (rewriteInvocations name replace text).run.run before
    (∀ rows, FallsInto text.toList rows ↔ rows = written) ∧
    (∀ row, (Invocation.parse? name row).isSome → invokes name row) ∧
    ((written.filter fun line =>
        (Invocation.parse? name line.content).isSome).map fun line =>
          String.ofList line.content).Sublist
      ((invokingLines name text).map InvokingLine.line) ∧
    ((∃ answers after,
        GoThrough replace before asked answers after ∧
          rewriting =
            (.ok (String.ofList (withAnswers name written answers).flatten),
              after)) ∨
      ∃ earlier failing later answers middle reason after,
        asked = earlier ++ failing :: later ∧
          GoThrough replace before earlier answers middle ∧
          (replace failing).run.run middle = (.error reason, after) ∧
          rewriting = (.error reason, after)) := by
  intro written asked rewriting
  have passes : ∀ row, (Invocation.parse? name row).isSome → invokes name row := by
    intro row accepted
    obtain ⟨invocation, found⟩ := Option.isSome_iff_exists.mp accepted
    exact Invocation.invokes_of_parse? found
  refine ⟨fun _ => fallsInto_iff, passes, accepted_sublist_listed name text, ?_⟩
  have answered :
      rewriting =
        ((fun answers =>
            String.ofList (withAnswers name written answers).flatten) <$>
          asked.mapM replace).run.run before := by
    change (rewriteInvocations name replace text).run.run before = _
    rw [rewriteInvocations_eq]
  rw [answered]
  exact run_map_mapM_cases _ replace asked before

end Guidebook.Markup
