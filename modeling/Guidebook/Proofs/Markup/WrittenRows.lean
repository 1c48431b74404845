import Guidebook.Markup.Rendering
import Guidebook.Proofs.Markup.Rewriting
import Guidebook.Proofs.Text.Rows

/-!
# Rows that are written as invocations

A name, a target and a text in brackets, written as an invocation, are read back as these parts.  So
a handler of a line macro puts in place of the row what it makes of them.
-/

namespace Guidebook.Markup

open Guidebook.Text

/-- A text between two solid characters has nothing to trim. -/
theorem trim_cons_concat
    {first last : Char}
    (first_solid : isBlank first = false)
    (last_solid : isBlank last = false)
    (inner : List Char) :
    trim (first :: (inner ++ [last])) = first :: (inner ++ [last]) := by
  rw [trim_cons first_solid, trimEnd_append_cons last_solid]
  rfl

namespace Invocation

/-- The row in which an invocation is written. -/
def row (name target attributes : String) : String :=
  s!"{name}:{target}[{attributes}]"

variable {name target attributes : String}

theorem toList_row (name target attributes : String) :
    (row name target attributes).toList =
      name.toList ++ ':' :: (target.toList ++ '[' :: (attributes.toList ++ [']'])) := by
  simp [row, toString]

/-- A target that is told from what stands around it. -/
structure IsTarget (target : String) : Prop where
  unbracketed : '[' ∉ target.toList
  solid : ∀ c ∈ target.toList, isBlank c = false

theorem IsTarget.empty : IsTarget "" :=
  ⟨List.not_mem_nil, List.forall_mem_nil _⟩

/-- Whether a literal is a target can be looked up. -/
theorem IsTarget.of_all
    (allowed : target.toList.all (fun c => c ≠ '[' ∧ isBlank c = false) = true) :
    IsTarget target := by
  simp only [List.all_eq_true, decide_eq_true_eq] at allowed
  exact ⟨fun member => (allowed '[' member).1 rfl, fun c member => (allowed c member).2⟩

theorem spells_row
    (isWord : IsWord name.toList)
    (isTarget : IsTarget target)
    (attributes : String) :
    Spells name.toList target.toList attributes.toList
      (row name target attributes).toList where
  isWord := isWord
  unbracketed := isTarget.unbracketed
  solid := isTarget.solid
  trim_eq := by
    obtain ⟨first, others, same, letter, _⟩ := isWord
    rw [toList_row, same]
    have bracket : isBlank ']' = false := by decide
    have whole := trim_cons_concat (isBlank_of_isLetter letter) bracket
      (others ++ ':' :: (target.toList ++ '[' :: attributes.toList))
    simpa using whole

theorem lineFeed_notMem_row
    (isWord : IsWord name.toList)
    (isTarget : IsTarget target)
    (inRow : '\n' ∉ attributes.toList) :
    '\n' ∉ (row name target attributes).toList := by
  have outside_name : '\n' ∉ name.toList := fun member =>
    absurd (isWord.isWordChar_of_mem '\n' member) (by decide)
  have outside_target : '\n' ∉ target.toList := fun member =>
    absurd (isTarget.solid '\n' member) (by decide)
  rw [toList_row]
  simp [outside_name, outside_target, inRow]

end Invocation

open Invocation

variable {name target attributes : String} {order : Int}
  {expand : Rendering → Invocation → Except Error (Option String)}

/-- A handler of a line macro puts its answer in place of a row that is written for it. -/
theorem Handler.ofLine_substitute_row
    (isWord : IsWord name.toList)
    (isTarget : IsTarget target)
    (inRow : '\n' ∉ attributes.toList)
    (rendering : Rendering) :
    (Handler.ofLine name order expand).substitute rendering
        (row name target attributes) =
      (expand rendering ⟨name, target, Attributes.parse attributes⟩).map
        fun answer => answer.getD (row name target attributes) := by
  have nonempty : (row name target attributes).toList ≠ [] := by
    simp [toList_row]
  have single := lines_row (lineFeed_notMem_row isWord isTarget inRow) nonempty
  have accepted := parse?_of_spells (spells_row isWord isTarget attributes)
  rw [ofParts, String.ofList_toList, String.ofList_toList] at accepted
  change rewriteInvocations name (expand rendering) _ = _
  have asked :
      acceptedInvocations name [⟨(row name target attributes).toList, []⟩] =
        [⟨name, target, Attributes.parse attributes⟩] := by
    simp [acceptedInvocations, accepted]
  rw [rewriteInvocations_eq, single, asked, List.mapM_cons, List.mapM_nil]
  cases expand rendering ⟨name, target, Attributes.parse attributes⟩ with
  | error reason => rfl
  | ok answer =>
      have written :
          withAnswers name [⟨(row name target attributes).toList, []⟩] [answer] =
            [(answer.getD (row name target attributes)).toList] := by
        cases answer <;> simp [withAnswers, withReplacement, accepted]
      refine congrArg Except.ok ?_
      simp only [written, List.flatten_singleton, String.ofList_toList]

end Guidebook.Markup
