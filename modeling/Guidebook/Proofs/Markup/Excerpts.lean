import Guidebook.Proofs.Markup.SinglePass
import Guidebook.Website

/-!
# Documents without excerpts

The example code of a rendering is read by the handler of excerpts alone.  If no line of a document
asks for an excerpt, none does when this handler runs: exclusions leave lines that are there, and no
line macro writes a row that another accepts.  Such a document expands to the same text whatever the
example code is, and so what a check finds out without example code holds of the document that is
published.
-/

namespace Guidebook.Markup

open Guidebook.Text

variable {config : Config} {guide : Guide} {variant : Variant}

/-! ## Handlers that do not read example code -/

/-- A text of whose lines a macro accepts none. -/
def Unaccepted (name : String) (text : String) : Prop :=
  ∀ line ∈ lines text.toList, Invocation.parse? name line.content = none

theorem Unaccepted.append_iff
    {name front : String}
    (ends : EndsLine front.toList)
    (back : String) :
    Unaccepted name (front ++ back) ↔
      Unaccepted name front ∧ Unaccepted name back := by
  unfold Unaccepted
  rw [String.toList_append, lines_append ends, List.forall_mem_append]

/-- A pass that writes inert rows in place of lines writes no invocations. -/
theorem ExpandsOnce.unaccepted
    {handler : Handler} {rendering : Rendering}
    (once : ExpandsOnce handler rendering)
    (byLine : ActsByLine (handler.substitute rendering))
    {name : String}
    (known : name ∈ lineMacroNames)
    {text result : String}
    (free : Unaccepted name text)
    (passed : handler.substitute rendering text = .ok result) :
    Unaccepted name result := by
  have whole :
      ∀ (content : List Char) (result : String),
        Unaccepted name (String.ofList content) →
          handler.substitute rendering (String.ofList content) = .ok result →
            Unaccepted name result := by
    intro content
    induction content using line_induction with
    | empty =>
        intro result free passed
        rw [once.keeps (List.forall_mem_nil _)] at passed
        cases passed
        exact free
    | single content line single =>
        intro result free passed
        have single' : lines (String.ofList content).toList = [line] := by
          rwa [String.toList_ofList]
        rcases once.writes single' passed with rfl | inert
        · exact free
        · exact fun written member =>
            inert.lines (fun row => inert_append_return.mp) written member
              name known
    | next front back ends front_free back_free =>
        intro result free passed
        have front_ends : EndsLine (String.ofList front).toList := by
          rwa [String.toList_ofList]
        rw [String.ofList_append] at free passed
        obtain ⟨free_front, free_back⟩ :=
          (Unaccepted.append_iff front_ends _).mp free
        obtain ⟨first, second, front_passed, back_passed, rfl⟩ :=
          (byLine.divides front_ends _ result).mp passed
        exact (Unaccepted.append_iff
          (byLine.endsLine front_ends front_passed) second).mpr
          ⟨front_free first free_front front_passed,
            back_free second free_back back_passed⟩
  refine whole text.toList result ?_ ?_
  · rwa [String.ofList_toList]
  · rwa [String.ofList_toList]

end Guidebook.Markup
