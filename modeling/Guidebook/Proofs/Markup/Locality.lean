import Guidebook.Markup.Vocabulary
import Guidebook.Proofs.Markup.Placeholders
import Guidebook.Proofs.Text.Lines

/-!
# Passes act locally

A pass that works line by line, or on placeholders inside lines, does the same to the two halves of
a text that is cut where a line ends as to the text as a whole.  A pass over a block of lines does
so if no block is open at the cut.  Passes keep the end of a line, so one after the other still
meets the cut.
-/

namespace Guidebook.Markup

open Guidebook.Text

/-- A pass over a text. -/
abbrev Pass :=
  String → Except Error String

/-- A pass succeeds on a text exactly if it does on both parts, with their results put together. -/
def Divides (pass : Pass) (front back : String) : Prop :=
  ∀ result, pass (front ++ back) = .ok result ↔
    ∃ first second,
      pass front = .ok first ∧ pass back = .ok second ∧
        result = first ++ second

/-- A pass divides every text where a line ends, and keeps the ends of lines. -/
structure ActsByLine (pass : Pass) : Prop where
  divides :
    ∀ {front : String}, EndsLine front.toList →
      ∀ back, Divides pass front back
  endsLine :
    ∀ {front result : String}, EndsLine front.toList →
      pass front = .ok result → EndsLine result.toList

/-! ## Passes one after the other -/

theorem Divides.andThen
    {pass next : Pass} {front back : String}
    (divided : Divides pass front back)
    (dividedNext :
      ∀ first, pass front = .ok first → ∀ second, Divides next first second) :
    Divides (fun text => pass text >>= next) front back := by
  intro result
  constructor
  · intro succeeded
    obtain ⟨middle, passed, continued⟩ := except_bind_eq_ok.mp succeeded
    obtain ⟨first, second, front_passed, back_passed, rfl⟩ :=
      (divided middle).mp passed
    obtain ⟨front_result, back_result, front_next, back_next, same⟩ :=
      (dividedNext first front_passed second result).mp continued
    exact ⟨front_result, back_result,
      except_bind_eq_ok.mpr ⟨first, front_passed, front_next⟩,
      except_bind_eq_ok.mpr ⟨second, back_passed, back_next⟩, same⟩
  · rintro ⟨front_result, back_result, front_done, back_done, same⟩
    obtain ⟨first, front_passed, front_next⟩ := except_bind_eq_ok.mp front_done
    obtain ⟨second, back_passed, back_next⟩ := except_bind_eq_ok.mp back_done
    exact except_bind_eq_ok.mpr ⟨first ++ second,
      (divided _).mpr ⟨first, second, front_passed, back_passed, rfl⟩,
      (dividedNext first front_passed second result).mpr
        ⟨front_result, back_result, front_next, back_next, same⟩⟩

namespace ActsByLine

theorem pure : ActsByLine (fun text => .ok text) where
  divides := by
    intro front ends back result
    constructor
    · intro same
      cases same
      exact ⟨front, back, rfl, rfl, rfl⟩
    · rintro ⟨first, second, same, sameBack, rfl⟩
      cases same
      cases sameBack
      rfl
  endsLine := by
    intro front result ends same
    cases same
    exact ends

theorem andThen
    {pass next : Pass}
    (byLine : ActsByLine pass)
    (nextByLine : ActsByLine next) :
    ActsByLine (fun text => pass text >>= next) where
  divides := fun ends back =>
    (byLine.divides ends back).andThen fun _ passed second =>
      nextByLine.divides (byLine.endsLine ends passed) second
  endsLine := by
    intro front result ends succeeded
    obtain ⟨middle, passed, continued⟩ := except_bind_eq_ok.mp succeeded
    exact nextByLine.endsLine (byLine.endsLine ends passed) continued

end ActsByLine

/-- The passes of handlers over a text, one after the other. -/
def runHandlers
    (rendering : Rendering) (handlers : List Handler) : Pass :=
  handlers.foldlM fun soFar handler => handler.substitute rendering soFar

theorem runHandlers_cons
    (rendering : Rendering) (handler : Handler) (rest : List Handler) :
    runHandlers rendering (handler :: rest) =
      fun text =>
        handler.substitute rendering text >>= runHandlers rendering rest :=
  rfl

theorem runHandlers_append
    (rendering : Rendering) (earlier later : List Handler) (text : String) :
    runHandlers rendering (earlier ++ later) text =
      runHandlers rendering earlier text >>= runHandlers rendering later :=
  List.foldlM_append

/-- Handlers that keep a text do so one after the other. -/
theorem runHandlers_keep
    {rendering : Rendering} {handlers : List Handler} {text : String}
    (keep : ∀ handler ∈ handlers, handler.substitute rendering text = .ok text) :
    runHandlers rendering handlers text = .ok text := by
  induction handlers with
  | nil => rfl
  | cons handler rest ih =>
      obtain ⟨first, later⟩ := List.forall_mem_cons.mp keep
      rw [runHandlers_cons]
      simp only [first]
      exact ih later

/-- Handlers that act by line do so one after the other. -/
theorem runHandlers_actsByLine
    {rendering : Rendering} {handlers : List Handler}
    (byLine :
      ∀ handler ∈ handlers, ActsByLine (handler.substitute rendering)) :
    ActsByLine (runHandlers rendering handlers) := by
  induction handlers with
  | nil => exact ActsByLine.pure
  | cons handler rest ih =>
      rw [runHandlers_cons]
      exact (byLine handler List.mem_cons_self).andThen
        (ih fun other member => byLine other (List.mem_cons_of_mem _ member))

/-- A pass whose effects on a text are those on its parts divides the text. -/
theorem Divides.of_bind
    {pass : Pass} {front back : String}
    (split :
      pass (front ++ back) = do
        let first ← pass front
        let second ← pass back
        return first ++ second) :
    Divides pass front back := by
  intro result
  rw [split]
  simp only [except_bind_eq_ok]
  constructor
  · rintro ⟨first, front_passed, second, back_passed, same⟩
    cases same
    exact ⟨first, second, front_passed, back_passed, rfl⟩
  · rintro ⟨first, second, front_passed, back_passed, rfl⟩
    exact ⟨first, front_passed, second, back_passed, rfl⟩

/-! ## Line macros -/

section LineMacros

variable {name : String}
  {replace : Invocation → Except Error (Option String)}

theorem rewriteInvocations_append
    {front : String}
    (ends : EndsLine front.toList)
    (back : String) :
    rewriteInvocations name replace (front ++ back) = do
      let first ← rewriteInvocations name replace front
      let second ← rewriteInvocations name replace back
      return first ++ second := by
  simp only [rewriteInvocations, String.toList_append, lines_append ends,
    List.mapM_append, bind_assoc, pure_bind, List.flatten_append,
    String.ofList_append]

/-- What stands in place of a line ends as the line does. -/
theorem getLast?_of_rewriteLine
    {line : Line} {piece : List Char}
    (ended : line.terminator.getLast? = some '\n')
    (rewritten : rewriteLine name replace line = .ok piece) :
    piece.getLast? = some '\n' := by
  have text_ends :
      ∀ content : List Char,
        (content ++ line.terminator).getLast? = some '\n' := by
    intro content
    rw [List.getLast?_append, ended]
    rfl
  rw [rewriteLine_eq] at rewritten
  split at rewritten
  · cases rewritten
    exact text_ends line.content
  · rename_i invocation _
    cases answered : replace invocation with
    | error reason =>
        rw [answered] at rewritten
        cases rewritten
    | ok answer =>
        rw [answered] at rewritten
        cases rewritten
        exact text_ends _

/-- The handler of a line macro acts by line. -/
theorem ofLine_actsByLine
    (name : String) (order : Int)
    (expand : Rendering → Invocation → Except Error (Option String))
    (rendering : Rendering) :
    ActsByLine ((Handler.ofLine name order expand).substitute rendering) where
  divides := fun ends back =>
    Divides.of_bind (rewriteInvocations_append ends back)
  endsLine := by
    intro front result ends succeeded
    obtain ⟨pieces, rewritten, same⟩ := except_bind_eq_ok.mp succeeded
    cases same
    rw [String.toList_ofList]
    refine EndsLine.flatten fun piece member => ?_
    obtain ⟨line, line_member, passed⟩ :=
      exists_of_mapM_eq_ok rewritten piece member
    exact Or.inr
      (getLast?_of_rewriteLine
        (endsLine_text_of_mem_lines ends line line_member) passed)

end LineMacros

/-! ## Placeholders -/

/-- No placeholder goes beyond the end of a line, so its parts are found line by line. -/
theorem TakenApart.append_lineFeed
    {front : List Char} {found : List Part}
    (apart : TakenApart front found) (back : List Char) :
    parts (front ++ '\n' :: back) = found ++ .literal '\n' :: parts back := by
  induction apart with
  | done =>
      refine parts_cons_unmatched fun placeholder words starts => ?_
      have before : placeholder.text <+: [] :=
        prefix_of_prefix_append_cons words.lineFeed_notMem_text starts
      exact placeholder.text_ne_nil (List.prefix_nil.mp before)
  | found words later ih =>
      rw [List.append_assoc, parts_text_append words, ih, List.cons_append]
  | @passed c rest others unmatched later ih =>
      have stillUnmatched :
          ∀ placeholder : Placeholder, placeholder.OfWords →
            ¬ placeholder.text <+: c :: (rest ++ '\n' :: back) :=
        fun placeholder words starts =>
          unmatched placeholder words
            (prefix_of_prefix_append_cons words.lineFeed_notMem_text starts)
      rw [List.cons_append, parts_cons_unmatched stillUnmatched, ih,
        List.cons_append]

theorem parts_append_lineFeed (front back : List Char) :
    parts (front ++ '\n' :: back) =
      parts front ++ .literal '\n' :: parts back :=
  (TakenApart.of_parts front).append_lineFeed back

/-- The parts of a text behind one that ends a line are those that it has alone. -/
theorem parts_append
    {front : List Char}
    (ends : EndsLine front)
    (back : List Char) :
    parts (front ++ back) = parts front ++ parts back := by
  rcases ends.cases with rfl | ⟨before, rfl⟩
  · rfl
  · have alone : parts (before ++ ['\n']) = parts before ++ [.literal '\n'] :=
      parts_append_lineFeed before []
    rw [alone, List.append_assoc, List.append_assoc, List.singleton_append,
      List.singleton_append, parts_append_lineFeed]

section PlaceholderHandlers

variable {replace : Placeholder → Except Error (Option String)}

theorem rewritePlaceholders_append
    {front : String}
    (ends : EndsLine front.toList)
    (back : String) :
    rewritePlaceholders replace (front ++ back) = do
      let first ← rewritePlaceholders replace front
      let second ← rewritePlaceholders replace back
      return first ++ second := by
  simp only [rewritePlaceholders, String.toList_append, parts_append ends,
    List.mapM_append, bind_assoc, pure_bind, List.flatten_append,
    String.ofList_append]

/-- A line feed at the end of a text is no part of a placeholder and stays. -/
theorem endsLine_rewritePlaceholders
    {front result : String}
    (ends : EndsLine front.toList)
    (succeeded : rewritePlaceholders replace front = .ok result) :
    EndsLine result.toList := by
  obtain ⟨pieces, rewritten, same⟩ := except_bind_eq_ok.mp succeeded
  cases same
  rw [String.toList_ofList]
  rcases ends.cases with empty | ⟨before, split⟩
  · rw [empty] at rewritten
    cases rewritten
    exact EndsLine.nil
  · rw [split, parts_append_lineFeed, List.mapM_append] at rewritten
    obtain ⟨first, _, rest_passed⟩ := except_bind_eq_ok.mp rewritten
    obtain ⟨last, last_passed, same⟩ := except_bind_eq_ok.mp rest_passed
    cases last_passed
    cases same
    rw [List.flatten_append]
    right
    simp

/-- The handler of placeholders acts by line. -/
theorem ofPlaceholder_actsByLine
    (name : String) (order : Int)
    (expand : Rendering → Placeholder → Except Error (Option String))
    (rendering : Rendering) :
    ActsByLine
      ((Handler.ofPlaceholder name order expand).substitute rendering) where
  divides := fun ends back =>
    Divides.of_bind (rewritePlaceholders_append ends back)
  endsLine := endsLine_rewritePlaceholders

end PlaceholderHandlers

end Guidebook.Markup
