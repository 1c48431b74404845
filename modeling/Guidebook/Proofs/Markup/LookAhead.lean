import Guidebook.Proofs.Markup.ExclusionBlocks
import Guidebook.Proofs.Text.Spans

/-!
# Looking ahead for the end of a block

A pass over a text reads it line by line, with the block that is open in its state, and finds out at
the end of the text that a block is never ended.  It leaves what is left by looking ahead: where a
marker opens a block, the first marker that ends one is looked for behind it.  If there is one, both
markers go, and the lines between them too if the block is excluded; if there is none, all that is
left of the text stays.
-/

namespace Guidebook.Markup

open Guidebook.Text

variable {marker : List Char} {excludes : List Char → Bool}
  {rows body behind : List Line}

/-- The lines in front of the first marker without parameters, and those behind it. -/
def cutAtEnder (marker : List Char) :
    List Line → Option (List Line × List Line)
  | [] => none
  | line :: rest =>
    if parameters? marker line = some [] then some ([], rest)
    else (cutAtEnder marker rest).map fun parts => (line :: parts.1, parts.2)

theorem cutAtEnder_eq_some
    (found : cutAtEnder marker rows = some (body, behind)) :
    ∃ ender, rows = body ++ ender :: behind ∧
      parameters? marker ender = some [] ∧
      ∀ line ∈ body, parameters? marker line ≠ some [] := by
  induction rows generalizing body with
  | nil => cases found
  | cons line rest ih =>
      rw [cutAtEnder] at found
      split at found
      · rename_i ends
        cases found
        exact ⟨line, rfl, ends, List.forall_mem_nil _⟩
      · rename_i inside
        obtain ⟨⟨more, _⟩, deeper, same⟩ := Option.map_eq_some_iff.mp found
        cases same
        obtain ⟨ender, split, ends, endless⟩ := ih deeper
        exact ⟨ender, by rw [split, List.cons_append], ends,
          List.forall_mem_cons.mpr ⟨inside, endless⟩⟩

theorem cutAtEnder_eq_none
    (missed : cutAtEnder marker rows = none) :
    ∀ line ∈ rows, parameters? marker line ≠ some [] := by
  induction rows with
  | nil => exact List.forall_mem_nil _
  | cons line rest ih =>
      rw [cutAtEnder] at missed
      split at missed
      · cases missed
      · rename_i inside
        exact List.forall_mem_cons.mpr
          ⟨inside, ih (Option.map_eq_none_iff.mp missed)⟩

theorem length_behind_le
    (found : cutAtEnder marker rows = some (body, behind)) :
    behind.length ≤ rows.length := by
  obtain ⟨ender, rfl, _⟩ := cutAtEnder_eq_some found
  simp only [List.length_append, List.length_cons]
  omega

/-- The lines that stay, where the end of a block is looked for as soon as it is opened. -/
def lookAhead (marker : List Char) (excludes : List Char → Bool) :
    List Line → List Line
  | [] => []
  | line :: rest =>
    match parameters? marker line with
    | some (c :: more) =>
      match _found : cutAtEnder marker rest with
      | some (body, behind) =>
        (if excludes (c :: more) then [] else body) ++
          lookAhead marker excludes behind
      | none => line :: rest
    | _ => line :: lookAhead marker excludes rest
termination_by rows => rows.length
decreasing_by
  · exact Nat.lt_succ_of_le (length_behind_le _found)
  · exact Nat.lt_succ_self rest.length

/-- Reading line by line leaves what looking ahead leaves. -/
theorem keepLines_eq_lookAhead :
    (keepLines marker excludes none rows).1 =
      lookAhead marker excludes rows := by
  fun_induction lookAhead marker excludes rows with
  | case1 => rfl
  | case2 line rest c more opens body behind found ih =>
      obtain ⟨ender, rfl, ends, endless⟩ := cutAtEnder_eq_some found
      rw [keepLines_block opens (List.cons_ne_nil c more) endless ends, ih]
  | case3 line rest c more opens missed =>
      rw [keepLines_unended opens (List.cons_ne_nil c more)
        (cutAtEnder_eq_none missed)]
  | case4 line rest plain ih =>
      rw [keepLines_plain plain, ih]

/--
A text falls into lines in one way, and a pass leaves those, with their ends, that looking ahead
leaves.
-/
theorem ExclusionKind.substitute_looks_ahead
    (kind : ExclusionKind) (rendering : Rendering) (text : String) :
    let rows := lines text.toList
    (∀ others, FallsInto text.toList others ↔ others = rows) ∧
    kind.handler.substitute rendering text =
      .ok (String.ofList
        ((lookAhead kind.marker (kind.Matches rendering.variant)
          rows).flatMap Line.text)) := by
  intro rows
  refine ⟨fun _ => fallsInto_iff, ?_⟩
  rw [← keepLines_eq_lookAhead]
  rfl

end Guidebook.Markup
