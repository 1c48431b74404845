import Guidebook.Files.Path
import Mathlib.Data.List.Lex
import Mathlib.Data.Prod.Lex
import Mathlib.Data.String.Basic
import Mathlib.Tactic.Common

/-!
# The order of paths

Paths are compared as lists of keys, one for each component, in the lexicographic order.  Since a
component is determined by its key, this is a linear order of paths up to what their components
leave open, and sorting by it puts paths in ascending order.
-/

namespace Guidebook.Path

/-- What a component is compared by: first its place among the kinds, then its text. -/
def Component.key (component : Component) : ℕ ×ₗ String :=
  toLex (component.rank, component.text)

theorem Component.key_injective : Function.Injective Component.key := by
  intro first second same
  have both := Prod.mk.inj (toLex_inj.mp same)
  cases first <;> cases second <;> simp_all [rank, text]

/-- Components of different kinds have different ranks, and only names have texts to compare. -/
theorem Component.precedes_iff {first second : Component} :
    first.precedes second = true ↔ first.key < second.key := by
  rw [key, key, Prod.Lex.toLex_lt_toLex]
  cases first <;> cases second <;> simp [precedes, rank, text]

theorem componentsPrecede_iff {first second : List Component} :
    componentsPrecede first second = true ↔
      first.map Component.key < second.map Component.key := by
  induction first generalizing second with
  | nil => cases second <;> simp [componentsPrecede]
  | cons component rest ih =>
      cases second with
      | nil => simp [componentsPrecede]
      | cons other others =>
          rw [componentsPrecede, List.map_cons, List.map_cons,
            List.cons_lt_cons_iff]
          split
          · rename_i same
            subst same
            simp [ih]
          · rename_i different
            rw [Component.precedes_iff,
              Component.key_injective.eq_iff]
            simp [different]

/-- What a path is compared by. -/
def sortKey (path : Path) : List (ℕ ×ₗ String) :=
  path.components.map Component.key

variable {first second : Path}

theorem sortKey_eq_iff :
    first.sortKey = second.sortKey ↔
      first.components = second.components :=
  (List.map_injective_iff.mpr Component.key_injective).eq_iff

theorem precedes_iff :
    first.precedes second = true ↔ first.sortKey < second.sortKey :=
  componentsPrecede_iff

theorem not_precedes_iff :
    (!second.precedes first) = true ↔ first.sortKey ≤ second.sortKey := by
  rw [Bool.not_eq_true', ← Bool.not_eq_true, precedes_iff, not_lt]

theorem precedes_of_not_precedes
    (notAfter : (!second.precedes first) = true)
    (different : first.components ≠ second.components) :
    first.precedes second = true := by
  rw [precedes_iff]
  exact lt_of_le_of_ne (not_precedes_iff.mp notAfter)
    (mt sortKey_eq_iff.mp different)

/-- Sorted paths do not come after those that stand behind them. -/
theorem pairwise_mergeSort (paths : List Path) :
    (paths.mergeSort fun first second => !second.precedes first).Pairwise
      fun first second => (!second.precedes first) = true := by
  apply List.pairwise_mergeSort
  · intro first second third before after
    rw [not_precedes_iff] at before after ⊢
    exact before.trans after
  · intro first second
    rw [Bool.or_eq_true, not_precedes_iff, not_precedes_iff]
    exact le_total first.sortKey second.sortKey

end Guidebook.Path
