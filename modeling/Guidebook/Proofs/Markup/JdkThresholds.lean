import Guidebook.Proofs.Markup.LookAhead

/-!
# Raising the JDK

Which lines are markers, and where blocks start and end, does not depend on the JDK; only what
becomes of a block does.  A higher JDK is below fewer of the versions that blocks name, so it
excludes fewer blocks, and the lines that stay for a lower JDK stay for a higher one.
-/

namespace Guidebook.Markup

open Guidebook.Text

/-- Where fewer blocks are excluded, lines are added to those that stay. -/
theorem keepLines_sublist_of_imp
    {marker : List Char} {excludes fewer : List Char → Bool}
    (weaker : ∀ parameters, fewer parameters → excludes parameters)
    (rows : List Line) :
    (keepLines marker excludes none rows).1.Sublist
      (keepLines marker fewer none rows).1 := by
  rw [keepLines_eq_lookAhead]
  fun_induction lookAhead marker excludes rows with
  | case1 => exact List.Sublist.refl _
  | case2 line rest c more opens body behind found ih =>
      obtain ⟨ender, rfl, ends, endless⟩ := cutAtEnder_eq_some found
      rw [keepLines_block opens (List.cons_ne_nil c more) endless ends]
      refine List.Sublist.append ?_ ih
      split
      · exact List.nil_sublist _
      · rename_i stays
        rw [if_neg fun excluded => stays (weaker _ excluded)]
  | case3 line rest c more opens missed =>
      rw [keepLines_unended opens (List.cons_ne_nil c more)
        (cutAtEnder_eq_none missed)]
  | case4 line rest plain ih =>
      rw [keepLines_plain plain]
      exact ih.cons_cons line

namespace ExclusionKind

variable {lower higher : UInt32} {variant : Variant}

/-- A version above the higher JDK is above the lower one. -/
theorem matchesOne_of_le
    (le : lower ≤ higher) {parameter : List Char}
    (named : (jdkLowerThan higher).matchesOne variant parameter) :
    (jdkLowerThan lower).matchesOne variant parameter := by
  unfold matchesOne at named ⊢
  cases read : word32? parameter with
  | none => simp [read] at named
  | some required =>
      simp only [read, Option.any_some, decide_eq_true_eq] at named ⊢
      exact UInt32.lt_of_le_of_lt le named

theorem matches_of_le
    (le : lower ≤ higher) (parameters : List Char)
    (named : (jdkLowerThan higher).Matches variant parameters) :
    (jdkLowerThan lower).Matches variant parameters := by
  obtain ⟨parameter, written, exceeds⟩ := List.any_eq_true.mp named
  exact List.any_eq_true.mpr ⟨parameter, written, matchesOne_of_le le exceeds⟩

/--
Every text falls into lines in one way.  Both passes go through, and the lines of the text that
stays for the lower JDK are lines of the one that stays for the higher JDK, in their order, as those
are lines of the text itself.
-/
theorem raising_jdk_keeps_lines
    (le : lower ≤ higher) (rendering : Rendering) (text : String) :
    (∀ content rows, FallsInto content rows ↔ rows = lines content) ∧
    ∃ fewer more,
      (jdkLowerThan lower).handler.substitute rendering text = .ok fewer ∧
      (jdkLowerThan higher).handler.substitute rendering text = .ok more ∧
      (lines fewer.toList).Sublist (lines more.toList) ∧
      (lines more.toList).Sublist (lines text.toList) := by
  refine ⟨fun _ _ => fallsInto_iff, _, _, rfl, rfl, ?_,
    lines_exclude_sublist text⟩
  rw [lines_exclude, lines_exclude]
  exact keepLines_sublist_of_imp (matches_of_le le) _

/-- A text with two versions in one marker, a marker inside a block, and a block that never ends. -/
def versionedText : String :=
  ":exclude-for-jdk-lower-than:11, 21\na\n:exclude-for-jdk-lower-than:17+\nb\n" ++
    ":exclude-for-jdk-lower-than:\r\n:exclude-for-jdk-lower-than:latest\nc\n" ++
    ":exclude-for-jdk-lower-than:\n:exclude-for-jdk-lower-than:25\nd"

theorem raising_jdk_keeps_lines_versionedText :
    let rendering : Rendering := ⟨{}, ⟨.gradle, .java, .junit⟩, none⟩
    let fewer := "c\n:exclude-for-jdk-lower-than:25\nd"
    let more := "a\n:exclude-for-jdk-lower-than:17+\nb\n" ++ fewer
    (17 : UInt32) ≤ 21 ∧
    (∀ content rows, FallsInto content rows ↔ rows = lines content) ∧
    (jdkLowerThan 17).handler.substitute rendering versionedText = .ok fewer ∧
    (jdkLowerThan 21).handler.substitute rendering versionedText = .ok more ∧
    (lines fewer.toList).Sublist (lines more.toList) ∧
    (lines more.toList).Sublist (lines versionedText.toList) := by
  intro rendering fewer more
  have le : (17 : UInt32) ≤ 21 := by decide
  have lower :
      (jdkLowerThan 17).handler.substitute rendering versionedText =
        .ok fewer := by
    decide +kernel
  have higher :
      (jdkLowerThan 21).handler.substitute rendering versionedText =
        .ok more := by
    decide +kernel
  obtain ⟨falls, _, _, left, kept, added, within⟩ :=
    raising_jdk_keeps_lines le rendering versionedText
  rw [lower] at left
  rw [higher] at kept
  cases left
  cases kept
  exact ⟨le, falls, lower, higher, added, within⟩

end ExclusionKind

end Guidebook.Markup
