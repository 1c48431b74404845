import Mathlib.Data.List.Nodup

/-!
# Lists without repetitions

`List.eraseDups` keeps the first of equal members.  Its result has no repetitions and is a fixed
point; filtering commutes with it; and a part of a list may be rid of its repetitions beforehand
without any difference to the whole.
-/

namespace Guidebook

variable {α : Type} [BEq α]

/-- What holds of a list if it holds of the rest without the first member holds of every list: that
rest is shorter. -/
theorem eraseDups_induction
    {holds : List α → Prop}
    (nil : holds [])
    (cons : ∀ first rest,
      holds (rest.filter fun other => !other == first) →
        holds (first :: rest)) :
    ∀ members, holds members
  | [] => nil
  | first :: rest =>
    cons first rest (eraseDups_induction nil cons _)
  termination_by members => members.length
  decreasing_by
    exact Nat.lt_succ_of_le (List.length_filter_le _ rest)

variable [LawfulBEq α]

theorem nodup_eraseDups (members : List α) :
    members.eraseDups.Nodup := by
  induction members using eraseDups_induction with
  | nil => simp
  | cons first rest ih =>
      rw [List.eraseDups_cons, List.nodup_cons]
      refine ⟨?_, ih⟩
      simp

theorem eraseDups_of_nodup
    {members : List α} (distinct : members.Nodup) :
    members.eraseDups = members := by
  induction members with
  | nil => simp
  | cons first rest ih =>
      obtain ⟨absent, later⟩ := List.nodup_cons.mp distinct
      have kept : rest.filter (fun other => !other == first) = rest := by
        rw [List.filter_eq_self]
        intro other member
        have different : other ≠ first := ne_of_mem_of_not_mem member absent
        simp [different]
      rw [List.eraseDups_cons, kept, ih later]

theorem eraseDups_eraseDups (members : List α) :
    members.eraseDups.eraseDups = members.eraseDups :=
  eraseDups_of_nodup (nodup_eraseDups members)

theorem filter_eraseDups (keeps : α → Bool) (members : List α) :
    members.eraseDups.filter keeps = (members.filter keeps).eraseDups := by
  induction members using eraseDups_induction with
  | nil => simp
  | cons first rest ih =>
      have swapped :
          (rest.filter fun other => !other == first).filter keeps =
            (rest.filter keeps).filter fun other => !other == first := by
        simp only [List.filter_filter, Bool.and_comm]
      rw [List.eraseDups_cons, List.filter_cons, List.filter_cons, ih, swapped]
      cases kept : keeps first with
      | true =>
          rw [if_pos rfl, if_pos rfl, List.eraseDups_cons]
      | false =>
          have absent :
              (rest.filter keeps).filter (fun other => !other == first) =
                rest.filter keeps := by
            rw [List.filter_eq_self]
            intro other member
            have different : other ≠ first := by
              rintro rfl
              simp [kept] at member
            simp [different]
          rw [if_neg Bool.false_ne_true, if_neg Bool.false_ne_true, absent]

/-! ## Joined lists -/

/-- The second part of a list may be rid of its repetitions beforehand. -/
theorem eraseDups_append_right (front back : List α) :
    (front ++ back.eraseDups).eraseDups = (front ++ back).eraseDups := by
  rw [List.eraseDups_append, List.eraseDups_append, List.removeAll,
    List.removeAll, filter_eraseDups, eraseDups_eraseDups]

/-- The first part of a list may be rid of its repetitions beforehand. -/
theorem eraseDups_append_left (front back : List α) :
    (front.eraseDups ++ back).eraseDups = (front ++ back).eraseDups := by
  have removed : back.removeAll front.eraseDups = back.removeAll front := by
    apply List.filter_congr
    intro member _
    have same : front.eraseDups.elem member = front.elem member := by
      rw [Bool.eq_iff_iff, List.elem_iff, List.elem_iff,
        List.mem_eraseDups]
    rw [same]
  rw [List.eraseDups_append, List.eraseDups_append, eraseDups_eraseDups,
    removed]

/-- What is joined to a list twice is there once. -/
theorem eraseDups_append_again (front back : List α) :
    (front ++ (front ++ back).eraseDups).eraseDups =
      (front ++ back).eraseDups := by
  have twice : (front ++ front).eraseDups = front.eraseDups := by
    have nothing : front.removeAll front = [] := by
      simp [List.removeAll]
    rw [List.eraseDups_append, nothing, List.eraseDups_nil,
      List.append_nil]
  rw [eraseDups_append_right, ← List.append_assoc,
    ← eraseDups_append_left, twice, eraseDups_append_left]

end Guidebook
