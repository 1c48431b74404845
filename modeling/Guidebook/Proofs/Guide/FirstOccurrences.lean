import Guidebook.Guide.Defaults
import Guidebook.Proofs.Distinct
import Mathlib.Data.List.Sort

/-!
# First occurrences

A list is rid of its repetitions in one pass that remembers what it has seen.  What such a pass
keeps is told by two conditions alone: the members are those of the list, and they stand in the
order in which the list first has them.  So it makes no difference if a part of a list has been rid
of its repetitions before, as the tags of a base have been when a guide inherits them.
-/

namespace Guidebook

/-- The members of a list that are not among those seen before it, each where it first occurs. -/
def unseen (seen : List String) : List String → List String
  | [] => []
  | member :: rest =>
    if member ∈ seen then unseen seen rest
    else member :: unseen (member :: seen) rest

variable {seen members result : List String}

/-- To have seen some members is to begin without them. -/
theorem unseen_eq_distinct_filter (seen members : List String) :
    unseen seen members =
      distinct (members.filter fun member => !seen.contains member) := by
  induction members generalizing seen with
  | nil => rfl
  | cons member rest ih =>
      by_cases before : member ∈ seen
      · rw [unseen, if_pos before, ih]
        simp [before]
      · have left :
            (rest.filter fun other => !(member :: seen).contains other) =
              (rest.filter fun other => !seen.contains other).filter
                fun other => !other == member := by
          rw [List.filter_filter]
          refine List.filter_congr fun other _ => ?_
          rw [List.contains_cons, Bool.not_or]
        rw [unseen, if_neg before, ih, left, distinct, distinct,
          List.filter_cons_of_pos (by simpa using before), List.eraseDups_cons]

theorem distinct_eq_unseen (members : List String) :
    distinct members = unseen [] members := by
  rw [unseen_eq_distinct_filter]
  simp

theorem mem_unseen_iff {member : String} :
    member ∈ unseen seen members ↔ member ∈ members ∧ member ∉ seen := by
  rw [unseen_eq_distinct_filter, distinct, List.mem_eraseDups,
    List.mem_filter]
  simp

/-! ## The order of first occurrences -/

/-- One text occurs in a list for the first time before another does. -/
def OccursBefore
    (members : List String) (earlier later : String) : Prop :=
  members.idxOf earlier < members.idxOf later

theorem OccursBefore.cons
    {first earlier later : String}
    (before : OccursBefore members earlier later)
    (earlierOther : first ≠ earlier) (laterOther : first ≠ later) :
    OccursBefore (first :: members) earlier later := by
  rw [OccursBefore, List.idxOf_cons_ne _ earlierOther,
    List.idxOf_cons_ne _ laterOther]
  exact Nat.succ_lt_succ before

theorem occursBefore_first
    {first later : String} (different : first ≠ later) :
    OccursBefore (first :: members) first later := by
  rw [OccursBefore, List.idxOf_cons_self, List.idxOf_cons_ne _ different]
  exact Nat.succ_pos _

theorem pairwise_unseen (seen members : List String) :
    (unseen seen members).Pairwise (OccursBefore members) := by
  -- What is seen grows by each member that is kept, so none of the later ones is equal to it.
  induction members generalizing seen with
  | nil => exact .nil
  | cons first rest ih =>
      have behind : ∀ {others}, first ∈ others →
          (unseen others rest).Pairwise (OccursBefore (first :: rest)) := by
        intro others within
        refine (ih others).imp_of_mem fun present presentToo before => ?_
        exact before.cons
          (ne_of_mem_of_not_mem within (mem_unseen_iff.mp present).2)
          (ne_of_mem_of_not_mem within (mem_unseen_iff.mp presentToo).2)
      rw [unseen]
      split
      · exact behind ‹_›
      · refine List.pairwise_cons.mpr ⟨fun later present => ?_,
          behind List.mem_cons_self⟩
        exact occursBefore_first
          (ne_of_mem_of_not_mem List.mem_cons_self
            (mem_unseen_iff.mp present).2)

/-! ## Lists without repetitions -/

/-- A list has each member of another once, in the order of their first occurrences. -/
structure KeepsFirsts (members result : List String) : Prop where
  nodup : result.Nodup
  mem_iff : ∀ member, member ∈ result ↔ member ∈ members
  ordered : result.Pairwise (OccursBefore members)

theorem keepsFirsts_distinct (members : List String) :
    KeepsFirsts members (distinct members) where
  nodup := nodup_eraseDups members
  mem_iff member := List.mem_eraseDups
  ordered := by
    rw [distinct_eq_unseen]
    exact pairwise_unseen [] members

theorem KeepsFirsts.unique
    {other : List String}
    (first : KeepsFirsts members result)
    (second : KeepsFirsts members other) :
    result = other := by
  have asymmetric :
      Std.Asymm (OccursBefore members) :=
    ⟨fun _ _ before after => Nat.lt_asymm before after⟩
  refine first.ordered.eq_of_mem_iff second.ordered fun member => ?_
  rw [first.mem_iff, second.mem_iff]

/--
Ridding a list of its repetitions gives the one list that has the same members, each once, in the
order of their first occurrences.  It may be done beforehand to the front or to the back of a list
without any difference to the whole.
-/
theorem distinct_keeps_firsts (members more : List String) :
    (∀ result,
      KeepsFirsts members result ↔ result = distinct members) ∧
    distinct (members ++ distinct more) = distinct (members ++ more) ∧
    distinct (distinct members ++ more) = distinct (members ++ more) := by
  refine ⟨fun result => ⟨fun keeps => ?_, ?_⟩,
    eraseDups_append_right members more, eraseDups_append_left members more⟩
  · exact keeps.unique (keepsFirsts_distinct members)
  · rintro rfl
    exact keepsFirsts_distinct members

/-! ## Tags along a chain of bases -/

/-- It makes no difference to the tags of a chain that each merge rids them of repetitions. -/
theorem distinct_tags_foldl_merge (base : Guide) (children : List Guide) :
    distinct (children.foldl Guide.merge base).tags =
      distinct (base.tags ++ children.flatMap Guide.tags) := by
  induction children generalizing base with
  | nil => rw [List.foldl_nil, List.flatMap_nil, List.append_nil]
  | cons child rest ih =>
      calc
        distinct ((child :: rest).foldl Guide.merge base).tags
            = distinct
                ((base.merge child).tags ++ rest.flatMap Guide.tags) :=
          ih (base.merge child)
        _ = distinct
              ((base.tags ++ child.tags) ++ rest.flatMap Guide.tags) :=
          eraseDups_append_left _ _
        _ = distinct (base.tags ++ (child :: rest).flatMap Guide.tags) := by
          rw [List.flatMap_cons, List.append_assoc]

theorem nodup_tags_foldl_merge
    {base : Guide} (nodup : base.tags.Nodup) (children : List Guide) :
    (children.foldl Guide.merge base).tags.Nodup := by
  induction children generalizing base with
  | nil => exact nodup
  | cons child rest ih => exact ih (nodup_eraseDups (base.tags ++ child.tags))

/-- At the end of a chain of bases stand the tags of all its guides, each where the chain first has
it from the top down. -/
theorem keepsFirsts_tags_of_chain
    (top next : Guide) (rest : List Guide) :
    KeepsFirsts ((top :: next :: rest).flatMap Guide.tags)
      ((next :: rest).foldl Guide.merge top).tags := by
  have nodup : ((next :: rest).foldl Guide.merge top).tags.Nodup :=
    nodup_tags_foldl_merge (nodup_eraseDups (top.tags ++ next.tags)) rest
  have whole := distinct_tags_foldl_merge top (next :: rest)
  rw [distinct, eraseDups_of_nodup nodup] at whole
  rw [whole, List.flatMap_cons]
  exact keepsFirsts_distinct _

end Guidebook
