import Guidebook.Guide.Inheritance
import Mathlib.Data.List.Chain
import Mathlib.Logic.Relation

/-!
# The graph of bases

In a batch of guides every position leads to at most one other: the position of the guide that it
names as its base.  `Completes` says which value a position ends with, whatever the order in which
positions are handled: a guide without a base in the batch, or on a cycle of bases, stays as it is
written, and every other guide is merged into the value of its base.

The walk that resolves a guide sees a part of this graph, the trail.  Where a trail closes, the
positions from the closing one on are exactly those of a cycle.
-/

namespace Guidebook.Inheritance

open Relation

variable {guides : List Guide}

/-! ## Positions of slugs -/

/-- The position of a slug holds a guide of that slug. -/
theorem position?_eq_some
    {slug : String} {position : Nat}
    (found : position? guides slug = some position) :
    ∃ guide, guides[position]? = some guide ∧ guide.slug = slug := by
  simp only [position?, List.findRev?_eq_find?_reverse,
    Option.map_eq_some_iff] at found
  obtain ⟨⟨guide, index⟩, last, rfl⟩ := found
  have member : (guide, index) ∈ guides.zipIdx :=
    List.mem_reverse.mp (List.mem_of_find?_eq_some last)
  have named := List.find?_some last
  exact ⟨guide, List.mem_zipIdx_iff_getElem?.mp member, by simpa using named⟩

/-- A slug has no position if no guide of the batch has that slug. -/
theorem position?_eq_none_iff
    {slug : String} :
    position? guides slug = none ↔ ∀ guide ∈ guides, guide.slug ≠ slug := by
  simp only [position?, List.findRev?_eq_find?_reverse,
    Option.map_eq_none_iff, List.find?_eq_none, List.mem_reverse]
  constructor
  · intro absent guide member
    obtain ⟨position, found⟩ := List.mem_iff_getElem?.mp member
    have entry : (guide, position) ∈ guides.zipIdx :=
      List.mem_zipIdx_iff_getElem?.mpr found
    simpa using absent (guide, position) entry
  · intro absent entry member
    have present : entry.1 ∈ guides :=
      List.mem_of_getElem? (List.mem_zipIdx_iff_getElem?.mp member)
    simpa using absent entry.1 present

/-! ## Bases and cycles -/

/-- The position of the base that the guide at a position names. -/
def basePosition? (guides : List Guide) (position : Nat) : Option Nat :=
  (guides[position]?.bind Guide.base).bind (position? guides)

/-- A position leads to the position of its base. -/
def Leads (guides : List Guide) (position base : Nat) : Prop :=
  basePosition? guides position = some base

/-- A position to which the bases lead back. -/
def OnCycle (guides : List Guide) (position : Nat) : Prop :=
  TransGen (Leads guides) position position

theorem Leads.unique
    {position first second : Nat}
    (left : Leads guides position first)
    (right : Leads guides position second) :
    first = second :=
  Option.some.inj (left.symm.trans right)

theorem Leads.source_lt
    {position base : Nat}
    (leads : Leads guides position base) :
    position < guides.length := by
  by_contra beyond
  simp [Leads, basePosition?, List.getElem?_eq_none (Nat.not_lt.mp beyond)] at leads

theorem Leads.of_base
    {position base : Nat} {guide : Guide} {slug : String}
    (authored : guides[position]? = some guide)
    (named : guide.base = some slug)
    (found : position? guides slug = some base) :
    Leads guides position base := by
  simp [Leads, basePosition?, authored, named, found]

theorem OnCycle.reaches_back
    {position base : Nat}
    (cycle : OnCycle guides position)
    (leads : Leads guides position base) :
    ReflTransGen (Leads guides) base position := by
  obtain ⟨next, first, rest⟩ := TransGen.head'_iff.mp cycle
  rwa [leads.unique first]

/-- A position that leads nowhere is on no cycle. -/
theorem not_onCycle_of_rootless
    {position : Nat}
    (rootless : basePosition? guides position = none) :
    ¬OnCycle guides position := by
  intro cycle
  obtain ⟨next, leads, -⟩ := TransGen.head'_iff.mp cycle
  rw [Leads, rootless] at leads
  contradiction

/-! ## The value of a position -/

/-- The value that a position ends with. -/
inductive Completes (guides : List Guide) : Nat → Guide → Prop where
  | rootless {position guide}
      (authored : guides[position]? = some guide)
      (alone : basePosition? guides position = none) :
      Completes guides position guide
  | cyclic {position guide}
      (authored : guides[position]? = some guide)
      (cycle : OnCycle guides position) :
      Completes guides position guide
  | merged {position base guide value}
      (authored : guides[position]? = some guide)
      (leads : Leads guides position base)
      (acyclic : ¬OnCycle guides position)
      (completed : Completes guides base value) :
      Completes guides position (value.merge guide)

/-- A position ends with one value only. -/
theorem Completes.unique
    {position : Nat} {first second : Guide}
    (left : Completes guides position first)
    (right : Completes guides position second) :
    first = second := by
  induction left generalizing second with
  | rootless authored alone =>
      cases right with
      | rootless again _ => exact Option.some.inj (authored.symm.trans again)
      | cyclic _ cycle => exact (not_onCycle_of_rootless alone cycle).elim
      | merged _ leads _ _ =>
          rw [Leads, alone] at leads
          contradiction
  | cyclic authored cycle =>
      cases right with
      | rootless _ alone => exact (not_onCycle_of_rootless alone cycle).elim
      | cyclic again _ => exact Option.some.inj (authored.symm.trans again)
      | merged _ _ acyclic _ => exact (acyclic cycle).elim
  | merged authored leads acyclic _ ih =>
      cases right with
      | rootless _ alone =>
          rw [Leads, alone] at leads
          contradiction
      | cyclic _ cycle => exact (acyclic cycle).elim
      | merged again leadsToo _ completed =>
          obtain rfl := leads.unique leadsToo
          obtain rfl := Option.some.inj (authored.symm.trans again)
          rw [ih completed]

/-! ## Trails -/

/-- Positions, the latest first, each of which leads to the one before it. -/
def IsTrail (guides : List Guide) (trail : List Nat) : Prop :=
  trail.IsChain fun later earlier => Leads guides earlier later

theorem IsTrail.reaches_first
    {first member : Nat} {rest : List Nat}
    (trail : IsTrail guides (first :: rest))
    (inside : member ∈ first :: rest) :
    ReflTransGen (Leads guides) member first := by
  induction rest generalizing first with
  | nil =>
      obtain rfl := List.mem_singleton.mp inside
      exact .refl
  | cons second rest ih =>
      obtain ⟨leads, before⟩ := List.isChain_cons_cons.mp trail
      rcases List.mem_cons.mp inside with rfl | later
      · exact .refl
      · exact (ih before later).tail leads

theorem IsTrail.reached_from_last
    {first member : Nat} {rest : List Nat}
    (trail : IsTrail guides (first :: rest))
    (inside : member ∈ first :: rest) :
    ReflTransGen (Leads guides)
      ((first :: rest).getLast (List.cons_ne_nil first rest)) member := by
  induction rest generalizing first member with
  | nil =>
      obtain rfl := List.mem_singleton.mp inside
      exact .refl
  | cons second rest ih =>
      obtain ⟨leads, before⟩ := List.isChain_cons_cons.mp trail
      rw [List.getLast_cons (List.cons_ne_nil second rest)]
      rcases List.mem_cons.mp inside with rfl | later
      · exact (ih before List.mem_cons_self).tail leads
      · exact ih before later

/-- Where a trail leads back to its last position, all of it is a cycle. -/
theorem IsTrail.onCycle_of_closes
    {first member : Nat} {rest : List Nat}
    (trail : IsTrail guides (first :: rest))
    (closes :
      Leads guides first
        ((first :: rest).getLast (List.cons_ne_nil first rest)))
    (inside : member ∈ first :: rest) :
    OnCycle guides member :=
  TransGen.trans_left
    (TransGen.tail' (trail.reaches_first inside) closes)
    (trail.reached_from_last inside)

/-- A closed trail is never left. -/
theorem IsTrail.mem_of_leads
    {first member next : Nat} {rest : List Nat}
    (trail : IsTrail guides (first :: rest))
    (closes :
      Leads guides first
        ((first :: rest).getLast (List.cons_ne_nil first rest)))
    (inside : member ∈ first :: rest)
    (leads : Leads guides member next) :
    next ∈ first :: rest := by
  obtain ⟨before, after, split⟩ := List.append_of_mem inside
  rcases List.eq_nil_or_concat before with rfl | ⟨start, previous, rfl⟩
  · -- The first position leads to the last one.
    obtain ⟨rfl, -⟩ := List.cons.inj split
    rw [leads.unique closes]
    exact List.getLast_mem _
  · -- Any other position leads to the one before it.
    rw [split, List.concat_eq_append, List.append_assoc] at trail
    have tail := (List.isChain_append.mp trail).2.1
    have step := (List.isChain_cons_cons.mp tail).1
    rw [leads.unique step, split]
    simp

theorem IsTrail.mem_of_reaches
    {first member next : Nat} {rest : List Nat}
    (trail : IsTrail guides (first :: rest))
    (closes :
      Leads guides first
        ((first :: rest).getLast (List.cons_ne_nil first rest)))
    (inside : member ∈ first :: rest)
    (reaches : ReflTransGen (Leads guides) member next) :
    next ∈ first :: rest := by
  induction reaches with
  | refl => exact inside
  | tail _ leads ih => exact trail.mem_of_leads closes ih leads

end Guidebook.Inheritance
