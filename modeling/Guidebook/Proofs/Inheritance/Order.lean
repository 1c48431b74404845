import Guidebook.Proofs.Inheritance.Completion
import Mathlib.Data.List.Nodup

/-!
# Independence of the order

Where the slugs of a batch differ, a base is a guide rather than a position, and the value of a
guide after inheritance depends on the batch as a set.  `Settles` says what these values are, and
the main statement that every order of the batch is run to exactly them.
-/

namespace Guidebook.Inheritance

open Relation

variable {guides : List Guide}

/-! ## Bases as guides -/

/-- A guide names a guide of the batch as its base. -/
def Inherits (guides : List Guide) (guide base : Guide) : Prop :=
  base ∈ guides ∧ guide.base = some base.slug

/-- A guide to which the bases lead back. -/
def IsCyclic (guides : List Guide) (guide : Guide) : Prop :=
  TransGen (Inherits guides) guide guide

/-- The values of the guides of a batch: a guide without a base in the batch or on a cycle of bases
stays as it is written, and every other one is merged into the value of its base. -/
structure Settles (guides : List Guide) (final : Guide → Guide) :
    Prop where
  unbased : ∀ guide ∈ guides,
    (∀ base, ¬Inherits guides guide base) → final guide = guide
  cyclic : ∀ guide ∈ guides,
    IsCyclic guides guide → final guide = guide
  merged : ∀ guide ∈ guides, ∀ base,
    Inherits guides guide base → ¬IsCyclic guides guide →
      final guide = (final base).merge guide

/-- The value of a single guide, with the derivation that leads to it. -/
inductive Effective (guides : List Guide) : Guide → Guide → Prop where
  | unbased {guide}
      (alone : ∀ base, ¬Inherits guides guide base) :
      Effective guides guide guide
  | cyclic {guide}
      (cycle : IsCyclic guides guide) :
      Effective guides guide guide
  | merged {guide base value}
      (inherits : Inherits guides guide base)
      (acyclic : ¬IsCyclic guides guide)
      (effective : Effective guides base value) :
      Effective guides guide (value.merge guide)

/-- Values that settle a batch are those that can be derived. -/
theorem Settles.eq_of_effective
    {final : Guide → Guide} (settles : Settles guides final)
    {guide value : Guide} (member : guide ∈ guides)
    (effective : Effective guides guide value) :
    final guide = value := by
  induction effective with
  | unbased alone => exact settles.unbased _ member alone
  | cyclic cycle => exact settles.cyclic _ member cycle
  | merged inherits acyclic _ ih =>
      rw [settles.merged _ member _ inherits acyclic, ih inherits.1]

section DistinctSlugs

variable (distinct : (guides.map Guide.slug).Nodup)

include distinct

theorem eq_of_slug_eq
    {first second : Guide}
    (left : first ∈ guides) (right : second ∈ guides)
    (same : first.slug = second.slug) :
    first = second :=
  List.inj_on_of_nodup_map distinct left right same

theorem Inherits.unique
    {guide first second : Guide}
    (left : Inherits guides guide first)
    (right : Inherits guides guide second) :
    first = second :=
  eq_of_slug_eq distinct left.1 right.1
    (Option.some.inj (left.2.symm.trans right.2))

theorem Effective.unique
    {guide first second : Guide}
    (left : Effective guides guide first)
    (right : Effective guides guide second) :
    first = second := by
  induction left generalizing second with
  | unbased alone =>
      cases right with
      | unbased _ => rfl
      | cyclic _ => rfl
      | merged inherits _ _ => exact (alone _ inherits).elim
  | cyclic cycle =>
      cases right with
      | unbased _ => rfl
      | cyclic _ => rfl
      | merged _ acyclic _ => exact (acyclic cycle).elim
  | merged inherits acyclic _ ih =>
      cases right with
      | unbased alone => exact (alone _ inherits).elim
      | cyclic cycle => exact (acyclic cycle).elim
      | merged inheritsToo _ effective =>
          obtain rfl := inherits.unique distinct inheritsToo
          rw [ih effective]

/-! ## From positions to guides -/

theorem position_eq_of_getElem?
    {guide : Guide} {first second : Nat}
    (left : guides[first]? = some guide)
    (right : guides[second]? = some guide) :
    first = second := by
  have inside := (List.getElem?_eq_some_iff.mp left).1
  have nodup : guides.Nodup := List.Nodup.of_map Guide.slug distinct
  exact (List.getElem?_inj inside nodup).mp (left.trans right.symm)

omit distinct in
theorem Leads.inherits
    {position basePosition : Nat} {guide : Guide}
    (leads : Leads guides position basePosition)
    (authored : guides[position]? = some guide) :
    ∃ base,
      guides[basePosition]? = some base ∧ Inherits guides guide base := by
  simp only [Leads, basePosition?, authored, Option.bind_some,
    Option.bind_eq_some_iff] at leads
  obtain ⟨slug, named, found⟩ := leads
  obtain ⟨base, present, rfl⟩ := position?_eq_some found
  exact ⟨base, present, List.mem_of_getElem? present, named⟩

theorem Inherits.leads
    {position : Nat} {guide base : Guide}
    (inherits : Inherits guides guide base)
    (authored : guides[position]? = some guide) :
    ∃ basePosition,
      guides[basePosition]? = some base ∧
        Leads guides position basePosition := by
  obtain ⟨member, named⟩ := inherits
  cases found : position? guides base.slug with
  | none => exact (position?_eq_none_iff.mp found base member rfl).elim
  | some basePosition =>
      obtain ⟨other, present, same⟩ := position?_eq_some found
      obtain rfl :=
        eq_of_slug_eq distinct (List.mem_of_getElem? present) member same
      exact ⟨basePosition, present, .of_base authored named found⟩

omit distinct in
theorem inherits_of_leads_trans
    {position last : Nat} {guide : Guide}
    (walk : TransGen (Leads guides) position last)
    (authored : guides[position]? = some guide) :
    ∃ base,
      guides[last]? = some base ∧
        TransGen (Inherits guides) guide base := by
  induction walk with
  | single leads =>
      obtain ⟨base, present, inherits⟩ := leads.inherits authored
      exact ⟨base, present, .single inherits⟩
  | tail _ leads ih =>
      obtain ⟨middle, present, before⟩ := ih
      obtain ⟨base, presentToo, inherits⟩ := leads.inherits present
      exact ⟨base, presentToo, before.tail inherits⟩

theorem leads_of_inherits_trans
    {position : Nat} {guide base : Guide}
    (walk : TransGen (Inherits guides) guide base)
    (authored : guides[position]? = some guide) :
    ∃ last,
      guides[last]? = some base ∧
        TransGen (Leads guides) position last := by
  induction walk with
  | single inherits =>
      obtain ⟨last, present, leads⟩ := inherits.leads distinct authored
      exact ⟨last, present, .single leads⟩
  | tail _ inherits ih =>
      obtain ⟨middle, present, before⟩ := ih
      obtain ⟨last, presentToo, leads⟩ := inherits.leads distinct present
      exact ⟨last, presentToo, before.tail leads⟩

theorem onCycle_iff_isCyclic
    {position : Nat} {guide : Guide}
    (authored : guides[position]? = some guide) :
    OnCycle guides position ↔ IsCyclic guides guide := by
  constructor
  · intro cycle
    obtain ⟨base, present, walk⟩ := inherits_of_leads_trans cycle authored
    obtain rfl := Option.some.inj (authored.symm.trans present)
    exact walk
  · intro cycle
    obtain ⟨last, present, walk⟩ :=
      leads_of_inherits_trans distinct cycle authored
    obtain rfl := position_eq_of_getElem? distinct authored present
    exact walk

/-- The value of a position is the value of the guide there. -/
theorem Completes.effective
    {position : Nat} {guide value : Guide}
    (completed : Completes guides position value)
    (authored : guides[position]? = some guide) :
    Effective guides guide value := by
  induction completed generalizing guide with
  | rootless present alone =>
      obtain rfl := Option.some.inj (authored.symm.trans present)
      refine .unbased fun base inherits => ?_
      obtain ⟨basePosition, -, leads⟩ := inherits.leads distinct authored
      rw [Leads, alone] at leads
      contradiction
  | cyclic present cycle =>
      obtain rfl := Option.some.inj (authored.symm.trans present)
      exact .cyclic ((onCycle_iff_isCyclic distinct authored).mp cycle)
  | merged present leads acyclic _ ih =>
      obtain rfl := Option.some.inj (authored.symm.trans present)
      obtain ⟨base, presentBase, inherits⟩ := leads.inherits authored
      exact .merged inherits
        (mt (onCycle_iff_isCyclic distinct authored).mpr acyclic)
        (ih presentBase)

/-! ## Runs -/

theorem CompletesAll.exists_effective
    {finals : List Guide} (completed : CompletesAll guides finals)
    {guide : Guide} (member : guide ∈ guides) :
    ∃ value, Effective guides guide value := by
  obtain ⟨position, authored⟩ := List.mem_iff_getElem?.mp member
  have inside : position < finals.length :=
    completed.length ▸ (List.getElem?_eq_some_iff.mp authored).1
  have value := completed.completes (List.getElem?_eq_getElem inside)
  exact ⟨_, value.effective distinct authored⟩

theorem CompletesAll.eq_map
    {finals : List Guide} (completed : CompletesAll guides finals)
    {final : Guide → Guide}
    (effective : ∀ guide ∈ guides,
      Effective guides guide (final guide)) :
    finals = guides.map final := by
  apply List.ext_getElem
  · rw [completed.length, List.length_map]
  · intro position inside insideToo
    have bound : position < guides.length := completed.length ▸ inside
    have value :=
      (completed.completes (List.getElem?_eq_getElem inside)).effective
        distinct (List.getElem?_eq_getElem bound)
    rw [List.getElem_map]
    exact value.unique distinct
      (effective _ (List.getElem_mem bound))

theorem settles_of_effective
    {final : Guide → Guide}
    (effective : ∀ guide ∈ guides,
      Effective guides guide (final guide)) :
    Settles guides final where
  unbased guide member alone :=
    (effective guide member).unique distinct (.unbased alone)
  cyclic guide member cycle :=
    (effective guide member).unique distinct (.cyclic cycle)
  merged guide member base inherits acyclic :=
    (effective guide member).unique distinct
      (.merged inherits acyclic (effective base inherits.1))

end DistinctSlugs

theorem inherits_eq_of_perm
    {order : List Guide} (permuted : order.Perm guides) :
    Inherits order = Inherits guides := by
  funext guide base
  rw [Inherits, Inherits, permuted.mem_iff]

theorem Effective.of_perm
    {order : List Guide} (permuted : order.Perm guides)
    {guide value : Guide}
    (effective : Effective guides guide value) :
    Effective order guide value := by
  have same := inherits_eq_of_perm permuted
  induction effective with
  | unbased alone => exact .unbased (same ▸ alone)
  | cyclic cycle =>
      refine .cyclic ?_
      rwa [IsCyclic, same]
  | merged inherits acyclic _ ih =>
      refine .merged (same ▸ inherits) ?_ ih
      rwa [IsCyclic, same]

/--
A batch with distinct slugs has exactly one value for each of its guides, and in whatever order
the batch stands, it is run to these values.
-/
theorem run_settles_in_every_order
    (guides : List Guide)
    (distinct : (guides.map Guide.slug).Nodup) :
    ∃ final : Guide → Guide,
      Settles guides final ∧
      (∀ other, Settles guides other →
        ∀ guide ∈ guides, other guide = final guide) ∧
      ∀ order : List Guide, order.Perm guides →
        (run false order).1 = .ok (order.map final) := by
  obtain ⟨finals, -, completed⟩ := run_lenient guides
  have derivable : ∀ guide : Guide, ∃ value,
      guide ∈ guides → Effective guides guide value := by
    intro guide
    by_cases member : guide ∈ guides
    · obtain ⟨value, effective⟩ :=
        completed.exists_effective distinct member
      exact ⟨value, fun _ => effective⟩
    · exact ⟨guide, fun present => (member present).elim⟩
  choose final effective using derivable
  refine ⟨final, settles_of_effective distinct effective, ?_, ?_⟩
  · intro other settles guide member
    exact settles.eq_of_effective member (effective guide member)
  · intro order permuted
    obtain ⟨ordered, result, completedOrder⟩ := run_lenient order
    have distinctOrder : (order.map Guide.slug).Nodup :=
      (permuted.map Guide.slug).nodup_iff.mpr distinct
    have effectiveOrder : ∀ guide ∈ order,
        Effective order guide (final guide) :=
      fun guide member =>
        (effective guide (permuted.mem_iff.mp member)).of_perm permuted
    rw [result, completedOrder.eq_map distinctOrder effectiveOrder]

/-- Two guides that are each other's base, one that is its own, a chain that runs into the first
cycle, and a guide whose base is missing. -/
def tangledBatch : List Guide :=
  [{ slug := "grandchild", base := some "follower", tags := ["c"] },
    { slug := "follower", base := some "left", tags := ["f"] },
    { slug := "left", base := some "right", tags := ["l"] },
    { slug := "right", base := some "left", title := "Right" },
    { slug := "own", base := some "own" },
    { slug := "orphan", base := some "missing" }]

theorem run_settles_tangledBatch :
    (tangledBatch.map Guide.slug).Nodup ∧
    ∃ final : Guide → Guide,
      Settles tangledBatch final ∧
      (∀ other, Settles tangledBatch other →
        ∀ guide ∈ tangledBatch, other guide = final guide) ∧
      ∀ order : List Guide, order.Perm tangledBatch →
        (run false order).1 = .ok (order.map final) :=
  ⟨by decide, run_settles_in_every_order tangledBatch (by decide)⟩

end Guidebook.Inheritance
