import Guidebook.Proofs.Guide.Merging
import Guidebook.Proofs.Inheritance.Refusal

/-!
# Running a batch twice

A completed batch has the slugs and bases of the authored one, position by position, and so the same
chains and cycles.  By induction along a chain each of its guides is complete already: what it would
take over from the value of its base, it has taken over.  A second run thus changes nothing.
-/

namespace Guidebook.Inheritance

variable {guides finals : List Guide} {strict : Bool}

/-! ## The same graph -/

theorem Completes.exists_authored
    {position : Nat} {value : Guide}
    (completed : Completes guides position value) :
    ∃ guide,
      guides[position]? = some guide ∧ value.slug = guide.slug ∧
        value.base = guide.base ∧ value.folder = guide.folder := by
  cases completed with
  | rootless authored alone => exact ⟨_, authored, rfl, rfl, rfl⟩
  | cyclic authored cycle => exact ⟨_, authored, rfl, rfl, rfl⟩
  | merged authored leads acyclic completed =>
      exact ⟨_, authored, Guide.merge_slug _ _, Guide.merge_base _ _,
        Guide.merge_folder _ _⟩

theorem CompletesAll.map_eq
    {α : Type} {field : Guide → α}
    (completed : CompletesAll guides finals)
    (kept : ∀ {position guide value},
      guides[position]? = some guide → Completes guides position value →
        field value = field guide) :
    finals.map field = guides.map field := by
  apply List.ext_getElem
  · rw [List.length_map, List.length_map, completed.length]
  · intro position inside insideToo
    rw [List.length_map] at inside insideToo
    rw [List.getElem_map, List.getElem_map]
    exact kept (List.getElem?_eq_getElem insideToo)
      (completed.completes (List.getElem?_eq_getElem inside))

theorem CompletesAll.map_slug (completed : CompletesAll guides finals) :
    finals.map Guide.slug = guides.map Guide.slug := by
  refine completed.map_eq fun authored value => ?_
  obtain ⟨guide, present, same, -, -⟩ := value.exists_authored
  obtain rfl := Option.some.inj (authored.symm.trans present)
  exact same

theorem CompletesAll.map_base (completed : CompletesAll guides finals) :
    finals.map Guide.base = guides.map Guide.base := by
  refine completed.map_eq fun authored value => ?_
  obtain ⟨guide, present, -, same, -⟩ := value.exists_authored
  obtain rfl := Option.some.inj (authored.symm.trans present)
  exact same

/-- The position of a slug depends on the slugs of a batch only. -/
theorem position?_eq_of_map_slug
    (same : finals.map Guide.slug = guides.map Guide.slug) :
    position? finals = position? guides := by
  have bySlugs : ∀ (batch : List Guide) (slug : String),
      position? batch slug =
        ((batch.map Guide.slug).zipIdx.reverse.find? fun entry =>
          entry.1 == slug).map Prod.snd := by
    intro batch slug
    rw [position?, List.findRev?_eq_find?_reverse, List.zipIdx_map,
      ← List.map_reverse, List.find?_map, Option.map_map]
    rfl
  funext slug
  rw [bySlugs, bySlugs, same]

theorem basePosition?_eq_of_completesAll
    (completed : CompletesAll guides finals) :
    basePosition? finals = basePosition? guides := by
  have bases : ∀ (batch : List Guide) (position : Nat),
      batch[position]?.bind Guide.base =
        (batch.map Guide.base)[position]?.join := by
    intro batch position
    rw [List.getElem?_map]
    cases batch[position]? <;> rfl
  funext position
  rw [basePosition?, basePosition?, bases, bases, completed.map_base,
    position?_eq_of_map_slug completed.map_slug]

theorem leads_eq_of_completesAll
    (completed : CompletesAll guides finals) :
    Leads finals = Leads guides := by
  funext position base
  rw [Leads, Leads, basePosition?_eq_of_completesAll completed]

/-! ## The same values -/

theorem CompletesAll.getElem?_eq
    (completed : CompletesAll guides finals)
    {position : Nat} {value : Guide}
    (here : Completes guides position value) :
    finals[position]? = some value := by
  obtain ⟨guide, authored, -⟩ := here.exists_authored
  have inside : position < finals.length :=
    completed.length ▸ (List.getElem?_eq_some_iff.mp authored).1
  have found := List.getElem?_eq_getElem inside
  rw [found, here.unique (completed.completes found)]

/-- What completes a position of a batch completes it in the completed batch too. -/
theorem Completes.again
    (completed : CompletesAll guides finals)
    {position : Nat} {value : Guide}
    (here : Completes guides position value) :
    Completes finals position value := by
  have sameLeads := leads_eq_of_completesAll completed
  have sameCycles :
      ∀ {position}, OnCycle finals position ↔ OnCycle guides position := by
    intro position
    rw [OnCycle, OnCycle, sameLeads]
  induction here with
  | rootless authored alone =>
      refine .rootless
        (completed.getElem?_eq (.rootless authored alone)) ?_
      rwa [basePosition?_eq_of_completesAll completed]
  | cyclic authored cycle =>
      exact .cyclic (completed.getElem?_eq (.cyclic authored cycle))
        (sameCycles.mpr cycle)
  | @merged position base guide value authored leads acyclic before ih =>
      have found :=
        completed.getElem?_eq (.merged authored leads acyclic before)
      have again :
          Completes finals position (value.merge (value.merge guide)) :=
        .merged found (sameLeads ▸ leads) (mt sameCycles.mp acyclic) ih
      rwa [Guide.merge_again] at again

theorem CompletesAll.again (completed : CompletesAll guides finals) :
    CompletesAll finals finals where
  length := rfl
  completes found := (completed.completes found).again completed

/-- A batch has one completion only. -/
theorem CompletesAll.unique
    {others : List Guide}
    (completed : CompletesAll guides finals)
    (completedToo : CompletesAll guides others) :
    finals = others := by
  apply List.ext_getElem
  · rw [completed.length, completedToo.length]
  · intro position inside insideToo
    exact (completed.completes (List.getElem?_eq_getElem inside)).unique
      (completedToo.completes (List.getElem?_eq_getElem insideToo))

/-- Completing a batch leaves no unknown base that was not there. -/
theorem NamesUnknownBase.of_completesAll
    (completed : CompletesAll guides finals)
    {child : Guide} {slug : String}
    (unknown : NamesUnknownBase finals child slug) :
    ∃ authored, NamesUnknownBase guides authored slug := by
  obtain ⟨member, named, absent⟩ := unknown
  obtain ⟨position, found⟩ := List.mem_iff_getElem?.mp member
  obtain ⟨guide, authored, -, sameBase, -⟩ :=
    (completed.completes found).exists_authored
  refine ⟨guide, List.mem_of_getElem? authored, sameBase ▸ named, ?_⟩
  rw [← position?_eq_none_iff] at absent ⊢
  rwa [← position?_eq_of_map_slug completed.map_slug]

/-- Whatever a run succeeds with, running it once more succeeds and changes no guide. -/
theorem run_again
    (strict : Bool) (guides finals : List Guide)
    (succeeded : (run strict guides).1 = .ok finals) :
    (run strict finals).1 = .ok finals := by
  have completed := completesAll_of_run succeeded
  cases again : (run strict finals).1 with
  | ok others =>
      have completedToo := completesAll_of_run again
      rw [completedToo.unique completed.again]
  | error reason =>
      -- What is refused the second time has been refused the first time.
      obtain ⟨asked, child, slug, unknown, -⟩ := run_eq_error again
      obtain ⟨authored, unknownBefore⟩ := unknown.of_completesAll completed
      obtain ⟨reason, failed⟩ :=
        (run_fails_iff strict guides).mpr
          ⟨asked, authored, slug, unknownBefore⟩
      rw [succeeded] at failed
      contradiction

/-- Three generations, two guides that are each other's base, and one that inherits from them. -/
def familyBatch : List Guide :=
  [{ slug := "grandchild", base := some "child", tags := ["c", "a"] },
    { slug := "child", base := some "parent", title := "Child", tags := ["b"],
      sourceModule := some "lib" },
    { slug := "parent", authors := ["Author"], tags := ["a"],
      sourceModule := some "app" },
    { slug := "left", base := some "right", tags := ["l"] },
    { slug := "right", base := some "left" },
    { slug := "follower", base := some "left" }]

/-- The guides of `familyBatch` with what they inherit. -/
def familyBatchCompleted : List Guide :=
  [{ slug := "grandchild", base := some "child", title := "Child",
      authors := ["Author"], tags := ["a", "b", "c"],
      baseSourceModule := some "lib" },
    { slug := "child", base := some "parent", title := "Child",
      authors := ["Author"], tags := ["a", "b"], sourceModule := some "lib",
      baseSourceModule := some "app" },
    { slug := "parent", authors := ["Author"], tags := ["a"],
      sourceModule := some "app" },
    { slug := "left", base := some "right", tags := ["l"] },
    { slug := "right", base := some "left" },
    { slug := "follower", base := some "left", tags := ["l"] }]

theorem run_again_familyBatch :
    (run true familyBatch).1 = .ok familyBatchCompleted ∧
      (run true familyBatchCompleted).1 = .ok familyBatchCompleted := by
  have succeeded :
      (run true familyBatch).1 = .ok familyBatchCompleted := by
    decide +kernel
  exact ⟨succeeded,
    run_again true familyBatch familyBatchCompleted succeeded⟩

end Guidebook.Inheritance
