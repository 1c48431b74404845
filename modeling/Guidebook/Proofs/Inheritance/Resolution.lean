import Guidebook.Proofs.Basic
import Guidebook.Proofs.Inheritance.BaseGraph

/-!
# Resolving the bases of a batch

The steps that resolve a guide keep a record of finished guides.  This module opens the resolver
once: for each case of `resolve` there is one equation that says what it returns and how it leaves
the record.  All that is said about runs of the resolver is derived from these equations.
-/

namespace Guidebook.Inheritance

variable {guides : List Guide} {strict : Bool}

/-! ## Records -/

namespace Progress

/-- The guide that is finished at a position. -/
def guide? (progress : Progress) (position : Nat) : Option Guide :=
  progress.finished[position]?.join

/-- The record with one more finished guide. -/
def record
    (progress : Progress) (position : Nat) (guide : Guide) : Progress :=
  { progress with finished := progress.finished.set position (some guide) }

/-- The record with the guide at a position finished as it is written. -/
def recordAuthored
    (guides : List Guide) (progress : Progress) (position : Nat) :
    Progress :=
  match guides[position]? with
  | some authored => progress.record position authored
  | none => progress

/-- The record with one more warning. -/
def warned (progress : Progress) (message : String) : Progress :=
  { progress with warnings := progress.warnings ++ [.warning message] }

@[simp]
theorem guide?_warned
    (progress : Progress) (message : String) (position : Nat) :
    (progress.warned message).guide? position =
      progress.guide? position :=
  rfl

@[simp]
theorem length_warned (progress : Progress) (message : String) :
    (progress.warned message).finished.length =
      progress.finished.length :=
  rfl

@[simp]
theorem length_record
    (progress : Progress) (position : Nat) (guide : Guide) :
    (progress.record position guide).finished.length =
      progress.finished.length := by
  simp [record]

theorem guide?_record_self
    {progress : Progress} {position : Nat}
    (inside : position < progress.finished.length) (guide : Guide) :
    (progress.record position guide).guide? position = some guide := by
  simp [record, guide?, inside]

theorem guide?_record_ne
    {position other : Nat} (different : position ≠ other)
    (progress : Progress) (guide : Guide) :
    (progress.record position guide).guide? other =
      progress.guide? other := by
  simp [record, guide?, different]

theorem length_recordAuthored
    (progress : Progress) (position : Nat) :
    (recordAuthored guides progress position).finished.length =
      progress.finished.length := by
  unfold recordAuthored
  split <;> simp

end Progress

/-! ## The steps of the resolver -/

/-- The outcome of some steps, with the record as they leave it. -/
def Resolution.runFrom
    {α : Type} (steps : Resolution α) (start : Progress) :
    Except Error α × Progress :=
  steps.run.run start

theorem runFrom_bind
    {α β : Type} (steps : Resolution α) (next : α → Resolution β)
    (start : Progress) :
    (steps >>= next).runFrom start =
      match steps.runFrom start with
      | (.ok value, after) => (next value).runFrom after
      | (.error reason, after) => (.error reason, after) := by
  simp only [Resolution.runFrom, run_bind_state]
  rcases steps.run.run start with ⟨outcome, after⟩
  cases outcome <;> rfl

theorem runFrom_finished? (position : Nat) (start : Progress) :
    (finished? position).runFrom start =
      (.ok (start.guide? position), start) :=
  rfl

theorem runFrom_warn (message : String) (start : Progress) :
    (warn message).runFrom start = (.ok (), start.warned message) :=
  rfl

/-- A loop whose passes all go through folds them over the record. -/
theorem runFrom_forIn
    {α : Type} {body : α → PUnit → Resolution (ForInStep PUnit)}
    (pass : Progress → α → Progress)
    (passes : ∀ member start,
      (body member .unit).runFrom start =
        (.ok (.yield .unit), pass start member))
    (members : List α) (start : Progress) :
    Resolution.runFrom (forIn members PUnit.unit body) start =
      (.ok PUnit.unit, members.foldl pass start) :=
  run_forIn_state pass passes members start

variable {depth position basePosition : Nat} {visiting : List Nat}
  {guide baseGuide : Guide} {slug : String} {start : Progress}

theorem resolve_finished
    {value : Guide}
    (finished : start.guide? position = some value) :
    (resolve strict guides depth visiting position guide).runFrom start =
      (.ok value, start) := by
  rw [resolve, runFrom_bind, runFrom_finished?, finished]
  rfl

theorem resolve_withoutBase
    (pending : start.guide? position = none)
    (alone : guide.base = none) :
    (resolve strict guides depth visiting position guide).runFrom start =
      (.ok guide, start.record position guide) := by
  rw [resolve, runFrom_bind, runFrom_finished?, pending, alone]
  rfl

theorem resolve_unknownBase
    (pending : start.guide? position = none)
    (named : guide.base = some slug)
    (unknown : position? guides slug = none) :
    (resolve strict guides depth visiting position guide).runFrom start =
      if strict then (.error (.unknownBaseGuide guide.slug slug), start)
      else
        (.ok guide,
          (start.warned
              s!"guide {guide.slug} declares unknown base {slug}, leaving it unmerged").record
            position guide) := by
  rw [resolve, runFrom_bind, runFrom_finished?, pending, named]
  dsimp only
  rw [unknown]
  cases strict <;> rfl

/-- Where the trail closes, every guide on the cycle is finished as it is written. -/
theorem resolve_closed
    (pending : start.guide? position = none)
    (named : guide.base = some slug)
    (found : position? guides slug = some basePosition)
    (closes : basePosition ∈ visiting ∨ basePosition = position) :
    (resolve strict guides depth visiting position guide).runFrom start =
      (.ok guide,
        (position :: cycleMembers visiting basePosition).foldl
          (Progress.recordAuthored guides) (start.warned
          s!"guide {guide.slug} has a cyclic base chain through {slug}, leaving it unmerged")) := by
  rw [resolve, runFrom_bind, runFrom_finished?, pending, named]
  dsimp only
  rw [found]
  simp only [Bool.or_eq_true, List.contains_iff_mem, beq_iff_eq, closes,
    ↓reduceIte]
  rw [runFrom_bind, runFrom_warn]
  dsimp only
  rw [runFrom_bind,
    runFrom_forIn (Progress.recordAuthored guides)]
  · rfl
  · intro member before
    unfold Progress.recordAuthored
    cases guides[member]? <;> rfl

/-- What becomes of a guide once its base is resolved: it is merged into the base, unless a cycle
has finished it in the meantime. -/
def mergedInto
    (position : Nat) (guide : Guide) :
    Except Error Guide × Progress → Except Error Guide × Progress
  | (.error reason, after) => (.error reason, after)
  | (.ok base, after) =>
    match after.guide? position with
    | some value => (.ok value, after)
    | none =>
      (.ok (base.merge guide),
        after.record position (base.merge guide))

/-- Where the trail does not close, the base is resolved first. -/
theorem resolve_open
    (pending : start.guide? position = none)
    (named : guide.base = some slug)
    (found : position? guides slug = some basePosition)
    (isOpen : ¬(basePosition ∈ visiting ∨ basePosition = position))
    (authored : guides[basePosition]? = some baseGuide) :
    (resolve strict guides (depth + 1) visiting position guide).runFrom
        start =
      mergedInto position guide
        ((resolve strict guides depth (position :: visiting) basePosition
          baseGuide).runFrom start) := by
  rw [resolve, runFrom_bind, runFrom_finished?, pending, named]
  dsimp only
  rw [found]
  simp only [Bool.or_eq_true, List.contains_iff_mem, beq_iff_eq, isOpen,
    ↓reduceIte, authored]
  rw [runFrom_bind]
  rcases
    (resolve strict guides depth (position :: visiting) basePosition
      baseGuide).runFrom start with ⟨outcome, after⟩
  cases outcome with
  | error reason => rfl
  | ok base =>
      dsimp only
      rw [runFrom_bind, runFrom_finished?, mergedInto]
      cases after.guide? position <;> rfl

/-! ## The loop over a batch -/

/-- The calls for a list of positions are made one after another, up to the first that fails. -/
theorem forM_resolve_cons
    (entry : Guide × Nat) (rest : List (Guide × Nat)) (start : Progress) :
    Resolution.runFrom
        ((entry :: rest).forM fun entry => do
          let _ ← resolve strict guides guides.length [] entry.2 entry.1)
        start =
      match
        (resolve strict guides guides.length [] entry.2 entry.1).runFrom
          start with
      | (.ok _, middle) =>
        Resolution.runFrom
          (rest.forM fun entry => do
            let _ ← resolve strict guides guides.length [] entry.2 entry.1)
          middle
      | (.error reason, after) => (.error reason, after) := by
  rw [List.forM, runFrom_bind, runFrom_bind]
  rcases
    (resolve strict guides guides.length [] entry.2 entry.1).runFrom
      start with ⟨outcome, after⟩
  cases outcome <;> rfl

end Guidebook.Inheritance
