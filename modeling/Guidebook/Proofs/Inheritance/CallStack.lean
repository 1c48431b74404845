import Guidebook.Proofs.Inheritance.Evaluation

/-!
# A run, step by step

A run of the resolver over a batch is a sequence of moments.  A moment shows the call that is made,
the calls that wait for it, the positions on the visiting stack and the record, and each step
changes it in one place: a call begins, one guide is recorded, or a call hands its value back.

There is only one step from every moment that is not the last.  The steps from a call lead to the
value and the record that `resolve` gives for it, and so a run ends with what `resolveAll` gives for
the batch.
-/

namespace Guidebook.Inheritance

open Relation

/-- What happens next in a run. -/
inductive Control where
  /-- The loop goes on to its next position. -/
  | between
  /-- The guide at a position is to be resolved. -/
  | called (position : Nat) (guide : Guide)
  /-- The guide at a position closes a cycle, some members of which are still to be recorded. -/
  | closing (position : Nat) (guide : Guide) (members : List Nat)
  /-- The value of a position goes back to the caller. -/
  | returned (position : Nat) (value : Guide)
  /-- The run is over. -/
  | refused (reason : Error)

/-- A call that waits for the value of its base. -/
structure Frame where
  position : Nat
  guide : Guide

/-- A moment of a run: the number of positions that the loop has handled, the calls that wait and
the visiting stack, each with the latest first, and the record. -/
structure Moment where
  handled : Nat
  frames : List Frame
  visiting : List Nat
  record : Progress
  control : Control

/-- A step of a run. -/
inductive Step (strict : Bool) (guides : List Guide) :
    Moment → Moment → Prop where
  | begins {handled visiting record guide}
      (authored : guides[handled]? = some guide) :
      Step strict guides
        ⟨handled, [], visiting, record, .between⟩
        ⟨handled, [], [], record, .called handled guide⟩
  | finished {handled frames visiting record position guide value}
      (entry : record.guide? position = some value) :
      Step strict guides
        ⟨handled, frames, visiting, record, .called position guide⟩
        ⟨handled, frames, visiting, record, .returned position value⟩
  | withoutBase {handled frames visiting record position guide}
      (pending : record.guide? position = none)
      (alone : guide.base = none) :
      Step strict guides
        ⟨handled, frames, visiting, record, .called position guide⟩
        ⟨handled, frames, visiting, record.record position guide,
          .returned position guide⟩
  | refused {handled frames visiting record position guide slug}
      (pending : record.guide? position = none)
      (named : guide.base = some slug)
      (unknown : position? guides slug = none)
      (asked : strict = true) :
      Step strict guides
        ⟨handled, frames, visiting, record, .called position guide⟩
        ⟨handled, frames, visiting, record,
          .refused (.unknownBaseGuide guide.slug slug)⟩
  | passedOver {handled frames visiting record position guide slug}
      (pending : record.guide? position = none)
      (named : guide.base = some slug)
      (unknown : position? guides slug = none)
      (lenient : strict = false) :
      Step strict guides
        ⟨handled, frames, visiting, record, .called position guide⟩
        ⟨handled, frames, visiting,
          (record.warned
              s!"guide {guide.slug} declares unknown base {slug}, leaving it unmerged").record
            position guide,
          .returned position guide⟩
  | closes
      {handled frames visiting record position guide slug basePosition}
      (pending : record.guide? position = none)
      (named : guide.base = some slug)
      (found : position? guides slug = some basePosition)
      (closes : basePosition ∈ visiting ∨ basePosition = position) :
      Step strict guides
        ⟨handled, frames, visiting, record, .called position guide⟩
        ⟨handled, frames, visiting,
          record.warned
            s!"guide {guide.slug} has a cyclic base chain through {slug}, leaving it unmerged",
          .closing position guide
            (position :: cycleMembers visiting basePosition)⟩
  | descends
      {handled frames visiting record position guide slug basePosition
        baseGuide}
      (pending : record.guide? position = none)
      (named : guide.base = some slug)
      (found : position? guides slug = some basePosition)
      (isOpen : ¬(basePosition ∈ visiting ∨ basePosition = position))
      (authored : guides[basePosition]? = some baseGuide) :
      Step strict guides
        ⟨handled, frames, visiting, record, .called position guide⟩
        ⟨handled, ⟨position, guide⟩ :: frames, position :: visiting, record,
          .called basePosition baseGuide⟩
  | records {handled frames visiting record position guide member members} :
      Step strict guides
        ⟨handled, frames, visiting, record,
          .closing position guide (member :: members)⟩
        ⟨handled, frames, visiting,
          Progress.recordAuthored guides record member,
          .closing position guide members⟩
  | closed {handled frames visiting record position guide} :
      Step strict guides
        ⟨handled, frames, visiting, record, .closing position guide []⟩
        ⟨handled, frames, visiting, record, .returned position guide⟩
  | resumes
      {handled frame frames top visiting record basePosition base value}
      (entry : record.guide? frame.position = some value) :
      Step strict guides
        ⟨handled, frame :: frames, top :: visiting, record,
          .returned basePosition base⟩
        ⟨handled, frames, visiting, record, .returned frame.position value⟩
  | merges
      {handled frame frames top visiting record basePosition base}
      (pending : record.guide? frame.position = none) :
      Step strict guides
        ⟨handled, frame :: frames, top :: visiting, record,
          .returned basePosition base⟩
        ⟨handled, frames, visiting,
          record.record frame.position (base.merge frame.guide),
          .returned frame.position (base.merge frame.guide)⟩
  | ends {handled visiting record position value} :
      Step strict guides
        ⟨handled, [], visiting, record, .returned position value⟩
        ⟨handled + 1, [], visiting, record, .between⟩

variable {strict : Bool} {guides : List Guide}

/-- A run leads from one moment to another. -/
def Reaches (strict : Bool) (guides : List Guide) :
    Moment → Moment → Prop :=
  ReflTransGen (Step strict guides)

namespace Moment

/-- The first moment of a run. -/
def start (guides : List Guide) : Moment :=
  ⟨0, [], [], .pending guides, .between⟩

/-- The number of calls that have been made and not come back. -/
def depth (moment : Moment) : Nat :=
  match moment.control with
  | .called _ _ | .closing _ _ _ => moment.frames.length + 1
  | _ => moment.frames.length

/-- The run is over, and its loop has an outcome. -/
def HasEnded (guides : List Guide) (moment : Moment) :
    Except Error Unit × Progress → Prop
  | (.ok (), after) =>
    moment.handled = guides.length ∧ moment.frames = [] ∧
      moment.record = after ∧ moment.control = .between
  | (.error reason, after) =>
    moment.record = after ∧ moment.control = .refused reason

/-- The call for a position that is made at a moment comes back with an outcome. -/
def Settles
    (strict : Bool) (guides : List Guide) (moment : Moment)
    (position : Nat) :
    Except Error Guide × Progress → Prop
  | (.ok value, after) =>
    Reaches strict guides moment
      { moment with record := after, control := .returned position value }
  | (.error reason, after) =>
    ∃ last,
      Reaches strict guides moment last ∧ last.record = after ∧
        last.control = .refused reason

end Moment

/-! ## One run -/

/-- There is at most one step from a moment. -/
theorem Step.unique
    {moment first second : Moment}
    (left : Step strict guides moment first)
    (right : Step strict guides moment second) :
    first = second := by
  -- Two rules for the same control ask for different entries, bases or frames.
  cases left <;> cases right <;> simp_all

theorem Moment.HasEnded.not_step
    {moment next : Moment} {outcome : Except Error Unit × Progress}
    (ended : moment.HasEnded guides outcome) :
    ¬Step strict guides moment next := by
  intro step
  obtain ⟨result, after⟩ := outcome
  cases result <;> cases step <;> simp_all [HasEnded]

/-- All moments of a run lie on the way to its end. -/
theorem Reaches.of_ended
    {first moment last : Moment} {outcome : Except Error Unit × Progress}
    (before : Reaches strict guides first moment)
    (whole : Reaches strict guides first last)
    (ended : last.HasEnded guides outcome) :
    Reaches strict guides moment last := by
  have unique : Relator.RightUnique (Step strict guides) :=
    fun _ _ _ => Step.unique
  rcases before.total_of_right_unique unique whole with onward | beyond
  · exact onward
  · rcases ReflTransGen.cases_head beyond with rfl | ⟨next, step, -⟩
    · exact .refl
    · exact (ended.not_step step).elim

/-! ## What calls come to -/

variable {handled position : Nat} {frames : List Frame}
  {visiting : List Nat} {guide : Guide} {start : Progress}

/-- A step that leaves the waiting calls as they are is on the way to an outcome. -/
theorem Moment.Settles.of_step
    {record : Progress} {control next : Control}
    {outcome : Except Error Guide × Progress}
    (step :
      Step strict guides ⟨handled, frames, visiting, start, control⟩
        ⟨handled, frames, visiting, record, next⟩)
    (settles :
      (⟨handled, frames, visiting, record, next⟩ : Moment).Settles strict
        guides position outcome) :
    (⟨handled, frames, visiting, start, control⟩ : Moment).Settles strict
      guides position outcome := by
  obtain ⟨result, after⟩ := outcome
  cases result with
  | ok value => exact .head step settles
  | error reason =>
      obtain ⟨last, reaches, recorded, refused⟩ := settles
      exact ⟨last, .head step reaches, recorded, refused⟩

/-- Recording a cycle member by member leaves the record as the loop over the members does. -/
theorem settles_closing (members : List Nat) :
    (⟨handled, frames, visiting, start,
        .closing position guide members⟩ : Moment).Settles strict guides
      position
      (.ok guide,
        members.foldl (Progress.recordAuthored guides) start) := by
  induction members generalizing start with
  | nil => exact .single .closed
  | cons member rest ih => exact .of_step .records ih

/-- The steps from a call come to what can be derived for it. -/
theorem Evaluates.settles
    {outcome : Except Error Guide × Progress}
    (evaluates :
      Evaluates strict guides visiting position guide start outcome)
    (handled : Nat) (frames : List Frame) :
    (⟨handled, frames, visiting, start, .called position guide⟩ :
        Moment).Settles strict guides position outcome := by
  induction evaluates generalizing frames with
  | finished entry => exact .single (.finished entry)
  | withoutBase pending alone =>
      exact .single (.withoutBase pending alone)
  | refused pending named unknown asked =>
      exact ⟨_, .single (.refused pending named unknown asked), rfl, rfl⟩
  | passedOver pending named unknown lenient =>
      exact .single (.passedOver pending named unknown lenient)
  | closed pending named found closes =>
      exact .of_step (.closes pending named found closes)
        (settles_closing _)
  | @descends visiting position basePosition guide baseGuide start slug
      outcome pending named found isOpen authored _ ih =>
      have called :
          Step strict guides
            ⟨handled, frames, visiting, start, .called position guide⟩ _ :=
        .descends pending named found isOpen authored
      have base := ih (⟨position, guide⟩ :: frames)
      obtain ⟨result, after⟩ := outcome
      cases result with
      | error reason =>
          obtain ⟨last, reaches, recorded, refused⟩ := base
          exact ⟨last, .head called reaches, recorded, refused⟩
      | ok value =>
          rw [mergedInto]
          cases entry : after.guide? position with
          | some finished =>
              exact .tail (.head called base) (.resumes entry)
          | none => exact .tail (.head called base) (.merges entry)

/-- The first of the entries that the loop has not handled is that of its next position. -/
theorem eq_of_cons_eq_drop_zipIdx
    {entry : Guide × Nat} {others : List (Guide × Nat)}
    (rest : entry :: others = guides.zipIdx.drop handled) :
    guides[handled]? = some entry.1 ∧ entry.2 = handled ∧
      others = guides.zipIdx.drop (handled + 1) := by
  have inside : handled < guides.zipIdx.length := by
    by_contra beyond
    rw [List.drop_eq_nil_of_le (Nat.not_lt.mp beyond)] at rest
    contradiction
  rw [List.drop_eq_getElem_cons inside, List.getElem_zipIdx] at rest
  obtain ⟨rfl, rfl⟩ := List.cons.inj rest
  exact ⟨List.getElem?_eq_getElem _, Nat.zero_add handled, rfl⟩

/-- The steps of the loop come to what can be derived for it. -/
theorem EvaluatesAll.reaches_end
    {entries : List (Guide × Nat)} {outcome : Except Error Unit × Progress}
    (evaluates : EvaluatesAll strict guides entries start outcome)
    (handled : Nat) (inside : handled ≤ guides.length)
    (rest : entries = guides.zipIdx.drop handled) :
    ∃ last,
      Reaches strict guides ⟨handled, [], [], start, .between⟩ last ∧
        last.HasEnded guides outcome := by
  induction evaluates generalizing handled with
  | done =>
      have all : guides.length ≤ handled := by
        simpa using List.drop_eq_nil_iff.mp rest.symm
      exact ⟨_, .refl, Nat.le_antisymm inside all, rfl, rfl, rfl⟩
  | @next entry others start value middle outcome call _ ih =>
      obtain ⟨authored, rfl, later⟩ := eq_of_cons_eq_drop_zipIdx rest
      obtain ⟨last, reaches, ended⟩ :=
        ih (entry.2 + 1) (List.getElem?_eq_some_iff.mp authored).1 later
      have comesBack := call.settles entry.2 []
      exact ⟨last,
        .head (.begins authored) (comesBack.trans (.head .ends reaches)),
        ended⟩
  | @refused entry others start reason after call =>
      obtain ⟨authored, rfl, -⟩ := eq_of_cons_eq_drop_zipIdx rest
      obtain ⟨last, reaches, recorded, refused⟩ := call.settles entry.2 []
      exact ⟨last, .head (.begins authored) reaches, recorded, refused⟩

/-- A run ends with what the resolver gives for the batch. -/
theorem reaches_end (strict : Bool) (guides : List Guide) :
    ∃ last,
      Reaches strict guides (.start guides) last ∧
        last.HasEnded guides
          ((resolveAll strict guides).runFrom (.pending guides)) :=
  ((evaluatesAll_batch_iff _).mpr rfl).reaches_end 0 (Nat.zero_le _) rfl

end Guidebook.Inheritance
