import Guidebook.Proofs.Workspace
import Mathlib.Tactic.Common

/-!
# Recorded operations

A recorded operation does what an operation on a project does, and keeps a list of notes beside the
workspace that the operation itself does not see.  A note keeps the disk as it is when it is taken,
since what comes later may change what stands there.  A recording is composed as the operation is,
so what it adds to the list is known as soon as it is known for the parts.
-/

namespace Guidebook

variable {α β : Type}

/-! ## Recordings -/

/-- A name with the disk on which it was noted. -/
structure Note where
  name : String
  disk : Disk

/-- An operation on a project that adds notes to a record. -/
abbrev Recording := ExceptT Error (StateM (Workspace × List Note))

namespace Recording

/-- An operation that adds nothing. -/
def perform (action : Action α) : Recording α :=
  ExceptT.mk fun state =>
    let (outcome, after) := action.run.run state.1
    (outcome, (after, state.2))

/-- Notes a name. -/
def note (name : String) : Recording Unit :=
  modify fun state => (state.1, state.2 ++ [⟨name, state.1.disk⟩])

/-- The result of a recorded operation, as a value. -/
def attempt (recording : Recording α) : Recording (Except Error α) :=
  ExceptT.mk do return .ok (← recording.run)

theorem run_perform
    (action : Action α) (before : Workspace) (notes : List Note) :
    (perform action).run.run (before, notes) =
      ((action.run.run before).1, (action.run.run before).2, notes) :=
  rfl

end Recording

/--
A recording does from every workspace what an operation does, and what it adds to the record fits
the result.
-/
def Records
    (recording : Recording α) (action : Action α)
    (fits : Except Error α → List Note → Prop) : Prop :=
  ∀ before notes, ∃ outcome after added,
    action.run.run before = (outcome, after) ∧
      recording.run.run (before, notes) = (outcome, (after, notes ++ added)) ∧
      fits outcome added

namespace Records

variable {recording : Recording α} {action : Action α}
  {next : α → Recording β} {nextAction : α → Action β}
  {fits fits' : Except Error α → List Note → Prop}
  {fitsAll : Except Error β → List Note → Prop}

/-- The operation does what its recording does. -/
theorem run_eq
    (records : Records recording action fits)
    {before after : Workspace} {notes later : List Note}
    {outcome : Except Error α}
    (recorded :
      recording.run.run (before, notes) = (outcome, (after, later))) :
    action.run.run before = (outcome, after) := by
  obtain ⟨outcome', after', added, ran, recorded', _⟩ := records before notes
  rw [recorded] at recorded'
  cases recorded'
  exact ran

theorem mono
    (records : Records recording action fits)
    (weaker : ∀ outcome added, fits outcome added → fits' outcome added) :
    Records recording action fits' := by
  intro before notes
  obtain ⟨outcome, after, added, ran, recorded, fitting⟩ := records before notes
  exact ⟨outcome, after, added, ran, recorded, weaker outcome added fitting⟩

theorem pure (value : α) :
    Records (Pure.pure value) (Pure.pure value) fun outcome added =>
      outcome = .ok value ∧ added = [] := by
  intro before notes
  refine ⟨.ok value, before, [], rfl, ?_, rfl, rfl⟩
  rw [List.append_nil]
  rfl

theorem perform (action : Action α) :
    Records (Recording.perform action) action fun _ added => added = [] := by
  intro before notes
  refine ⟨_, _, [], rfl, ?_, rfl⟩
  rw [List.append_nil]
  rfl

/-- One recording after the other: the record of the second stands behind that of the first. -/
theorem bind
    (first : Records recording action fits)
    (stops :
      ∀ reason added,
        fits (.error reason) added → fitsAll (.error reason) added)
    (continues :
      ∀ value added, fits (.ok value) added →
        Records (next value) (nextAction value) fun outcome later =>
          fitsAll outcome (added ++ later)) :
    Records (recording >>= next) (action >>= nextAction) fitsAll := by
  intro before notes
  obtain ⟨outcome, middle, added, ran, recorded, fitting⟩ := first before notes
  rw [run_bind_state, run_bind_state, ran, recorded]
  cases outcome with
  | error reason =>
      exact ⟨.error reason, middle, added, rfl, rfl, stops reason added fitting⟩
  | ok value =>
      obtain ⟨result, after, later, ran_later, recorded_later, fitting_later⟩ :=
        continues value added fitting middle (notes ++ added)
      rw [List.append_assoc] at recorded_later
      exact ⟨result, after, added ++ later, ran_later, recorded_later,
        fitting_later⟩

/-- A result that is changed afterwards leaves the record as it is. -/
theorem map
    (records : Records recording action fits)
    {change : α → β}
    (stops :
      ∀ reason added,
        fits (.error reason) added → fitsAll (.error reason) added)
    (changes :
      ∀ value added,
        fits (.ok value) added → fitsAll (.ok (change value)) added) :
    Records (recording >>= fun value => Pure.pure (change value))
      (action >>= fun value => Pure.pure (change value)) fitsAll := by
  refine records.bind stops fun value added fitting => ?_
  refine (pure (change value)).mono ?_
  rintro outcome later ⟨rfl, rfl⟩
  rw [List.append_nil]
  exact changes value added fitting

theorem perform_bind
    (stops : ∀ reason, fitsAll (.error reason) [])
    (continues : ∀ value, Records (next value) (nextAction value) fitsAll) :
    Records (Recording.perform action >>= next) (action >>= nextAction)
      fitsAll := by
  refine (perform action).bind ?_ ?_
  · rintro reason added rfl
    exact stops reason
  · rintro value added rfl
    exact continues value

/-- An operation that gives the same from every workspace cannot stop a recording. -/
theorem perform_bind_of_ok
    {value : α}
    (succeeds :
      ∀ before, ∃ after, action.run.run before = (.ok value, after))
    (continues : Records (next value) (nextAction value) fitsAll) :
    Records (Recording.perform action >>= next) (action >>= nextAction)
      fitsAll := by
  have performed :
      Records (Recording.perform action) action fun outcome added =>
        outcome = .ok value ∧ added = [] := by
    intro before notes
    obtain ⟨after, ran⟩ := succeeds before
    obtain ⟨outcome, last, added, ran', recorded, rfl⟩ :=
      perform action before notes
    rw [ran] at ran'
    cases ran'
    exact ⟨.ok value, after, [], ran, recorded, rfl, rfl⟩
  refine performed.bind ?_ ?_
  · rintro reason added ⟨impossible, _⟩
    cases impossible
  · rintro other added ⟨same, rfl⟩
    cases same
    exact continues

/-- A name that is noted behind an operation is noted on the disk that the operation leaves. -/
theorem perform_note_bind
    {name : String} {next : Recording β} {nextAction : Action β}
    (stops : ∀ reason, fitsAll (.error reason) [])
    (continues :
      ∀ before value after, action.run.run before = (.ok value, after) →
        Records next nextAction fun outcome later =>
          fitsAll outcome (⟨name, after.disk⟩ :: later)) :
    Records
      (Recording.perform action >>= fun _ => Recording.note name >>= fun _ => next)
      (action >>= fun _ => nextAction) fitsAll := by
  intro before notes
  rw [run_bind_state, run_bind_state, Recording.run_perform]
  rcases ran : action.run.run before with ⟨outcome, middle⟩
  cases outcome with
  | error reason =>
      refine ⟨.error reason, middle, [], rfl, ?_, stops reason⟩
      rw [List.append_nil]
  | ok value =>
      obtain ⟨outcome, after, later, ran_later, recorded, fitting⟩ :=
        continues before value middle ran middle
          (notes ++ [⟨name, middle.disk⟩])
      refine ⟨outcome, after, ⟨name, middle.disk⟩ :: later, ran_later, ?_,
        fitting⟩
      rw [List.append_assoc, List.singleton_append] at recorded
      exact recorded

/-- An attempt goes on whatever the outcome is. -/
theorem attempt_bind
    {next : Except Error α → Recording β}
    {nextAction : Except Error α → Action β}
    (attempted : Records recording action fits)
    (continues :
      ∀ outcome added, fits outcome added →
        Records (next outcome) (nextAction outcome) fun result later =>
          fitsAll result (added ++ later)) :
    Records (recording.attempt >>= next) (action.attempt >>= nextAction)
      fitsAll := by
  have whole :
      Records recording.attempt action.attempt fun result added =>
        ∃ outcome, result = .ok outcome ∧ fits outcome added := by
    intro before notes
    obtain ⟨outcome, after, added, ran, recorded, fitting⟩ :=
      attempted before notes
    refine ⟨.ok outcome, after, added, ?_, ?_, outcome, rfl, fitting⟩
    · change
        (Except.ok (action.run.run before).1, (action.run.run before).2) = _
      rw [ran]
    · change
        (Except.ok (recording.run.run (before, notes)).1,
          (recording.run.run (before, notes)).2) = _
      rw [recorded]
  refine whole.bind ?_ ?_
  · rintro reason added ⟨outcome, impossible, _⟩
    cases impossible
  · rintro value added ⟨outcome, same, fitting⟩
    rw [Except.ok.inj same]
    exact continues outcome added fitting

end Records

end Guidebook
