import Guidebook.Proofs.Basic
import Guidebook.Workspace

/-!
# Running operations on a project

What single operations give, and what they leave of the workspace.
-/

namespace Guidebook

variable {α : Type}

namespace Action

/-- A change that goes through is one that the disk allows. -/
theorem run_changing_eq_ok
    {change : Disk → Except DiskError Disk} {before after : Workspace}
    (changed : (Action.changing change).run.run before = (.ok (), after)) :
    change before.disk = .ok after.disk := by
  obtain ⟨disk, middle, same, changed⟩ := run_bind_eq_ok.mp changed
  cases same
  cases allowed : change before.disk with
  | error reason =>
      rw [allowed] at changed
      cases changed
  | ok disk =>
      rw [allowed] at changed
      cases changed
      rfl

theorem run_disk (before : Workspace) :
    Action.disk.run.run before = (.ok before.disk, before) :=
  rfl

/-- A change that the disk allows goes through. -/
theorem run_changing
    {change : Disk → Except DiskError Disk} {before : Workspace} {after : Disk}
    (allowed : change before.disk = .ok after) :
    (Action.changing change).run.run before =
      (.ok (), { before with disk := after }) := by
  unfold changing
  rw [run_bind_state, run_disk]
  simp only [allowed]
  rfl

theorem run_throw (reason : Error) (before : Workspace) :
    (throw reason : Action α).run.run before = (.error reason, before) :=
  rfl

theorem run_report (events : Log) (before : Workspace) :
    (Action.report events).run.run before =
      (.ok (), { before with log := before.log ++ events }) :=
  rfl

theorem run_warn (message : String) (before : Workspace) :
    (Action.warn message).run.run before =
      (.ok (), { before with log := before.log ++ [.warning message] }) :=
  rfl

theorem run_ofExcept_ok (value : α) (before : Workspace) :
    (Action.ofExcept (.ok value)).run.run before = (.ok value, before) :=
  rfl

end Action

end Guidebook
