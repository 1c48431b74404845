import Guidebook.Document

/-!
# Checking guides

Every variant of every guide is expanded without writing anything, to find out which guides fail.
Excerpts are left as they are written, since there is no example code.
-/

namespace Guidebook

open Guidebook.Markup

/-- A guide that could not be rendered. -/
structure Failure where
  slug : String
  error : Error

/-- The outcome of a check. -/
structure CheckReport where
  /-- The guides that could be expanded, each with the number of its variants. -/
  passed : List (String × Nat)
  failures : List Failure

namespace CheckReport

/-- Whether no guide failed. -/
def isOk (report : CheckReport) : Bool :=
  report.failures.isEmpty

/-- The report with the outcome of one more guide in front. -/
def add (report : CheckReport) (slug : String) : Except Error Nat → CheckReport
  | .ok count => { report with passed := (slug, count) :: report.passed }
  | .error reason => { report with failures := ⟨slug, reason⟩ :: report.failures }

end CheckReport

namespace Check

/-- Expands every variant of a guide, up to the first that fails, and counts them. -/
def expandAll (pipeline : Pipeline) (guide : Guide) : Action Nat := do
  let variants ← Document.variants guide
  variants.forM fun variant => discard (Document.expand pipeline guide variant none)
  return variants.length

/-- Checks the guides that take part in a run, whatever JDK they ask for. -/
def guides (config : Config) (jdk : UInt32) : List Guide → Action CheckReport
  | [] => return ⟨[], []⟩
  | guide :: rest => do
    if guide.isProcessed false config jdk then
      let outcome ← Action.attempt (expandAll (Pipeline.standard config jdk) guide)
      let report ← guides config jdk rest
      return report.add guide.slug outcome
    else guides config jdk rest

end Check

end Guidebook
