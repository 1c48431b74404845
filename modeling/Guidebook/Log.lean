/-!
# Log

What an operation reports besides its result: information on its progress, and warnings.
-/

namespace Guidebook

/-- How much an event matters. -/
inductive Severity where
  | info
  | warning
deriving DecidableEq

/-- An event in the log. -/
structure Event where
  severity : Severity
  message : String
deriving DecidableEq

/-- Events in the order in which they happened. -/
abbrev Log := List Event

/-- An event that tells of progress. -/
def Event.info (message : String) : Event :=
  ⟨.info, message⟩

/-- An event that tells of something amiss. -/
def Event.warning (message : String) : Event :=
  ⟨.warning, message⟩

/-- The event with its severity in front. -/
def Event.text (event : Event) : String :=
  match event.severity with
  | .info => "INFO " ++ event.message
  | .warning => "WARN " ++ event.message

end Guidebook
