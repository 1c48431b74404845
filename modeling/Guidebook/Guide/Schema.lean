import Guidebook.Date
import Guidebook.Json.Value
import Guidebook.Text.Blank

/-!
# Schema of guide metadata

Before a guide is published its metadata must satisfy a schema: required keys are present and not
empty, no key is unknown, and the publication date is a date.  A guide that names a base inherits
what it lacks, so no key is required of it.
-/

namespace Guidebook

open Guidebook.Json
open Guidebook.Text

/-- The settings of the schema. -/
structure Schema where
  required : List String := ["title", "intro", "authors", "categories", "publicationDate"]
  allowUnknownKeys : Bool := false
deriving DecidableEq

namespace Schema

/-- The keys that metadata may have. -/
def knownKeys : List String :=
  ["title", "intro", "authors", "categories", "publicationDate", "cloud", "tags", "languages",
    "buildTools", "testFramework", "skipGradleTests", "skipMavenTests", "minimumJavaVersion",
    "maximumJavaVersion", "asciidoctor", "publish", "slug", "zipIncludes", "base", "env", "apps",
    "sourceModule", "baseSourceModule", "$schema"]

/-- What is wrong with the value of a required key, if anything is. -/
def requiredViolation? (members : List (String × Value)) (key : String) : Option String :=
  match members.lookup key with
  | none => some s!"missing required key `{key}`"
  | some .null => some s!"missing required key `{key}`"
  | some (.string text) =>
    if isBlankText text.toList then some s!"required key `{key}` is empty" else none
  | some (.array []) => some s!"required key `{key}` is empty"
  | some _ => none

/-- The violations of required keys, in the order in which the schema lists them. -/
def requiredViolations (schema : Schema) (members : List (String × Value)) : List String :=
  if (members.lookup "base").isSome then []
  else schema.required.filterMap (requiredViolation? members)

/-- The unknown keys, in ascending order as they stand in the object. -/
def unknownKeyViolations (schema : Schema) (members : List (String × Value)) : List String :=
  if schema.allowUnknownKeys then []
  else
    (members.filter fun entry => !knownKeys.contains entry.1).map fun entry =>
      s!"unknown key `{entry.1}`"

/-- The violation of a publication date that is no date. -/
def dateViolations (members : List (String × Value)) : List String :=
  match members.lookup "publicationDate" with
  | some (.string text) =>
    if (Date.parseStrict? text).isNone then
      [s!"`publicationDate` is not a YYYY-MM-DD date: `{text}`"]
    else []
  | _ => []

/-- Everything in which metadata violates the schema. -/
def violations (schema : Schema) : Value → List String
  | .object members =>
    schema.requiredViolations members ++ schema.unknownKeyViolations members ++
      dateViolations members
  | _ => ["metadata must be a JSON object"]

end Schema

end Guidebook
