import Guidebook.Json.Value

/-!
# Records in documents

A record is written as an object with a member per field, or as an array with the values of its
fields in order.  Fields that are not written keep their defaults, and members that are no field
are passed over.  A variant of an enumeration is written as its name, or as an object whose only
member has that name and a payload that says nothing.
-/

namespace Guidebook.Json

/-- What document formats disagree on. -/
structure Format where
  /-- The payloads that say nothing. -/
  isEmptyPayload : Value → Bool
  /-- Whether an array may hold more values than its record has fields. -/
  allowsSurplus : Bool

/-- The format of guide metadata. -/
def Format.metadata : Format where
  isEmptyPayload
    | .null => true
    | _ => false
  allowsSurplus := false

/-- The format of configuration files. -/
def Format.configuration : Format where
  isEmptyPayload
    | .array [] => true
    | .object [] => true
    | _ => false
  allowsSurplus := true

/-- The fields of a record as they are written, each under its name. -/
structure Fields where
  entries : List (String × Value)

/-- The written fields of a record with the given field names. -/
def Format.fields? (format : Format) (names : List String) : Value → Option Fields
  | .object members => some ⟨members⟩
  | .array items =>
    if format.allowsSurplus || items.length ≤ names.length then some ⟨names.zip items⟩ else none
  | _ => none

/-- A field, which is the default where it is not written. -/
def Fields.read? {α : Type} (fields : Fields) (name : String) (reader : Value → Option α)
    (default : α) : Option α :=
  match fields.entries.lookup name with
  | none => some default
  | some value => reader value

/-- A variant of an enumeration whose variants have the given names. -/
def Format.variant? {α : Type} (format : Format) (names : List (String × α)) : Value → Option α
  | .string name => names.lookup name
  | .object [(name, payload)] =>
    if format.isEmptyPayload payload then names.lookup name else none
  | _ => none

end Guidebook.Json
