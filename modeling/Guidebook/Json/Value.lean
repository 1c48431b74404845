import Guidebook.Dictionary

/-!
# JSON values

The values of a JSON document.  A number is an integer where it is written without fraction and
exponent and fits sixty-four bits; any other number is kept as it is written.  The members of an
object that has been read stand in ascending order of their keys, each key once.
-/

namespace Guidebook.Json

/-- A JSON value. -/
inductive Value where
  | null
  | boolean (value : Bool)
  | integer (value : Int)
  | real (written : String)
  | string (text : String)
  | array (items : List Value)
  | object (members : List (String × Value))
deriving Inhabited

namespace Value

/-- The member of an object under a key. -/
def member? (key : String) : Value → Option Value
  | .object members => members.lookup key
  | _ => none

/-- The text of a string. -/
def string? : Value → Option String
  | .string text => some text
  | _ => none

/-- The truth value of a boolean. -/
def boolean? : Value → Option Bool
  | .boolean value => some value
  | _ => none

/-- The number that an integer of at most thirty-two bits denotes. -/
def word32? : Value → Option UInt32
  | .integer value => if 0 ≤ value ∧ value < UInt32.size then some value.toNat.toUInt32 else none
  | _ => none

/-- The items of an array, each read by the same reader. -/
def list? {α : Type} (item : Value → Option α) : Value → Option (List α)
  | .array items => items.mapM item
  | _ => none

/-- Nothing for `null`, else what the reader makes of the value. -/
def optional? {α : Type} (some? : Value → Option α) : Value → Option (Option α)
  | .null => some none
  | value => (some? value).map some

/-- The members of an object, each read by the same reader. -/
def dictionary? {α : Type} (item : Value → Option α) : Value → Option (Dictionary α)
  | .object members => do
    let entries ← members.mapM fun entry => (item entry.2).map fun value => (entry.1, value)
    return Dictionary.ofList entries
  | _ => none

/-- An array of strings. -/
def strings (texts : List String) : Value :=
  .array (texts.map .string)

/-- `null` for nothing. -/
def ofOption {α : Type} (value : α → Value) : Option α → Value
  | none => .null
  | some content => value content

/-- A natural number. -/
def natural (value : Nat) : Value :=
  .integer (Int.ofNat value)

end Value

end Guidebook.Json
