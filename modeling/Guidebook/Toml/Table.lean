import Guidebook.Json.Value

/-!
# Tables of TOML

The tables of a document while it is read.  A table may be started by a header once, and only
unless keys with dots have made it; a value is final.
-/

namespace Guidebook.Toml

open Guidebook.Json

/-- How a table has come about. -/
inductive Origin where
  /-- As the surroundings of a table with a header. -/
  | implied
  | header
  /-- From the front parts of a key with dots. -/
  | dotted
deriving DecidableEq

/-- What stands under a key. -/
inductive Node where
  | value (content : Value)
  | table (origin : Origin) (members : List (String × Node))
  /-- Tables with one header; the last one comes first. -/
  | tables (items : List (List (String × Node)))

/-- The members of a table. -/
abbrev Members := List (String × Node)

namespace Members

/-- Sets what stands under a key. -/
def put (key : String) (node : Node) : Members → Members
  | [] => [(key, node)]
  | entry :: rest => if entry.1 = key then (key, node) :: rest else entry :: put key node rest

/-- Adds a value under a key with dots; `isDotted` tells whether such keys make the table. -/
def define? (value : Value) (isDotted : Bool) (isInner : Bool) (members : Members) :
    List String → Option Members
  | [] => none
  | [key] =>
    if isInner != isDotted || (members.lookup key).isSome then none
    else some (put key (.value value) members)
  | key :: rest =>
    match members.lookup key with
    | none =>
      (define? value true true [] rest).map fun made => put key (.table .dotted made) members
    | some (.table origin inner) =>
      if origin = .header then none
      else
        (define? value (origin == .dotted) true inner rest).map fun made =>
          put key (.table origin made) members
    | some _ => none

/-- Starts a table or, if `isRepeated`, one more table of a list, under the parts of a header. -/
def open? (isRepeated : Bool) (members : Members) : List String → Option Members
  | [] => none
  | [key] =>
    match members.lookup key, isRepeated with
    | none, false => some (put key (.table .header []) members)
    | none, true => some (put key (.tables [[]]) members)
    | some (.table .implied inner), false => some (put key (.table .header inner) members)
    | some (.tables items), true => some (put key (.tables ([] :: items)) members)
    | _, _ => none
  | key :: rest =>
    match members.lookup key with
    | none => (open? isRepeated [] rest).map fun made => put key (.table .implied made) members
    | some (.table origin inner) =>
      (open? isRepeated inner rest).map fun made => put key (.table origin made) members
    | some (.tables (last :: before)) =>
      (open? isRepeated last rest).map fun made => put key (.tables (made :: before)) members
    | some _ => none

/-- Changes the table to which the parts of a header lead. -/
def within? (change : Members → Option Members) (members : Members) :
    List String → Option Members
  | [] => change members
  | key :: rest =>
    match members.lookup key with
    | some (.table origin inner) =>
      (within? change inner rest).map fun made => put key (.table origin made) members
    | some (.tables (last :: before)) =>
      (within? change last rest).map fun made => put key (.tables (made :: before)) members
    | _ => none

end Members

mutual

/-- The value of what stands under a key. -/
def Node.toValue : Node → Value
  | .value content => content
  | .table _ members => .object (membersToValues members)
  | .tables items => .array (itemsToValues items).reverse

/-- The values of the members of a table, in ascending order of their keys. -/
def membersToValues : List (String × Node) → List (String × Value)
  | [] => []
  | (key, node) :: rest => Dictionary.insertEntry key node.toValue (membersToValues rest)

/-- The values of several tables. -/
def itemsToValues : List (List (String × Node)) → List Value
  | [] => []
  | members :: rest => .object (membersToValues members) :: itemsToValues rest

end

end Guidebook.Toml
