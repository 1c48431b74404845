import Guidebook.Toml.Lexeme
import Guidebook.Toml.Table

/-!
# Reading TOML

A document is a sequence of lines: headers, which start tables, and keys with values, which belong
to the table that has been started last.
-/

namespace Guidebook.Toml

open Guidebook.Json
open Guidebook.Text

mutual

/-- The value at the start of a text, and what follows it. -/
def value? (fuel : Nat) (text : List Char) : Option (Value × List Char) :=
  match fuel with
  | 0 => none
  | fuel + 1 =>
    match text with
    | [] => none
    | c :: rest =>
      if c = '"' ∨ c = '\'' then (string? text).map fun read => (.string read.1, read.2)
      else if c = '[' then (items? fuel rest).map fun read => (.array read.1, read.2)
      else if c = '\x7b' then
        (members? fuel [] rest).map fun read => (.object (membersToValues read.1), read.2)
      else (wordValue? (word text)).map fun value => (value, text.drop (word text).length)

/-- The items of an array up to its closing bracket, and what follows it. -/
def items? (fuel : Nat) (text : List Char) : Option (List Value × List Char) :=
  match fuel with
  | 0 => none
  | fuel + 1 =>
    match skipLines? (text.length + 1) text with
    | none => none
    | some (']' :: after) => some ([], after)
    | some start =>
      match value? fuel start with
      | none => none
      | some (item, rest) =>
        match skipLines? (rest.length + 1) rest with
        | some (']' :: after) => some ([item], after)
        | some (',' :: more) => (items? fuel more).map fun read => (item :: read.1, read.2)
        | _ => none

/-- The members of a table between braces up to the closing one, and what follows it. -/
def members? (fuel : Nat) (soFar : Members) (text : List Char) :
    Option (Members × List Char) :=
  match fuel with
  | 0 => none
  | fuel + 1 =>
    match skipLines? (text.length + 1) text with
    | none => none
    | some ('\x7d' :: after) => some (soFar, after)
    | some start =>
      match key? (start.length + 1) start with
      | some (key, '=' :: afterKey) =>
        match value? fuel (skipBlanks afterKey) with
        | none => none
        | some (value, rest) =>
          match soFar.define? value false false key with
          | none => none
          | some members =>
            match skipLines? (rest.length + 1) rest with
            | some ('\x7d' :: after) => some (members, after)
            | some (',' :: more) => members? fuel members more
            | _ => none
      | _ => none

end

/-- A header behind its opening brackets, and what follows its closing ones. -/
def header? (isRepeated : Bool) (text : List Char) : Option (List String × List Char) := do
  let (key, rest) ← key? (text.length + 1) text
  match isRepeated, rest with
  | false, ']' :: after => return (key, after)
  | true, ']' :: ']' :: after => return (key, after)
  | _, _ => none

/-- A key and its value, and what follows them. -/
def definition? (text : List Char) : Option (List String × Value × List Char) := do
  let (key, rest) ← key? (text.length + 1) text
  let afterKey ← after? '=' rest
  let (value, tail) ← value? (2 * afterKey.length + 2) (skipBlanks afterKey)
  return (key, value, tail)

/-- The tables of a document from a line on; `current` leads to the table started last. -/
def lines? (fuel : Nat) (current : List String) (document : Members) (text : List Char) :
    Option Members :=
  match fuel with
  | 0 => none
  | fuel + 1 =>
    match skipLines? (text.length + 1) text with
    | none => none
    | some [] => some document
    | some ('[' :: start) => do
      let isRepeated := start.head? == some '['
      let (key, rest) ← header? isRepeated (if isRepeated then start.tail else start)
      lines? fuel key (← document.open? isRepeated key) (← nextLine? rest)
    | some start => do
      let (key, value, rest) ← definition? start
      let changed ← document.within? (fun members => members.define? value false false key) current
      lines? fuel current changed (← nextLine? rest)

/-- The value that a document denotes: an object with the members of its outermost table. -/
def parse? (text : String) : Option Value :=
  let characters := match text.toList with
    | '\ufeff' :: rest => rest
    | whole => whole
  (lines? (characters.length + 1) [] [] characters).map fun members =>
    .object (membersToValues members)

end Guidebook.Toml
