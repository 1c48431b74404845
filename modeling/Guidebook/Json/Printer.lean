import Guidebook.Json.Value
import Guidebook.Text.Ascii

/-!
# Writing JSON

A value is written on one line without blanks, or over several lines with an indentation of two
blanks for each bracket around it.
-/

namespace Guidebook.Json

open Guidebook.Text

namespace Printer

/-- A character as it is written in a string: quotes, backslashes and control characters escape. -/
def character (c : Char) : List Char :=
  match c with
  | '"' => ['\\', '"']
  | '\\' => ['\\', '\\']
  | '\x08' => ['\\', 'b']
  | '\x0c' => ['\\', 'f']
  | '\n' => ['\\', 'n']
  | '\r' => ['\\', 'r']
  | '\t' => ['\\', 't']
  | _ =>
    if c.toNat < 0x20 then
      ['\\', 'u', '0', '0', lowerHexDigit (c.toNat / 16), lowerHexDigit (c.toNat % 16)]
    else [c]

/-- A string in quotes. -/
def quoted (text : String) : String :=
  "\"" ++ String.ofList (text.toList.flatMap character) ++ "\""

/-- A line break and the indentation of a depth. -/
def newLine (depth : Nat) : String :=
  "\n" ++ String.ofList (List.replicate (2 * depth) ' ')

mutual

/-- A value on one line. -/
def compact : Value → String
  | .null => "null"
  | .boolean true => "true"
  | .boolean false => "false"
  | .integer value => toString value
  | .real written => written
  | .string text => quoted text
  | .array items => "[" ++ compactItems items ++ "]"
  | .object members => "\x7b" ++ compactMembers members ++ "\x7d"

/-- Items with commas between them. -/
def compactItems : List Value → String
  | [] => ""
  | [item] => compact item
  | item :: rest => compact item ++ "," ++ compactItems rest

/-- Members with commas between them. -/
def compactMembers : List (String × Value) → String
  | [] => ""
  | [(key, value)] => quoted key ++ ":" ++ compact value
  | (key, value) :: rest => quoted key ++ ":" ++ compact value ++ "," ++ compactMembers rest

end

mutual

/-- A value over several lines, within `depth` brackets. -/
def pretty (depth : Nat) : Value → String
  | .array (item :: rest) =>
    "[" ++ prettyItems (depth + 1) (item :: rest) ++ newLine depth ++ "]"
  | .object (entry :: rest) =>
    "\x7b" ++ prettyMembers (depth + 1) (entry :: rest) ++ newLine depth ++ "\x7d"
  | .array [] => "[]"
  | .object [] => "\x7b\x7d"
  | .null => "null"
  | .boolean true => "true"
  | .boolean false => "false"
  | .integer value => toString value
  | .real written => written
  | .string text => quoted text

/-- Items on lines of their own. -/
def prettyItems (depth : Nat) : List Value → String
  | [] => ""
  | [item] => newLine depth ++ pretty depth item
  | item :: rest => newLine depth ++ pretty depth item ++ "," ++ prettyItems depth rest

/-- Members on lines of their own. -/
def prettyMembers (depth : Nat) : List (String × Value) → String
  | [] => ""
  | [(key, value)] => newLine depth ++ quoted key ++ ": " ++ pretty depth value
  | (key, value) :: rest =>
    newLine depth ++ quoted key ++ ": " ++ pretty depth value ++ "," ++ prettyMembers depth rest

end

end Printer

/-- A value on one line. -/
def Value.compact (value : Value) : String :=
  Printer.compact value

/-- A value over several lines. -/
def Value.pretty (value : Value) : String :=
  Printer.pretty 0 value

end Guidebook.Json
