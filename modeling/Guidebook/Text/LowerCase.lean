import Guidebook.Text.LowerCase.Table

/-!
# Lower case

The lower-case form of a text under the default case mapping of Unicode.  Each character is mapped
by itself, with one exception: a capital sigma becomes a final sigma where a cased character stands
before it and none stands after it, case-ignorable characters not counted.
-/

namespace Guidebook.Text

namespace LowerCase

/-- Whether a range of the list holds the character. -/
def holds (ranges : List (Nat × Nat)) (c : Char) : Bool :=
  ranges.any fun range => range.1 ≤ c.toNat && c.toNat ≤ range.2

/-- Whether a cased character follows, case-ignorable characters skipped. -/
def meetsCased (text : List Char) : Bool :=
  match text.dropWhile (holds ignorable) with
  | [] => false
  | c :: _ => holds cased c

/-- The code point of the lower-case letter of a code point. -/
def lowerCode (code : Nat) : Nat :=
  match shifts.find? fun row =>
      row.1 ≤ code && code ≤ row.2.1 && (code - row.1) % row.2.2.1 == 0 with
  | some row => (code + row.2.2.2).toNat
  | none => code

/-- The lower-case form of a character that is not a capital sigma. -/
def lowerChar (c : Char) : List Char :=
  if c = 'İ' then ['i', Char.ofNat 0x307] else [Char.ofNat (lowerCode c.toNat)]

/-- The lower-case form of a text that stands behind a text, given backwards. -/
def lowerBehind (before : List Char) : List Char → List Char
  | [] => []
  | c :: after =>
    let here :=
      if c = 'Σ' then [if meetsCased before && !meetsCased after then 'ς' else 'σ']
      else lowerChar c
    here ++ lowerBehind (c :: before) after

end LowerCase

/-- The lower-case form of a text. -/
def lowerCase (text : List Char) : List Char :=
  LowerCase.lowerBehind [] text

end Guidebook.Text
