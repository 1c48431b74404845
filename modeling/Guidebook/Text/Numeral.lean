import Guidebook.Text.Ascii

/-!
# Decimal numerals

A numeral is a non-empty run of the digits `0` to `9`, with a sign in front where one is allowed.
A reader that has a largest value refuses greater ones.
-/

namespace Guidebook.Text

/-- The value of a run of digits, continuing a number that has been read. -/
def digitsValue (soFar : Nat) : List Char → Nat
  | [] => soFar
  | c :: rest => digitsValue (soFar * 10 + (c.toNat - 48)) rest

/-- The number that a non-empty run of digits denotes. -/
def natural? (text : List Char) : Option Nat :=
  if text ≠ [] ∧ text.all isDigit then some (digitsValue 0 text) else none

/-- A natural number up to a largest one, with or without a plus sign. -/
def boundedNatural? (largest : Nat) (text : List Char) : Option Nat :=
  let digits := match text with
    | '+' :: rest => rest
    | _ => text
  (natural? digits).filter (· ≤ largest)

/-- An integer between two bounds, with or without a sign. -/
def boundedInteger? (least largest : Int) (text : List Char) : Option Int :=
  let value := match text with
    | '+' :: rest => (natural? rest).map Int.ofNat
    | '-' :: rest => (natural? rest).map fun digits => -(Int.ofNat digits)
    | _ => (natural? text).map Int.ofNat
  value.filter fun integer => least ≤ integer ∧ integer ≤ largest

/-- A number of thirty-two bits. -/
def word32? (text : List Char) : Option UInt32 :=
  (boundedNatural? (UInt32.size - 1) text).map Nat.toUInt32

/-- The digits of a number, filled with zeros in front up to a least count. -/
def padded (count value : Nat) : List Char :=
  let digits := (toString value).toList
  List.replicate (count - digits.length) '0' ++ digits

end Guidebook.Text
