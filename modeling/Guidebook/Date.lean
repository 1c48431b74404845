import Guidebook.Text.Blank
import Guidebook.Text.Numeral

/-!
# Dates

Dates of the Gregorian calendar, extended to years before it.  A date is written as year, month and
day with dashes between them.  A year has four digits at most unless a sign stands before it; blank
characters may stand before each number and, in the lenient form, also behind it.
-/

namespace Guidebook

open Guidebook.Text

namespace Date

/-- Whether a year has a twenty-ninth of February. -/
def isLeap (year : Int) : Bool :=
  year % 4 == 0 && (year % 100 != 0 || year % 400 == 0)

/-- The number of days of a month. -/
def daysIn (year : Int) (month : Nat) : Nat :=
  if month = 2 then if isLeap year then 29 else 28
  else if month = 4 ∨ month = 6 ∨ month = 9 ∨ month = 11 then 30
  else 31

/-- The days that the calendar counts: those of the years -262143 to 262142. -/
def IsValid (year : Int) (month day : Nat) : Prop :=
  -262143 ≤ year ∧ year ≤ 262142 ∧ 1 ≤ month ∧ month ≤ 12 ∧ 1 ≤ day ∧ day ≤ daysIn year month

instance (year : Int) (month day : Nat) : Decidable (IsValid year month day) :=
  inferInstanceAs (Decidable (_ ∧ _))

end Date

/-- A day of the calendar. -/
structure Date where
  year : Int
  month : Nat
  day : Nat
  valid : Date.IsValid year month day
deriving DecidableEq

namespace Date

/-- The day with the given year, month and day, if there is one. -/
def ofParts? (year : Int) (month day : Nat) : Option Date :=
  if valid : IsValid year month day then some ⟨year, month, day, valid⟩ else none

/-- A number of at most `most` digits behind any blank characters, and what follows it. -/
def readNumber? (most : Nat) (text : List Char) : Option (Nat × List Char) :=
  let start := trimStart text
  let digits := (start.take most).takeWhile isDigit
  if digits.isEmpty then none else some (digitsValue 0 digits, start.drop digits.length)

/-- A year behind any blank characters, and what follows it. -/
def readYear? (text : List Char) : Option (Int × List Char) :=
  match trimStart text with
  | '-' :: rest =>
    if (rest.takeWhile isDigit).isEmpty then none
    else some (-(digitsValue 0 (rest.takeWhile isDigit) : Int), rest.dropWhile isDigit)
  | '+' :: rest =>
    if (rest.takeWhile isDigit).isEmpty then none
    else some ((digitsValue 0 (rest.takeWhile isDigit) : Int), rest.dropWhile isDigit)
  | _ => (readNumber? 4 text).map fun read => ((read.1 : Int), read.2)

/-- What follows a dash. -/
def afterDash? : List Char → Option (List Char)
  | '-' :: rest => some rest
  | _ => none

/-- The date that a text denotes, where `gap` drops what may stand behind a number. -/
def readWith? (gap : List Char → List Char) (text : List Char) : Option Date := do
  let (year, afterYear) ← readYear? text
  let (month, afterMonth) ← readNumber? 2 (← afterDash? (gap afterYear))
  let (day, rest) ← readNumber? 2 (← afterDash? (gap afterMonth))
  guard (gap rest).isEmpty
  ofParts? year month day

/-- The date that a text denotes, blank characters allowed around its numbers. -/
def parse? (text : String) : Option Date :=
  readWith? trimStart text.toList

/-- The date that a text denotes, blank characters allowed before its numbers only. -/
def parseStrict? (text : String) : Option Date :=
  readWith? id text.toList

/-- The year in four digits; years that need more, and those before year 0, have a sign. -/
def yearText (year : Int) : List Char :=
  if 0 ≤ year ∧ year ≤ 9999 then padded 4 year.toNat
  else (if year < 0 then '-' else '+') :: padded 4 year.natAbs

/-- A date as year, month and day. -/
def text (date : Date) : String :=
  String.ofList
    (yearText date.year ++ '-' :: padded 2 date.month ++ '-' :: padded 2 date.day)

end Date

end Guidebook
