import Guidebook.Date
import Guidebook.Json.Value
import Guidebook.Text.Cut

/-!
# Lexemes of TOML

Strings, numbers, truth values and dates, and the blanks and comments between them.  Reading a
lexeme from the start of a text gives what it denotes and what follows it.
-/

namespace Guidebook.Toml

open Guidebook.Json
open Guidebook.Text

/-! ## Blanks and comments -/

/-- Blanks inside a line. -/
def isBlankChar (c : Char) : Bool :=
  c == ' ' || c == '\t'

/-- Control characters, which may stand nowhere; the tab is not counted. -/
def isForbidden (c : Char) : Bool :=
  (c.toNat < 0x20 && c != '\t') || c.toNat == 0x7F

/-- A text from its next character that is not blank. -/
def skipBlanks (text : List Char) : List Char :=
  text.dropWhile isBlankChar

/-- What follows a line break at the start of a text. -/
def afterBreak? : List Char → Option (List Char)
  | '\n' :: rest => some rest
  | '\r' :: '\n' :: rest => some rest
  | _ => none

/-- A text without the blanks and the comment at its start; line breaks stay. -/
def skipComment? (text : List Char) : Option (List Char) :=
  match skipBlanks text with
  | '#' :: rest =>
    let after := rest.dropWhile fun c => !isForbidden c
    if after.isEmpty || (afterBreak? after).isSome then some after else none
  | rest => some rest

/-- The next line, if nothing but blanks and a comment remains of this one. -/
def nextLine? (text : List Char) : Option (List Char) := do
  let rest ← skipComment? text
  if rest.isEmpty then some [] else afterBreak? rest

/-- A text without blanks, comments and line breaks at its start, at most `fuel` lines of them. -/
def skipLines? (fuel : Nat) (text : List Char) : Option (List Char) :=
  match fuel with
  | 0 => none
  | fuel + 1 => do
    let rest ← skipComment? text
    match afterBreak? rest with
    | some more => skipLines? fuel more
    | none => return rest

/-! ## Strings -/

/-- The character of a code point, unless it is a surrogate or too large. -/
def character? (code : Nat) : Option Char :=
  if valid : code.isValidChar then some (Char.ofNatAux code valid) else none

/-- The character that a number of hexadecimal digits denotes, and what follows them. -/
def hexCharacter? (count : Nat) (text : List Char) : Option (Char × List Char) := do
  guard (count ≤ text.length)
  let digits ← (text.take count).mapM hexDigit?
  let character ← character? (digits.foldl (fun value digit => value * 16 + digit) 0)
  return (character, text.drop count)

/-- The character that an escape behind its backslash denotes, and what follows it. -/
def escape? : List Char → Option (Char × List Char)
  | 'b' :: rest => some ('\x08', rest)
  | 't' :: rest => some ('\t', rest)
  | 'n' :: rest => some ('\n', rest)
  | 'f' :: rest => some ('\x0c', rest)
  | 'r' :: rest => some ('\r', rest)
  | 'e' :: rest => some ('\x1b', rest)
  | '"' :: rest => some ('"', rest)
  | '\\' :: rest => some ('\\', rest)
  | 'x' :: rest => hexCharacter? 2 rest
  | 'u' :: rest => hexCharacter? 4 rest
  | 'U' :: rest => hexCharacter? 8 rest
  | _ => none

/-- How a string is written. -/
structure Quotation where
  quote : Char
  hasEscapes : Bool
  isMultiline : Bool

/-- How many characters the quotes at the start of a text take if they end a string, and how many
of them belong to it. -/
def closing? (quotation : Quotation) (text : List Char) : Option (Nat × Nat) :=
  let count := (text.takeWhile (· = quotation.quote)).length
  if !quotation.isMultiline then if 0 < count then some (1, 0) else none
  else if count < 3 then none
  else some (min count 5, min count 5 - 3)

/-- What follows a backslash at the end of a line: the text from its next character that counts. -/
def continued? (text : List Char) : Option (List Char) :=
  (afterBreak? (skipBlanks text)).map fun rest =>
    rest.dropWhile fun c => isBlankChar c || c == '\n' || c == '\r'

/-- The characters of a string up to its closing quotes, and what follows them. -/
def stringBody? (quotation : Quotation) (fuel : Nat) (text : List Char) :
    Option (List Char × List Char) :=
  match fuel with
  | 0 => none
  | fuel + 1 =>
    match closing? quotation text with
    | some (taken, kept) => some (List.replicate kept quotation.quote, text.drop taken)
    | none =>
      let continueWith := fun (c : Char) (rest : List Char) =>
        (stringBody? quotation fuel rest).map fun read => (c :: read.1, read.2)
      match text with
      | [] => none
      | c :: rest =>
        if c = '\\' ∧ quotation.hasEscapes then
          match (if quotation.isMultiline then continued? rest else none) with
          | some more => stringBody? quotation fuel more
          | none => (escape? rest).bind fun read => continueWith read.1 read.2
        else
          match afterBreak? (c :: rest) with
          | some more => if quotation.isMultiline then continueWith '\n' more else none
          | none => if isForbidden c then none else continueWith c rest

/-- The string at the start of a text on one line, and what follows it. -/
def lineString? : List Char → Option (String × List Char)
  | '"' :: rest =>
    (stringBody? ⟨'"', true, false⟩ (rest.length + 1) rest).map fun read =>
      (String.ofList read.1, read.2)
  | '\'' :: rest =>
    (stringBody? ⟨'\'', false, false⟩ (rest.length + 1) rest).map fun read =>
      (String.ofList read.1, read.2)
  | _ => none

/-- A string over several lines behind its quotes, a line break right behind them aside. -/
def multilineString? (quotation : Quotation) (text : List Char) : Option (String × List Char) :=
  let body := (afterBreak? text).getD text
  (stringBody? quotation (body.length + 1) body).map fun read => (String.ofList read.1, read.2)

/-- The string at the start of a text, and what follows it. -/
def string? : List Char → Option (String × List Char)
  | '"' :: '"' :: '"' :: rest => multilineString? ⟨'"', true, true⟩ rest
  | '\'' :: '\'' :: '\'' :: rest => multilineString? ⟨'\'', false, true⟩ rest
  | text => lineString? text

/-! ## Numbers -/

/-- Digits with single underscores between them, the underscores left out. -/
def grouped? (isMember : Char → Bool) (text : List Char) : Option (List Char) :=
  let groups := text.splitOn '_'
  if groups.all fun group => !group.isEmpty && group.all isMember then some groups.flatten else none

/-- A number without a sign in a base. -/
def inBase? (base : Nat) (text : List Char) : Option Nat := do
  let digits ← grouped? (fun c => (hexDigit? c).any (· < base)) text
  let values ← digits.mapM hexDigit?
  return values.foldl (fun value digit => value * base + digit) 0

/-- The digits of a decimal number, which start with a zero only if there are no others. -/
def wholePart? (text : List Char) : Option (List Char) := do
  let digits ← grouped? isDigit text
  guard (digits.length = 1 ∨ digits.head? ≠ some '0')
  return digits

/-- The sign of a number, and the number without it. -/
def signed (text : List Char) : Bool × List Char :=
  match text with
  | '+' :: rest => (false, rest)
  | '-' :: rest => (true, rest)
  | _ => (false, text)

/-- An integer. -/
def integer? (text : List Char) : Option Int := do
  let value ← match text with
    | '0' :: 'x' :: digits => (inBase? 16 digits).map Int.ofNat
    | '0' :: 'o' :: digits => (inBase? 8 digits).map Int.ofNat
    | '0' :: 'b' :: digits => (inBase? 2 digits).map Int.ofNat
    | _ =>
      let (negative, unsigned) := signed text
      (wholePart? unsigned).map fun digits =>
        let size := Int.ofNat (digitsValue 0 digits)
        if negative then -size else size
  guard (-Int.pow 2 127 ≤ value ∧ value < Int.pow 2 128)
  return value

/-- Whether a text is the exponent of a number, behind its mark. -/
def isExponent (text : List Char) : Bool :=
  (grouped? isDigit (signed text).2).isSome

/-- Whether a text is a number with a fraction or an exponent. -/
def isReal (text : List Char) : Bool :=
  let unsigned := (signed text).2
  if String.ofList unsigned ∈ ["inf", "nan"] then true
  else
    let isMark := fun (c : Char) => c == 'e' || c == 'E'
    let front := unsigned.takeWhile fun c => !isMark c
    let exponent := unsigned.drop front.length
    let exponentFits := exponent.isEmpty || isExponent exponent.tail
    match cut '.' front with
    | some (whole, places) =>
      exponentFits && (wholePart? whole).isSome && (grouped? isDigit places).isSome
    | none => exponentFits && !exponent.isEmpty && (wholePart? front).isSome

/-! ## Dates and times -/

/-- A number of exactly so many digits, and what follows it. -/
def fixed? (count : Nat) (text : List Char) : Option (Nat × List Char) := do
  let digits := text.take count
  guard (digits.length = count ∧ digits.all isDigit)
  return (digitsValue 0 digits, text.drop count)

/-- What follows a character at the start of a text. -/
def after? (expected : Char) : List Char → Option (List Char)
  | c :: rest => if c = expected then some rest else none
  | [] => none

/-- What follows a date at the start of a text. -/
def afterDate? (text : List Char) : Option (List Char) := do
  let (year, rest) ← fixed? 4 text
  let (month, rest) ← fixed? 2 (← after? '-' rest)
  let (day, rest) ← fixed? 2 (← after? '-' rest)
  guard (Date.IsValid year month day)
  return rest

/-- What follows hours and minutes at the start of a text. -/
def afterMinutes? (text : List Char) : Option (List Char) := do
  let (hour, rest) ← fixed? 2 text
  let (minute, rest) ← fixed? 2 (← after? ':' rest)
  guard (hour ≤ 23 ∧ minute ≤ 59)
  return rest

/-- What follows the fraction of a second, if there is one. -/
def afterFraction? (text : List Char) : Option (List Char) :=
  match text with
  | '.' :: rest => if (rest.takeWhile isDigit).isEmpty then none else some (rest.dropWhile isDigit)
  | _ => some text

/-- What follows a time at the start of a text; seconds may be left out. -/
def afterTime? (text : List Char) : Option (List Char) := do
  let rest ← afterMinutes? text
  match rest with
  | ':' :: more =>
    let (second, tail) ← fixed? 2 more
    guard (second ≤ 60)
    afterFraction? tail
  | _ => return rest

/-- Whether a text is the offset of a time zone, or nothing. -/
def isOffset : List Char → Bool
  | [] => true
  | ['Z'] => true
  | ['z'] => true
  | sign :: rest =>
    (sign == '+' || sign == '-') && match afterMinutes? rest with
      | some tail => tail.isEmpty
      | none => false

/-- Whether a text is a date, a time or both, in which case an offset may follow. -/
def isMoment (text : List Char) : Bool :=
  match afterDate? text with
  | some [] => true
  | some (separator :: rest) =>
    ['T', 't', ' '].contains separator && (afterTime? rest).any isOffset
  | none => (afterTime? text).any List.isEmpty

/-! ## Words -/

/-- Characters of numbers, truth values, dates and times. -/
def isWordChar (c : Char) : Bool :=
  isLetter c || isDigit c || ['_', '+', '-', '.', ':'].contains c

/-- The word at the start of a text; one blank may stand between a date and a time. -/
def word (text : List Char) : List Char :=
  let front := text.takeWhile isWordChar
  match text.drop front.length with
  | ' ' :: c :: rest =>
    if afterDate? front = some [] ∧ isDigit c then
      front ++ ' ' :: (c :: rest).takeWhile isWordChar
    else front
  | _ => front

/-- The member under which the text of a date or a time is kept. -/
def momentKey : String :=
  "$__toml_private_datetime"

/-- What a word denotes. -/
def wordValue? (text : List Char) : Option Value :=
  match String.ofList text with
  | "true" => some (.boolean true)
  | "false" => some (.boolean false)
  | written =>
    match integer? text with
    | some value => some (.integer value)
    | none =>
      if isReal text then some (.real written)
      else if isMoment text then some (.object [(momentKey, .string written)])
      else none

/-! ## Keys -/

/-- Characters of keys without quotes. -/
def isKeyChar (c : Char) : Bool :=
  isLetter c || isDigit c || c == '_' || c == '-'

/-- The part of a key at the start of a text, and what follows it. -/
def keyPart? (text : List Char) : Option (String × List Char) :=
  match text with
  | '"' :: _ => lineString? text
  | '\'' :: _ => lineString? text
  | _ =>
    let name := text.takeWhile isKeyChar
    if name.isEmpty then none else some (String.ofList name, text.dropWhile isKeyChar)

/-- The parts of a key with dots between them, and what follows the key and the blanks behind. -/
def key? (fuel : Nat) (text : List Char) : Option (List String × List Char) :=
  match fuel with
  | 0 => none
  | fuel + 1 => do
    let (part, rest) ← keyPart? (skipBlanks text)
    match skipBlanks rest with
    | '.' :: more =>
      let (parts, tail) ← key? fuel more
      return (part :: parts, tail)
    | tail => return ([part], tail)

end Guidebook.Toml
