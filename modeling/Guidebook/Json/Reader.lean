import Guidebook.Json.Value
import Guidebook.Text.Numeral

/-!
# Reading JSON

The reader takes one JSON value and nothing after it but blanks.  It refuses nesting beyond a given
depth, numbers too large for a double, control characters in strings and surrogates without their
partner.  Of two members with one key the later counts.
-/

namespace Guidebook.Json

open Guidebook.Text

namespace Reader

/-- The four characters that may stand between the tokens of a document. -/
def isSpace (c : Char) : Bool :=
  c == ' ' || c == '\n' || c == '\r' || c == '\t'

/-- The rest of a document from its next token on. -/
def skip (text : List Char) : List Char :=
  text.dropWhile isSpace

/-- The number that four hexadecimal digits denote. -/
def unit? (a b c d : Char) : Option Nat := do
  return ((← hexDigit? a) * 16 + (← hexDigit? b)) * 256 + ((← hexDigit? c) * 16 + (← hexDigit? d))

/-- The character that a short escape denotes. -/
def escaped? : Char → Option Char
  | '"' => some '"'
  | '\\' => some '\\'
  | '/' => some '/'
  | 'b' => some '\x08'
  | 'f' => some '\x0c'
  | 'n' => some '\n'
  | 'r' => some '\r'
  | 't' => some '\t'
  | _ => none

/-- The characters of a string from behind its opening quote, and what follows its closing one. -/
def string? : List Char → Option (List Char × List Char)
  | [] => none
  | '"' :: rest => some ([], rest)
  | '\\' :: 'u' :: a :: b :: c :: d :: rest =>
    match unit? a b c d with
    | none => none
    | some code =>
      if code < 0xD800 ∨ 0xDFFF < code then
        (string? rest).map fun read => (Char.ofNat code :: read.1, read.2)
      else
        match rest with
        | '\\' :: 'u' :: e :: f :: g :: h :: more =>
          match unit? e f g h with
          | none => none
          | some low =>
            if code ≤ 0xDBFF ∧ 0xDC00 ≤ low ∧ low ≤ 0xDFFF then
              let whole := 0x10000 + (code - 0xD800) * 0x400 + (low - 0xDC00)
              (string? more).map fun read => (Char.ofNat whole :: read.1, read.2)
            else none
        | _ => none
  | '\\' :: c :: rest =>
    match escaped? c with
    | none => none
    | some character => (string? rest).map fun read => (character :: read.1, read.2)
  | c :: rest =>
    if c = '\\' ∨ c.toNat < 0x20 then none
    else (string? rest).map fun read => (c :: read.1, read.2)

/-- The least number that is rounded to infinity as a double. -/
def infinite : Nat :=
  Nat.pow 2 1024 - Nat.pow 2 970

/-- The number with at most fifty-three significant bits that is nearest; a tie goes to even. -/
def nearestDouble (value : Nat) : Nat :=
  let unit := Nat.pow 2 (value.log2 - 52)
  let down := value / unit
  let above := 2 * (value % unit)
  let significand := if unit < above ∨ (above = unit ∧ down % 2 = 1) then down + 1 else down
  significand * unit

/-- The value of as many leading digits as fit sixty-four bits, and how many digits are left. -/
def leadingDigits (value : Nat) : List Char → Nat × Nat
  | [] => (value, 0)
  | c :: rest =>
    let longer := digitsValue value [c]
    if longer < UInt64.size then leadingDigits longer rest else (value, rest.length + 1)

/--
Whether `digits · 10 ^ exponent` is too large for a double.  The number is taken as the product of
two doubles: the one nearest to its leading digits, and the one nearest to a power of ten.
-/
def overflows (digits : List Char) (exponent : Int) : Bool :=
  let (significand, left) := leadingDigits 0 digits
  let power := exponent + left
  if significand = 0 ∨ power < 0 then false
  else if 308 < power then true
  else decide (infinite ≤ nearestDouble significand * nearestDouble (Nat.pow 10 power.toNat))

/-- The digits behind a decimal point, if there is one: none at all is a fault. -/
def fraction? : List Char → Option (List Char × List Char)
  | '.' :: rest =>
    let digits := rest.takeWhile isDigit
    if digits.isEmpty then none else some (digits, rest.dropWhile isDigit)
  | text => some ([], text)

/-- The exponent of a number, if it has one: a mark without digits is a fault. -/
def exponent? (text : List Char) : Option (Option Int × List Char) :=
  match text with
  | mark :: rest =>
    if mark = 'e' ∨ mark = 'E' then
      let (negative, unsigned) := match rest with
        | '+' :: more => (false, more)
        | '-' :: more => (true, more)
        | _ => (false, rest)
      let digits := unsigned.takeWhile isDigit
      let size : Int := digitsValue 0 digits
      if digits.isEmpty then none
      else some (some (if negative then -size else size), unsigned.dropWhile isDigit)
    else some (none, text)
  | [] => some (none, [])

/-- A number without a sign; `negative` tells whether a minus sign stood in front of it. -/
def unsigned? (negative : Bool) (text : List Char) : Option (Value × List Char) := do
  let whole := text.takeWhile isDigit
  guard (!whole.isEmpty && (whole.length == 1 || whole.head? != some '0'))
  let (places, afterPlaces) ← fraction? (text.dropWhile isDigit)
  let (power, rest) ← exponent? afterPlaces
  let magnitude := digitsValue 0 whole
  let written := (if negative then ['-'] else []) ++ text.take (text.length - rest.length)
  if places.isEmpty && power.isNone && !negative && magnitude < UInt64.size then
    return (.integer magnitude, rest)
  else if places.isEmpty && power.isNone && negative && 0 < magnitude &&
      magnitude ≤ Nat.pow 2 63 then
    return (.integer (-(magnitude : Int)), rest)
  else
    guard (!overflows (whole ++ places) (power.getD 0 - places.length))
    return (.real (String.ofList written), rest)

/-- The literals `null`, `true` and `false`. -/
def literal? : List Char → Option (Value × List Char)
  | 'n' :: 'u' :: 'l' :: 'l' :: rest => some (.null, rest)
  | 't' :: 'r' :: 'u' :: 'e' :: rest => some (.boolean true, rest)
  | 'f' :: 'a' :: 'l' :: 's' :: 'e' :: rest => some (.boolean false, rest)
  | _ => none

mutual

/-- The value at the start of a text.  Each step uses up fuel; each bracket, depth. -/
def value? (fuel depth : Nat) (text : List Char) : Option (Value × List Char) :=
  match fuel with
  | 0 => none
  | fuel + 1 =>
    match skip text with
    | '"' :: rest => (string? rest).map fun read => (.string (String.ofList read.1), read.2)
    | '-' :: rest => unsigned? true rest
    | '[' :: rest =>
      match depth with
      | 0 => none
      | depth + 1 =>
        match skip rest with
        | ']' :: after => some (.array [], after)
        | _ => (items? fuel depth rest).map fun read => (.array read.1, read.2)
    | '\x7b' :: rest =>
      match depth with
      | 0 => none
      | depth + 1 =>
        match skip rest with
        | '\x7d' :: after => some (.object [], after)
        | _ => (members? fuel depth [] rest).map fun read => (.object read.1, read.2)
    | c :: rest => if isDigit c then unsigned? false (c :: rest) else literal? (c :: rest)
    | [] => none

/-- The items of an array up to its closing bracket. -/
def items? (fuel depth : Nat) (text : List Char) : Option (List Value × List Char) :=
  match fuel with
  | 0 => none
  | fuel + 1 =>
    match value? fuel depth text with
    | none => none
    | some (item, rest) =>
      match skip rest with
      | ',' :: more => (items? fuel depth more).map fun read => (item :: read.1, read.2)
      | ']' :: after => some ([item], after)
      | _ => none

/-- The members of an object up to its closing brace, added to those read before. -/
def members? (fuel depth : Nat) (soFar : List (String × Value)) (text : List Char) :
    Option (List (String × Value) × List Char) :=
  match fuel with
  | 0 => none
  | fuel + 1 =>
    match skip text with
    | '"' :: afterQuote =>
      match string? afterQuote with
      | none => none
      | some (key, afterKey) =>
        match skip afterKey with
        | ':' :: afterColon =>
          match value? fuel depth afterColon with
          | none => none
          | some (value, rest) =>
            let members := Dictionary.insertEntry (String.ofList key) value soFar
            match skip rest with
            | ',' :: more => members? fuel depth members more
            | '\x7d' :: after => some (members, after)
            | _ => none
        | _ => none
    | _ => none

end

end Reader

/-- The value that a text denotes, if it nests at most `depth` brackets. -/
def parseWithin? (depth : Nat) (text : String) : Option Value :=
  let characters := text.toList
  match Reader.value? (2 * characters.length + 1) depth characters with
  | some (value, rest) => if (Reader.skip rest).isEmpty then some value else none
  | none => none

/-- The most brackets that a document may nest. -/
def deepest : Nat :=
  127

/-- The value that a document denotes. -/
def parse? (text : String) : Option Value :=
  parseWithin? deepest text

end Guidebook.Json
