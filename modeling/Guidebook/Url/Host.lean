import Guidebook.Text.LowerCase
import Guidebook.Text.Numeral
import Guidebook.Url.Percent
import Guidebook.Url.Punycode

/-!
# Hosts

The host of an address is a name, an address of four bytes or an address of eight groups between
brackets.  Each is written in one form: names in lower case, numbers in decimal, and the longest
run of zero groups left out.
-/

namespace Guidebook.Url

open Guidebook.Text

/-! ## Addresses of four bytes -/

/-- A number in the spelling of its base, which a zero or `0x` in front tells; the empty is zero. -/
def addressNumber? (text : List Char) : Option Nat :=
  let inBase := fun (base : Nat) (digits : List Char) =>
    digits.foldlM (fun value c => do
      let digit ← hexDigit? c
      if digit < base then some (value * base + digit) else none) 0
  match text with
  | [] => none
  | '0' :: 'x' :: digits => inBase 16 digits
  | '0' :: 'X' :: digits => inBase 16 digits
  | '0' :: c :: digits => inBase 8 (c :: digits)
  | digits => inBase 10 digits

/-- The parts of a name between its dots, a dot at the end aside. -/
def dotParts (name : List Char) : List (List Char) :=
  let parts := name.splitOn '.'
  if 1 < parts.length ∧ parts.getLast? = some [] then parts.dropLast else parts

/-- Whether the last part of a name is a number, so that the name must be an address. -/
def endsInNumber (name : List Char) : Bool :=
  match (dotParts name).getLast? with
  | none => false
  | some last => (!last.isEmpty && last.all isDigit) || (addressNumber? last).isSome

/-- The four bytes that a name denotes, as one number. -/
def fourBytes? (name : List Char) : Option Nat := do
  let numbers ← (dotParts name).mapM addressNumber?
  guard (numbers.length ≤ 4)
  let last ← numbers.getLast?
  let front := numbers.dropLast
  guard (last < Nat.pow 256 (4 - front.length) ∧ front.all (· < 256))
  return front.zipIdx.foldl (fun sum entry => sum + entry.1 * Nat.pow 256 (3 - entry.2)) last

/-- Four bytes in decimal with dots between them. -/
def fourBytesText (address : Nat) : String :=
  let byte := fun (place : Nat) => toString (address / Nat.pow 256 place % 256)
  byte 3 ++ "." ++ byte 2 ++ "." ++ byte 1 ++ "." ++ byte 0

/-! ## Addresses of eight groups -/

/-- A group of one to four hexadecimal digits. -/
def group? (text : List Char) : Option Nat :=
  if text.isEmpty || 4 < text.length then none
  else text.foldlM (fun value c => (hexDigit? c).map (value * 16 + ·)) 0

/-- A byte in decimal without zeros in front. -/
def decimalByte? (text : List Char) : Option Nat := do
  guard (text.length ≤ 1 ∨ text.head? ≠ some '0')
  (natural? text).filter (· < 256)

/-- The two groups that four bytes in decimal stand for. -/
def trailingBytes? (text : List Char) : Option (List Nat) := do
  match ← (text.splitOn '.').mapM decimalByte? with
  | [first, second, third, fourth] => some [first * 256 + second, third * 256 + fourth]
  | _ => none

/-- The groups of a text with colons between them; four bytes may stand at its end. -/
def groups? (text : List Char) : Option (List Nat) :=
  if text.isEmpty then some []
  else do
    let parts := text.splitOn ':'
    let front ← parts.dropLast.mapM group?
    let last ← parts.getLast?
    let ending ← if last.contains '.' then trailingBytes? last else (group? last).map ([·])
    return front ++ ending

/-- The texts before and after the first two colons in a row. -/
def cutGap : List Char → Option (List Char × List Char)
  | ':' :: ':' :: rest => some ([], rest)
  | [] => none
  | c :: rest => (cutGap rest).map fun parts => (c :: parts.1, parts.2)

/-- The eight groups that a text denotes; two colons stand for groups of zeros. -/
def eightGroups? (text : List Char) : Option (List Nat) :=
  match cutGap text with
  | none => (groups? text).filter (·.length = 8)
  | some (before, after) => do
    guard !(before.contains '.')
    let front ← groups? before
    let ending ← groups? after
    guard (front.length + ending.length ≤ 7)
    return front ++ List.replicate (8 - front.length - ending.length) 0 ++ ending

/-- The length of the run of zeros at the start of a list. -/
def leadingZeros (groups : List Nat) : Nat :=
  (groups.takeWhile (· = 0)).length

/-- The first of the longest runs of at least two zeros, as its start and its length. -/
def longestZeros? (groups : List Nat) : Option (Nat × Nat) :=
  let runs := (List.range groups.length).map fun start => (start, leadingZeros (groups.drop start))
  runs.foldl (fun best run =>
    if run.2 < 2 then best
    else match best with
      | none => some run
      | some found => if found.2 < run.2 then some run else best) none

/-- A group in hexadecimal digits. -/
def groupText (group : Nat) : String :=
  String.ofList (Nat.toDigits 16 group)

/-- Groups with colons between them. -/
def groupsText (groups : List Nat) : String :=
  String.intercalate ":" (groups.map groupText)

/-- Eight groups with the longest run of zeros left out. -/
def eightGroupsText (groups : List Nat) : String :=
  match longestZeros? groups with
  | none => groupsText groups
  | some (start, length) =>
    groupsText (groups.take start) ++ "::" ++ groupsText (groups.drop (start + length))

/-! ## Names -/

/-- The characters of ASCII that no name of a special scheme may hold. -/
def isForbiddenInName (c : Char) : Bool :=
  c.toNat ≤ 0x20 || c.toNat == 0x7F ||
    ['#', '/', ':', '<', '>', '?', '@', '[', '\\', ']', '^', '%', '|'].contains c

/-- The characters that no opaque host may hold. -/
def isForbiddenInOpaque (c : Char) : Bool :=
  ['\x00', '\t', '\n', '\r', ' ', '#', '/', ':', '<', '>', '?', '@', '[', '\\', ']', '^',
    '|'].contains c

/-- The stops that separate labels besides the dot. -/
def isWideStop (c : Char) : Bool :=
  ['。', '．', '｡'].contains c

/-- A name in lower case and in ASCII. -/
def nameInAscii? (name : List Char) : Option (List Char) :=
  let plain := (lowerCase name).map fun c => if isWideStop c then '.' else c
  let labels := (plain.splitOn '.').map Punycode.label
  let written := ['.'].intercalate labels
  if written.any isForbiddenInName then none else some written

/-- The groups between brackets that a host consists of. -/
def bracketed? (host : List Char) : Option String :=
  if host.getLast? = some ']' then
    (eightGroups? ((host.drop 1).dropLast)).map fun groups => "[" ++ eightGroupsText groups ++ "]"
  else none

/-- A host of a special scheme in its one form. -/
def host? (text : List Char) : Option String :=
  if text.head? = some '[' then bracketed? text
  else do
    let name ← nameInAscii? (← decode? text)
    guard !name.isEmpty
    if endsInNumber name then return fourBytesText (← fourBytes? name)
    return String.ofList name

/-- A host of another scheme. -/
def opaqueHost? (text : List Char) : Option String :=
  if text.head? = some '[' then bracketed? text
  else if text.any isForbiddenInOpaque then none
  else some (String.ofList (encode isControl text))

end Guidebook.Url
