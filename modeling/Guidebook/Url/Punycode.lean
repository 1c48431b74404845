import Guidebook.Text.Ascii

/-!
# Punycode

The spelling of a label of a host name with letters of ASCII alone.  The characters of ASCII come
first; then the others follow in ascending order, each as the distance from the one before in a
number system of thirty-six digits whose thresholds adapt to the distances.
-/

namespace Guidebook.Url.Punycode

open Guidebook.Text

/-- The digit of a value below thirty-six. -/
def digit (value : Nat) : Char :=
  if value < 26 then Char.ofNat (97 + value) else Char.ofNat (22 + value)

/-- The threshold of a digit at a position, counted in steps of thirty-six. -/
def threshold (position bias : Nat) : Nat :=
  if position ≤ bias then 1 else if bias + 26 ≤ position then 26 else position - bias

/-- How often a distance is divided by thirty-five until it is small, and what remains of it. -/
def shrink (distance count : Nat) : Nat × Nat :=
  if 455 < distance then shrink (distance / 35) (count + 36) else (distance, count)
termination_by distance
decreasing_by exact Nat.div_lt_self (by omega) (by omega)

/-- The bias for the next distance after one that has been written. -/
def adapt (distance written : Nat) (isFirst : Bool) : Nat :=
  let scaled := if isFirst then distance / 700 else distance / 2
  let (rest, steps) := shrink (scaled + scaled / written) 0
  steps + 36 * rest / (rest + 38)

/-- The digits of a distance, at most `count` of them. -/
def digits (bias : Nat) : Nat → Nat → Nat → List Char
  | 0, _, _ => []
  | count + 1, position, distance =>
    let least := threshold position bias
    if distance < least then [digit distance]
    else
      digit (least + (distance - least) % (36 - least)) ::
        digits bias count (position + 36) ((distance - least) / (36 - least))

/-- What has been written so far. -/
structure Progress where
  output : List Char
  distance : Nat
  bias : Nat
  written : Nat

/-- Takes one character of the label into account while characters of a code are written. -/
def step (basic code : Nat) (progress : Progress) (c : Char) : Progress :=
  if c.toNat < code then { progress with distance := progress.distance + 1 }
  else if c.toNat = code then
    { output := progress.output ++ digits progress.bias 32 36 progress.distance
      distance := 0
      bias := adapt progress.distance (progress.written + 1) (progress.written == basic)
      written := progress.written + 1 }
  else progress

/-- Writes the characters of each code in an ascending list; `next` is the least new one. -/
def writeCodes (label : List Char) (basic : Nat) : List Nat → Nat → Progress → Progress
  | [], _, progress => progress
  | code :: rest, next, progress =>
    let distance := progress.distance + (code - next) * (progress.written + 1)
    let after := label.foldl (step basic code) { progress with distance := distance }
    writeCodes label basic rest (code + 1) { after with distance := after.distance + 1 }

/-- A label in which a character is not in ASCII, without the mark in front. -/
def encode (label : List Char) : List Char :=
  let basic := label.filter fun c => c.toNat < 128
  let codes := ((label.map Char.toNat).filter (128 ≤ ·)).mergeSort.eraseDups
  let start := if basic.isEmpty then [] else basic ++ ['-']
  (writeCodes label basic.length codes 128 ⟨start, 0, 72, basic.length⟩).output

/-- A label of a host name in ASCII. -/
def label (text : List Char) : List Char :=
  if text.all fun c => c.toNat < 128 then text else "xn--".toList ++ encode text

end Guidebook.Url.Punycode
