import Guidebook.Error
import Guidebook.Text.Blank
import Guidebook.Text.Cut
import Guidebook.Text.Line
import Guidebook.Text.Numeral

/-!
# Selections

Part of a file is shown by naming lines, or by naming tags whose regions are marked in the file.
-/

namespace Guidebook.Markup

open Guidebook.Text

/-- Lines of text, each ended by a line feed. -/
def unlines (contents : List (List Char)) : List Char :=
  contents.flatMap (· ++ ['\n'])

/-! ## Lines -/

/-- The first and the last line that a range names, of a file with `count` lines. -/
def lineRange? (count : Nat) (range : List Char) : Option (Nat × Nat) := do
  let (first, last) ← cutRange range
  let start ← boundedNatural? (UInt64.size - 1) (trim first)
  let stop ← boundedInteger? (-Int.pow 2 63) (Int.pow 2 63 - 1) (trim last)
  let stop ← if stop = -1 then some count else if stop < 0 then none else some stop.toNat
  guard (1 ≤ start ∧ start ≤ stop ∧ stop ≤ count)
  return (start, stop)

/-- The lines of a file from the first to the last that a range names. -/
def selectLines (content range target : String) : Except Error String :=
  let contents := lineContents content.toList
  match lineRange? contents.length range.toList with
  | some (start, stop) =>
    .ok (String.ofList (unlines ((contents.drop (start - 1)).take (stop + 1 - start))))
  | none => .error (.invalidLineRange target range)

/-! ## Tags -/

/-- Whether a text stands somewhere in another. -/
def occursIn (part : List Char) : List Char → Bool
  | [] => part.isEmpty
  | c :: rest => part.isPrefixOf (c :: rest) || occursIn part rest

/-- Whether a line opens the region of a tag. -/
def opensTag (tag : List Char) (line : List Char) : Bool :=
  occursIn ("tag::".toList ++ tag ++ ['[']) line

/-- Whether a line closes the region of a tag. -/
def closesTag (tag : List Char) (line : List Char) : Bool :=
  occursIn ("end::".toList ++ tag ++ ['[']) line

/-- The lines of a tag's regions; `inside` tells whether a region is open. -/
def taggedLines (tag : List Char) (inside : Bool) : List (List Char) → List (List Char)
  | [] => []
  | line :: rest =>
    if opensTag tag line then taggedLines tag true rest
    else if closesTag tag line then taggedLines tag false rest
    else if inside then line :: taggedLines tag inside rest
    else taggedLines tag inside rest

/-- The lines of the regions of several tags, tag after tag. -/
def selectTagged (contents : List (List Char)) (target : String) :
    List String → Except Error (List (List Char))
  | [] => .ok []
  | tag :: rest =>
    if contents.any (opensTag tag.toList) then
      match selectTagged contents target rest with
      | .ok selected => .ok (taggedLines tag.toList false contents ++ selected)
      | .error reason => .error reason
    else .error (.missingTag target tag)

/-- The regions of several tags, tag after tag, without the lines that mark them. -/
def selectTags (content : String) (tags : List String) (target : String) : Except Error String :=
  match selectTagged (lineContents content.toList) target tags with
  | .ok selected => .ok (String.ofList (unlines selected))
  | .error reason => .error reason

end Guidebook.Markup
