import Guidebook.Markup.Token

/-!
# Placeholders

A placeholder stands inside a line: a name between two at signs, possibly with a qualifier and a
colon before the name.  A text is searched from left to right; an at sign that starts no
placeholder is a character like any other.
-/

namespace Guidebook.Markup

open Guidebook.Text

/-- A name between at signs, with a qualifier or without one. -/
structure Placeholder where
  qualifier : Option String
  name : String
deriving DecidableEq

namespace Placeholder

/-- The word at the start of a text, and the rest. -/
def word? : List Char → Option (List Char × List Char)
  | [] => none
  | c :: rest =>
    if isLetter c then some (c :: rest.takeWhile isWordChar, rest.dropWhile isWordChar)
    else none

/-- The placeholder at the start of a text. -/
def leading? : List Char → Option Placeholder
  | '@' :: rest =>
    match word? rest with
    | some (name, '@' :: _) => some ⟨none, String.ofList name⟩
    | some (qualifier, ':' :: afterColon) =>
      match word? afterColon with
      | some (name, '@' :: _) => some ⟨some (String.ofList qualifier), String.ofList name⟩
      | _ => none
    | _ => none
  | _ => none

/-- The placeholder as it is written. -/
def text (placeholder : Placeholder) : List Char :=
  match placeholder.qualifier with
  | none => '@' :: placeholder.name.toList ++ ['@']
  | some qualifier => '@' :: qualifier.toList ++ ':' :: placeholder.name.toList ++ ['@']

end Placeholder

/-- A part of a text. -/
inductive Part where
  | literal (c : Char)
  | placeholder (content : Placeholder)
deriving DecidableEq

/-- The parts of a text, of which the first characters have been taken already. -/
def partsBehind : Nat → List Char → List Part
  | _, [] => []
  | taken + 1, _ :: rest => partsBehind taken rest
  | 0, c :: rest =>
    match Placeholder.leading? (c :: rest) with
    | some placeholder =>
      .placeholder placeholder :: partsBehind (placeholder.text.length - 1) rest
    | none => .literal c :: partsBehind 0 rest

/-- The parts of a text. -/
def parts (text : List Char) : List Part :=
  partsBehind 0 text

/-- The placeholders of a text, in order. -/
def placeholders (text : String) : List Placeholder :=
  (parts text.toList).filterMap fun
    | .literal _ => none
    | .placeholder content => some content

section Rewriting

variable {m : Type → Type} [Monad m]

/-- What stands in place of a part.  Only placeholders are handed to `replace`. -/
def rewritePart (replace : Placeholder → m (Option String)) : Part → m (List Char)
  | .literal c => return [c]
  | .placeholder content => do
    match ← replace content with
    | none => return content.text
    | some replacement => return replacement.toList

/-- A text with each placeholder replaced, or kept where there is no replacement. -/
def rewritePlaceholders (replace : Placeholder → m (Option String)) (text : String) :
    m String := do
  let rewritten ← (parts text.toList).mapM (rewritePart replace)
  return String.ofList rewritten.flatten

end Rewriting

end Guidebook.Markup
