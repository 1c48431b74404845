import Guidebook.Text.Ascii

/-!
# Tokens of a line

A line of markup is a sequence of words, colons, brackets and other characters.  A word is a letter
with the letters, digits, underscores and dashes behind it, as many as there are.
-/

namespace Guidebook.Markup

open Guidebook.Text

/-- Characters that continue a word. -/
def isWordChar (c : Char) : Bool :=
  isLetter c || isDigit c || c == '_' || c == '-'

/-- A token of a line. -/
inductive Token where
  | word (text : List Char)
  | colon
  | openBracket
  | closeBracket
  | other (c : Char)
deriving DecidableEq

namespace Token

/-- The token that a character is outside words. -/
def ofChar : Char → Token
  | ':' => .colon
  | '[' => .openBracket
  | ']' => .closeBracket
  | c => .other c

/-- The word that has been read backwards, if one has been begun. -/
def pending : List Char → List Token
  | [] => []
  | read => [.word read.reverse]

/-- The tokens of a text behind the part of a word, given backwards, that has been read. -/
def scanBehind (read : List Char) : List Char → List Token
  | [] => pending read
  | c :: rest =>
    if isLetter c ∨ (read ≠ [] ∧ isWordChar c) then scanBehind (c :: read) rest
    else pending read ++ ofChar c :: scanBehind [] rest

/-- The tokens of a text. -/
def scan (text : List Char) : List Token :=
  scanBehind [] text

end Token

end Guidebook.Markup
