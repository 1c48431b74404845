import Guidebook.Markup.Attribute
import Guidebook.Markup.Token
import Guidebook.Text.Blank
import Guidebook.Text.Line

/-!
# Invocations

A line macro is invoked by a line that is its name, a colon, a target without blanks and a
bracketed list of attributes.  Rewriting a text replaces the lines that invoke a macro and keeps
all others, and every line keeps what ends it.
-/

namespace Guidebook.Markup

open Guidebook.Text

/-- An invocation of a line macro. -/
structure Invocation where
  name : String
  target : String
  attributes : Attributes
deriving DecidableEq

namespace Invocation

/-- The word at the start of a text, which is empty if none stands there, and the rest. -/
def leadingWord : List Char → List Char × List Char
  | [] => ([], [])
  | c :: rest =>
    if isLetter c then (c :: rest.takeWhile isWordChar, rest.dropWhile isWordChar)
    else ([], c :: rest)

/-- The text before a closing bracket that ends a text. -/
def beforeClosing? (text : List Char) : Option (List Char) :=
  if text.getLast? = some ']' then some text.dropLast else none

/-- The invocation of the named macro that a line consists of, blanks around it aside. -/
def parse? (name : String) (line : List Char) : Option Invocation := do
  let (word, afterWord) := leadingWord (trim line)
  guard (word ≠ [] ∧ word = name.toList)
  match afterWord with
  | ':' :: afterColon =>
    let (target, bracketed) ← cut '[' afterColon
    let attributes ← beforeClosing? bracketed
    guard !(target.any isBlank)
    return ⟨name, String.ofList target, Attributes.parse (String.ofList attributes)⟩
  | _ => none

end Invocation

/-- Whether an opening bracket is followed, sooner or later, by a closing one. -/
def holdsBrackets (tokens : List Token) : Bool :=
  ((tokens.dropWhile (· ≠ .openBracket)).drop 1).contains .closeBracket

/-- Whether tokens hold the given word, a colon and, behind them, brackets. -/
def tokensInvoke (name : List Char) : List Token → Bool
  | .word text :: .colon :: rest =>
    (text == name && holdsBrackets rest) || tokensInvoke name (.colon :: rest)
  | _ :: rest => tokensInvoke name rest
  | [] => false

/-- Whether a line holds an invocation of the named macro somewhere. -/
def invokes (name : String) (line : List Char) : Bool :=
  tokensInvoke name.toList (Token.scan line)

/-- A line of a text that holds an invocation, and the bytes of the text that it takes. -/
structure InvokingLine where
  line : String
  start : Nat
  stop : Nat
deriving DecidableEq

/-- The lines of a text that hold an invocation of the named macro. -/
def invokingLines (name text : String) : List InvokingLine :=
  ((withOffsets 0 (lines text.toList)).filter fun entry => invokes name entry.1.content).map
    fun entry =>
      ⟨String.ofList entry.1.content, entry.2, entry.2 + byteLength entry.1.content⟩

section Rewriting

variable {m : Type → Type} [Monad m]

/-- What stands in place of a line.  Only invocations are handed to `replace`. -/
def rewriteLine (name : String) (replace : Invocation → m (Option String)) (line : Line) :
    m (List Char) := do
  let invocation? := if invokes name line.content then Invocation.parse? name line.content else none
  match invocation? with
  | none => return line.text
  | some invocation =>
    match ← replace invocation with
    | none => return line.text
    | some replacement => return replacement.toList ++ line.terminator

/-- A text with each invocation of the named macro replaced, or kept where there is no
replacement. -/
def rewriteInvocations (name : String) (replace : Invocation → m (Option String))
    (text : String) : m String := do
  let rewritten ← (lines text.toList).mapM (rewriteLine name replace)
  return String.ofList rewritten.flatten

end Rewriting

end Guidebook.Markup
