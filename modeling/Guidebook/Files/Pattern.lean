import Guidebook.Text.Cut

/-!
# Patterns of file names

A pattern stands for the names that it matches.  A question mark matches one byte and an asterisk
any number of bytes; brackets match one byte of a class, and braces one of several patterns.  Two
asterisks between slashes match any number of directories.  Names are matched byte by byte.
-/

namespace Guidebook

/-- A part of a pattern. -/
inductive PatternToken where
  | byte (value : UInt8)
  | anyByte
  | anyBytes
  /-- Two asterisks at the start: any directories, or none. -/
  | leadingDirectories
  /-- A slash and two asterisks at the end: everything inside. -/
  | everythingInside
  /-- Two asterisks between slashes: a slash, or any directories between two. -/
  | innerDirectories
  | byteClass (negated : Bool) (ranges : List (UInt8 × UInt8))
deriving DecidableEq

/-- The sequences of tokens that a pattern stands for. -/
structure Pattern where
  alternatives : List (List PatternToken)
deriving DecidableEq

namespace Pattern

/-! ## Reading -/

/-- Why a text is no pattern. -/
inductive Fault where
  | unclosedClass
  | invalidRange
  | unopenedAlternates
  | unclosedAlternates
  | danglingEscape
deriving DecidableEq

/-- The bytes of a character in UTF-8. -/
def bytes (c : Char) : List UInt8 :=
  (String.singleton c).toUTF8.toList

/-- A character as the bytes of its UTF-8 form. -/
def literal (c : Char) : List PatternToken :=
  (bytes c).map .byte

/-- The byte ranges of a range of characters. -/
def byteRanges (range : Char × Char) : List (UInt8 × UInt8) :=
  let single := fun (byte : UInt8) => (byte, byte)
  if range.1 = range.2 then (bytes range.1).map single
  else
    let first := bytes range.1
    let last := bytes range.2
    first.dropLast.map single ++ [(first.getLast?.getD 0, last.head?.getD 0)] ++
      last.tail.map single

/-- The class that ranges of characters form. -/
def classToken (negated : Bool) (ranges : List (Char × Char)) : PatternToken :=
  .byteClass negated (ranges.flatMap byteRanges)

/-- The state of reading a class: the ranges so far, the last first, and whether one is open. -/
structure ClassProgress where
  ranges : List (Char × Char)
  isFirst : Bool
  isOpen : Bool

/-- Takes a character of a class into account. -/
def ClassProgress.step (progress : ClassProgress) (c : Char) : Except Fault ClassProgress :=
  match progress.isOpen, progress.ranges with
  | true, (low, _) :: rest =>
    if c < low then .error .invalidRange else .ok ⟨(low, c) :: rest, false, false⟩
  | _, ranges =>
    if c = '-' ∧ !progress.isFirst then .ok ⟨ranges, false, true⟩
    else .ok ⟨(c, c) :: ranges, false, false⟩

/-- The ranges of a class up to its closing bracket, and what follows it. -/
def classRanges (progress : ClassProgress) :
    List Char → Except Fault (List (Char × Char) × List Char)
  | [] => .error .unclosedClass
  | c :: rest =>
    if c = ']' ∧ !progress.isFirst then
      let ranges := progress.ranges.reverse ++ (if progress.isOpen then [('-', '-')] else [])
      .ok (ranges, rest)
    else
      match progress.step c with
      | .error reason => .error reason
      | .ok after => classRanges after rest

/-- The class behind an opening bracket, and what follows it. -/
def readClass (text : List Char) : Except Fault (PatternToken × List Char) :=
  let negated := text.head? = some '!' ∨ text.head? = some '^'
  let body := if negated then text.tail else text
  match classRanges ⟨[], true, false⟩ body with
  | .error reason => .error reason
  | .ok (ranges, rest) => .ok (classToken negated ranges, rest)

/-- A pattern in a pair of braces as it is read: branches before this one, and this one. -/
structure Frame where
  branches : List (List (List PatternToken))
  current : List (List PatternToken)

/-- Adds tokens to each alternative of a frame. -/
def Frame.push (frame : Frame) (tokens : List PatternToken) : Frame :=
  { frame with current := frame.current.map (· ++ tokens) }

/-- Whether a frame has tokens in its current branch. -/
def Frame.hasTokens (frame : Frame) : Bool :=
  frame.current ≠ [[]]

/-- Replaces the last token of a frame's current branch, which is that of a slash. -/
def Frame.replaceLast (frame : Frame) (token : PatternToken) : Frame :=
  let kept := fun (tokens : List PatternToken) =>
    match tokens.getLast? with
    | some .leadingDirectories => tokens
    | some .everythingInside => tokens
    | _ => tokens.dropLast ++ [token]
  { frame with current := frame.current.map kept }

/-- Ends a pair of braces: each of its branches that is not empty, behind each start. -/
def Frame.close (outer inner : Frame) : Frame :=
  let branches := (inner.branches ++ [inner.current]).filter (· ≠ [[]])
  let choices := if branches.isEmpty then [[]] else branches.flatten
  { outer with
    current := outer.current.flatMap fun start => choices.map (start ++ ·) }

/-- What is known while a pattern is read: the frames, the innermost first. -/
structure Progress where
  frame : Frame
  outer : List Frame
  previous : Option Char
  /-- Whether a bracket that is never closed has been met. -/
  bracketsAreLiteral : Bool

/-- Adds tokens, behind the given character. -/
def Progress.push (progress : Progress) (c : Char) (tokens : List PatternToken) : Progress :=
  { progress with frame := progress.frame.push tokens, previous := some c }

/-- What two asterisks in a row stand for, and how much of the text behind them they take. -/
def Progress.doubleAsterisk (progress : Progress) (rest : List Char) : Progress × Nat :=
  let plain := (progress.push '*' [.anyBytes, .anyBytes], 0)
  let inBraces := !progress.outer.isEmpty
  if !progress.frame.hasTokens then
    match rest with
    | [] => (progress.push '*' [.leadingDirectories], 0)
    | '/' :: _ => (progress.push '/' [.leadingDirectories], 1)
    | _ => plain
  else if progress.previous ≠ some '/' ∧
      !(inBraces && (progress.previous == some ',' || progress.previous == some '\x7b')) then plain
  else
    let replaced := fun (token : PatternToken) (previous : Char) =>
      { progress with
        frame := progress.frame.replaceLast token
        previous := some previous }
    match rest with
    | [] => (replaced .everythingInside '*', 0)
    | '/' :: _ => (replaced .innerDirectories '/', 1)
    | c :: _ =>
      if inBraces && (c == ',' || c == '\x7d') then (replaced .everythingInside '*', 0) else plain

/-- Reads a pattern; `skip` characters of the text have been taken already. -/
def readFrom (lenient : Bool) (progress : Progress) (skip : Nat) :
    List Char → Except Fault Progress
  | [] => .ok progress
  | c :: rest =>
    match skip with
    | skip + 1 => readFrom lenient progress skip rest
    | 0 =>
      match c with
      | '?' => readFrom lenient (progress.push c [.anyByte]) 0 rest
      | '*' =>
        if rest.head? = some '*' then
          let (after, taken) := progress.doubleAsterisk rest.tail
          readFrom lenient after (taken + 1) rest
        else readFrom lenient (progress.push c [.anyBytes]) 0 rest
      | '[' =>
        if progress.bracketsAreLiteral then readFrom lenient (progress.push c (literal c)) 0 rest
        else
          match readClass rest with
          | .ok (token, after) =>
            readFrom lenient (progress.push ']' [token]) (rest.length - after.length) rest
          | .error .unclosedClass =>
            if lenient then
              readFrom lenient
                { progress.push c (literal c) with bracketsAreLiteral := true } 0 rest
            else .error .unclosedClass
          | .error reason => .error reason
      | '\x7b' =>
        readFrom lenient
          { progress with
            frame := ⟨[], [[]]⟩
            outer := progress.frame :: progress.outer
            previous := some c } 0 rest
      | '\x7d' =>
        match progress.outer with
        | [] => .error .unopenedAlternates
        | frame :: outer =>
          readFrom lenient
            { progress with
              frame := frame.close progress.frame
              outer := outer
              previous := some c } 0 rest
      | ',' =>
        if progress.outer.isEmpty then readFrom lenient (progress.push c (literal c)) 0 rest
        else
          let frame : Frame := ⟨progress.frame.branches ++ [progress.frame.current], [[]]⟩
          readFrom lenient { progress with frame := frame, previous := some c } 0 rest
      | '\\' =>
        match rest with
        | [] => .error .danglingEscape
        | escaped :: _ => readFrom lenient (progress.push escaped (literal escaped)) 1 rest
      | _ => readFrom lenient (progress.push c (literal c)) 0 rest

/-- The pattern that a text denotes.  Where that is lenient, an open bracket is a character. -/
def parse (lenient : Bool) (text : String) : Except Fault Pattern :=
  match readFrom lenient ⟨⟨[], [[]]⟩, [], none, false⟩ 0 text.toList with
  | .error reason => .error reason
  | .ok progress =>
    if progress.outer.isEmpty then .ok ⟨progress.frame.current⟩ else .error .unclosedAlternates

/-! ## Matching -/

/-- The byte of a slash. -/
def slash : UInt8 :=
  47

/-- The ends of a text, the whole first. -/
def ends : List UInt8 → List (List UInt8)
  | [] => [[]]
  | byte :: rest => (byte :: rest) :: ends rest

/-- The ends of a text that stand behind a slash. -/
def endsBehindSlash : List UInt8 → List (List UInt8)
  | [] => []
  | byte :: rest => if byte = slash then rest :: endsBehindSlash rest else endsBehindSlash rest

/-- The ends of a text with no slash before them. -/
def endsInSegment : List UInt8 → List (List UInt8)
  | [] => [[]]
  | byte :: rest =>
    if byte = slash then [byte :: rest] else (byte :: rest) :: endsInSegment rest

/-- What may remain of a text when a token has matched its start. -/
def remainders (slashesAreApart : Bool) (text : List UInt8) : PatternToken → List (List UInt8)
  | .byte value =>
    match text with
    | [] => []
    | byte :: rest => if byte = value then [rest] else []
  | .anyByte =>
    match text with
    | [] => []
    | byte :: rest => if slashesAreApart && byte == slash then [] else [rest]
  | .anyBytes => if slashesAreApart then endsInSegment text else ends text
  | .leadingDirectories => text :: endsBehindSlash text
  | .everythingInside =>
    match text with
    | [] => []
    | byte :: rest => if byte = slash then ends rest else []
  | .innerDirectories =>
    match text with
    | [] => []
    | byte :: rest => if byte = slash then rest :: endsBehindSlash rest else []
  | .byteClass negated ranges =>
    match text with
    | [] => []
    | byte :: rest =>
      let within := ranges.any fun range => range.1 ≤ byte && byte ≤ range.2
      if within != negated then [rest] else []

/-- Whether tokens match a whole text. -/
def tokensMatch (slashesAreApart : Bool) : List PatternToken → List UInt8 → Bool
  | [], text => text.isEmpty
  | token :: rest, text =>
    (remainders slashesAreApart text token).any (tokensMatch slashesAreApart rest)

/-- Whether a pattern matches a name; where slashes are apart, only two asterisks match them. -/
def isMatch (slashesAreApart : Bool) (pattern : Pattern) (name : String) : Bool :=
  pattern.alternatives = [[.leadingDirectories]] ||
    pattern.alternatives.any fun tokens => tokensMatch slashesAreApart tokens name.toUTF8.toList

end Pattern

end Guidebook
