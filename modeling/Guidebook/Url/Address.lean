import Guidebook.Text.Cut
import Guidebook.Url.Host

/-!
# Addresses

The address of a resource: a scheme, an authority, a path, a query and a fragment.  An address is
read leniently and written in one form.  In the special schemes the path is never empty and a
backslash counts as a slash.
-/

namespace Guidebook.Url

open Guidebook.Text

/-- An address in the form in which it is written. -/
structure Address where
  scheme : String
  /-- Credentials, host and port, for addresses that have two slashes before them. -/
  authority : Option String
  path : String
  query : Option String
  fragment : Option String
deriving DecidableEq

/-- The kinds of schemes. -/
inductive SchemeKind where
  | file
  | special (port : Nat)
  | other
deriving DecidableEq

/-- The kind of a scheme; a special one has a port that need not be written. -/
def SchemeKind.ofScheme : String → SchemeKind
  | "file" => .file
  | "http" => .special 80
  | "ws" => .special 80
  | "https" => .special 443
  | "wss" => .special 443
  | "ftp" => .special 21
  | _ => .other

/-- Whether backslashes count as slashes. -/
def SchemeKind.isSpecial : SchemeKind → Bool
  | .other => false
  | _ => true

/-- Whether a character separates the segments of a path. -/
def SchemeKind.isSlash (kind : SchemeKind) (c : Char) : Bool :=
  c == '/' || (kind.isSpecial && c == '\\')

/-! ## Paths -/

/-- Whether a segment is a dot, which may be encoded. -/
def isSingleDot (segment : List Char) : Bool :=
  String.ofList (segment.map Char.toLower) ∈ [".", "%2e"]

/-- Whether a segment is two dots, which may be encoded. -/
def isDoubleDot (segment : List Char) : Bool :=
  String.ofList (segment.map Char.toLower) ∈ ["..", ".%2e", "%2e.", "%2e%2e"]

/-- Whether a segment is the letter of a drive with a colon or a bar. -/
def isDrive : List Char → Bool
  | [letter, mark] => isLetter letter && (mark == ':' || mark == '|')
  | _ => false

/-- The segments before the last, which stays if it is the drive of a file. -/
def shorten (kind : SchemeKind) (segments : List (List Char)) : List (List Char) :=
  if kind = .file ∧ segments.length = 1 ∧ segments.all isDrive then segments
  else segments.dropLast

/-- A segment as it is kept behind the given ones. -/
def keptSegment (kind : SchemeKind) (before : List (List Char)) (segment : List Char) :
    List Char :=
  if kind = .file ∧ before = [] ∧ isDrive segment then segment.take 1 ++ [':'] else segment

/-- The segments of a path, dots carried out, behind those that have been read. -/
def carryDots (kind : SchemeKind) (before : List (List Char)) :
    List (List Char) → List (List Char)
  | [] => before
  | segment :: rest =>
    let closing := if rest.isEmpty then [[]] else []
    if isDoubleDot segment then carryDots kind (shorten kind before ++ closing) rest
    else if isSingleDot segment then carryDots kind (before ++ closing) rest
    else carryDots kind (before ++ [keptSegment kind before segment]) rest

/-- A path from its text behind the first slash. -/
def pathText (kind : SchemeKind) (text : List Char) : List Char :=
  let segments := (text.splitOnP kind.isSlash).map (encode isEncodedInPath)
  let carried := (carryDots kind [] segments).flatMap ('/' :: ·)
  if kind = .file then '/' :: carried.dropWhile (· = '/') else carried

/-- A path from the text that follows an authority. -/
def pathBehindAuthority (kind : SchemeKind) (text : List Char) : List Char :=
  match text with
  | [] => if kind.isSpecial then ['/'] else []
  | c :: rest => if kind.isSlash c then pathText kind rest else pathText kind (c :: rest)

/-! ## Authorities -/

/-- User name and password, which end in an at sign unless both are empty. -/
def credentialsText (text : List Char) : List Char :=
  let (user, password) := (cut ':' text).getD (text, [])
  let written := encode isEncodedInCredentials user ++
    (if password.isEmpty then [] else ':' :: encode isEncodedInCredentials password)
  if written.isEmpty then [] else written ++ ['@']

/-- The host at the start of a text, up to a colon outside brackets, and what follows it. -/
def spanHost (inside : Bool) : List Char → List Char × List Char
  | [] => ([], [])
  | c :: rest =>
    if c = ':' ∧ !inside then ([], c :: rest)
    else
      let (host, after) := spanHost (c == '[' || (inside && c != ']')) rest
      (c :: host, after)

/-- A port with its colon, left out where it goes without saying. -/
def portText? (kind : SchemeKind) : List Char → Option (List Char)
  | [] => some []
  | _ :: digits =>
    if digits.isEmpty then some []
    else do
      let port ← (natural? digits).filter (· < 65536)
      if kind = .special port then some [] else some (':' :: (toString port).toList)

/-- An authority in its one form. -/
def authority? (kind : SchemeKind) (text : List Char) : Option (List Char) := do
  let (credentials, hostAndPort) := (cutLast '@' text).getD ([], text)
  let (host, port) := spanHost false hostAndPort
  guard !(host.isEmpty && (kind.isSpecial || !port.isEmpty))
  let hostText ← if kind.isSpecial then host? host else opaqueHost? host
  let written := credentialsText credentials
  guard !(host.isEmpty && !written.isEmpty)
  return written ++ hostText.toList ++ (← portText? kind port)

/-- The host of a file; `localhost` goes without saying. -/
def fileHost? (text : List Char) : Option (List Char) :=
  if text.isEmpty then some []
  else (host? text).map fun host => if host = "localhost" then [] else host.toList

/-! ## Reading -/

/-- Whether a character ends a path. -/
def endsPath (c : Char) : Bool :=
  c == '?' || c == '#'

/-- The scheme at the start of a text, in lower case, and what follows its colon. -/
def scheme? (text : List Char) : Option (String × List Char) := do
  let (scheme, rest) ← cut ':' text
  guard ((scheme.head?.any isLetter) && scheme.all fun c =>
    isLetter c || isDigit c || ['+', '-', '.'].contains c)
  return (String.ofList (scheme.map Char.toLower), rest)

/-- Authority and path of a file. -/
def fileParts? (text : List Char) : Option (Option String × List Char) :=
  match text with
  | first :: second :: rest =>
    if SchemeKind.file.isSlash first && SchemeKind.file.isSlash second then
      let host := rest.takeWhile fun c => !SchemeKind.file.isSlash c
      if isDrive host then some (some "", pathText .file rest)
      else do
        let written ← fileHost? host
        let path := pathBehindAuthority .file (rest.drop host.length)
        let startsWithDrive := isDrive ((path.drop 1).takeWhile (· ≠ '/'))
        return (some (if startsWithDrive then "" else String.ofList written), path)
    else if SchemeKind.file.isSlash first then some (some "", pathText .file (second :: rest))
    else some (some "", pathText .file text)
  | [c] =>
    some (some "", if SchemeKind.file.isSlash c then ['/'] else pathText .file [c])
  | [] => some (some "", ['/'])

/-- Authority and path behind two slashes. -/
def authorityParts? (kind : SchemeKind) (text : List Char) :
    Option (Option String × List Char) := do
  let authority := text.takeWhile fun c => !kind.isSlash c
  let written ← authority? kind authority
  return (some (String.ofList written),
    pathBehindAuthority kind (text.drop authority.length))

/-- Authority and path, from the text between scheme and query. -/
def hierarchy? (kind : SchemeKind) (text : List Char) : Option (Option String × List Char) :=
  match kind with
  | .file => fileParts? text
  | .special _ => authorityParts? kind (text.dropWhile kind.isSlash)
  | .other =>
    match text with
    | '/' :: '/' :: rest => authorityParts? kind rest
    | '/' :: rest => some (none, pathText kind rest)
    | _ => some (none, encode isControl text)

/-- A text without the control characters and blanks at its ends, and without line breaks. -/
def cleaned (text : List Char) : List Char :=
  let isMargin := fun (c : Char) => decide (c.toNat ≤ 0x20)
  let trimmed := ((text.dropWhile isMargin).reverse.dropWhile isMargin).reverse
  trimmed.filter fun c => !(['\t', '\n', '\r'].contains c)

/-- Query and fragment, from the text that starts with a question mark or a number sign. -/
def queryAndFragment (special : Bool) (text : List Char) : Option String × Option String :=
  let (front, fragment) := match cut '#' text with
    | some (before, after) => (before, some (String.ofList (encode isEncodedInFragment after)))
    | none => (text, none)
  match front with
  | [] => (none, fragment)
  | _ :: query => (some (String.ofList (encode (isEncodedInQuery special) query)), fragment)

namespace Address

/-- The address that a text denotes. -/
def parse? (text : String) : Option Address := do
  let (scheme, rest) ← scheme? (cleaned text.toList)
  let kind := SchemeKind.ofScheme scheme
  let (authority, path) ← hierarchy? kind (rest.takeWhile fun c => !endsPath c)
  let (query, fragment) := queryAndFragment kind.isSpecial (rest.dropWhile fun c => !endsPath c)
  return ⟨scheme, authority, String.ofList path, query, fragment⟩

/-- The address as it is written. -/
def text (address : Address) : String :=
  let start := match address.authority with
    | some authority => "//" ++ authority
    | none => if "//".toList.isPrefixOf address.path.toList then "/." else ""
  address.scheme ++ ":" ++ start ++ address.path ++
    ((address.query.map ("?" ++ ·)).getD "") ++ ((address.fragment.map ("#" ++ ·)).getD "")

/-- The text of fields of a query. -/
def fieldsText (fields : List (String × String)) : String :=
  String.intercalate "&" (fields.map fun field =>
    String.ofList (encodeField field.1 ++ '=' :: encodeField field.2))

/-- The address with fields added to its query. -/
def withFields (address : Address) (fields : List (String × String)) : Address :=
  let present := (address.query.filter (· ≠ "")).map (· ++ "&")
  { address with query := some (present.getD "" ++ fieldsText fields) }

end Address

end Guidebook.Url
