import Guidebook.Files.Disk
import Guidebook.Files.Pattern
import Guidebook.Text.Blank
import Guidebook.Text.Line

/-!
# Ignored files

Entries whose names start with a dot are hidden.  Directories may hold files with rules on what to
ignore below them and what to show nevertheless.  Of the rules in a file the last one that fits an
entry counts, and files nearer to the entry come before those further away; one kind of rule file
comes before another wherever the files lie.  What an ignored directory holds is ignored with it.
-/

namespace Guidebook

open Guidebook.Text

/-- A rule on entries below a directory. -/
structure IgnoreRule where
  pattern : Pattern
  /-- Whether entries that fit are shown rather than ignored. -/
  shows : Bool
  onlyDirectories : Bool
deriving DecidableEq

namespace IgnoreRule

/-- Whether a list of characters starts with another. -/
def startsWith (text start : List Char) : Bool :=
  start.isPrefixOf text

/-- A pattern that fits at any depth, unless slashes tie it to the directory of the rule. -/
def anchored (isTied : Bool) (text : List Char) : List Char :=
  if isTied || text.contains '/' || text = "**".toList then text else "**/".toList ++ text

/-- A pattern for everything inside a directory, which the directory itself does not fit. -/
def insideOnly (text : List Char) : List Char :=
  if "/**".toList.isSuffixOf text then text ++ "/*".toList else text

/-- The rule that a line states.  Comments, empty lines and faulty patterns state none. -/
def ofLine? (line : List Char) : Option IgnoreRule := do
  guard (line.head? ≠ some '#')
  let trimmed := if "\\ ".toList.isSuffixOf line then line else trimEnd line
  guard !trimmed.isEmpty
  let isEscaped := startsWith trimmed "\\!".toList || startsWith trimmed "\\#".toList
  let shows := !isEscaped && trimmed.head? == some '!'
  let body := if isEscaped || shows then trimmed.tail else trimmed
  let isTied := body.head? == some '/'
  let body := if isTied && !isEscaped then body.tail else body
  let onlyDirectories := body.getLast? == some '/'
  let body := if onlyDirectories then body.dropLast else body
  let body := if onlyDirectories && body.getLast? == some '\\' then body.dropLast else body
  match Pattern.parse true (String.ofList (insideOnly (anchored isTied body))) with
  | .ok pattern => return ⟨pattern, shows, onlyDirectories⟩
  | .error _ => none

/-- The rules of a text, the last first.  Byte order marks in front of it do not count. -/
def ofText (text : String) : List IgnoreRule :=
  ((lineContents (text.toList.dropWhile (· = '\ufeff'))).filterMap ofLine?).reverse

/-- The text of a file up to the first line whose bytes are no text. -/
def readableText (content : ByteArray) : String :=
  let lines := (content.toList.splitOn 10).map fun bytes => String.fromUTF8? ⟨bytes.toArray⟩
  String.intercalate "\n" ((lines.takeWhile Option.isSome).filterMap id)

/-- Whether a rule fits an entry, named from the directory of the rule. -/
def fits (rule : IgnoreRule) (names : List String) (isDirectory : Bool) : Bool :=
  (!rule.onlyDirectories || isDirectory) &&
    rule.pattern.isMatch true (String.intercalate "/" names)

/-- Whether an entry is shown, if a rule of a list says so. -/
def verdict? (rules : List IgnoreRule) (names : List String) (isDirectory : Bool) : Option Bool :=
  (rules.find? fun rule => rule.fits names isDirectory).map IgnoreRule.shows

end IgnoreRule

namespace Disk

/-- The kinds of files with rules, each by the names that lead to it from its directory. -/
def ruleFiles : List (List String) :=
  [[".ignore"], [".gitignore"], [".git", "info", "exclude"]]

/-- The rules that a file at a location states. -/
def rulesAt (disk : Disk) (location : Location) : List IgnoreRule :=
  match disk.entry? location with
  | some (.file content) => IgnoreRule.ofText (IgnoreRule.readableText content)
  | _ => []

/-- Whether an entry is shown, if a rule of the given kind in a directory around it says so. -/
def verdictOfKind? (disk : Disk) (kind : List String) (location : Location) (isDirectory : Bool) :
    Option Bool :=
  (List.range location.length).reverse.findSome? fun count =>
    let rules := disk.rulesAt (location.take count ++ kind)
    IgnoreRule.verdict? rules (location.drop count) isDirectory

/-- Whether a name starts with a dot. -/
def isHiddenName (name : String) : Bool :=
  name.toList.head? == some '.'

/-- Whether an entry is shown, those around it left aside. -/
def showsEntry (disk : Disk) (location : Location) (isDirectory : Bool) : Bool :=
  match ruleFiles.findSome? fun kind => disk.verdictOfKind? kind location isDirectory with
  | some verdict => verdict
  | none => !(location.getLast?.any isHiddenName)

/-- Whether a file below a location is shown, and with it each directory on the way to it. -/
def showsBelow (disk : Disk) (start : Location) (names : List String) : Bool :=
  (List.range names.length).all fun count =>
    disk.showsEntry (start ++ names.take (count + 1)) (count + 1 < names.length)

/-- The files below a location that are not hidden and not ignored. -/
def shownFilesBelow (disk : Disk) (start : Location) : List (List String × ByteArray) :=
  (disk.filesBelow start).filter fun found => disk.showsBelow start found.1

end Disk

end Guidebook
