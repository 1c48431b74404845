import Guidebook.Markup.Rendering

/-!
# Exclusions

A block of lines between two marker lines is left out of the variants that the first marker names.
The markers are left out always.  A marker without parameters ends a block; one with parameters
starts a block, unless one is open.  A block that is never ended stays as it is written.
-/

namespace Guidebook.Markup

open Guidebook.Text

/-- What a block can be excluded for. -/
inductive ExclusionKind where
  | build
  | languages
  /-- JDK versions lower than the one that a block names; the version of this run is given. -/
  | jdkLowerThan (jdk : UInt32)
deriving DecidableEq

namespace ExclusionKind

/-- The name in markers. -/
def name : ExclusionKind → String
  | .build => "exclude-for-build"
  | .languages => "exclude-for-languages"
  | .jdkLowerThan _ => "exclude-for-jdk-lower-than"

def order : ExclusionKind → Int
  | .build => 0
  | .languages => 1
  | .jdkLowerThan _ => 2

/-- The start of a marker. -/
def marker (kind : ExclusionKind) : List Char :=
  ':' :: kind.name.toList ++ [':']

/-- Whether a single parameter names a variant. -/
def matchesOne (kind : ExclusionKind) (variant : Variant) (parameter : List Char) : Bool :=
  match kind with
  | .build => equalIgnoringCase parameter variant.buildTool.name.toList
  | .languages => equalIgnoringCase parameter variant.language.name.toList
  | .jdkLowerThan jdk => (word32? parameter).any fun required => jdk < required

/-- Whether one of the parameters between commas names a variant. -/
def Matches (kind : ExclusionKind) (variant : Variant) (parameters : List Char) : Bool :=
  (parameters.splitOn ',').any fun parameter => kind.matchesOne variant (trim parameter)

end ExclusionKind

/-- The rest of a text that starts with the given one. -/
def afterStart? : List Char → List Char → Option (List Char)
  | [], text => some text
  | _ :: _, [] => none
  | expected :: start, c :: text => if expected = c then afterStart? start text else none

/-- The parameters of a marker line. -/
def parameters? (marker : List Char) (line : Line) : Option (List Char) :=
  afterStart? marker (trim line.content)

/-- A block that is open: its opener and the lines behind it so far. -/
structure OpenBlock where
  opener : Line
  body : List Line
  isExcluded : Bool

namespace OpenBlock

/-- The block with one more line. -/
def add (block : OpenBlock) (line : Line) : OpenBlock :=
  { block with body := block.body ++ [line] }

/-- What stays of the block when it is ended. -/
def kept (block : OpenBlock) : List Line :=
  if block.isExcluded then [] else block.body

/-- What stays of the block when it is never ended. -/
def written (block : OpenBlock) : List Line :=
  block.opener :: block.body

end OpenBlock

/-- The lines that stay, and whether a block is never ended. -/
def keepLines (marker : List Char) (excludes : List Char → Bool) :
    Option OpenBlock → List Line → List Line × Bool
  | none, [] => ([], false)
  | some block, [] => (block.written, true)
  | none, line :: rest =>
    match parameters? marker line with
    | some (c :: more) => keepLines marker excludes (some ⟨line, [], excludes (c :: more)⟩) rest
    | _ =>
      let (kept, isOpen) := keepLines marker excludes none rest
      (line :: kept, isOpen)
  | some block, line :: rest =>
    match parameters? marker line with
    | some [] =>
      let (kept, isOpen) := keepLines marker excludes none rest
      (block.kept ++ kept, isOpen)
    | _ => keepLines marker excludes (some (block.add line)) rest

namespace ExclusionKind

/-- The lines of a text that stay in a variant, and whether a block is never ended. -/
def keep (kind : ExclusionKind) (variant : Variant) (text : String) : List Line × Bool :=
  keepLines kind.marker (kind.Matches variant) none (lines text.toList)

/-- A text without the blocks that are excluded. -/
def exclude (kind : ExclusionKind) (variant : Variant) (text : String) : String :=
  String.ofList ((kind.keep variant text).1.flatMap Line.text)

/-- The warning of a block that is never ended. -/
def notices (kind : ExclusionKind) (rendering : Rendering) (text : String) : Log :=
  if (kind.keep rendering.variant text).2 then
    let marker := String.ofList kind.marker
    [.warning s!"unterminated `{marker}` block in guide {rendering.guide.slug}, keeping it"]
  else []

/-- The handler of the markers of a kind. -/
def handler (kind : ExclusionKind) : Handler where
  name := kind.name
  order := kind.order
  substitute := fun rendering text => .ok (kind.exclude rendering.variant text)
  notices := kind.notices

end ExclusionKind

end Guidebook.Markup
