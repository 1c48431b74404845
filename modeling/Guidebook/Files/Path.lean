import Guidebook.Text.Cut

/-!
# Paths

A path is a text that names a file or directory, with slashes between its components.  Joining and
comparing paths looks at the text alone; what a path leads to is a matter of the disk.
-/

namespace Guidebook

open Guidebook.Text

/-- The name of a file or directory. -/
structure Path where
  text : String
deriving DecidableEq, Inhabited

namespace Path

/-- One step of a path. -/
inductive Component where
  | root
  | current
  | parent
  | name (text : String)
deriving DecidableEq

/-- Whether the path starts at the root. -/
def isAbsolute (path : Path) : Bool :=
  path.text.toList.head? == some '/'

/-- The pieces of the path between its slashes. -/
def pieces (path : Path) : List String :=
  (path.text.toList.splitOn '/').map String.ofList

/-- The component that a piece stands for; empty pieces and single dots stand for none. -/
def Component.ofPiece? (piece : String) : Option Component :=
  if piece = "" ∨ piece = "." then none
  else if piece = ".." then some .parent
  else some (.name piece)

/-- The components of a path.  A single dot counts where the path starts with it. -/
def components (path : Path) : List Component :=
  let steps := path.pieces.filterMap Component.ofPiece?
  if path.isAbsolute then .root :: steps
  else if path.pieces.head? = some "." then .current :: steps
  else steps

/-- The text of a component. -/
def Component.text : Component → String
  | .root => ""
  | .current => "."
  | .parent => ".."
  | .name text => text

/-- The path of a list of components. -/
def ofComponents (components : List Component) : Path :=
  if components = [.root] then ⟨"/"⟩
  else ⟨String.intercalate "/" (components.map Component.text)⟩

/-- The path that leads on from `base` along `part`; an absolute `part` starts afresh. -/
def join (base : Path) (part : String) : Path :=
  if part.toList.head? == some '/' then ⟨part⟩
  else if base.text = "" ∨ base.text.toList.getLast? = some '/' then ⟨base.text ++ part⟩
  else ⟨base.text ++ "/" ++ part⟩

/-- The path that leads on from `base` along a list of names. -/
def joinAll (base : Path) (names : List String) : Path :=
  names.foldl join base

/-- The name at the end of the path. -/
def fileName? (path : Path) : Option String :=
  match path.components.getLast? with
  | some (.name text) => some text
  | _ => none

/-- The path less its last component; the root and the empty path have none to lose. -/
def parent? (path : Path) : Option Path :=
  match path.components.getLast? with
  | none => none
  | some .root => none
  | some _ => some (ofComponents path.components.dropLast)

/-- The paths that lead to the directories around a path, the innermost first. -/
def ancestors (path : Path) : List Path :=
  let components := path.components
  (List.range (components.length - 1)).reverse.map fun count =>
    ofComponents (components.take (count + 1))

/-- The path without slashes at its end; the root keeps one. -/
def withoutTrailingSlashes (path : Path) : Path :=
  let kept := dropTrailing '/' path.text.toList
  if kept = [] then path else ⟨String.ofList kept⟩

/-- The place of a kind of component in the order. -/
def Component.rank : Component → Nat
  | .root => 0
  | .current => 1
  | .parent => 2
  | .name _ => 3

/-- The order of components: the root, the dots, then names by their code points. -/
def Component.precedes : Component → Component → Bool
  | .name first, .name second => decide (first < second)
  | first, second => decide (first.rank < second.rank)

/-- Whether a list of components comes before another, compared from the front. -/
def componentsPrecede : List Component → List Component → Bool
  | _, [] => false
  | [], _ :: _ => true
  | first :: firstRest, second :: secondRest =>
    if first = second then componentsPrecede firstRest secondRest else first.precedes second

/-- Whether a path comes before another, compared component by component. -/
def precedes (first second : Path) : Bool :=
  componentsPrecede first.components second.components

end Path

end Guidebook
