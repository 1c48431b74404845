import Guidebook.Text.Cut

/-!
# Attributes

The bracketed part of an invocation is a list of attributes.  Its pieces stand between commas, and
empty pieces do not count.  A piece with an equals sign starts an attribute: the key stands before
the first sign and the first value behind it.  A piece without one is a further value of the
attribute before it; such pieces at the start of the list form an attribute with an empty key.
-/

namespace Guidebook.Markup

open Guidebook.Text

/-- A key with its values.  The key of a positional attribute is empty. -/
structure Attribute where
  key : String
  values : List String
deriving DecidableEq

namespace Attribute

/-- Whether the attribute has no key. -/
def isPositional (entry : Attribute) : Bool :=
  entry.key = ""

/-- The first value. -/
def value? (entry : Attribute) : Option String :=
  entry.values.head?

/-- The values as they were written, with commas between them. -/
def joined (entry : Attribute) : String :=
  String.intercalate "," entry.values

/-- The attribute as it is written in a list. -/
def render (entry : Attribute) : String :=
  if entry.isPositional then entry.joined else entry.key ++ "=" ++ entry.joined

end Attribute

/-- The attributes of an invocation in their order. -/
structure Attributes where
  entries : List Attribute
deriving DecidableEq

namespace Attributes

/-- The non-empty pieces of a list. -/
def pieces (text : List Char) : List (List Char) :=
  (text.splitOn ',').filter (· ≠ [])

/-- The values at the start of a list of pieces, and the attributes behind them. -/
def group : List (List Char) → List String × List Attribute
  | [] => ([], [])
  | piece :: rest =>
    let (values, attributes) := group rest
    match cut '=' piece with
    | some (key, value) =>
      ([], ⟨String.ofList key, String.ofList value :: values⟩ :: attributes)
    | none => (String.ofList piece :: values, attributes)

/-- The attributes that a text denotes. -/
def parse (text : String) : Attributes :=
  match group (pieces text.toList) with
  | ([], attributes) => ⟨attributes⟩
  | (values, attributes) => ⟨⟨"", values⟩ :: attributes⟩

/-- The attributes as they are written, with commas between them. -/
def render (attributes : Attributes) : String :=
  String.intercalate "," (attributes.entries.map Attribute.render)

/-- The first attribute of a key. -/
def find? (attributes : Attributes) (key : String) : Option Attribute :=
  attributes.entries.find? fun entry => entry.key == key

/-- The first value of the first attribute of a key. -/
def value? (attributes : Attributes) (key : String) : Option String :=
  (attributes.find? key).bind Attribute.value?

/-- The values of every attribute of a key, in order. -/
def values (attributes : Attributes) (key : String) : List String :=
  (attributes.entries.filter fun entry => entry.key == key).flatMap Attribute.values

/-- The attributes of other keys. -/
def without (attributes : Attributes) (key : String) : Attributes :=
  ⟨attributes.entries.filter fun entry => entry.key != key⟩

/-- The text without a key, if there is one. -/
def positional? (attributes : Attributes) : Option String :=
  (attributes.entries.find? Attribute.isPositional).map Attribute.joined

end Attributes

end Guidebook.Markup
