import Guidebook.Files.Disk
import Guidebook.Guide.Matrix
import Guidebook.Layout
import Guidebook.Log
import Guidebook.Markup.Invocation
import Guidebook.Markup.Placeholder

/-!
# Renderings and handlers

A document is expanded for one variant of its guide by handlers, each of which rewrites what it
knows in one pass over the text.  Handlers run in ascending order, those of equal order as they
were given; the first that fails ends the run.
-/

namespace Guidebook.Markup

/-- The example code that has been generated, below a directory of a disk. -/
structure GeneratedCode where
  disk : Disk
  root : Path

/-- A variant of a guide for which a document is expanded. -/
structure Rendering where
  guide : Guide
  variant : Variant
  generated : Option GeneratedCode := none

namespace Rendering

/-- The language of the variant. -/
def language (rendering : Rendering) : Language :=
  rendering.variant.language

/-- The name of the directory and of the document of the variant. -/
def variantName (rendering : Rendering) : String :=
  Layout.variantName rendering.guide.slug rendering.variant

end Rendering

/-- One way of rewriting a document. -/
structure Handler where
  name : String
  /-- Whether the handler answers to a name: to its own alone, unless it says otherwise. -/
  handles : String → Bool := fun wanted => name == wanted
  order : Int
  substitute : Rendering → String → Except Error String
  /-- What a pass over a text reports. -/
  notices : Rendering → String → Log := fun _ _ => []

namespace Handler

/-- A handler of a line macro. -/
def ofLine (name : String) (order : Int)
    (expand : Rendering → Invocation → Except Error (Option String)) : Handler where
  name := name
  order := order
  substitute := fun rendering text => rewriteInvocations name (expand rendering) text

/-- A handler of placeholders. -/
def ofPlaceholder (name : String) (order : Int)
    (expand : Rendering → Placeholder → Except Error (Option String)) : Handler where
  name := name
  order := order
  substitute := fun rendering text => rewritePlaceholders (expand rendering) text

end Handler

/-- Handlers in the order in which they run. -/
structure Pipeline where
  handlers : List Handler

namespace Pipeline

/-- The pipeline of a list of handlers. -/
def ofHandlers (handlers : List Handler) : Pipeline :=
  ⟨handlers.mergeSort fun first second => first.order ≤ second.order⟩

/-- The first handler that handles a name. -/
def find? (pipeline : Pipeline) (name : String) : Option Handler :=
  pipeline.handlers.find? fun handler => handler.handles name

/-- A text after every handler has rewritten it. -/
def substitute (pipeline : Pipeline) (rendering : Rendering) (text : String) :
    Except Error String :=
  pipeline.handlers.foldlM (fun soFar handler => handler.substitute rendering soFar) text

/-- What the passes of handlers over a text report, up to the first that fails. -/
def noticesOf (rendering : Rendering) : List Handler → String → Log
  | [], _ => []
  | handler :: rest, text =>
    handler.notices rendering text ++
      match handler.substitute rendering text with
      | .ok rewritten => noticesOf rendering rest rewritten
      | .error _ => []

/-- What expanding a text reports. -/
def notices (pipeline : Pipeline) (rendering : Rendering) (text : String) : Log :=
  noticesOf rendering pipeline.handlers text

end Pipeline

end Guidebook.Markup
