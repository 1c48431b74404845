import Guidebook.Proofs.Markup.ExclusionBlocks

/-!
# The standard pipeline

The handlers of the vocabulary are given in the order in which they run: the exclusions, the line
macros, the placeholders.  All but the exclusions act by line, so what the pipeline makes of a text
is put together from what it makes of its parts, if the text is cut where a line ends and where no
exclusion has a block open.
-/

namespace Guidebook.Markup

open Guidebook.Text
open ExclusionKind

variable {rendering : Rendering}

/-! ## The handlers -/

/-- The kinds of exclusions in the order of their passes. -/
def exclusionKinds (jdk : UInt32) : List ExclusionKind :=
  [.build, .languages, .jdkLowerThan jdk]

/-- The handlers of line macros in their order. -/
def lineHandlers (config : Config) : List Handler :=
  [DifferenceLink.handler config,
    SharedText.callouts,
    SharedText.commons,
    Dependency.handler,
    ListingKind.source.handler config,
    ListingKind.test.handler config,
    ListingKind.rawTest.handler config,
    ListingKind.resource.handler config,
    ListingKind.testResource.handler config,
    ListingKind.zipInclude.handler config,
    Excerpt.handler config,
    GuideLink.handler,
    CreateCommand.handler config,
    BuildCommand.handler,
    EnvironmentVariables.handler]

/-- The handlers of placeholders in their order. -/
def placeholderHandlers (config : Config) (jdk : UInt32) : List Handler :=
  [AppDescription.features.handler,
    AppDescription.featuresInWords.handler,
    AppDescription.command.handler,
    VariantDescription.handler config jdk]

/-- The handlers of the vocabulary are in order, so sorting them changes nothing. -/
theorem standard_handlers (config : Config) (jdk : UInt32) :
    (Pipeline.standard config jdk).handlers =
      (exclusionKinds jdk).map ExclusionKind.handler ++
        (lineHandlers config ++ placeholderHandlers config jdk) := by
  refine List.mergeSort_of_pairwise ?_
  have orders :
      (vocabulary config jdk).map Handler.order =
        [0, 1, 2, 10, 20, 21, 30, 40, 41, 42, 43, 44, 45, 46, 50, 60, 61, 62,
          70, 71, 72, 80] :=
    rfl
  have ascending :
      ((vocabulary config jdk).map Handler.order).Pairwise (· ≤ ·) := by
    rw [orders]
    decide
  exact (List.pairwise_map.mp ascending).imp fun before => by simpa using before

theorem standard_eq (config : Config) (jdk : UInt32) :
    Pipeline.standard config jdk = ⟨vocabulary config jdk⟩ :=
  congrArg Pipeline.mk (standard_handlers config jdk)

theorem lineHandlers_fromLine (config : Config) :
    ∀ handler ∈ lineHandlers config,
      ∃ name order expand, handler = Handler.ofLine name order expand := by
  simp only [lineHandlers, List.forall_mem_cons]
  refine ⟨?_, ?_, ?_, ?_, ?_, ?_, ?_, ?_, ?_, ?_, ?_, ?_, ?_, ?_, ?_,
    List.forall_mem_nil _⟩
  all_goals exact ⟨_, _, _, rfl⟩

theorem placeholderHandlers_fromPlaceholder
    (config : Config) (jdk : UInt32) :
    ∀ handler ∈ placeholderHandlers config jdk,
      ∃ name order expand,
        handler = Handler.ofPlaceholder name order expand := by
  simp only [placeholderHandlers, List.forall_mem_cons]
  refine ⟨?_, ?_, ?_, ?_, List.forall_mem_nil _⟩
  all_goals exact ⟨_, _, _, rfl⟩

theorem lineHandlers_actByLine (config : Config) (rendering : Rendering) :
    ∀ handler ∈ lineHandlers config,
      ActsByLine (handler.substitute rendering) := by
  intro handler member
  obtain ⟨name, order, expand, rfl⟩ :=
    lineHandlers_fromLine config handler member
  exact ofLine_actsByLine name order expand rendering

theorem placeholderHandlers_actByLine
    (config : Config) (jdk : UInt32) (rendering : Rendering) :
    ∀ handler ∈ placeholderHandlers config jdk,
      ActsByLine (handler.substitute rendering) := by
  intro handler member
  obtain ⟨name, order, expand, rfl⟩ :=
    placeholderHandlers_fromPlaceholder config jdk handler member
  exact ofPlaceholder_actsByLine name order expand rendering

/-- The pipeline runs the exclusions, then the line macros, then the placeholders. -/
theorem standard_substitute
    (config : Config) (jdk : UInt32) (rendering : Rendering) :
    (Pipeline.standard config jdk).substitute rendering =
      runHandlers rendering
        ((exclusionKinds jdk).map ExclusionKind.handler ++
          (lineHandlers config ++ placeholderHandlers config jdk)) := by
  rw [standard_eq]
  rfl

/-! ## Exclusions first -/

/-- What passes of exclusions, one after the other, leave of a text. -/
def excludeInOrder
    (variant : Variant) (kinds : List ExclusionKind) (text : String) : String :=
  kinds.foldl (fun soFar kind => kind.exclude variant soFar) text

/-- Handlers that run behind exclusions read what those leave. -/
theorem runHandlers_exclusions
    (kinds : List ExclusionKind) (handlers : List Handler) (text : String) :
    runHandlers rendering (kinds.map ExclusionKind.handler ++ handlers) text =
      runHandlers rendering handlers
        (excludeInOrder rendering.variant kinds text) := by
  induction kinds generalizing text with
  | nil => rfl
  | cons kind rest ih => exact ih (kind.exclude rendering.variant text)

/-- Passes of exclusions, one after the other, of which none has a block open at the end. -/
def NoBlockOpen (variant : Variant) : List ExclusionKind → String → Prop
  | [], _ => True
  | kind :: rest, text =>
    (kind.keep variant text).2 = false ∧
      NoBlockOpen variant rest (kind.exclude variant text)

/--
Exclusions run before handlers that act by line divide a text that is cut where a line ends and
none of them has a block open.
-/
theorem exclusions_divide
    {kinds : List ExclusionKind} {handlers : List Handler}
    (byLine :
      ∀ handler ∈ handlers, ActsByLine (handler.substitute rendering))
    {front : String}
    (ends : EndsLine front.toList)
    (closed : NoBlockOpen rendering.variant kinds front)
    (back : String) :
    Divides
      (runHandlers rendering (kinds.map ExclusionKind.handler ++ handlers))
      front back := by
  induction kinds generalizing front back with
  | nil => exact (runHandlers_actsByLine byLine).divides ends back
  | cons kind rest ih =>
      have passes :
          ∀ text, kind.handler.substitute rendering text =
            .ok (kind.exclude rendering.variant text) :=
        fun text => rfl
      rw [List.map_cons, List.cons_append, runHandlers_cons]
      refine Divides.andThen ?_ fun first passed second => ?_
      · refine Divides.of_bind ?_
        simp only [passes, exclude_append ends closed.1]
        rfl
      · rw [passes] at passed
        cases passed
        exact ih (endsLine_exclude ends) closed.2 second

/--
The pipeline succeeds on a text exactly if it succeeds on both of its parts, and then puts their
results together, wherever the text is cut at the end of a line and outside of the blocks of every
exclusion.
-/
theorem standard_substitute_append
    (config : Config) (jdk : UInt32) (rendering : Rendering)
    {front : String}
    (ends : EndsLine front.toList)
    (closed : NoBlockOpen rendering.variant (exclusionKinds jdk) front)
    (back result : String) :
    (Pipeline.standard config jdk).substitute rendering (front ++ back) =
        .ok result ↔
      ∃ first second,
        (Pipeline.standard config jdk).substitute rendering front = .ok first ∧
        (Pipeline.standard config jdk).substitute rendering back = .ok second ∧
        result = first ++ second := by
  rw [standard_substitute]
  refine exclusions_divide (fun handler member => ?_) ends closed back result
  rcases List.mem_append.mp member with line | placeholder
  · exact lineHandlers_actByLine config rendering handler line
  · exact placeholderHandlers_actByLine config jdk rendering handler placeholder

theorem standard_substitute_append_closedBlock :
    let rendering : Rendering := ⟨{}, ⟨.gradle, .java, .junit⟩, none⟩
    let front := ":exclude-for-build:maven\nGradle\n:exclude-for-build:\n"
    EndsLine front.toList ∧
    NoBlockOpen rendering.variant (exclusionKinds 17) front ∧
    (Pipeline.standard {} 17).substitute rendering front = .ok "Gradle\n" ∧
    (Pipeline.standard {} 17).substitute rendering "@lang@" = .ok "java" ∧
    (Pipeline.standard {} 17).substitute rendering (front ++ "@lang@") =
      .ok "Gradle\njava" := by
  intro rendering front
  have ends : EndsLine front.toList := Or.inr (by decide)
  have closed : NoBlockOpen rendering.variant (exclusionKinds 17) front :=
    ⟨by decide, by decide, by decide, trivial⟩
  have first :
      (Pipeline.standard {} 17).substitute rendering front =
        .ok "Gradle\n" := by
    rw [standard_substitute]
    decide +kernel
  have second :
      (Pipeline.standard {} 17).substitute rendering "@lang@" = .ok "java" := by
    rw [standard_substitute]
    decide +kernel
  have whole :=
    (standard_substitute_append {} 17 rendering ends closed "@lang@"
      "Gradle\njava").mpr ⟨_, _, first, second, by decide⟩
  exact ⟨ends, closed, first, second, whole⟩

end Guidebook.Markup
