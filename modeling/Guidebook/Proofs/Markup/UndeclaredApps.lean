import Guidebook.Proofs.Markup.Acceptance

/-!
# Applications that the guide does not declare

A few macros refer to an application by its name, and the guide must declare it.  Without example
code there is no other reason for which the pipeline fails, if the address of the project generator
can be read.  The pipeline does fail wherever a line that the exclusions leave refers to an
application that is not declared, since the handlers in front of its own do not touch the line.
-/

namespace Guidebook

/-! ## Declared applications -/

namespace Guide

variable {guide : Guide} {name : String}

theorem app?_eq_none_iff :
    guide.app? name = none ↔ name ∉ guide.appNames := by
  simp only [app?, appNames, List.find?_eq_none, List.mem_map, beq_iff_eq,
    not_exists, not_and]

theorem requireApp_undeclared
    (undeclared : name ∉ guide.appNames) (macroName : String) :
    guide.requireApp name macroName =
      .error (.unknownApp guide.slug name macroName guide.appNames) := by
  rw [requireApp, app?_eq_none_iff.mpr undeclared]

end Guide

namespace Markup

open Guidebook.Text

variable {config : Config} {rendering : Rendering}

/-- The macros that refer to an application. -/
def appMacroNames : List String :=
  ["diffLink", "create-app", "features", "features-words", "cli-command"]

/-- The failure of a macro that refers to an application the guide does not declare. -/
def IsUndeclaredApp (guide : Guide) (reason : Error) : Prop :=
  ∃ app macroName,
    reason = .unknownApp guide.slug app macroName guide.appNames ∧
      app ∉ guide.appNames ∧ macroName ∈ appMacroNames

theorem requireApp_failsOnly
    {macroName : String}
    (known : macroName ∈ appMacroNames)
    (guide : Guide) (name : String) :
    FailsOnly (IsUndeclaredApp guide) (guide.requireApp name macroName) := by
  unfold Guide.requireApp
  cases found : guide.app? name with
  | some app => exact .ok app
  | none =>
      exact .error
        ⟨name, macroName, rfl, Guide.app?_eq_none_iff.mp found, known⟩

/-! ## For what reasons passes fail -/

section Reasons

variable {expected : Error → Prop}

theorem rewriteInvocations_failsOnly
    {name : String} {replace : Invocation → Except Error (Option String)}
    (fails : ∀ invocation, FailsOnly expected (replace invocation))
    (text : String) :
    FailsOnly expected (rewriteInvocations name replace text) := by
  rw [rewriteInvocations_eq]
  exact (FailsOnly.mapM fun invocation _ => fails invocation).map _

theorem rewritePlaceholders_failsOnly
    {replace : Placeholder → Except Error (Option String)}
    (fails : ∀ placeholder, FailsOnly expected (replace placeholder))
    (text : String) :
    FailsOnly expected (rewritePlaceholders replace text) := by
  refine FailsOnly.bind (FailsOnly.mapM fun part _ => ?_) fun _ => .ok _
  cases part with
  | literal c => exact .ok _
  | placeholder content =>
      refine (fails content).bind fun replacement? => ?_
      cases replacement? with
      | none => exact .ok _
      | some replacement => exact .ok _

theorem runHandlers_failsOnly
    {handlers : List Handler}
    (fails :
      ∀ handler ∈ handlers, ∀ text,
        FailsOnly expected (handler.substitute rendering text))
    (text : String) :
    FailsOnly expected (runHandlers rendering handlers text) := by
  induction handlers generalizing text with
  | nil => exact .ok text
  | cons handler rest ih =>
      obtain ⟨first, later⟩ := List.forall_mem_cons.mp fails
      exact (first text).bind (ih later)

end Reasons

/-- A line macro fails for an application only, if no example code is read. -/
theorem lineHandlers_failOnly
    (noCode : rendering.generated = none)
    (readable :
      (Url.Address.parse? config.projectGeneratorUrl).isSome) :
    ∀ handler ∈ lineHandlers config, ∀ text,
      FailsOnly (IsUndeclaredApp rendering.guide)
        (handler.substitute rendering text) := by
  have never :
      ∀ (name : String) (order : Int)
        (expand : Rendering → Invocation → Option String) (text : String),
        FailsOnly (IsUndeclaredApp rendering.guide)
          ((Handler.ofLine name order fun rendering invocation =>
            .ok (expand rendering invocation)).substitute rendering text) :=
    fun _ _ _ => rewriteInvocations_failsOnly fun _ => .ok _
  obtain ⟨address, read⟩ := Option.isSome_iff_exists.mp readable
  simp only [lineHandlers, List.forall_mem_cons]
  refine ⟨?diffLink, never _ _ _, never _ _ _, never _ _ _, never _ _ _,
    never _ _ _, never _ _ _, never _ _ _, never _ _ _, never _ _ _, ?snippet,
    never _ _ _, ?createApp, never _ _ _, never _ _ _, List.forall_mem_nil _⟩
  case diffLink =>
    refine rewriteInvocations_failsOnly fun invocation => ?_
    refine FailsOnly.bind ?_ fun app => FailsOnly.bind ?_ fun _ => .ok _
    · unfold DifferenceLink.app?
      split
      · exact (requireApp_failsOnly (by decide) _ _).map some
      · exact .ok _
    · rw [DifferenceLink.generatorAddress, read]
      exact .ok address
  case snippet =>
    refine rewriteInvocations_failsOnly fun invocation => ?_
    rw [Excerpt.expand, noCode]
    exact .ok none
  case createApp =>
    refine rewriteInvocations_failsOnly fun invocation => ?_
    exact (requireApp_failsOnly (by decide) _ _).bind fun _ => .ok _

theorem placeholderHandlers_failOnly (jdk : UInt32) :
    ∀ handler ∈ placeholderHandlers config jdk, ∀ text,
      FailsOnly (IsUndeclaredApp rendering.guide)
        (handler.substitute rendering text) := by
  have ofApp :
      ∀ (description : AppDescription) (text : String),
        FailsOnly (IsUndeclaredApp rendering.guide)
          (description.handler.substitute rendering text) := by
    intro description
    have known : description.name ∈ appMacroNames := by
      cases description <;> decide
    refine rewritePlaceholders_failsOnly fun placeholder => ?_
    unfold AppDescription.expand
    split
    · exact .ok none
    · split
      · exact (requireApp_failsOnly known _ _).map _
      · exact .ok none
  simp only [placeholderHandlers, List.forall_mem_cons]
  exact ⟨ofApp .features, ofApp .featuresInWords, ofApp .command,
    rewritePlaceholders_failsOnly fun _ => .ok _, List.forall_mem_nil _⟩

/-! ## Lines on which the pipeline fails -/

/-- A pass by line succeeds on every line of a text on which it succeeds. -/
theorem ActsByLine.ok_of_mem_lines
    {pass : Pass}
    (byLine : ActsByLine pass)
    (text : List Char) :
    ∀ result, pass (String.ofList text) = .ok result →
      ∀ line ∈ lines text, ∃ piece, pass (String.ofList line.text) = .ok piece := by
  induction text using line_induction with
  | empty => exact fun _ _ => List.forall_mem_nil _
  | single content line single =>
      intro result succeeded
      have whole := lines_flatMap_text content
      rw [single, List.flatMap_singleton] at whole
      rw [single, List.forall_mem_singleton, whole]
      exact ⟨result, succeeded⟩
  | next front back ends front_lines back_lines =>
      intro result succeeded line member
      have front_ends : EndsLine (String.ofList front).toList := by
        rwa [String.toList_ofList]
      rw [String.ofList_append] at succeeded
      obtain ⟨first, second, front_passed, back_passed, _⟩ :=
        (byLine.divides front_ends _ result).mp succeeded
      rw [lines_append ends] at member
      rcases List.mem_append.mp member with inFront | inBack
      · exact front_lines first front_passed line inFront
      · exact back_lines second back_passed line inBack

/-- A row whose macro refers to an application by its name. -/
inductive RefersTo (config : Config) (row : List Char) : String → Prop where
  | create {invocation : Invocation}
      (accepted :
        Invocation.parse? "create-app" row = some invocation) :
      RefersTo config row (CreateCommand.appName config invocation.target)
  | compare {invocation : Invocation} {app : String}
      (accepted : Invocation.parse? "diffLink" row = some invocation)
      (named : invocation.attributes.value? "app" = some app) :
      RefersTo config row app

/-- What stands in place of a line is up to the macro that accepts it. -/
theorem rewriteInvocations_fails
    {name : String} {replace : Invocation → Except Error (Option String)}
    {text : String} {line : Line} {invocation : Invocation} {reason : Error}
    (single : lines text.toList = [line])
    (accepted : Invocation.parse? name line.content = some invocation)
    (fails : replace invocation = .error reason) :
    rewriteInvocations name replace text = .error reason := by
  have asked : acceptedInvocations name [line] = [invocation] := by
    simp [acceptedInvocations, accepted]
  rw [rewriteInvocations_eq, single, asked, List.mapM_cons, fails]
  rfl

theorem CreateCommand.expand_undeclared
    {invocation : Invocation}
    (undeclared :
      appName config invocation.target ∉ rendering.guide.appNames) :
    expand config rendering invocation =
      .error (.unknownApp rendering.guide.slug
        (appName config invocation.target) "create-app"
        rendering.guide.appNames) := by
  rw [expand, Guide.requireApp_undeclared undeclared]
  rfl

theorem DifferenceLink.expand_undeclared
    {invocation : Invocation} {app : String}
    (named : invocation.attributes.value? "app" = some app)
    (undeclared : app ∉ rendering.guide.appNames) :
    expand config rendering invocation =
      .error (.unknownApp rendering.guide.slug app "diffLink"
        rendering.guide.appNames) := by
  rw [expand, app?, named]
  simp only [Guide.requireApp_undeclared undeclared]
  rfl

/-- The handler of a line that refers to an application fails if the guide does not declare it. -/
theorem exists_failing_handler
    {line : Line} {app : String}
    (refers : RefersTo config line.content app)
    (undeclared : app ∉ rendering.guide.appNames)
    {text : String}
    (single : lines text.toList = [line]) :
    ∃ handler ∈ lineHandlers config,
      (Invocation.parse? handler.name line.content).isSome ∧
        ∃ reason, handler.substitute rendering text = .error reason := by
  cases refers with
  | create accepted =>
      have present : CreateCommand.handler config ∈ lineHandlers config := by
        simp [lineHandlers]
      exact ⟨_, present, Option.isSome_of_mem accepted, _,
        rewriteInvocations_fails single accepted
          (CreateCommand.expand_undeclared undeclared)⟩
  | compare accepted named =>
      have present : DifferenceLink.handler config ∈ lineHandlers config := by
        simp [lineHandlers]
      exact ⟨_, present, Option.isSome_of_mem accepted, _,
        rewriteInvocations_fails single accepted
          (DifferenceLink.expand_undeclared named undeclared)⟩

/-- On a text of one line, the handlers fail if the one does that accepts the line. -/
theorem runHandlers_fails
    {handler : Handler} {text : String} {line : Line} {reason : Error}
    (member : handler ∈ lineHandlers config)
    (single : lines text.toList = [line])
    (accepts : (Invocation.parse? handler.name line.content).isSome)
    (fails : handler.substitute rendering text = .error reason)
    (later : List Handler) :
    runHandlers rendering (lineHandlers config ++ later) text =
      .error reason := by
  obtain ⟨before, after, split⟩ := List.append_of_mem member
  have distinct : ((lineHandlers config).map Handler.name).Nodup := by
    rw [lineHandlers_names]
    exact lineMacroNames_nodup
  rw [split, List.map_append, List.nodup_append] at distinct
  obtain ⟨_, _, apart⟩ := distinct
  have kept : runHandlers rendering before text = .ok text := by
    refine runHandlers_keep fun other present => ?_
    have known : other ∈ lineHandlers config := by
      rw [split]
      exact List.mem_append_left _ present
    refine lineHandlers_keep known ?_
    rw [single, List.forall_mem_singleton]
    by_contra accepted
    have same : other.name = handler.name :=
      Invocation.parse?_unique (Option.isSome_iff_ne_none.mpr accepted) accepts
    exact apart _ (List.mem_map_of_mem present) _
      (List.mem_map_of_mem List.mem_cons_self) same
  rw [split, List.append_assoc, runHandlers_append, kept, List.cons_append,
    runHandlers_cons]
  change (handler.substitute rendering text >>= _) = _
  rw [fails]
  rfl

/-- The pipeline fails where a line that the exclusions leave refers to no declared application. -/
theorem standard_substitute_fails
    {text : String} {line : Line} {app : String} {jdk : UInt32}
    (left :
      line ∈ lines
        (excludeInOrder rendering.variant (exclusionKinds jdk) text).toList)
    (refers : RefersTo config line.content app)
    (undeclared : app ∉ rendering.guide.appNames) :
    ∃ reason,
      (Pipeline.standard config jdk).substitute rendering text =
        .error reason := by
  rw [standard_substitute, runHandlers_exclusions]
  generalize excludeInOrder rendering.variant (exclusionKinds jdk) text = rest
    at left
  have byLine :
      ActsByLine
        (runHandlers rendering
          (lineHandlers config ++ placeholderHandlers config jdk)) :=
    runHandlers_actsByLine (List.forall_mem_append.mpr
      ⟨lineHandlers_actByLine config rendering,
        placeholderHandlers_actByLine config jdk rendering⟩)
  have single : lines (String.ofList line.text).toList = [line] := by
    rw [String.toList_ofList]
    exact lines_text_of_mem_lines _ line left
  obtain ⟨handler, member, accepts, reason, fails⟩ :
      ∃ handler ∈ lineHandlers config,
        (Invocation.parse? handler.name line.content).isSome ∧
          ∃ reason,
            handler.substitute rendering (String.ofList line.text) =
              .error reason :=
    exists_failing_handler refers undeclared single
  cases outcome :
      runHandlers rendering
        (lineHandlers config ++ placeholderHandlers config jdk) rest with
  | error reason => exact ⟨reason, rfl⟩
  | ok result =>
      rw [← String.ofList_toList (s := rest)] at outcome
      obtain ⟨piece, passed⟩ :=
        byLine.ok_of_mem_lines _ result outcome line left
      rw [runHandlers_fails member single accepts fails] at passed
      cases passed

/--
Without example code, and with an address of the project generator that can be read, the pipeline
fails for no other reason than a macro that refers to an application the guide does not declare.
It does so wherever such a line is left by the exclusions.
-/
theorem standard_substitute_undeclaredApps
    (noCode : rendering.generated = none)
    (readable :
      (Url.Address.parse? config.projectGeneratorUrl).isSome)
    (jdk : UInt32) (text : String) :
    ((∃ result,
        (Pipeline.standard config jdk).substitute rendering text =
          .ok result) ∨
      ∃ app macroName,
        (Pipeline.standard config jdk).substitute rendering text =
            .error (.unknownApp rendering.guide.slug app macroName
              rendering.guide.appNames) ∧
          app ∉ rendering.guide.appNames ∧ macroName ∈ appMacroNames) ∧
    ∀ line ∈ lines
        (excludeInOrder rendering.variant (exclusionKinds jdk) text).toList,
      ∀ app, RefersTo config line.content app →
        app ∉ rendering.guide.appNames →
          ∃ reason,
            (Pipeline.standard config jdk).substitute rendering text =
              .error reason := by
  constructor
  · have fails :
        FailsOnly (IsUndeclaredApp rendering.guide)
          ((Pipeline.standard config jdk).substitute rendering text) := by
      rw [standard_substitute, runHandlers_exclusions]
      exact runHandlers_failsOnly (List.forall_mem_append.mpr
        ⟨lineHandlers_failOnly noCode readable,
          placeholderHandlers_failOnly jdk⟩) _
    cases outcome :
        (Pipeline.standard config jdk).substitute rendering text with
    | ok result => exact Or.inl ⟨result, rfl⟩
    | error reason =>
        obtain ⟨app, macroName, rfl, undeclared, known⟩ := fails reason outcome
        exact Or.inr ⟨app, macroName, rfl, undeclared, known⟩
  · intro line left app refers undeclared
    exact standard_substitute_fails left refers undeclared

theorem standard_substitute_undeclaredApps_ghost :
    let rendering : Rendering :=
      ⟨{ slug := "hello" }, ⟨.gradle, .java, .junit⟩, none⟩
    let config : Config := {}
    let text :=
      ":exclude-for-build:maven\n create-app:ghost[] \n:exclude-for-build:\n"
    rendering.generated = none ∧
    (Url.Address.parse? config.projectGeneratorUrl).isSome ∧
    (∃ line ∈ lines
        (excludeInOrder rendering.variant (exclusionKinds 17) text).toList,
      RefersTo config line.content "ghost" ∧
        "ghost" ∉ rendering.guide.appNames) ∧
    ∃ app macroName,
      (Pipeline.standard config 17).substitute rendering text =
          .error (.unknownApp "hello" app macroName []) ∧
        app ∉ rendering.guide.appNames ∧ macroName ∈ appMacroNames := by
  intro rendering config text
  have readable :
      (Url.Address.parse? config.projectGeneratorUrl).isSome := by
    decide +kernel
  let ghost : Line := ⟨" create-app:ghost[] ".toList, ['\n']⟩
  have left :
      ghost ∈ lines
        (excludeInOrder rendering.variant (exclusionKinds 17) text).toList := by
    decide +kernel
  have accepted :
      Invocation.parse? "create-app" ghost.content =
        some ⟨"create-app", "ghost", ⟨[]⟩⟩ := by
    decide +kernel
  have refers : RefersTo config ghost.content "ghost" := .create accepted
  have undeclared : "ghost" ∉ rendering.guide.appNames := List.not_mem_nil
  have noCode : rendering.generated = none := rfl
  obtain ⟨only, fails⟩ :=
    standard_substitute_undeclaredApps noCode readable 17 text
  obtain ⟨reason, failed⟩ := fails ghost left "ghost" refers undeclared
  refine ⟨noCode, readable, ⟨ghost, left, refers, undeclared⟩, ?_⟩
  rcases only with ⟨result, succeeded⟩ | shape
  · rw [failed] at succeeded
    cases succeeded
  · exact shape

end Markup

end Guidebook
