import Guidebook.Proofs.Markup.Expansions
import Guidebook.Proofs.Text.Spans

/-!
# One pass in place of many

The handlers of line macros read the whole text one after the other, and each reads what those
before it have written.  That makes no difference to a single pass that sends each line of the text
to the one handler whose macro accepts it, since no handler writes a row that a macro accepts.
-/

namespace Guidebook.Markup

open Guidebook.Text

section Handlers

variable {config : Config} {rendering : Rendering}

/-! ## The single pass -/

/-- Whether the macro of a handler accepts a line. -/
def Handler.acceptsLine (handler : Handler) (line : Line) : Bool :=
  (Invocation.parse? handler.name line.content).isSome

/-- What a pass leaves of a line that it sends to the handler that accepts it, if there is one. -/
def expandLine
    (handlers : List Handler) (rendering : Rendering) (line : Line) :
    Except Error (List Char) :=
  match handlers.find? fun handler => handler.acceptsLine line with
  | none => .ok line.text
  | some handler =>
    (handler.substitute rendering (String.ofList line.text)).map String.toList

/-- A single pass over the lines of a text. -/
def expandLines (handlers : List Handler) (rendering : Rendering) : Pass :=
  fun text => do
    let rewritten ← (lines text.toList).mapM (expandLine handlers rendering)
    return String.ofList rewritten.flatten

/-! ## What a handler does to lines -/

/-- A handler that keeps the lines it does not accept, and writes nothing that is expanded. -/
structure ExpandsOnce (handler : Handler) (rendering : Rendering) : Prop where
  keeps :
    ∀ {text : String},
      (∀ line ∈ lines text.toList, handler.acceptsLine line = false) →
        handler.substitute rendering text = .ok text
  writes :
    ∀ {text result : String} {line : Line},
      lines text.toList = [line] →
      handler.substitute rendering text = .ok result →
        result = text ∨ EachRow Inert result.toList

/-- A line macro expands once if all it puts in place of invocations is inert. -/
theorem ofLine_expandsOnce
    {name : String} {order : Int}
    {expand : Rendering → Invocation → Except Error (Option String)}
    (inert :
      ∀ invocation replacement, invocation.StaysInRow →
        expand rendering invocation = .ok (some replacement) →
          EachRow Inert replacement.toList) :
    ExpandsOnce (Handler.ofLine name order expand) rendering where
  keeps := by
    intro text unaccepted
    refine rewriteInvocations_unaccepted fun line member => ?_
    simpa [Handler.acceptsLine, Handler.ofLine] using unaccepted line member
  writes := by
    intro text result line single succeeded
    change rewriteInvocations name (expand rendering) text = .ok result
      at succeeded
    unfold rewriteInvocations at succeeded
    rw [single, List.mapM_cons, List.mapM_nil] at succeeded
    obtain ⟨pieces, passed, same⟩ := except_bind_eq_ok.mp succeeded
    obtain ⟨piece, rewritten, collected⟩ := except_bind_eq_ok.mp passed
    cases collected
    cases same
    have whole := lines_flatMap_text text.toList
    rw [single, List.flatMap_singleton] at whole
    have member : line ∈ lines text.toList := single ▸ List.mem_singleton_self _
    have kept : String.ofList [line.text].flatten = text := by
      rw [List.flatten_singleton, whole, String.ofList_toList]
    rw [rewriteLine_eq] at rewritten
    split at rewritten
    · cases rewritten
      exact Or.inl kept
    · rename_i invocation accepted
      cases expanded : expand rendering invocation with
      | error reason =>
          rw [expanded] at rewritten
          cases rewritten
      | ok answer =>
          rw [expanded] at rewritten
          cases rewritten
          cases answer with
          | none => exact Or.inl kept
          | some replacement =>
              have stays := Invocation.parse?_staysInRow
                (lineFeed_notMem_content text.toList line member) accepted
              right
              rw [List.flatten_singleton, String.toList_ofList]
              exact (inert invocation replacement stays
                expanded).append_terminator
                inert_nil (fun row => inert_append_return.mpr)
                (terminator_of_mem_lines text.toList line member)

/-! ## One handler after the other -/

/-- Handlers keep a text of whose lines they accept none. -/
theorem runHandlers_keeps
    {handlers : List Handler}
    (once : ∀ handler ∈ handlers, ExpandsOnce handler rendering)
    {text : String}
    (unaccepted :
      ∀ handler ∈ handlers, ∀ line ∈ lines text.toList,
        handler.acceptsLine line = false) :
    runHandlers rendering handlers text = .ok text :=
  runHandlers_keep fun handler member =>
    (once handler member).keeps (unaccepted handler member)

/-- Handlers keep a text of inert rows. -/
theorem runHandlers_inert
    {handlers : List Handler}
    (once : ∀ handler ∈ handlers, ExpandsOnce handler rendering)
    (named : ∀ handler ∈ handlers, handler.name ∈ lineMacroNames)
    {text : String}
    (inert : EachRow Inert text.toList) :
    runHandlers rendering handlers text = .ok text := by
  refine runHandlers_keeps once fun handler member line line_member => ?_
  have none :=
    inert.lines (fun row => inert_append_return.mp) line line_member
      handler.name (named handler member)
  rw [Handler.acceptsLine, none]
  rfl

/--
On a text of one line, all handlers together do what the one does that accepts the line.  Those
before it keep the line, and those behind it keep what it writes.
-/
theorem runHandlers_singleLine
    {handlers : List Handler}
    (once : ∀ handler ∈ handlers, ExpandsOnce handler rendering)
    (named : ∀ handler ∈ handlers, handler.name ∈ lineMacroNames)
    (distinct : (handlers.map Handler.name).Nodup)
    {text : String} {line : Line}
    (single : lines text.toList = [line])
    (result : String) :
    runHandlers rendering handlers text = .ok result ↔
      (match handlers.find? fun handler => handler.acceptsLine line with
        | none => .ok text
        | some handler => handler.substitute rendering text :
        Except Error String) = .ok result := by
  induction handlers with
  | nil => exact Iff.rfl
  | cons handler rest ih =>
      obtain ⟨first, later⟩ := List.forall_mem_cons.mp once
      obtain ⟨_, later_named⟩ := List.forall_mem_cons.mp named
      rw [List.map_cons, List.nodup_cons] at distinct
      rw [runHandlers_cons]
      cases accepts : handler.acceptsLine line with
      | false =>
          have kept : handler.substitute rendering text = .ok text := by
            refine first.keeps ?_
            rw [single]
            exact List.forall_mem_singleton.mpr accepts
          have skipped :
              (handler :: rest).find? (fun other => other.acceptsLine line) =
                rest.find? fun other => other.acceptsLine line :=
            List.find?_cons_of_neg (by simp [accepts])
          rw [skipped]
          simp only [kept]
          exact ih later later_named distinct.2
      | true =>
          have found :
              (handler :: rest).find? (fun other => other.acceptsLine line) =
                some handler :=
            List.find?_cons_of_pos accepts
          rw [found]
          have rest_keeps :
              ∀ middle, handler.substitute rendering text = .ok middle →
                runHandlers rendering rest middle = .ok middle := by
            intro middle passed
            rcases first.writes single passed with rfl | inert
            · refine runHandlers_keeps later fun other member => ?_
              rw [single]
              refine List.forall_mem_singleton.mpr ?_
              by_contra accepted
              have same : other.name = handler.name :=
                Invocation.parse?_unique (Bool.not_eq_false _ ▸ accepted) accepts
              exact distinct.1 (List.mem_map.mpr ⟨other, member, same⟩)
            · exact runHandlers_inert later later_named inert
          constructor
          · intro succeeded
            obtain ⟨middle, passed, continued⟩ :=
              except_bind_eq_ok.mp succeeded
            rw [rest_keeps middle passed] at continued
            cases continued
            exact passed
          · intro passed
            exact except_bind_eq_ok.mpr
              ⟨result, passed, rest_keeps result passed⟩

/-! ## The handlers of line macros -/

theorem lineHandlers_distinct (config : Config) :
    ((lineHandlers config).map Handler.name).Nodup :=
  lineHandlers_names config ▸ lineMacroNames_nodup

/-- Every line macro expands once, if it writes no line feeds of its own accord. -/
theorem lineHandlers_expandOnce
    (noCode : rendering.generated = none)
    (free : WritesInRow config rendering.guide)
    (web :
      ∀ address, Url.Address.parse? config.projectGeneratorUrl = some address →
        address.scheme = "http" ∨ address.scheme = "https") :
    ∀ handler ∈ lineHandlers config, ExpandsOnce handler rendering := by
  have listing :
      ∀ kind : ListingKind,
        ExpandsOnce (ListingKind.handler kind config) rendering := by
    intro kind
    refine ofLine_expandsOnce fun invocation replacement stays expanded => ?_
    cases expanded
    exact kind.expand_inert free stays
  have shared :
      ∀ (name : String) (order : Int) (directory : String),
        NoLineFeed directory → NoLineFeed name →
          ExpandsOnce (SharedText.handler name order directory) rendering := by
    intro name order directory directory_free name_free
    have start_free : NoLineFeed (name ++ "-") :=
      name_free.append (.literal rfl)
    refine ofLine_expandsOnce fun invocation replacement stays expanded => ?_
    cases expanded
    exact SharedText.expand_inert directory_free start_free stays
  simp only [lineHandlers, List.forall_mem_cons]
  refine ⟨?diffLink, ?callout, ?common, ?dependency, listing .source,
    listing .test, listing .rawTest, listing .resource, listing .testResource,
    listing .zipInclude, ?snippet, ?guideLink, ?createApp, ?buildCommand,
    ?environment, List.forall_mem_nil _⟩
  case diffLink =>
    exact ofLine_expandsOnce fun invocation replacement _ expanded =>
      DifferenceLink.expand_inert web expanded
  case callout =>
    exact shared _ _ _ (.literal rfl) (.literal rfl)
  case common =>
    exact shared _ _ _ (.literal rfl) (.literal rfl)
  case dependency =>
    exact ofLine_expandsOnce fun invocation replacement stays expanded =>
      Dependency.expand_inert stays (Except.ok.inj expanded)
  case snippet =>
    refine ofLine_expandsOnce fun invocation replacement _ expanded => ?_
    unfold Excerpt.expand at expanded
    rw [noCode] at expanded
    cases expanded
  case guideLink =>
    exact ofLine_expandsOnce fun invocation replacement stays expanded =>
      GuideLink.expand_inert stays (Except.ok.inj expanded)
  case createApp =>
    exact ofLine_expandsOnce fun invocation replacement stays expanded =>
      (CreateCommand.expand_sheltered free stays expanded).mono
        fun row => inert_of_sheltered
  case buildCommand =>
    refine ofLine_expandsOnce fun invocation replacement stays expanded => ?_
    cases expanded
    exact (BuildCommand.expand_sheltered stays).mono
      fun row => inert_of_sheltered
  case environment =>
    refine ofLine_expandsOnce fun invocation replacement stays expanded => ?_
    cases expanded
    exact (EnvironmentVariables.expand_sheltered stays).mono
      fun row => inert_of_sheltered

/-! ## The whole text -/

theorem expandLines_divides
    (handlers : List Handler) (rendering : Rendering)
    {front : String}
    (ends : EndsLine front.toList)
    (back : String) :
    Divides (expandLines handlers rendering) front back := by
  refine Divides.of_bind ?_
  simp only [expandLines, String.toList_append, lines_append ends,
    List.mapM_append, bind_assoc, pure_bind, List.flatten_append,
    String.ofList_append]

/-- On a text of one line, the single pass does what the handler does that accepts the line. -/
theorem expandLines_singleLine
    (handlers : List Handler)
    {text : String} {line : Line}
    (single : lines text.toList = [line]) :
    expandLines handlers rendering text =
      (match handlers.find? fun handler => handler.acceptsLine line with
        | none => .ok text
        | some handler => handler.substitute rendering text) := by
  have whole := lines_flatMap_text text.toList
  rw [single, List.flatMap_singleton] at whole
  unfold expandLines expandLine
  rw [single, List.mapM_cons, List.mapM_nil, whole, String.ofList_toList]
  have collect :
      ∀ piece : String,
        Except.ok (String.ofList [piece.toList].flatten) =
          (Except.ok piece : Except Error String) := by
    intro piece
    rw [List.flatten_singleton, String.ofList_toList]
  cases handlers.find? fun handler => handler.acceptsLine line with
  | none => exact collect text
  | some handler =>
      simp only
      cases handler.substitute rendering text with
      | error reason => rfl
      | ok piece => exact collect piece

/-- The one handler whose macro accepts a line is found. -/
theorem find?_acceptsLine
    {handlers : List Handler} {handler : Handler} {line : Line}
    (distinct : (handlers.map Handler.name).Nodup)
    (member : handler ∈ handlers)
    (accepts : handler.acceptsLine line) :
    handlers.find? (fun other => other.acceptsLine line) = some handler := by
  cases found : handlers.find? fun other => other.acceptsLine line with
  | none => exact absurd accepts (List.find?_eq_none.mp found handler member)
  | some other =>
      have other_accepts : other.acceptsLine line := by
        simpa using List.find?_some found
      have same : other.name = handler.name :=
        Invocation.parse?_unique other_accepts accepts
      rw [List.inj_on_of_nodup_map distinct
        (List.mem_of_find?_eq_some found) member same]

/-- What the single pass puts in place of an invocation, in front of the end of its line. -/
theorem expandLine_ofLine
    {handlers : List Handler} {line : Line}
    {name : String} {order : Int}
    {expand : Rendering → Invocation → Except Error (Option String)}
    {invocation : Invocation} {replacement : String}
    (distinct : (handlers.map Handler.name).Nodup)
    (member : Handler.ofLine name order expand ∈ handlers)
    (single : lines line.text = [line])
    (accepted : Invocation.parse? name line.content = some invocation)
    (expanded : expand rendering invocation = .ok (some replacement)) :
    expandLine handlers rendering line =
      .ok (replacement.toList ++ line.terminator) := by
  have accepts : (Handler.ofLine name order expand).acceptsLine line :=
    Option.isSome_of_eq_some accepted
  rw [expandLine, find?_acceptsLine distinct member accepts]
  change
    (rewriteInvocations name (expand rendering)
      (String.ofList line.text)).map String.toList = _
  rw [rewriteInvocations_eq, String.toList_ofList, single]
  simp [acceptedInvocations, withAnswers, withReplacement, accepted, expanded,
    Except.map]

/--
Running the handlers of line macros one after the other over a text succeeds exactly if a single
pass over the lines into which the text falls does, which sends each line to the one handler whose
macro accepts it, and both give the same text.
-/
theorem runHandlers_eq_expandLines
    (noCode : rendering.generated = none)
    (free : WritesInRow config rendering.guide)
    (web :
      ∀ address, Url.Address.parse? config.projectGeneratorUrl = some address →
        address.scheme = "http" ∨ address.scheme = "https")
    (text : String) :
    (∀ rows, FallsInto text.toList rows ↔ rows = lines text.toList) ∧
      ∀ result,
        runHandlers rendering (lineHandlers config) text = .ok result ↔
          expandLines (lineHandlers config) rendering text = .ok result := by
  refine ⟨fun _ => fallsInto_iff, fun result => ?_⟩
  have once := lineHandlers_expandOnce noCode free web
  have distinct := lineHandlers_distinct config
  have named : ∀ handler ∈ lineHandlers config, handler.name ∈ lineMacroNames :=
    fun handler member =>
      lineHandlers_names config ▸ List.mem_map_of_mem member
  have agree :
      ∀ (content : List Char) (result : String),
        runHandlers rendering (lineHandlers config) (String.ofList content) =
            .ok result ↔
          expandLines (lineHandlers config) rendering (String.ofList content) =
            .ok result := by
    intro content
    induction content using line_induction with
    | empty =>
        intro result
        rw [runHandlers_keeps once
          fun _ _ => List.forall_mem_nil _]
        exact Iff.rfl
    | single content line single =>
        intro result
        have single' : lines (String.ofList content).toList = [line] := by
          rwa [String.toList_ofList]
        rw [expandLines_singleLine _ single',
          runHandlers_singleLine once named distinct single']
    | next front back ends front_agree back_agree =>
        intro result
        have text_ends : EndsLine (String.ofList front).toList := by
          rwa [String.toList_ofList]
        have many :=
          (runHandlers_actsByLine (lineHandlers_actByLine config rendering)).divides
            text_ends (String.ofList back) result
        have one :=
          expandLines_divides (lineHandlers config) rendering text_ends
            (String.ofList back) result
        rw [String.ofList_append, many, one]
        simp only [front_agree, back_agree]
  have whole := agree text.toList result
  rwa [String.ofList_toList] at whole

end Handlers

/-! ## Invocations of several macros -/

namespace Interleaved

def config : Config where
  projectGeneratorUrl := "http://localhost"

def rendering : Rendering where
  guide :=
    { slug := "hello"
      apps := [{ name := "default", packageName := "example.micronaut" }] }
  variant := ⟨.gradle, .java, .junit⟩

def text : String :=
  "First run\ncreate-app:default[]\r\nor take the\ndiffLink:[]\n" ++
    "source:Main[]\n\ncallout:start[]"

def command (buildTool : String) : String :=
  "mn create-app example.micronaut.micronautguide \\\n" ++
    " --build=" ++ buildTool ++ " \\\n --lang=java \\\n --test=junit"

def tabs : String :=
  Tabs.builds (Tabs.command (command "gradle")) (Tabs.command (command "maven"))

def link : String :=
  "http://localhost/?lang=JAVA&build=GRADLE&test=JUNIT&name=micronautguide" ++
    "&type=DEFAULT&package=example.micronaut&activity=diff[Diff]"

def listing : String :=
  "[source,java]\n.src/main/java/example/micronaut/Main.java\n----\n" ++
    "include::\x7bsourceDir\x7d/hello/hello-gradle-java/src/main/java/" ++
    "example/micronaut/Main.java[]\n----"

def callout : String :=
  "include::\x7bcalloutsDir\x7d/callout-start.adoc[]"

/-- What both ways of expanding the text give. -/
def expanded : String :=
  "First run\n" ++ tabs ++ "\r\nor take the\n" ++ link ++ "\n" ++ listing ++
    "\n\n" ++ callout

theorem expandLine_createApp :
    expandLine (lineHandlers config) rendering
        ⟨"create-app:default[]".toList, ['\r', '\n']⟩ =
      .ok (tabs.toList ++ ['\r', '\n']) := by
  have member : CreateCommand.handler config ∈ lineHandlers config := by
    simp [lineHandlers]
  have accepted :
      Invocation.parse? "create-app" "create-app:default[]".toList =
        some ⟨"create-app", "default", ⟨[]⟩⟩ := by
    rfl
  exact expandLine_ofLine (lineHandlers_distinct config) member rfl accepted rfl

theorem expandLine_diffLink :
    expandLine (lineHandlers config) rendering
        ⟨"diffLink:[]".toList, ['\n']⟩ =
      .ok (link.toList ++ ['\n']) := by
  have member : DifferenceLink.handler config ∈ lineHandlers config := by
    simp [lineHandlers]
  have accepted :
      Invocation.parse? "diffLink" "diffLink:[]".toList =
        some ⟨"diffLink", "", ⟨[]⟩⟩ := by
    rfl
  have shown :
      DifferenceLink.expand config rendering ⟨"diffLink", "", ⟨[]⟩⟩ =
        .ok (some link) := by
    decide +kernel
  exact expandLine_ofLine (lineHandlers_distinct config) member rfl accepted
    shown

theorem expandLine_source :
    expandLine (lineHandlers config) rendering
        ⟨"source:Main[]".toList, ['\n']⟩ =
      .ok (listing.toList ++ ['\n']) := by
  have member : ListingKind.source.handler config ∈ lineHandlers config := by
    simp [lineHandlers]
  have accepted :
      Invocation.parse? "source" "source:Main[]".toList =
        some ⟨"source", "Main", ⟨[]⟩⟩ := by
    rfl
  have shown :
      ListingKind.source.expand config rendering ⟨"source", "Main", ⟨[]⟩⟩ =
        listing := by
    decide +kernel
  exact expandLine_ofLine (lineHandlers_distinct config) member rfl accepted
    (congrArg (fun text => Except.ok (some text)) shown)

theorem expandLines_run :
    expandLines (lineHandlers config) rendering text = .ok expanded := by
  have split :
      lines text.toList =
        [⟨"First run".toList, ['\n']⟩,
          ⟨"create-app:default[]".toList, ['\r', '\n']⟩,
          ⟨"or take the".toList, ['\n']⟩, ⟨"diffLink:[]".toList, ['\n']⟩,
          ⟨"source:Main[]".toList, ['\n']⟩, ⟨[], ['\n']⟩,
          ⟨"callout:start[]".toList, []⟩] := by
    rfl
  have called :
      expandLine (lineHandlers config) rendering
          ⟨"callout:start[]".toList, []⟩ =
        .ok callout.toList := by
    rfl
  have kept :
      ∀ row ∈ ["First run".toList, "or take the".toList, []],
        expandLine (lineHandlers config) rendering ⟨row, ['\n']⟩ =
          .ok (row ++ ['\n']) := by
    simp only [List.forall_mem_cons]
    exact ⟨rfl, rfl, rfl, List.forall_mem_nil _⟩
  simp only [List.forall_mem_cons] at kept
  obtain ⟨first, second, blank, -⟩ := kept
  simp only [expandLines, split, List.mapM_cons, List.mapM_nil, first,
    expandLine_createApp, second, expandLine_diffLink, expandLine_source, blank,
    called]
  -- The long texts are put together as variables, so that none of them is evaluated.
  have assembled :
      ∀ tabs link listing callout : String,
        String.ofList
            ["First run".toList ++ ['\n'], tabs.toList ++ ['\r', '\n'],
              "or take the".toList ++ ['\n'], link.toList ++ ['\n'],
              listing.toList ++ ['\n'], [] ++ ['\n'], callout.toList].flatten =
          "First run\n" ++ tabs ++ "\r\nor take the\n" ++ link ++ "\n" ++
            listing ++ "\n\n" ++ callout := by
    intro tabs link listing callout
    simp [← String.toList_inj]
  exact congrArg Except.ok (assembled tabs link listing callout)

end Interleaved

open Interleaved in
theorem runHandlers_eq_expandLines_interleaved :
    rendering.generated = none ∧
    WritesInRow config rendering.guide ∧
    (∀ address, Url.Address.parse? config.projectGeneratorUrl = some address →
      address.scheme = "http" ∨ address.scheme = "https") ∧
    (∀ rows, FallsInto text.toList rows ↔ rows = lines text.toList) ∧
    runHandlers rendering (lineHandlers config) text = .ok expanded ∧
    expandLines (lineHandlers config) rendering text = .ok expanded := by
  have free : WritesInRow config rendering.guide :=
    { defaultAppName := (.literal rfl : NoLineFeed "default")
      defaultProjectName := (.literal rfl : NoLineFeed "micronautguide")
      packageName := (.literal rfl : NoLineFeed "example.micronaut")
      slug := (.literal rfl : NoLineFeed "hello")
      appPackage :=
        List.forall_mem_singleton.mpr
          (.literal rfl : NoLineFeed "example.micronaut")
      appFeature :=
        List.forall_mem_singleton.mpr fun language => by
          cases language <;> exact List.forall_mem_nil _ }
  have web :
      ∀ address, Url.Address.parse? config.projectGeneratorUrl = some address →
        address.scheme = "http" ∨ address.scheme = "https" := by
    intro address read
    have front :
        (Url.scheme? (Url.cleaned "http://localhost".toList)).map Prod.fst =
          some "http" := by
      decide +kernel
    exact Or.inl (Option.some.inj
      ((Url.Address.scheme_of_parse? read).symm.trans front))
  obtain ⟨split, agree⟩ := runHandlers_eq_expandLines rfl free web text
  exact ⟨rfl, free, web, split, (agree expanded).mpr expandLines_run,
    expandLines_run⟩

end Guidebook.Markup
