import Guidebook.CommandLine.Arguments
import Guidebook.Text.Difference
import Guidebook.Website

/-!
# Running commands

A command reads the project, does its work and leaves texts on the two output channels and an exit
code: 0 for success, 1 where guides failed or no command was given, and 2 where the command itself
could not be carried out.
-/

namespace Guidebook.CommandLine

open Guidebook.Json
open Guidebook.Markup
open Guidebook.Text

/-- The variables of the environment. -/
abbrev Environment := List (String × String)

/-- What a command leaves behind. -/
structure Outcome where
  code : Nat
  stdout : String
  stderr : String

/-! ## Colours -/

/-- The ways in which parts of the output are set off. -/
inductive Style where
  | red
  | green
  | yellow
  | bold

/-- The codes that start and end a style on a terminal. -/
def Style.codes : Style → String × String
  | .red => ("\x1b[31m", "\x1b[39m")
  | .green => ("\x1b[32m", "\x1b[39m")
  | .yellow => ("\x1b[33m", "\x1b[39m")
  | .bold => ("\x1b[1m", "\x1b[0m")

/-- A text in a style, if styles are in use. -/
def styled (inUse : Bool) (style : Style) (text : String) : String :=
  if inUse then style.codes.1 ++ text ++ style.codes.2 else text

/-- Whether the environment asks for colours where the output is no terminal. -/
def forcesColor (environment : Environment) : Bool :=
  match environment.lookup "FORCE_COLOR", environment.lookup "CLICOLOR_FORCE" with
  | some "false", _ => false
  | some text, _ => (boundedNatural? (UInt64.size - 1) text.toList).getD 1 != 0
  | none, some text => text != "0"
  | none, none => false

/-- Whether styles are in use. -/
def usesColor (arguments : Arguments) (environment : Environment) : Bool :=
  !arguments.has .noColor && (environment.lookup "NO_COLOR").isNone && forcesColor environment

/-! ## Faults -/

/-- Why a command cannot be carried out. -/
inductive Fault where
  | guides (reason : Error)
  /-- The command needs a guide, and none is named. -/
  | needsGuide
deriving DecidableEq

/-- The report on an error: its code, its message and what can be done about it. -/
def errorReport (reason : Error) : String :=
  let help := (reason.help.map fun text => s!"\n  help: {text}").getD ""
  s!"Error: {reason.code}\n\n  x {reason.message}{help}"

/-- The text of a fault on the error channel. -/
def Fault.text (inUse : Bool) : Fault → String
  | .guides reason => errorReport reason ++ "\n"
  | .needsGuide => styled inUse .red "error:" ++ " `expand` requires `--guide <SLUG>`\n"

/-- What is wrong with arguments. -/
def UsageError.message : UsageError → String
  | .unexpected argument => s!"unexpected argument '{argument}' found"
  | .unknownCommand name => s!"unrecognized subcommand '{name}'"
  | .missingValue setting => s!"a value is required for '--{setting.word}' but none was supplied"
  | .surplusValue setting =>
    s!"unexpected value for '--{setting.word}' found; no more were expected"
  | .invalidValue setting value => s!"invalid value '{value}' for '--{setting.word}'"
  | .repeated setting => s!"the argument '--{setting.word}' cannot be used multiple times"

/-- The report on arguments that are refused. -/
def UsageError.text (reason : UsageError) : String :=
  s!"error: {reason.message}\n\nFor more information, try '--help'.\n"

/-! ## The project -/

/-- What every command knows. -/
structure Context where
  root : Path
  config : Config
  jdk : UInt32
  inColor : Bool

/-- The texts on the two channels. -/
structure Output where
  stdout : String := ""
  stderr : String := ""

/-- A step of a command: it works on the project, adds to the output and may fail. -/
abbrev Step := ExceptT Fault (StateM (Workspace × Output))

namespace Step

/-- Adds to the standard channel. -/
def print (text : String) : Step Unit :=
  modify fun (workspace, output) => (workspace, { output with stdout := output.stdout ++ text })

/-- Adds to the error channel. -/
def printError (text : String) : Step Unit :=
  modify fun (workspace, output) => (workspace, { output with stderr := output.stderr ++ text })

/-- An operation on the project. -/
def ofAction {α : Type} (action : Action α) : Step α := do
  let (workspace, output) ← get
  let (result, changed) := action.run.run workspace
  set (changed, output)
  match result with
  | .ok value => return value
  | .error reason => throw (.guides reason)

end Step

/-- The directory of the project: the one that is set, or the working directory. -/
def projectRoot (arguments : Arguments) (disk : Disk) : Path :=
  match arguments.value? .path with
  | some text => ⟨text⟩
  | none => ⟨"/" ++ String.intercalate "/" disk.workingDirectory⟩

/-- The guide that is named on the command line, or else in the environment. -/
def namedGuide? (arguments : Arguments) (environment : Environment) : Option String :=
  (arguments.value? .guide).or (environment.lookup "GUIDE")

/-- Reads the configuration of the project. -/
def loadContext (arguments : Arguments) (environment : Environment) (inColor : Bool) :
    Step Context := do
  let disk ← Step.ofAction Action.disk
  let root := projectRoot arguments disk
  let loaded ← Step.ofAction (Config.load root)
  let single := (namedGuide? arguments environment).or loaded.singleGuide
  let config := { loaded with singleGuide := single }
  let jdk ← Step.ofAction (Action.ofExcept
    (config.jdkVersion (environment.lookup config.jdk.env)))
  if arguments.has .verbose then
    match Config.filePath? disk root with
    | some path => Step.printError s!"Using config {path.text}\n"
    | none => Step.printError "No config file found, using defaults\n"
    Step.printError s!"Resolved JDK {jdk.toNat}\n"
  return ⟨root, config, jdk, inColor⟩

/-- The guides of the project. -/
def loadGuides (context : Context) : Step (List Guide) :=
  Step.ofAction (Corpus.ofProject context.config context.root)

/-- Whether a report is asked for as JSON. -/
def asksForJson (arguments : Arguments) : Bool :=
  arguments.value? .format == some "json"

/-! ## Listing guides -/

/-- A guide with the names of its variants, as a record. -/
def summaryValue (entry : Guide × List Variant) : Value :=
  .object
    [("slug", .string entry.1.slug), ("title", .string entry.1.title),
      ("publish", .boolean entry.1.publish),
      ("variants", Value.strings (entry.2.map Variant.name))]

/-- A guide with the names of its variants, as lines of text. -/
def summaryText (entry : Guide × List Variant) : String :=
  let draft := if entry.1.publish then "" else " [draft]"
  s!"  {entry.1.slug} {entry.1.title} ({entry.2.length} variant(s)){draft}\n" ++
    String.join (entry.2.map fun variant => s!"    {variant.name}\n")

/-- Lists the guides and the variants in which each is rendered. -/
def runList (arguments : Arguments) (context : Context) : Step Nat := do
  let guides ← loadGuides context
  let selected := guides.filter fun guide => context.config.singleGuide.all (· == guide.slug)
  let entries := selected.map fun guide => (guide, guide.renderedVariants)
  if asksForJson arguments then
    Step.print ((Value.array (entries.map summaryValue)).compact ++ "\n")
  else if entries.isEmpty then Step.print "No guides found.\n"
  else
    Step.print (styled context.inColor .bold "Guides:" ++ "\n")
    Step.print (String.join (entries.map summaryText))
    Step.print s!"\n{entries.length} guide(s)\n"
  return 0

/-! ## Expanding a document -/

/-- A line of a difference behind its mark. -/
def changeText (inColor : Bool) (mark : String) (style : Option Style) (line : List Char) :
    String :=
  let text := mark ++ String.ofList (terminated line)
  match style with
  | some style => styled inColor style text
  | none => text

/-- The lines of an edit. -/
def editText (inColor : Bool) : Edit (List Char) → String
  | .keep lines => String.join (lines.map (changeText inColor " " none))
  | .delete lines => String.join (lines.map (changeText inColor "-" (some .red)))
  | .insert lines => String.join (lines.map (changeText inColor "+" (some .green)))

/-- The difference between two texts, line by line. -/
def differenceText (inColor : Bool) (first second : String) : String :=
  String.join
    ((difference (brokenLines first.toList) (brokenLines second.toList)).map (editText inColor))

/-- The value of a setting, read by a parser that may fail. -/
def parsedSetting? {α : Type} (arguments : Arguments) (setting : Setting)
    (parse : String → Except Error α) : Step (Option α) := do
  match arguments.value? setting with
  | none => return none
  | some text => return some (← Step.ofAction (Action.ofExcept (parse text)))

/-- Prints the document of a guide expanded for one variant, or how that differs from it. -/
def runExpand (arguments : Arguments) (slug : String) (context : Context) : Step Nat := do
  let guides ← loadGuides context
  match guides.find? fun guide => guide.slug == slug with
  | none => throw (.guides (.unknownGuide slug))
  | some guide =>
    let buildTool ← parsedSetting? arguments .build BuildTool.parse
    let language ← parsedSetting? arguments .lang Language.parse
    let variant ← Step.ofAction (Document.select guide buildTool language)
    let pipeline := Pipeline.standard context.config context.jdk
    let expanded ← Step.ofAction (Document.expand pipeline guide variant none)
    if arguments.has .diff then
      let written ← Step.ofAction (Document.read guide)
      let title := s!"{slug} ({variant.name})"
      Step.print (styled context.inColor .bold title ++ "\n")
      Step.print (differenceText context.inColor written expanded)
    else Step.print expanded
    return 0

/-! ## Checking guides -/

/-- The outcome of a check as a record. -/
def checkValue (report : CheckReport) : Value :=
  .object
    [("failures", .array (report.failures.map fun failure =>
        .object [("guide", .string failure.slug), ("message", .string failure.error.message)])),
      ("ok", .boolean report.isOk),
      ("passed", .array (report.passed.map fun entry =>
        .object [("guide", .string entry.1), ("variants", .natural entry.2)]))]

/-- A guide that failed, behind a mark. -/
def failureMark (inColor : Bool) : String :=
  "  " ++ styled inColor .red "✗" ++ " "

/-- The outcome of a check as text. -/
def printCheck (inColor : Bool) (report : CheckReport) : Step Unit := do
  if report.isOk then
    let variants := report.passed.foldl (fun count guide => count + guide.2) 0
    Step.print
      s!"Check passed: {report.passed.length} guide(s), {variants} variant(s) expanded.\n"
  else
    Step.printError "Check failed.\n"
    Step.printError s!"  passed guides: {report.passed.length}\n"
    Step.printError s!"  failed guides: {report.failures.length}\n\nFailures:\n"
    report.failures.forM fun failure =>
      Step.printError
        (failureMark inColor ++ s!"{failure.slug}: {failure.error.message}\n")

/-- Expands every variant of every guide without writing anything. -/
def runCheck (arguments : Arguments) (context : Context) : Step Nat := do
  let guides ← loadGuides context
  let report ← Step.ofAction (Check.guides context.config context.jdk guides)
  if asksForJson arguments then Step.print ((checkValue report).compact ++ "\n")
  else printCheck context.inColor report
  return if report.isOk then 0 else 1

/-! ## Building the website -/

/-- Prints a heading behind an empty line. -/
def printSection (inColor : Bool) (title : String) : Step Unit :=
  Step.print ("\n" ++ styled inColor .bold title ++ "\n")

/-- The directory to which the website is written. -/
def outputPath (arguments : Arguments) (root : Path) : Path :=
  root.join ((arguments.value? .output).getD "build/site")

/-- Renders the website into a directory. -/
def runBuild (arguments : Arguments) (context : Context) : Step Nat := do
  let output := outputPath arguments context.root
  let website : Website := ⟨context.config, context.jdk, .identity, .manifest⟩
  let report ← Step.ofAction (website.generate context.root output)
  if !report.rendered.isEmpty then
    Step.print (styled context.inColor .bold "Rendered:" ++ "\n")
    report.rendered.forM fun name =>
      Step.print ("  " ++ styled context.inColor .green "✓" ++ s!" {name}\n")
  if !report.skipped.isEmpty then
    printSection context.inColor "Skipped:"
    report.skipped.forM fun slug =>
      Step.print ("  " ++ styled context.inColor .yellow "-" ++ s!" {slug}\n")
  if !report.failures.isEmpty then
    printSection context.inColor "Failed:"
    report.failures.forM fun failure => do
      Step.printError (failureMark context.inColor ++ failure.slug ++ "\n")
      Step.printError (errorReport failure.error ++ "\n")
  let counts := s!"{report.skipped.length} skipped, {report.failures.length} failed"
  Step.print s!"\n{report.rendered.length} document(s) written to {output.text}, {counts}\n"
  return if report.failures.isEmpty then 0 else 1

/-! ## Everything -/

/-- The directories of the disk that a command line is about: the project and the output. -/
def directories (arguments : List String) (disk : Disk) : List Path :=
  match Arguments.parse arguments with
  | .error _ => []
  | .ok parsed =>
    let root := projectRoot parsed disk
    [root, outputPath parsed root]

/-- The variables of the environment that a command line looks up. -/
def environmentNames (arguments : List String) (disk : Disk) : List String :=
  match Arguments.parse arguments with
  | .error _ => []
  | .ok parsed =>
    let (loaded, _) := (Config.load (projectRoot parsed disk)).run.run ⟨disk, []⟩
    let config := loaded.toOption.getD {}
    ["NO_COLOR", "FORCE_COLOR", "CLICOLOR_FORCE", "GUIDE", config.jdk.env]

/-- Carries out a command, which leaves an exit code unless it fails. -/
def runCommand (arguments : Arguments) (environment : Environment) (inColor : Bool)
    (command : Command) : Step Nat := do
  let context := loadContext arguments environment inColor
  match command with
  | .list => runList arguments (← context)
  | .expand =>
    match namedGuide? arguments environment with
    | none => throw .needsGuide
    | some slug => runExpand arguments slug (← context)
  | .check => runCheck arguments (← context)
  | .build => runBuild arguments (← context)

/-- Runs a command line, and gives the disk as the command leaves it. -/
def run (arguments : List String) (environment : Environment) (disk : Disk) : Outcome × Disk :=
  match Arguments.parse arguments with
  | .error reason => (⟨2, "", reason.text⟩, disk)
  | .ok parsed =>
    match parsed.command with
    | none =>
      (⟨1, "", "No subcommand specified. Run `guidegen --help` for usage.\n"⟩, disk)
    | some command =>
      let inColor := usesColor parsed environment
      let step := runCommand parsed environment inColor command
      let (result, workspace, output) := step.run.run (⟨disk, []⟩, {})
      match result with
      | .ok code => (⟨code, output.stdout, output.stderr⟩, workspace.disk)
      | .error fault =>
        (⟨2, output.stdout, output.stderr ++ fault.text inColor⟩, workspace.disk)

end Guidebook.CommandLine
