import Guidebook.Config
import Guidebook.Markup.Rendering

/-!
# Commands

Line macros that show commands in tabs: one tab per build tool, or one per operating system.
-/

namespace Guidebook.Markup

namespace Tabs

/-- A command as it is shown in a panel. -/
def command (text : String) : String :=
  "<code class=\"language-bash hljs\" data-highlighted=\"yes\"  " ++
    "style=\"white-space: pre-line;\">" ++ text ++ "</code>"

/-- The head of a tab for a build tool. -/
def buildTab (name label number : String) (isActive : Bool) : String :=
  let state := if isActive then " ui-tabs-active ui-state-active" else ""
  let index := if isActive then "0" else "-1"
  let shown := if isActive then "true" else "false"
  s!"        <li class=\"tabs-{name} ui-tabs-tab ui-corner-top ui-state-default{state}\"" ++
    s!" role=\"tab\" tabindex=\"{index}\" aria-controls=\"{name}\"" ++
    s!" aria-labelledby=\"ui-id-{number}\" aria-selected=\"{shown}\"" ++
    s!" aria-expanded=\"{shown}\"><a name=\"{name}\" href=\"#{name}\" tabindex=\"-1\"" ++
    s!" class=\"ui-tabs-anchor\" id=\"ui-id-{number}\">{label}</a></li>\n"

/-- The panel of a tab for a build tool. -/
def buildPanel (name number content : String) (isActive : Bool) : String :=
  let hidden := if isActive then "false\"" else "true\" style=\"display: none;\""
  s!"    <div id=\"{name}\" aria-labelledby=\"ui-id-{number}\" role=\"tabpanel\"" ++
    " class=\"ui-tabs-panel ui-corner-bottom ui-widget-content\" aria-hidden=\"" ++ hidden ++
    s!">\n        {content}\n    </div>\n"

/-- Tabs for Gradle and Maven with the given contents. -/
def builds (gradle maven : String) : String :=
  "++++\n" ++
    "<div id=\"tabs-doc1\" class=\"ui-tabs ui-corner-all ui-widget ui-widget-content\">\n" ++
    "    <ul role=\"tablist\" class=\"ui-tabs-nav ui-corner-all ui-helper-reset" ++
    " ui-helper-clearfix ui-widget-header\">\n" ++
    buildTab "gradle" "Gradle" "1" true ++ buildTab "maven" "Maven" "2" false ++ "    </ul>\n" ++
    buildPanel "gradle" "1" gradle true ++ buildPanel "maven" "2" maven false ++
    "</div>\n++++\n"

/-- The panel of an operating system, with a line per variable. -/
def systemPanel (name label number visibility : String) (commands : List String) : String :=
  s!"    <div data-value=\"{name}\" data-label=\"{label}\" id=\"{name}\"" ++
    s!" aria-labelledby=\"ui-id-{number}\" role=\"tabpanel\"" ++
    " class=\"ui-tabs-panel ui-corner-bottom ui-widget-content\" aria-hidden=\"" ++ visibility ++
    "\">\n      <pre><code class=\"language-bash hljs\" data-highlighted=\"yes\">" ++
    String.join (commands.map (· ++ "\n")) ++ "</code><button>Copy</button></pre>\n    </div>\n"

/-- A word of a command with the class under which it is highlighted. -/
def highlighted (kind text : String) : String :=
  s!"<span class=\"hljs-{kind}\">{text}</span>"

/-- Tabs for Linux, Windows and PowerShell that set variables to values. -/
def systems (settings : List (String × String)) : String :=
  let lines := fun (line : String → String → String) =>
    settings.map fun entry => line entry.1 entry.2
  let setting := fun (command name value : String) =>
    highlighted "built_in" command ++ s!" {name}={value}"
  "++++\n" ++
    "<div class=\"tabs-doc ui-tabs ui-corner-all ui-widget ui-widget-content\"" ++
    " data-name=\"system\">\n" ++
    systemPanel "linux" "Linux &amp; macOS" "11" "false\" style=\"" (lines (setting "export")) ++
    systemPanel "windows" "Windows" "12" "true\" style=\"display: none;"
      (lines (setting "set")) ++
    systemPanel "windows-powershell" "Windows PowerShell" "13" "true\" style=\"display: none;"
      (lines fun name value =>
        highlighted "variable" "$ENV" ++ s!" {name} = " ++
          highlighted "string" ("\"" ++ value ++ "\"")) ++
    "</div>\n++++\n"

end Tabs

/-! ## Commands for both build tools -/

namespace BuildCommand

/-- The panel of the first attribute of a key; its values are words of the command. -/
def panel (attributes : Attributes) (key : String) : String :=
  ((attributes.find? key).map fun entry =>
    Tabs.command (String.intercalate " " entry.values)).getD ""

/-- The tabs that stand in place of an invocation. -/
def expand (invocation : Invocation) : String :=
  Tabs.builds (panel invocation.attributes "gradle") (panel invocation.attributes "maven")

def handler : Handler :=
  Handler.ofLine "gradle-maven-command" 61 fun _ invocation => .ok (some (expand invocation))

end BuildCommand

/-! ## Environment variables -/

namespace EnvironmentVariables

/-- The variables of a list of attributes, each with its first value. -/
def settings (attributes : Attributes) : List (String × String) :=
  (attributes.entries.filter fun entry => !entry.isPositional).map fun entry =>
    (entry.key, entry.value?.getD "")

/-- The tabs that stand in place of an invocation. -/
def expand (invocation : Invocation) : String :=
  Tabs.systems (settings invocation.attributes)

def handler : Handler :=
  Handler.ofLine "environment-vars" 62 fun _ invocation => .ok (some (expand invocation))

end EnvironmentVariables

/-! ## Creating an application -/

namespace CreateCommand

/-- The name of the application that a target stands for. -/
def appName (config : Config) (target : String) : String :=
  if target = "" then config.defaultAppName else target

/-- The parts of the command that creates an application. -/
def arguments (config : Config) (variant : Variant) (name : String) (app : App)
    (buildTool : BuildTool) : List String :=
  let project := if name = config.defaultAppName then config.defaultProjectName else name
  let features := app.visibleFeatures variant.language
  let testFramework := app.testFramework.getD variant.testFramework
  [s!"mn {app.applicationType.command} {app.packageName}.{project}"] ++
    (if features.isEmpty then [] else [" --features=" ++ String.intercalate "," features]) ++
    [s!" --build={buildTool.name}", s!" --lang={variant.language.name}",
      s!" --test={testFramework.name}"]

/-- The command that creates an application. -/
def command (config : Config) (variant : Variant) (name : String) (app : App)
    (buildTool : BuildTool) : String :=
  String.intercalate " \\\n" (arguments config variant name app buildTool)

/-- The tabs that stand in place of an invocation. -/
def expand (config : Config) (rendering : Rendering) (invocation : Invocation) :
    Except Error (Option String) := do
  let name := appName config invocation.target
  let app ← rendering.guide.requireApp name "create-app"
  let panel := fun (buildTool : BuildTool) =>
    Tabs.command (command config rendering.variant name app buildTool)
  return some (Tabs.builds (panel .gradle) (panel .maven))

def handler (config : Config) : Handler :=
  Handler.ofLine "create-app" 60 (expand config)

end CreateCommand

end Guidebook.Markup
