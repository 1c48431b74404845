import Guidebook.Markup.Command
import Guidebook.Proofs.Markup.AttributeLists
import Guidebook.Proofs.Markup.WrittenRows
import Mathlib.Algebra.Order.BigOperators.Group.List
import Mathlib.Algebra.Order.Ring.Nat

/-!
# Values in tabs

Tabs hold what they show in fixed places of a text that depends on nothing else: settings in a row
of each of three panels, commands in one of two panels.  A value that is written in several parts,
with commas between them, is not shown whole.  The tabs of environment variables have the first part
only, so their text is shorter than it would be with the whole values; the tabs of a command have
blanks in place of the commas.
-/

namespace Guidebook.Markup

open Guidebook.Text

namespace Tabs

/-! ## Places in a text -/

/-- A text that holds another in one place and does not depend on it otherwise. -/
def HoldsOnce (whole : String → String) : Prop :=
  ∃ lead tail, ∀ part, whole part = lead ++ part ++ tail

theorem HoldsOnce.injective
    {whole : String → String} (holds : HoldsOnce whole) :
    Function.Injective whole := by
  obtain ⟨lead, tail, same⟩ := holds
  intro part other equal
  rwa [same, same, String.append_left_inj, String.append_right_inj] at equal

theorem HoldsOnce.length_eq
    {whole : String → String} (holds : HoldsOnce whole) (part : String) :
    (whole part).length = (whole "").length + part.length := by
  obtain ⟨lead, tail, same⟩ := holds
  rw [same, same, String.length_append, String.length_append,
    String.length_append, String.length_append, String.length_empty]
  omega

/-- The row in which a command of a shell sets a variable. -/
def settingRow (shellCommand name value : String) : String :=
  highlighted "built_in" shellCommand ++ s!" {name}={value}"

/-- The row that sets a variable in PowerShell. -/
def assignRow (name value : String) : String :=
  highlighted "variable" "$ENV" ++ s!" {name} = " ++
    highlighted "string" ("\"" ++ value ++ "\"")

theorem holdsOnce_command : HoldsOnce command :=
  ⟨_, _, fun _ => rfl⟩

theorem holdsOnce_highlighted (kind : String) :
    HoldsOnce (highlighted kind) :=
  ⟨_, _, fun _ => rfl⟩

theorem holdsOnce_settingRow (shellCommand name : String) :
    HoldsOnce (settingRow shellCommand name) := by
  refine ⟨highlighted "built_in" shellCommand ++ s!" {name}=", "", fun value => ?_⟩
  rw [String.append_empty, String.append_assoc]
  rfl

theorem holdsOnce_assignRow (name : String) :
    HoldsOnce (assignRow name) := by
  obtain ⟨lead, tail, same⟩ := holdsOnce_highlighted "string"
  refine ⟨highlighted "variable" "$ENV" ++ s!" {name} = " ++ (lead ++ "\""), "\"" ++ tail,
    fun value => ?_⟩
  rw [assignRow, same]
  simp only [String.append_assoc]

theorem exists_buildPanel (name number : String) (isActive : Bool) :
    ∃ lead tail, ∀ content,
      buildPanel name number content isActive = lead ++ content ++ tail := by
  have opened :
      ∃ front, ∀ content,
        buildPanel name number content isActive =
          front ++ (">\n        " ++ content ++ "\n    </div>\n") :=
    ⟨_, fun _ => rfl⟩
  obtain ⟨front, opened⟩ := opened
  refine ⟨front ++ ">\n        ", "\n    </div>\n", fun content => ?_⟩
  rw [opened]
  simp only [String.append_assoc]

/-! ## Tabs for build tools -/

/-- Tabs that hold two panels in one place each. -/
def HoldPanels (tabs : String → String → String) : Prop :=
  ∃ lead middle tail, ∀ gradle maven,
    tabs gradle maven = lead ++ gradle ++ middle ++ maven ++ tail

theorem holdPanels_builds : HoldPanels builds := by
  -- Only the frame matters, not which literals it is made of: it is left to unification.
  have framed :
      ∃ lead tail, ∀ gradle maven,
        builds gradle maven =
          lead ++ buildPanel "gradle" "1" gradle true ++
            buildPanel "maven" "2" maven false ++ tail :=
    ⟨_, _, fun _ _ => rfl⟩
  obtain ⟨lead, tail, framed⟩ := framed
  obtain ⟨first, second, gradlePanel⟩ := exists_buildPanel "gradle" "1" true
  obtain ⟨third, fourth, mavenPanel⟩ := exists_buildPanel "maven" "2" false
  refine ⟨lead ++ first, second ++ third, fourth ++ tail, fun gradle maven => ?_⟩
  rw [framed, gradlePanel, mavenPanel]
  simp only [String.append_assoc]

/-- Panels of one length are told by the tabs. -/
theorem builds_inj
    {gradle other maven another : String}
    (sameLength : gradle.length = other.length) :
    builds gradle maven = builds other another ↔
      gradle = other ∧ maven = another := by
  obtain ⟨lead, middle, tail, framed⟩ := holdPanels_builds
  constructor
  · intro same
    rw [framed, framed, String.append_left_inj] at same
    simp only [String.append_assoc, String.append_right_inj] at same
    -- The first panels are of one length, so the texts behind them start at one place.
    have characters := congrArg String.toList same
    simp only [String.toList_append (s := gradle), String.toList_append (s := other)] at characters
    have counts : gradle.toList.length = other.toList.length := by
      rw [String.length_toList, String.length_toList]
      exact sameLength
    obtain ⟨first, second⟩ := List.append_inj characters counts
    have behind := String.toList_inj.mp second
    rw [String.append_right_inj] at behind
    exact ⟨String.toList_inj.mp first, behind⟩
  · rintro ⟨rfl, rfl⟩
    rfl

/-! ## Tabs for operating systems -/

/-- A row for each setting. -/
def rows (row : String → String → String) (settings : List (String × String)) : String :=
  String.join (settings.map fun entry => row entry.1 entry.2 ++ "\n")

/-- Tabs that hold a row for each setting in one place of each of three panels. -/
def HoldRows (tabs : List (String × String) → String) : Prop :=
  ∃ lead windows powerShell tail, ∀ settings,
    tabs settings =
      lead ++ rows (settingRow "export") settings ++ windows ++ rows (settingRow "set") settings ++
        powerShell ++ rows assignRow settings ++ tail

theorem exists_systemPanel (name label number visibility : String) :
    ∃ lead tail, ∀ (row : String → String → String) settings,
      systemPanel name label number visibility
          (settings.map fun entry => row entry.1 entry.2) =
        lead ++ rows row settings ++ tail := by
  have framed :
      ∃ lead tail, ∀ commands,
        systemPanel name label number visibility commands =
          lead ++ String.join (commands.map (· ++ "\n")) ++ tail :=
    ⟨_, _, fun _ => rfl⟩
  obtain ⟨lead, tail, framed⟩ := framed
  refine ⟨lead, tail, fun row settings => ?_⟩
  rw [framed, List.map_map]
  rfl

theorem holdRows_systems : HoldRows systems := by
  have framed :
      ∃ lead tail, ∀ settings,
        systems settings =
          lead ++ systemPanel "linux" "Linux &amp; macOS" "11" "false\" style=\""
              (settings.map fun entry => settingRow "export" entry.1 entry.2) ++
            systemPanel "windows" "Windows" "12" "true\" style=\"display: none;"
              (settings.map fun entry => settingRow "set" entry.1 entry.2) ++
            systemPanel "windows-powershell" "Windows PowerShell" "13"
              "true\" style=\"display: none;"
              (settings.map fun entry => assignRow entry.1 entry.2) ++ tail :=
    ⟨_, _, fun _ => rfl⟩
  obtain ⟨lead, tail, framed⟩ := framed
  obtain ⟨first, second, linux⟩ :=
    exists_systemPanel "linux" "Linux &amp; macOS" "11" "false\" style=\""
  obtain ⟨third, fourth, windows⟩ :=
    exists_systemPanel "windows" "Windows" "12" "true\" style=\"display: none;"
  obtain ⟨fifth, sixth, powerShell⟩ :=
    exists_systemPanel "windows-powershell" "Windows PowerShell" "13"
      "true\" style=\"display: none;"
  refine ⟨lead ++ first, second ++ third, fourth ++ fifth, sixth ++ tail, fun settings => ?_⟩
  rw [framed, linux, windows, powerShell]
  simp only [String.append_assoc]

section Lengths

variable {α : Type} (members : List α) (name value : α → String)

theorem length_rows
    {row : String → String → String}
    (holds : ∀ name, HoldsOnce (row name)) :
    (rows row (members.map fun member => (name member, value member))).length =
      (rows row (members.map fun member => (name member, ""))).length +
        (members.map fun member => (value member).length).sum := by
  unfold rows
  induction members with
  | nil => rfl
  | cons member rest ih =>
      simp only [List.map_cons, String.join_cons, String.length_append, List.sum_cons, ih]
      rw [(holds (name member)).length_eq (value member)]
      omega

/-- Each character of a value is shown three times. -/
theorem length_systems :
    (systems (members.map fun member => (name member, value member))).length =
      (systems (members.map fun member => (name member, ""))).length +
        3 * (members.map fun member => (value member).length).sum := by
  obtain ⟨lead, windows, powerShell, tail, framed⟩ := holdRows_systems
  rw [framed, framed]
  simp only [String.length_append]
  rw [length_rows members name value (holdsOnce_settingRow "export"),
    length_rows members name value (holdsOnce_settingRow "set"),
    length_rows members name value holdsOnce_assignRow]
  omega

variable {members name value} {other : α → String}

/-- Values that are no longer than others are shown alike only if they are as long. -/
theorem length_eq_of_systems_eq
    (bounded : ∀ member ∈ members, (value member).length ≤ (other member).length)
    (same :
      systems (members.map fun member => (name member, value member)) =
        systems (members.map fun member => (name member, other member))) :
    ∀ member ∈ members, (value member).length = (other member).length := by
  have lengths := congrArg String.length same
  rw [length_systems members name value, length_systems members name other] at lengths
  intro member present
  refine (bounded member present).antisymm (not_lt.mp fun shorter => ?_)
  have total := List.sum_lt_sum _ _ bounded ⟨member, present, shorter⟩
  omega

end Lengths

end Tabs

/-! ## Values in several parts -/

namespace Attribute

variable {entry : Attribute}

/-- The first value starts the whole, and something follows it unless it is the only one. -/
theorem exists_joined_eq (valued : entry.values ≠ []) :
    ∃ rest, entry.joined = entry.value?.getD "" ++ rest ∧
      (rest = "" ↔ entry.values.length = 1) := by
  obtain ⟨first, more, same⟩ := List.exists_cons_of_ne_nil valued
  have found : entry.value?.getD "" = first := by
    rw [value?, same]
    rfl
  rw [found, joined, same]
  cases more with
  | nil => exact ⟨"", by simp⟩
  | cons next others =>
      refine ⟨"," ++ String.intercalate "," (next :: others), ?_, ?_⟩
      · rw [String.intercalate_cons_cons, String.append_assoc]
      · simp

/-- Parts with blanks between them are the parts with commas only if there is just one. -/
theorem intercalate_blank_eq_joined_iff (valued : entry.values ≠ []) :
    String.intercalate " " entry.values = entry.joined ↔ entry.values.length = 1 := by
  obtain ⟨first, more, same⟩ := List.exists_cons_of_ne_nil valued
  rw [joined, same]
  cases more with
  | nil => simp
  | cons next others =>
      rw [String.intercalate_cons_cons, String.intercalate_cons_cons, String.append_assoc,
        String.append_assoc, String.append_right_inj, ← String.toList_inj]
      simp

theorem length_intercalate_blank :
    (String.intercalate " " entry.values).length = entry.joined.length := by
  unfold joined
  induction entry.values with
  | nil => rfl
  | cons first more ih =>
      cases more with
      | nil => rfl
      | cons next others =>
          have separators : " ".length = ",".length := by decide
          rw [String.intercalate_cons_cons, String.intercalate_cons_cons]
          simp only [String.length_append, ih, separators]

end Attribute

theorem Attributes.parse_valued (text : String) :
    ∀ entry ∈ (parse text).entries, entry.values ≠ [] := by
  rw [parse_eq]
  exact ofGroups_valued (group_valued _)

variable {attributes : Attributes}

namespace EnvironmentVariables

/-- The variables of a list of attributes, each with its whole value. -/
def wholeSettings (attributes : Attributes) : List (String × String) :=
  (attributes.entries.filter fun entry => !entry.isPositional).map fun entry =>
    (entry.key, entry.joined)

/-- Tabs show whole values only if each variable has its value in one part. -/
theorem systems_settings_eq_iff
    (valued : ∀ entry ∈ attributes.entries, entry.values ≠ []) :
    Tabs.systems (settings attributes) = Tabs.systems (wholeSettings attributes) ↔
      ∀ entry ∈ attributes.entries, entry.key ≠ "" → entry.values.length = 1 := by
  have named :
      ∀ entry, entry ∈ attributes.entries.filter (fun entry => !entry.isPositional) ↔
        entry ∈ attributes.entries ∧ entry.key ≠ "" := by
    simp [Attribute.isPositional]
  constructor
  · intro same entry member nonempty
    -- Texts of other lengths differ, wherever in them the settings stand.
    have first_bounded :
        ∀ entry ∈ attributes.entries.filter (fun entry => !entry.isPositional),
          (entry.value?.getD "").length ≤ entry.joined.length := by
      intro entry member
      have present := ((named entry).mp member).1
      obtain ⟨rest, whole, _⟩ := Attribute.exists_joined_eq (valued entry present)
      rw [whole, String.length_append]
      exact Nat.le_add_right _ _
    have equal :=
      Tabs.length_eq_of_systems_eq first_bounded same entry
        ((named entry).mpr ⟨member, nonempty⟩)
    obtain ⟨rest, whole, only⟩ := Attribute.exists_joined_eq (valued entry member)
    rw [whole, String.length_append] at equal
    refine only.mp (String.length_eq_zero_iff.mp ?_)
    omega
  · intro single
    refine congrArg Tabs.systems (List.map_congr_left fun entry member => ?_)
    obtain ⟨present, nonempty⟩ := (named entry).mp member
    obtain ⟨rest, whole, only⟩ := Attribute.exists_joined_eq (valued entry present)
    rw [whole, only.mpr (single entry present nonempty), String.append_empty]

end EnvironmentVariables

namespace BuildCommand

/-- The panel that shows the whole value of the first attribute of a key. -/
def wholePanel (attributes : Attributes) (key : String) : String :=
  ((attributes.find? key).map fun entry => Tabs.command entry.joined).getD ""

theorem length_panel (attributes : Attributes) (key : String) :
    (panel attributes key).length = (wholePanel attributes key).length := by
  unfold panel wholePanel
  cases attributes.find? key with
  | none => rw [Option.map_none, Option.map_none]
  | some entry =>
      rw [Option.map_some, Option.map_some, Option.getD_some, Option.getD_some,
        Tabs.holdsOnce_command.length_eq, Tabs.holdsOnce_command.length_eq entry.joined,
        Attribute.length_intercalate_blank]

theorem panel_eq_wholePanel_iff
    (valued : ∀ entry ∈ attributes.entries, entry.values ≠ []) (key : String) :
    panel attributes key = wholePanel attributes key ↔
      ∀ entry, attributes.find? key = some entry → entry.values.length = 1 := by
  unfold panel wholePanel
  cases found : attributes.find? key with
  | none => simp
  | some entry =>
      have member : entry ∈ attributes.entries := List.mem_of_find?_eq_some found
      rw [Option.map_some, Option.map_some, Option.getD_some, Option.getD_some,
        Tabs.holdsOnce_command.injective.eq_iff,
        Attribute.intercalate_blank_eq_joined_iff (valued entry member)]
      simp

/-- Tabs show the whole commands only if each has its text in one part. -/
theorem builds_panel_eq_iff
    (valued : ∀ entry ∈ attributes.entries, entry.values ≠ []) :
    Tabs.builds (panel attributes "gradle") (panel attributes "maven") =
        Tabs.builds (wholePanel attributes "gradle") (wholePanel attributes "maven") ↔
      ∀ key ∈ ["gradle", "maven"], ∀ entry,
        attributes.find? key = some entry → entry.values.length = 1 := by
  rw [Tabs.builds_inj (length_panel attributes "gradle"),
    panel_eq_wholePanel_iff valued, panel_eq_wholePanel_iff valued]
  simp

end BuildCommand

/-! ## Tabs in place of rows -/

namespace Tabs

open Invocation

variable {text : String}

theorem substitute_environmentVariables
    (inRow : '\n' ∉ text.toList)
    (rendering : Rendering) :
    EnvironmentVariables.handler.substitute rendering (row "environment-vars" "" text) =
      .ok (systems (EnvironmentVariables.settings (Attributes.parse text))) :=
  Handler.ofLine_substitute_row (IsWord.of_all rfl (by decide)) .empty inRow rendering

theorem substitute_buildCommand
    (inRow : '\n' ∉ text.toList)
    (rendering : Rendering) :
    BuildCommand.handler.substitute rendering (row "gradle-maven-command" "" text) =
      .ok (builds (BuildCommand.panel (Attributes.parse text) "gradle")
        (BuildCommand.panel (Attributes.parse text) "maven")) :=
  Handler.ofLine_substitute_row (IsWord.of_all rfl (by decide)) .empty inRow rendering

/--
The tabs of environment variables have a row for each setting in each of their panels, and the tabs
of a command have what Gradle and Maven are to run.  They show the values that they are given, with
commas between the parts of one, if and only if each value that they take is in one part.
-/
theorem tabs_show_whole_values_iff
    (inRow : '\n' ∉ text.toList)
    (rendering : Rendering) :
    let attributes := Attributes.parse text
    let settingTabs :=
      EnvironmentVariables.handler.substitute rendering (row "environment-vars" "" text)
    let commandTabs :=
      BuildCommand.handler.substitute rendering (row "gradle-maven-command" "" text)
    HoldRows systems ∧ HoldPanels builds ∧
      (settingTabs = .ok (systems (EnvironmentVariables.settings attributes)) ∧
        (settingTabs = .ok (systems (EnvironmentVariables.wholeSettings attributes)) ↔
          ∀ entry ∈ attributes.entries, entry.key ≠ "" → entry.values.length = 1)) ∧
      (commandTabs =
          .ok (builds (BuildCommand.panel attributes "gradle")
            (BuildCommand.panel attributes "maven")) ∧
        (commandTabs =
            .ok (builds (BuildCommand.wholePanel attributes "gradle")
              (BuildCommand.wholePanel attributes "maven")) ↔
          ∀ key ∈ ["gradle", "maven"], ∀ entry,
            attributes.find? key = some entry → entry.values.length = 1)) := by
  intro attributes settingTabs commandTabs
  have valued : ∀ entry ∈ attributes.entries, entry.values ≠ [] :=
    Attributes.parse_valued text
  have settings_shown :
      settingTabs = .ok (systems (EnvironmentVariables.settings attributes)) :=
    substitute_environmentVariables inRow rendering
  have commands_shown :
      commandTabs =
        .ok (builds (BuildCommand.panel attributes "gradle")
          (BuildCommand.panel attributes "maven")) :=
    substitute_buildCommand inRow rendering
  refine ⟨holdRows_systems, holdPanels_builds, ⟨settings_shown, ?_⟩, ⟨commands_shown, ?_⟩⟩
  · rw [settings_shown, Except.ok.injEq]
    exact EnvironmentVariables.systems_settings_eq_iff valued
  · rw [commands_shown, Except.ok.injEq]
    exact BuildCommand.builds_panel_eq_iff valued

theorem tabs_show_whole_values_iff_single :
    let rendering : Rendering := ⟨{}, ⟨.gradle, .java, .junit⟩, none⟩
    let text := "gradle=./gradlew run,maven=./mvnw mn:run"
    '\n' ∉ text.toList ∧
      EnvironmentVariables.handler.substitute rendering (row "environment-vars" "" text) =
        .ok (systems [("gradle", "./gradlew run"), ("maven", "./mvnw mn:run")]) ∧
      BuildCommand.handler.substitute rendering (row "gradle-maven-command" "" text) =
        .ok (builds (command "./gradlew run") (command "./mvnw mn:run")) := by
  intro rendering text
  have inRow : '\n' ∉ text.toList := by decide
  have read :
      Attributes.parse text =
        ⟨[⟨"gradle", ["./gradlew run"]⟩, ⟨"maven", ["./mvnw mn:run"]⟩]⟩ := by
    decide +kernel
  have single :
      ∀ entry ∈ [(⟨"gradle", ["./gradlew run"]⟩ : Attribute), ⟨"maven", ["./mvnw mn:run"]⟩],
        entry.values.length = 1 := by
    decide
  obtain ⟨_, _, ⟨_, settings_whole⟩, _, commands_whole⟩ :=
    tabs_show_whole_values_iff inRow rendering
  rw [read] at settings_whole commands_whole
  exact ⟨inRow, settings_whole.mpr fun entry member _ => single entry member,
    commands_whole.mpr fun key _ entry found =>
      single entry (List.mem_of_find?_eq_some found)⟩

/-- Neither a variable nor a command has its whole value if there is a comma in it. -/
theorem tabs_change_values_in_parts :
    (¬∀ (rendering : Rendering) (text : String), '\n' ∉ text.toList →
      EnvironmentVariables.handler.substitute rendering (row "environment-vars" "" text) =
        .ok (systems (EnvironmentVariables.wholeSettings (Attributes.parse text)))) ∧
    ¬∀ (rendering : Rendering) (text : String), '\n' ∉ text.toList →
      BuildCommand.handler.substitute rendering (row "gradle-maven-command" "" text) =
        .ok (builds (BuildCommand.wholePanel (Attributes.parse text) "gradle")
          (BuildCommand.wholePanel (Attributes.parse text) "maven")) := by
  let rendering : Rendering := ⟨{}, ⟨.gradle, .java, .junit⟩, none⟩
  have inRow : '\n' ∉ "gradle=./gradlew -Phosts=a,b run".toList := by decide
  have read :
      Attributes.parse "gradle=./gradlew -Phosts=a,b run" =
        ⟨[⟨"gradle", ["./gradlew -Phosts=a", "b run"]⟩]⟩ := by
    decide +kernel
  have valued := Attributes.parse_valued "gradle=./gradlew -Phosts=a,b run"
  constructor
  · intro always
    have shown := always rendering _ inRow
    rw [substitute_environmentVariables inRow, Except.ok.injEq,
      EnvironmentVariables.systems_settings_eq_iff valued, read] at shown
    revert shown
    decide
  · intro always
    have shown := always rendering _ inRow
    rw [substitute_buildCommand inRow, Except.ok.injEq,
      BuildCommand.builds_panel_eq_iff valued, read] at shown
    have whole := shown "gradle" List.mem_cons_self _ rfl
    revert whole
    decide

end Tabs

end Guidebook.Markup
