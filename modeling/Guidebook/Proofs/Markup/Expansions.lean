import Guidebook.Proofs.Markup.Acceptance
import Guidebook.Proofs.Url.Written

/-!
# What line macros write

Line macros write rows that no line macro accepts, as long as the texts that they put in hold no
line feeds.  Most rows start with a mark or with a tag.  The others are includes and links, whose
first word names no macro, and declarations of dependencies, which end in no bracket.
-/

namespace Guidebook.Markup

open Guidebook.Text

/-- A text in a template is put in as it is. -/
theorem toString_text (text : String) :
    toString text = text :=
  rfl

/-! ## Tabs -/

namespace Tabs

theorem reads_buildTab
    {name label number : String}
    (name_free : NoLineFeed name)
    (label_free : NoLineFeed label)
    (number_free : NoLineFeed number)
    (isActive : Bool) :
    Reads .margin (buildTab name label number isActive) .margin := by
  cases isActive
  all_goals
    unfold buildTab
    simp only [toString_text, Bool.false_eq_true, ↓reduceIte]
    simp only [String.append_assoc]
    repeat first
      | refine Reads.append (Reads.inside ‹_›) ?_
      | refine Reads.append (Reads.literal .sheltered rfl) ?_
    exact Reads.literal .margin rfl

/-- A panel is read to its end if its content leaves no letter exposed. -/
theorem reads_buildPanel
    {name number content : String}
    {behind : RowState}
    (name_free : NoLineFeed name)
    (number_free : NoLineFeed number)
    (content_reads : Reads .margin content behind)
    (safe : behind ≠ .exposed)
    (isActive : Bool) :
    Reads .margin (buildPanel name number content isActive) .margin := by
  have closing : Reads behind "\n    </div>\n" .margin :=
    .unexposed safe (.literal .margin rfl) (.literal .margin rfl)
  cases isActive
  all_goals
    unfold buildPanel
    simp only [toString_text, Bool.false_eq_true, ↓reduceIte]
    simp only [String.append_assoc]
    repeat first
      | refine Reads.append (Reads.inside ‹_›) ?_
      | refine Reads.append (Reads.literal .sheltered rfl) ?_
    refine Reads.append (Reads.literal .margin rfl) ?_
    exact content_reads.append closing

theorem reads_builds
    {gradle maven : String}
    {behindGradle behindMaven : RowState}
    (gradle_reads : Reads .margin gradle behindGradle)
    (maven_reads : Reads .margin maven behindMaven)
    (gradle_safe : behindGradle ≠ .exposed)
    (maven_safe : behindMaven ≠ .exposed) :
    Reads .margin (builds gradle maven) .margin := by
  unfold builds
  simp only [String.append_assoc]
  refine Reads.append (Reads.literal .margin rfl) ?_
  refine Reads.append (Reads.literal .margin rfl) ?_
  refine Reads.append (Reads.literal .sheltered rfl) ?_
  refine Reads.append (Reads.literal .margin rfl) ?_
  refine (reads_buildTab (.literal rfl) (.literal rfl) (.literal rfl)
    true).append ?_
  refine (reads_buildTab (.literal rfl) (.literal rfl) (.literal rfl)
    false).append ?_
  refine Reads.append (Reads.literal .margin rfl) ?_
  refine (reads_buildPanel (.literal rfl) (.literal rfl)
    gradle_reads gradle_safe true).append ?_
  refine (reads_buildPanel (.literal rfl) (.literal rfl)
    maven_reads maven_safe false).append ?_
  exact Reads.literal .margin rfl

/-- A command stands behind a tag on its row; what it holds must come back to a sheltered row. -/
theorem reads_command
    {text : String}
    (text_reads : Reads .sheltered text .sheltered) :
    Reads .margin (command text) .sheltered := by
  unfold command
  simp only [String.append_assoc]
  refine Reads.append (Reads.literal .sheltered rfl) ?_
  refine Reads.append (Reads.literal .sheltered rfl) ?_
  refine text_reads.append ?_
  exact Reads.literal .sheltered rfl

/-- A line of a panel starts with a tag and stays in its row. -/
structure TaggedLine (line : String) : Prop where
  free : NoLineFeed line
  reads : Reads .margin line .sheltered

/-- Lines that start with a tag leave no letter exposed. -/
theorem reads_join
    {commands : List String}
    (tagged : ∀ command ∈ commands, TaggedLine command) :
    Reads .margin (String.join (commands.map (· ++ "\n"))) .margin := by
  induction commands with
  | nil => exact Reads.literal .margin rfl
  | cons command rest ih =>
      obtain ⟨first, later⟩ := List.forall_mem_cons.mp tagged
      rw [List.map_cons, String.join_cons]
      exact (first.reads.append (Reads.literal .margin rfl)).append
        (ih later)

theorem reads_systemPanel
    {name label number visibility : String} {commands : List String}
    (name_free : NoLineFeed name)
    (label_free : NoLineFeed label)
    (number_free : NoLineFeed number)
    (visibility_free : NoLineFeed visibility)
    (tagged : ∀ command ∈ commands, TaggedLine command) :
    Reads .margin (systemPanel name label number visibility commands)
      .margin := by
  have commands_read :
      ∃ behind, behind ≠ .exposed ∧
        Reads .sheltered (String.join (commands.map (· ++ "\n"))) behind := by
    cases commands with
    | nil => exact ⟨.sheltered, by decide, Reads.literal .sheltered rfl⟩
    | cons command rest =>
        refine ⟨.margin, by decide, ?_⟩
        rw [List.map_cons, String.join_cons]
        have first :
            Reads .sheltered (command ++ "\n") .margin :=
          (Reads.inside (tagged command List.mem_cons_self).free).append
            (Reads.literal .margin rfl)
        exact first.append (reads_join fun other member =>
          tagged other (List.mem_cons_of_mem _ member))
  obtain ⟨behind, safe, commands_read⟩ := commands_read
  have closing :
      Reads behind "</code><button>Copy</button></pre>\n    </div>\n"
        .margin :=
    .unexposed safe (.literal .margin rfl) (.literal .margin rfl)
  unfold systemPanel
  simp only [toString_text]
  simp only [String.append_assoc]
  repeat first
    | refine Reads.append (Reads.inside ‹_›) ?_
    | refine Reads.append (Reads.literal .sheltered rfl) ?_
  exact commands_read.append closing

/-- A highlighted word is a tag, which shelters its row. -/
theorem reads_highlighted
    {kind text : String} {start : RowState}
    (kind_free : NoLineFeed kind)
    (text_free : NoLineFeed text)
    (safe : start ≠ .exposed) :
    Reads start (highlighted kind text) .sheltered := by
  have opening : Reads start "<span class=\"hljs-" .sheltered :=
    .unexposed safe (.literal .sheltered rfl) (.literal .sheltered rfl)
  unfold highlighted
  simp only [toString_text]
  simp only [String.append_assoc]
  refine opening.append ((Reads.inside kind_free).append ?_)
  refine Reads.append (Reads.literal .sheltered rfl) ?_
  exact (Reads.inside text_free).append
    (Reads.literal .sheltered rfl)

theorem noLineFeed_highlighted
    {kind text : String}
    (kind_free : NoLineFeed kind)
    (text_free : NoLineFeed text) :
    NoLineFeed (highlighted kind text) := by
  unfold highlighted
  simp only [toString_text]
  exact ((((NoLineFeed.literal rfl).append kind_free).append (.literal rfl)).append
    text_free).append (.literal rfl)

theorem taggedLine_highlighted
    {kind text rest : String}
    (kind_free : NoLineFeed kind)
    (text_free : NoLineFeed text)
    (rest_free : NoLineFeed rest) :
    TaggedLine (highlighted kind text ++ rest) where
  free := (noLineFeed_highlighted kind_free text_free).append rest_free
  reads := (reads_highlighted kind_free text_free (by decide)).append
    (Reads.inside rest_free)

theorem reads_systems
    {entries : List (String × String)}
    (free : ∀ entry ∈ entries, NoLineFeed entry.1 ∧ NoLineFeed entry.2) :
    Reads .margin (systems entries) .margin := by
  have setting :
      ∀ command, NoLineFeed command → ∀ entry ∈ entries,
        TaggedLine
          (highlighted "built_in" command ++
            (" " ++ (entry.1 ++ ("=" ++ entry.2)))) := by
    intro command command_free entry found
    obtain ⟨name_free, value_free⟩ := free entry found
    exact taggedLine_highlighted (.literal rfl) command_free
      ((NoLineFeed.literal rfl).append
        (name_free.append ((NoLineFeed.literal rfl).append value_free)))
  have assignment :
      ∀ entry ∈ entries,
        TaggedLine
          (highlighted "variable" "$ENV" ++
            (" " ++ (entry.1 ++ (" = " ++
              highlighted "string" ("\"" ++ (entry.2 ++ "\"")))))) := by
    intro entry found
    obtain ⟨name_free, value_free⟩ := free entry found
    have quoted : NoLineFeed ("\"" ++ (entry.2 ++ "\"")) :=
      (NoLineFeed.literal rfl).append (value_free.append (.literal rfl))
    have value_shown :
        NoLineFeed (highlighted "string" ("\"" ++ (entry.2 ++ "\""))) :=
      noLineFeed_highlighted (.literal rfl) quoted
    exact taggedLine_highlighted (.literal rfl) (.literal rfl)
      ((NoLineFeed.literal rfl).append
        (name_free.append ((NoLineFeed.literal rfl).append value_shown)))
  unfold systems
  simp only [toString_text]
  simp only [String.append_assoc]
  refine Reads.append (Reads.literal .margin rfl) ?_
  refine Reads.append (Reads.literal .sheltered rfl) ?_
  refine Reads.append (Reads.literal .margin rfl) ?_
  refine (reads_systemPanel (.literal rfl) (.literal rfl) (.literal rfl)
    (.literal rfl)
    (List.forall_mem_map.mpr (setting "export" (.literal rfl)))).append ?_
  refine (reads_systemPanel (.literal rfl) (.literal rfl) (.literal rfl)
    (.literal rfl)
    (List.forall_mem_map.mpr (setting "set" (.literal rfl)))).append ?_
  refine (reads_systemPanel (.literal rfl) (.literal rfl) (.literal rfl)
    (.literal rfl)
    (List.forall_mem_map.mpr assignment)).append ?_
  exact Reads.literal .margin rfl

end Tabs

/-! ## Attributes -/

namespace Attributes

variable {attributes : Attributes}

theorem find?_staysInRow
    (stays : attributes.StaysInRow)
    {key : String} {entry : Attribute}
    (found : attributes.find? key = some entry) :
    ∀ value ∈ entry.values, NoLineFeed value :=
  (stays entry (List.mem_of_find?_eq_some found)).2

theorem value?_staysInRow
    (stays : attributes.StaysInRow)
    {key value : String}
    (found : attributes.value? key = some value) :
    NoLineFeed value := by
  obtain ⟨entry, entry_found, first⟩ := Option.bind_eq_some_iff.mp found
  exact find?_staysInRow stays entry_found value (List.mem_of_head? first)

theorem value?_getD_staysInRow
    (stays : attributes.StaysInRow)
    {standard : String}
    (standard_free : NoLineFeed standard)
    (key : String) :
    NoLineFeed ((attributes.value? key).getD standard) := by
  cases found : attributes.value? key with
  | none => exact standard_free
  | some value => exact value?_staysInRow stays found

theorem joined_staysInRow
    (stays : attributes.StaysInRow)
    {entry : Attribute}
    (member : entry ∈ attributes.entries) :
    NoLineFeed entry.joined :=
  NoLineFeed.intercalate (.literal rfl) (stays entry member).2

theorem render_staysInRow
    (stays : attributes.StaysInRow) :
    NoLineFeed attributes.render := by
  refine NoLineFeed.intercalate (.literal rfl) ?_
  refine List.forall_mem_map.mpr fun entry member => ?_
  unfold Attribute.render
  split
  · exact joined_staysInRow stays member
  · exact ((stays entry member).1.append (.literal rfl)).append
      (joined_staysInRow stays member)

theorem without_staysInRow
    (stays : attributes.StaysInRow)
    (key : String) :
    (attributes.without key).StaysInRow :=
  fun entry member => stays entry (List.mem_filter.mp member).1

theorem positional?_staysInRow
    (stays : attributes.StaysInRow)
    {text : String}
    (found : attributes.positional? = some text) :
    NoLineFeed text := by
  obtain ⟨entry, entry_found, rfl⟩ := Option.map_eq_some_iff.mp found
  exact joined_staysInRow stays (List.mem_of_find?_eq_some entry_found)

end Attributes

/-! ## Commands -/

variable {invocation : Invocation}

/-- The panel of a key is a command of one row, or nothing. -/
theorem BuildCommand.reads_panel
    (stays : invocation.StaysInRow)
    (key : String) :
    ∃ behind, behind ≠ .exposed ∧
      Reads .margin (BuildCommand.panel invocation.attributes key) behind := by
  unfold BuildCommand.panel
  cases found : invocation.attributes.find? key with
  | none => exact ⟨.margin, by decide, Reads.literal .margin rfl⟩
  | some entry =>
      have words := Attributes.find?_staysInRow stays.attributes found
      exact ⟨.sheltered, by decide,
        Tabs.reads_command (Reads.inside (.intercalate (.literal rfl) words))⟩

theorem BuildCommand.expand_sheltered
    (stays : invocation.StaysInRow) :
    EachRow Sheltered (BuildCommand.expand invocation).toList := by
  obtain ⟨_, gradle_safe, gradle_reads⟩ := reads_panel stays "gradle"
  obtain ⟨_, maven_safe, maven_reads⟩ := reads_panel stays "maven"
  exact (Tabs.reads_builds gradle_reads maven_reads gradle_safe
    maven_safe).eachRow (by decide)

theorem EnvironmentVariables.expand_sheltered
    (stays : invocation.StaysInRow) :
    EachRow Sheltered (EnvironmentVariables.expand invocation).toList := by
  refine (Tabs.reads_systems ?_).eachRow (by decide)
  refine List.forall_mem_map.mpr fun entry member => ?_
  obtain ⟨key_free, values_free⟩ :=
    stays.attributes entry (List.mem_filter.mp member).1
  refine ⟨key_free, ?_⟩
  cases first : entry.value? with
  | none => exact NoLineFeed.empty
  | some value => exact values_free value (List.mem_of_head? first)

/-! ## Names of variants -/

theorem noLineFeed_language (language : Language) :
    NoLineFeed language.name := by
  cases language <;> exact NoLineFeed.literal rfl

theorem noLineFeed_extension (language : Language) :
    NoLineFeed language.extension := by
  cases language <;> exact NoLineFeed.literal rfl

theorem noLineFeed_buildTool (buildTool : BuildTool) :
    NoLineFeed buildTool.name := by
  cases buildTool <;> exact NoLineFeed.literal rfl

theorem noLineFeed_testFramework (framework : TestFramework) :
    NoLineFeed framework.name := by
  cases framework <;> exact NoLineFeed.literal rfl

theorem noLineFeed_variantName
    {slug : String}
    (slug_free : NoLineFeed slug)
    (variant : Variant) :
    NoLineFeed (Layout.variantName slug variant) := by
  have dash : NoLineFeed "-" := NoLineFeed.literal rfl
  refine NoLineFeed.ofList (lineFeed_notMem_lowerCase ?_)
  simp only [toString_text]
  exact ((((slug_free.append dash).append
    (noLineFeed_buildTool variant.buildTool)).append dash).append
      (noLineFeed_language variant.language)).notMem

/-! ## Creating an application -/

/--
The texts of a configuration and a guide that line macros write hold no line feeds.  Those that
only documents and other macros show may.
-/
structure WritesInRow (config : Config) (guide : Guide) : Prop where
  defaultAppName : NoLineFeed config.defaultAppName
  defaultProjectName : NoLineFeed config.defaultProjectName
  packageName : NoLineFeed config.packageName
  slug : NoLineFeed guide.slug
  appPackage : ∀ app ∈ guide.apps, NoLineFeed app.packageName
  appFeature :
    ∀ app ∈ guide.apps, ∀ language,
      ∀ feature ∈ app.visibleFeatures language, NoLineFeed feature

/-- Parts of a command stand on rows of their own, each behind a blank and two dashes. -/
theorem reads_intercalate
    {start : RowState} {first : String} {rest : List String}
    (first_reads : Reads start first .sheltered)
    (indented : ∀ part ∈ rest, Reads .margin part .sheltered) :
    Reads start (String.intercalate " \\\n" (first :: rest)) .sheltered := by
  induction rest generalizing start first with
  | nil => rwa [String.intercalate_singleton]
  | cons next more ih =>
      obtain ⟨next_reads, more_indented⟩ := List.forall_mem_cons.mp indented
      rw [String.intercalate_cons_cons]
      exact (first_reads.append (Reads.literal .margin rfl)).append
        (ih next_reads more_indented)

namespace CreateCommand

variable {config : Config} {rendering : Rendering}

theorem reads_command
    (free : WritesInRow config rendering.guide)
    {name : String} {app : App}
    (name_free : NoLineFeed name)
    (declared : app ∈ rendering.guide.apps)
    (buildTool : BuildTool) :
    Reads .sheltered
      (command config rendering.variant name app buildTool) .sheltered := by
  have project_free :
      NoLineFeed
        (if name = config.defaultAppName then config.defaultProjectName
          else name) := by
    split
    · exact free.defaultProjectName
    · exact name_free
  have kind_free : NoLineFeed app.applicationType.command := by
    cases app.applicationType <;> exact NoLineFeed.literal rfl
  have first_free :
      NoLineFeed ("mn " ++ app.applicationType.command ++ " " ++
        app.packageName ++ "." ++
        (if name = config.defaultAppName then config.defaultProjectName
          else name)) :=
    (((((NoLineFeed.literal rfl).append kind_free).append (.literal rfl)).append
      (free.appPackage app declared)).append (.literal rfl)).append project_free
  have framework_free :
      NoLineFeed (app.testFramework.getD rendering.variant.testFramework).name :=
    noLineFeed_testFramework _
  unfold command arguments
  simp only [toString_text]
  refine reads_intercalate (Reads.inside first_free) ?_
  refine List.forall_mem_append.mpr ⟨?_, ?_⟩
  · split
    · exact List.forall_mem_nil _
    · refine List.forall_mem_singleton.mpr ?_
      exact (Reads.literal .sheltered rfl).append (Reads.inside
        (.intercalate (.literal rfl) (free.appFeature app declared _)))
  · simp only [List.forall_mem_cons]
    exact ⟨(Reads.literal .sheltered rfl).append
        (Reads.inside (noLineFeed_buildTool buildTool)),
      (Reads.literal .sheltered rfl).append
        (Reads.inside (noLineFeed_language rendering.variant.language)),
      (Reads.literal .sheltered rfl).append (Reads.inside framework_free),
      List.forall_mem_nil _⟩

theorem expand_sheltered
    (free : WritesInRow config rendering.guide)
    {invocation : Invocation}
    (stays : invocation.StaysInRow)
    {replacement : String}
    (expanded : expand config rendering invocation = .ok (some replacement)) :
    EachRow Sheltered replacement.toList := by
  have name_free : NoLineFeed (appName config invocation.target) := by
    unfold appName
    split
    · exact free.defaultAppName
    · exact stays.target
  obtain ⟨app, found, same⟩ := except_bind_eq_ok.mp expanded
  cases same
  have declared : app ∈ rendering.guide.apps := by
    unfold Guide.requireApp at found
    split at found
    · rename_i other present
      cases found
      exact List.mem_of_find?_eq_some present
    · cases found
  have panel := fun buildTool =>
    Tabs.reads_command (reads_command free name_free declared buildTool)
  exact (Tabs.reads_builds (panel .gradle) (panel .maven) (by decide)
    (by decide)).eachRow (by decide)

end CreateCommand

/-! ## Includes and links -/

/-- Two texts with a line feed between them have the rows of both. -/
theorem eachRow_lineFeed
    {accepts : List Char → Prop} {front back : String}
    (front_rows : EachRow accepts front.toList)
    (back_rows : EachRow accepts back.toList) :
    EachRow accepts (front ++ "\n" ++ back).toList := by
  have split :
      (front ++ "\n" ++ back).toList = front.toList ++ '\n' :: back.toList := by
    simp
  rw [split]
  exact front_rows.append back_rows

theorem eachRow_include
    {rest : String}
    (free : NoLineFeed rest) :
    EachRow Inert ("include:" ++ rest).toList := by
  have joined : "include" ++ ":" = "include:" := by decide
  rw [← joined]
  exact eachRow_inert_of_otherWord "include" (by decide) (by decide)
    (by simp [lineMacroNames]) free

theorem eachRow_link
    {rest : String}
    (free : NoLineFeed rest) :
    EachRow Inert ("link:" ++ rest).toList := by
  have joined : "link" ++ ":" = "link:" := by decide
  rw [← joined]
  exact eachRow_inert_of_otherWord "link" (by decide) (by decide)
    (by simp [lineMacroNames]) free

theorem SharedText.expand_inert
    {directory start : String}
    (directory_free : NoLineFeed directory)
    (start_free : NoLineFeed start)
    (stays : invocation.StaysInRow) :
    EachRow Inert (SharedText.expand directory start invocation).toList := by
  have ending_free :
      NoLineFeed
        (if ".adoc".toList.isSuffixOf invocation.target.toList then ""
          else ".adoc") := by
    split
    · exact NoLineFeed.empty
    · exact NoLineFeed.literal rfl
  have attributes_free := Attributes.render_staysInRow stays.attributes
  have colons : "include::" = "include:" ++ ":" := by decide
  unfold SharedText.expand
  simp only [toString_text, colons]
  simp only [String.append_assoc]
  have list_free : NoLineFeed ("[" ++ (invocation.attributes.render ++ "]")) :=
    (NoLineFeed.literal rfl).append (attributes_free.append (.literal rfl))
  have name_free :
      NoLineFeed
        (start ++ (invocation.target ++
          ((if ".adoc".toList.isSuffixOf invocation.target.toList then ""
            else ".adoc") ++
            ("[" ++ (invocation.attributes.render ++ "]"))))) :=
    start_free.append (stays.target.append (ending_free.append list_free))
  exact eachRow_include ((NoLineFeed.literal rfl).append
    (directory_free.append ((NoLineFeed.literal rfl).append name_free)))

theorem GuideLink.expand_inert
    {rendering : Rendering} {replacement : String}
    (stays : invocation.StaysInRow)
    (expanded : GuideLink.expand rendering invocation = some replacement) :
    EachRow Inert replacement.toList := by
  unfold GuideLink.expand at expanded
  split at expanded
  · cases expanded
  · cases expanded
    have label_free :
        NoLineFeed
          (invocation.attributes.positional?.getD invocation.target) := by
      cases found : invocation.attributes.positional? with
      | none => exact stays.target
      | some text =>
          exact Attributes.positional?_staysInRow stays.attributes found
    simp only [toString_text]
    simp only [String.append_assoc]
    exact eachRow_link ((noLineFeed_variantName stays.target _).append
      ((NoLineFeed.literal rfl).append (label_free.append (.literal rfl))))

theorem DifferenceLink.expand_inert
    {config : Config} {rendering : Rendering} {replacement : String}
    (web :
      ∀ address, Url.Address.parse? config.projectGeneratorUrl = some address →
        address.scheme = "http" ∨ address.scheme = "https")
    (expanded :
      DifferenceLink.expand config rendering invocation =
        .ok (some replacement)) :
    EachRow Inert replacement.toList := by
  obtain ⟨app, _, expanded⟩ := except_bind_eq_ok.mp expanded
  obtain ⟨address, read, same⟩ := except_bind_eq_ok.mp expanded
  cases same
  have parsed :
      Url.Address.parse? config.projectGeneratorUrl = some address := by
    unfold generatorAddress at read
    split at read
    · rename_i other found
      cases read
      exact found
    · cases read
  have stays :=
    (Url.Address.staysInRow_of_parse? parsed (web address parsed)).withFields
      (fields config rendering.variant app invocation.attributes)
  obtain ⟨rest, rest_free, written⟩ := stays.text
  have link_free : NoLineFeed (rest ++ "[Diff]") :=
    rest_free.append (NoLineFeed.literal rfl)
  have scheme :
      (address.withFields (fields config rendering.variant app
        invocation.attributes)).scheme = address.scheme :=
    rfl
  rw [written, scheme, String.append_assoc]
  rcases web address parsed with http | https
  · rw [http]
    exact eachRow_inert_of_otherWord "http" (by decide) (by decide)
      (by simp [lineMacroNames]) link_free
  · rw [https]
    exact eachRow_inert_of_otherWord "https" (by decide) (by decide)
      (by simp [lineMacroNames]) link_free

/-! ## Listings -/

/-- A titled block shows one row; the rows around it start with marks. -/
theorem eachRow_block
    {language title row : String}
    (language_free : NoLineFeed language)
    (title_free : NoLineFeed title)
    (row_inert : EachRow Inert row.toList) :
    EachRow Inert
      ("[source," ++ (language ++ ("]\n." ++ (title ++ ("\n----\n" ++
        (row ++ "\n----")))))).toList := by
  have heading :
      Reads .margin ("[source," ++ language ++ "]\n." ++ title ++ "\n----")
        .sheltered :=
    ((((Reads.literal .sheltered rfl).append (Reads.inside language_free)).append
      (Reads.literal .sheltered rfl)).append (Reads.inside title_free)).append
        (Reads.literal .sheltered rfl)
  have closing : Reads .margin "----" .sheltered :=
    Reads.literal .sheltered rfl
  have heading_inert :=
    (heading.eachRow (by decide)).mono fun row => inert_of_sheltered
  have closing_inert :=
    (closing.eachRow (by decide)).mono fun row => inert_of_sheltered
  have split :
      "[source," ++ (language ++ ("]\n." ++ (title ++ ("\n----\n" ++
          (row ++ "\n----"))))) =
        ("[source," ++ language ++ "]\n." ++ title ++ "\n----") ++ "\n" ++
          (row ++ "\n" ++ "----") := by
    apply String.toList_inj.mp
    simp
  rw [split]
  exact eachRow_lineFeed heading_inert
    (eachRow_lineFeed row_inert closing_inert)

theorem noLineFeed_normalize
    {path : String}
    (free : NoLineFeed path) :
    NoLineFeed (Layout.normalize path) := by
  have steps_free :
      ∀ (segments soFar : List (List Char)),
        (∀ segment ∈ segments, '\n' ∉ segment) →
        (∀ segment ∈ soFar, '\n' ∉ segment) →
          ∀ segment ∈ segments.foldl Layout.normalizeStep soFar,
            '\n' ∉ segment := by
    intro segments
    induction segments with
    | nil => exact fun soFar _ soFar_free => soFar_free
    | cons first rest ih =>
        intro soFar segments_free soFar_free
        obtain ⟨first_free, rest_free⟩ := List.forall_mem_cons.mp segments_free
        refine ih (Layout.normalizeStep soFar first) rest_free ?_
        unfold Layout.normalizeStep
        split
        · exact soFar_free
        · split
          · exact fun segment member =>
              soFar_free segment (List.mem_of_mem_tail member)
          · exact List.forall_mem_cons.mpr ⟨first_free, soFar_free⟩
  refine NoLineFeed.ofList (notMem_intercalate (by decide) ?_)
  intro segment member
  exact steps_free _ []
    (fun piece found inside => free.notMem (mem_of_mem_splitOn found _ inside))
    (List.forall_mem_nil _) segment
    (List.mem_reverse.mp member)

theorem noLineFeed_listingLanguage
    {fileName : String}
    (free : NoLineFeed fileName) :
    NoLineFeed (Layout.listingLanguage fileName) := by
  have extension_free :
      '\n' ∉ ((cutLast '.' fileName.toList).map Prod.snd).getD [] := by
    cases found : cutLast '.' fileName.toList with
    | none => exact List.not_mem_nil
    | some parts =>
        have whole := free.notMem
        rw [cutLast_eq_some found] at whole
        exact fun member =>
          whole (List.mem_append_right _ (List.mem_cons_of_mem _ member))
  unfold Layout.listingLanguage
  simp only
  split
  case h_9 => exact NoLineFeed.ofList (lineFeed_notMem_lowerCase extension_free)
  all_goals exact NoLineFeed.literal rfl

theorem noLineFeed_packageFolder
    {packageName : String}
    (free : NoLineFeed packageName) :
    NoLineFeed (Layout.packageFolder packageName) := by
  have path_free : NoLineFeed (Layout.packagePath packageName) := by
    constructor
    unfold Layout.packagePath
    rw [String.toList_map]
    intro member
    obtain ⟨c, found, same⟩ := List.mem_map.mp member
    split at same
    · exact absurd same (by decide)
    · exact free.notMem (same ▸ found)
  unfold Layout.packageFolder
  split
  · exact NoLineFeed.empty
  · exact path_free.append (NoLineFeed.literal rfl)

namespace ListingKind

variable {config : Config} {rendering : Rendering}

theorem noLineFeed_fileName
    (kind : ListingKind) (variant : Variant)
    {target : String}
    (free : NoLineFeed target) :
    NoLineFeed (kind.fileName variant target) := by
  have spec_free : NoLineFeed (specName target) := by
    unfold specName
    split
    · refine NoLineFeed.append (NoLineFeed.ofList fun member => ?_) (.literal rfl)
      exact free.notMem (List.mem_of_mem_take member)
    · exact free
  have class_free :
      NoLineFeed
        (if kind = .test ∧ variant.testFramework = .spock then specName target
          else target) := by
    split
    · exact spec_free
    · exact free
  unfold fileName
  simp only
  split
  · exact (class_free.append (.literal rfl)).append
      (noLineFeed_extension variant.language)
  · exact free

theorem noLineFeed_packageOf
    (free : WritesInRow config rendering.guide)
    (appName : String) :
    NoLineFeed (packageOf config rendering.guide appName) := by
  unfold packageOf
  cases found : rendering.guide.app? appName with
  | none => exact free.packageName
  | some app => exact free.appPackage app (List.mem_of_find?_eq_some found)

theorem noLineFeed_locate
    (free : WritesInRow config rendering.guide)
    (stays : invocation.StaysInRow)
    (kind : ListingKind) :
    NoLineFeed (kind.locate config rendering invocation).1 ∧
      NoLineFeed (kind.locate config rendering invocation).2 := by
  have file_free :=
    noLineFeed_fileName kind rendering.variant stays.target
  have app_free :=
    Attributes.value?_getD_staysInRow stays.attributes free.defaultAppName "app"
  have set_free : NoLineFeed kind.sourceSet.name := by
    cases kind.sourceSet <;> exact NoLineFeed.literal rfl
  refine ⟨file_free, ?_⟩
  unfold locate
  simp only
  split
  · exact file_free
  · unfold Layout.sourceTitle
    simp only [toString_text]
    refine NoLineFeed.append (NoLineFeed.append (NoLineFeed.append ?_ ?_) ?_)
      file_free
    · split
      · exact NoLineFeed.empty
      · exact app_free.append (.literal rfl)
    · exact ((NoLineFeed.literal rfl).append set_free).append (.literal rfl)
    · split
      · exact ((noLineFeed_language _).append (.literal rfl)).append
          (noLineFeed_packageFolder (noLineFeed_packageOf free _))
      · exact NoLineFeed.literal rfl

theorem expand_inert
    (free : WritesInRow config rendering.guide)
    (stays : invocation.StaysInRow)
    (kind : ListingKind) :
    EachRow Inert (kind.expand config rendering invocation).toList := by
  obtain ⟨file_free, path_free⟩ := noLineFeed_locate free stays kind
  have attributes_free :=
    Attributes.render_staysInRow
      (Attributes.without_staysInRow stays.attributes "app")
  have folder_free :
      NoLineFeed (rendering.guide.slug ++ ("/" ++ rendering.variantName)) :=
    free.slug.append ((NoLineFeed.literal rfl).append
      (noLineFeed_variantName free.slug rendering.variant))
  have list_free :
      NoLineFeed
        ("[" ++ ((invocation.attributes.without "app").render ++ "]")) :=
    (NoLineFeed.literal rfl).append (attributes_free.append (.literal rfl))
  unfold expand
  revert file_free path_free
  generalize kind.locate config rendering invocation = located
  obtain ⟨fileName, path⟩ := located
  intro file_free path_free
  have row_inert :=
    eachRow_include ((NoLineFeed.literal rfl :
      NoLineFeed ":\x7bsourceDir\x7d/").append (folder_free.append
        ((NoLineFeed.literal rfl : NoLineFeed "/").append
          (path_free.append list_free))))
  have block := eachRow_block (noLineFeed_listingLanguage file_free)
    (noLineFeed_normalize path_free) row_inert
  refine (congrArg (EachRow Inert) ?_).mpr block
  simp [toString_text]

end ListingKind

/-! ## Dependencies -/

namespace Dependency

/-- A dependency whose parts hold no line feeds. -/
structure StaysInRow (dependency : Dependency) : Prop where
  groupId : NoLineFeed dependency.groupId
  artifactId : NoLineFeed dependency.artifactId
  version : ∀ version, dependency.version = some version → NoLineFeed version
  scope : NoLineFeed dependency.scope
  callout : ∀ callout, dependency.callout = some callout → NoLineFeed callout

theorem ofInvocation_staysInRow
    (stays : invocation.StaysInRow) :
    (ofInvocation invocation).StaysInRow where
  groupId :=
    Attributes.value?_getD_staysInRow stays.attributes (.literal rfl) "groupId"
  artifactId := stays.target
  version := fun _ found => Attributes.value?_staysInRow stays.attributes found
  scope :=
    Attributes.value?_getD_staysInRow stays.attributes (.literal rfl) "scope"
  callout := fun _ found => Attributes.value?_staysInRow stays.attributes found

namespace StaysInRow

variable {dependency : Dependency}

theorem calloutText
    (stays : dependency.StaysInRow) :
    NoLineFeed dependency.calloutText := by
  unfold Dependency.calloutText
  cases found : dependency.callout with
  | none => exact NoLineFeed.empty
  | some callout =>
      exact ((NoLineFeed.literal rfl).append
        (stays.callout callout found)).append (.literal rfl)

theorem coordinates
    (stays : dependency.StaysInRow) :
    NoLineFeed dependency.coordinates := by
  have version_free :
      NoLineFeed ((dependency.version.map (":" ++ ·)).getD "") := by
    cases found : dependency.version with
    | none => exact NoLineFeed.empty
    | some version =>
        exact (NoLineFeed.literal rfl).append (stays.version version found)
  exact ((stays.groupId.append (.literal rfl)).append stays.artifactId).append
    version_free

/-- The declaration in a Gradle script ends in a bracket of another kind. -/
theorem gradle_inert
    (stays : dependency.StaysInRow)
    {listing title : String}
    (listing_free : NoLineFeed listing)
    (title_free : NoLineFeed title)
    (language : Language) :
    EachRow Inert (dependency.gradle listing title language).toList := by
  have configuration_free :
      NoLineFeed (configuration dependency.scope language) := by
    unfold configuration
    split
    case h_5 => exact stays.scope
    all_goals exact NoLineFeed.literal rfl
  have declaration_free :
      NoLineFeed
        (configuration dependency.scope language ++ "(\"" ++
          dependency.coordinates ++ "\")" ++ dependency.calloutText) :=
    (((configuration_free.append (.literal rfl)).append stays.coordinates).append
      (.literal rfl)).append stays.calloutText
  have declaration_inert :
      EachRow Inert
        (configuration dependency.scope language ++ "(\"" ++
          dependency.coordinates ++ "\")" ++ dependency.calloutText).toList := by
    refine EachRow.last declaration_free.notMem ?_
    unfold Dependency.calloutText
    cases dependency.callout with
    | none =>
        have split :
            (configuration dependency.scope language ++ "(\"" ++
              dependency.coordinates ++ "\")" ++ "").toList =
              (configuration dependency.scope language ++ "(\"" ++
                dependency.coordinates ++ "\"").toList ++ [')'] := by
          simp
        rw [Option.map_none, Option.getD_none, split]
        exact inert_of_lastChar (by decide) (by decide)
    | some callout =>
        have split :
            (configuration dependency.scope language ++ "(\"" ++
              dependency.coordinates ++ "\")" ++
                (" <" ++ callout ++ ">")).toList =
              (configuration dependency.scope language ++ "(\"" ++
                dependency.coordinates ++ "\")" ++ " <" ++ callout).toList ++
                  ['>'] := by
          simp
        rw [Option.map_some, Option.getD_some, split]
        exact inert_of_lastChar (by decide) (by decide)
  have block := eachRow_block listing_free title_free declaration_inert
  unfold Dependency.gradle
  refine (congrArg (EachRow Inert) ?_).mpr block
  simp [toString_text]

/-- The elements of a dependency stand on rows of their own. -/
theorem reads_elements
    (stays : dependency.StaysInRow) :
    Reads .margin dependency.elements .margin := by
  have version_reads :
      Reads .margin
        ((dependency.version.map fun version =>
          s!"    <version>{version}</version>\n").getD "") .margin := by
    cases found : dependency.version with
    | none => exact Reads.literal .margin rfl
    | some version =>
        exact ((Reads.literal .sheltered rfl).append
          (Reads.inside (stays.version version found))).append
            (.literal .margin rfl)
  unfold elements
  simp only [toString_text]
  have group_reads :
      Reads .margin ("    <groupId>" ++ dependency.groupId ++ "</groupId>\n")
        .margin :=
    ((Reads.literal .sheltered rfl).append (Reads.inside stays.groupId)).append
      (Reads.literal .margin rfl)
  have artifact_reads :
      Reads .margin
        ("    <artifactId>" ++ dependency.artifactId ++ "</artifactId>\n")
        .margin :=
    ((Reads.literal .sheltered rfl).append (Reads.inside stays.artifactId)).append
      (Reads.literal .margin rfl)
  exact (group_reads.append artifact_reads).append version_reads

theorem maven_sheltered
    (stays : dependency.StaysInRow) :
    EachRow Sheltered dependency.maven.toList := by
  have elements_read := stays.reads_elements
  have scope_free : NoLineFeed (mavenScope dependency.scope) := by
    unfold mavenScope
    split <;> exact NoLineFeed.literal rfl
  have body_reads :
      ∀ body, Reads .margin body .sheltered →
        Reads .margin
          ("[source,xml]\n.pom.xml\n----\n" ++ body ++
            dependency.calloutText ++ "\n----") .sheltered :=
    fun body body_reads =>
      (((Reads.literal .margin rfl).append body_reads).append
        (Reads.inside stays.calloutText)).append (Reads.literal .sheltered rfl)
  unfold maven
  simp only [toString_text]
  refine (body_reads _ ?_).eachRow (by decide)
  split
  · exact ((Reads.literal .margin rfl).append elements_read).append
      (Reads.literal .sheltered rfl)
  · exact ((Reads.literal .margin rfl).append elements_read).append
      (((Reads.literal .sheltered rfl).append (Reads.inside scope_free)).append
        (Reads.literal .sheltered rfl))

end StaysInRow

theorem expand_inert
    {rendering : Rendering} {replacement : String}
    (stays : invocation.StaysInRow)
    (expanded : expand rendering invocation = some replacement) :
    EachRow Inert replacement.toList := by
  have dependency_stays := ofInvocation_staysInRow stays
  unfold expand at expanded
  split at expanded
  · cases expanded
  · cases expanded
    unfold text
    split
    · exact dependency_stays.gradle_inert (.literal rfl) (.literal rfl) _
    · exact dependency_stays.gradle_inert (.literal rfl) (.literal rfl) _
    · exact dependency_stays.maven_sheltered.mono fun row => inert_of_sheltered

end Dependency

end Guidebook.Markup
