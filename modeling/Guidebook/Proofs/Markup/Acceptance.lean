import Guidebook.Proofs.Markup.Pipeline
import Guidebook.Proofs.Text.Rows

/-!
# Lines that macros accept

A line macro accepts the lines that spell an invocation of it.  So it accepts none in which no
letter comes first, or another word does, or which do not end in a bracket.  A text of whose lines a
macro accepts none stays as it is.
-/

namespace Guidebook.Markup

open Guidebook.Text

/-! ## Rows that are not accepted -/

namespace Invocation

/-- A carriage return at the end of a line is blank and changes nothing. -/
theorem parse?_append_return (name : String) (row : List Char) :
    parse? name (row ++ ['\r']) = parse? name row := by
  have blank : isBlank '\r' := by decide
  unfold parse?
  rw [trim_append_blank blank]

/-- No macro accepts a row in which no letter comes first. -/
theorem parse?_of_sheltered
    {row : List Char}
    (sheltered : Sheltered row)
    (name : String) :
    parse? name row = none := by
  rw [Option.eq_none_iff_forall_ne_some]
  intro invocation accepted
  obtain ⟨_, _, spells, _⟩ := spells_of_parse? accepted
  obtain ⟨c, others, named, letter, _⟩ := spells.isWord
  have first : (trim row).head? = some c := by
    rw [spells.trim_eq, named]
    rfl
  have noLetter := sheltered c (Option.mem_def.mpr (head?_trim first))
  exact Bool.false_ne_true (noLetter.symm.trans letter)

/-- No macro accepts a row that starts with another word and a colon. -/
theorem parse?_of_otherWord
    {word rest : List Char}
    (isWord : IsWord word)
    {name : String}
    (differs : name.toList ≠ word) :
    parse? name (word ++ ':' :: rest) = none := by
  rw [Option.eq_none_iff_forall_ne_some]
  intro invocation accepted
  obtain ⟨_, _, spells, _⟩ := spells_of_parse? accepted
  have solidColon : isBlank ':' = false := by decide
  have trimmed :
      trim (word ++ ':' :: rest) = word ++ ':' :: trimEnd rest := by
    obtain ⟨first, others, rfl, letter, _⟩ := isWord
    rw [List.cons_append, trim_cons (isBlank_of_isLetter letter),
      trimEnd_append_cons solidColon, List.cons_append]
  exact differs ((append_cons_inj_of_notMem_front spells.isWord.colon_notMem
    isWord.colon_notMem).mp (spells.trim_eq.symm.trans trimmed)).1

/-- No macro accepts a row whose last solid character is no closing bracket. -/
theorem parse?_of_lastChar
    {c : Char} {row : List Char}
    (solid : isBlank c = false)
    (differs : c ≠ ']')
    (name : String) :
    parse? name (row ++ [c]) = none := by
  rw [Option.eq_none_iff_forall_ne_some]
  intro invocation accepted
  obtain ⟨target, attributes, spells, _⟩ := spells_of_parse? accepted
  have last := getLast?_trim solid row
  rw [spells.trim_eq] at last
  simp only [← List.cons_append, ← List.append_assoc, List.getLast?_concat]
    at last
  exact differs (Option.some.inj last).symm

end Invocation

/-! ## Lines that stay -/

/-- A text stays as it is if no line of it invokes the macro. -/
theorem rewriteInvocations_unaccepted
    {name : String} {replace : Invocation → Except Error (Option String)}
    {text : String}
    (unaccepted :
      ∀ line ∈ lines text.toList,
        Invocation.parse? name line.content = none) :
    rewriteInvocations name replace text = .ok text := by
  have kept :
      ∀ line ∈ lines text.toList,
        rewriteLine name replace line = .ok line.text := by
    intro line member
    rw [rewriteLine_eq, unaccepted line member]
    rfl
  have whole := lines_flatMap_text text.toList
  rw [List.flatMap_def] at whole
  unfold rewriteInvocations
  rw [mapM_eq_ok kept]
  change Except.ok (String.ofList ((lines text.toList).map Line.text).flatten) = _
  rw [whole, String.ofList_toList]

/-- The handler of a line macro keeps a text of whose lines its macro accepts none. -/
theorem lineHandlers_keep
    {config : Config} {rendering : Rendering} {handler : Handler}
    (member : handler ∈ lineHandlers config)
    {text : String}
    (unaccepted :
      ∀ line ∈ lines text.toList,
        Invocation.parse? handler.name line.content = none) :
    handler.substitute rendering text = .ok text := by
  obtain ⟨name, order, expand, rfl⟩ :=
    lineHandlers_fromLine config handler member
  exact rewriteInvocations_unaccepted unaccepted

/-! ## Rows that no macro accepts -/

/-- The names of line macros in the order of their handlers. -/
def lineMacroNames : List String :=
  ["diffLink", "callout", "common", "dependency", "source", "test", "rawTest",
    "resource", "testResource", "zipInclude", "snippet", "guideLink",
    "create-app", "gradle-maven-command", "environment-vars"]

theorem lineHandlers_names (config : Config) :
    (lineHandlers config).map Handler.name = lineMacroNames :=
  rfl

theorem lineMacroNames_nodup : lineMacroNames.Nodup := by
  decide

/-- A row that no line macro accepts. -/
def Inert (row : List Char) : Prop :=
  ∀ name ∈ lineMacroNames, Invocation.parse? name row = none

theorem inert_append_return {row : List Char} :
    Inert (row ++ ['\r']) ↔ Inert row := by
  unfold Inert
  simp only [Invocation.parse?_append_return]

theorem inert_of_sheltered
    {row : List Char}
    (sheltered : Sheltered row) :
    Inert row :=
  fun name _ => Invocation.parse?_of_sheltered sheltered name

theorem inert_nil : Inert [] :=
  inert_of_sheltered fun c member => absurd member (Option.not_mem_none c)

theorem inert_of_lastChar
    {c : Char} {row : List Char}
    (solid : isBlank c = false)
    (differs : c ≠ ']') :
    Inert (row ++ [c]) :=
  fun name _ => Invocation.parse?_of_lastChar solid differs name

/-- A text of one row that starts with a word that names no macro, and a colon. -/
theorem eachRow_inert_of_otherWord
    (word : String) {rest : String}
    (letter : word.toList.head?.any isLetter)
    (wordChars : word.toList.all isWordChar)
    (differs : word ∉ lineMacroNames)
    (rest_free : NoLineFeed rest) :
    EachRow Inert (word ++ ":" ++ rest).toList := by
  have whole :
      (word ++ ":" ++ rest).toList = word.toList ++ ':' :: rest.toList := by
    simp
  have isWord : IsWord word.toList := IsWord.of_all letter wordChars
  have free : '\n' ∉ word.toList :=
    fun member => absurd (isWord.isWordChar_of_mem '\n' member) (by decide)
  rw [whole]
  apply EachRow.last
  · rw [List.mem_append, List.mem_cons, not_or, not_or]
    exact ⟨free, by decide, rest_free.notMem⟩
  · intro name member
    apply Invocation.parse?_of_otherWord isWord
    intro same
    exact differs (String.toList_inj.mp same ▸ member)

/-! ## What an invocation holds -/

/-- Attributes of one row. -/
def Attributes.StaysInRow (attributes : Attributes) : Prop :=
  ∀ entry ∈ attributes.entries,
    NoLineFeed entry.key ∧ ∀ value ∈ entry.values, NoLineFeed value

/-- An invocation of one row. -/
structure Invocation.StaysInRow (invocation : Invocation) : Prop where
  target : NoLineFeed invocation.target
  attributes : invocation.attributes.StaysInRow

theorem Attributes.group_staysInRow
    {pieces : List (List Char)}
    (free : ∀ piece ∈ pieces, '\n' ∉ piece) :
    (∀ value ∈ (group pieces).1, NoLineFeed value) ∧
      Attributes.StaysInRow ⟨(group pieces).2⟩ := by
  induction pieces with
  | nil =>
      exact ⟨List.forall_mem_nil _, List.forall_mem_nil _⟩
  | cons piece rest ih =>
      obtain ⟨piece_free, rest_free⟩ := List.forall_mem_cons.mp free
      obtain ⟨values_free, entries_free⟩ := ih rest_free
      unfold group
      cases found : cut '=' piece with
      | none =>
          exact ⟨List.forall_mem_cons.mpr
            ⟨NoLineFeed.ofList piece_free, values_free⟩, entries_free⟩
      | some parts =>
          rw [(cut_eq_some found).1, List.mem_append, List.mem_cons, not_or,
            not_or] at piece_free
          refine ⟨List.forall_mem_nil _, ?_⟩
          exact List.forall_mem_cons.mpr
            ⟨⟨NoLineFeed.ofList piece_free.1,
              List.forall_mem_cons.mpr
                ⟨NoLineFeed.ofList piece_free.2.2, values_free⟩⟩,
              entries_free⟩

theorem Attributes.parse_staysInRow
    {text : List Char}
    (free : '\n' ∉ text) :
    (Attributes.parse (String.ofList text)).StaysInRow := by
  have pieces_free : ∀ piece ∈ pieces text, '\n' ∉ piece :=
    fun piece member inside =>
      free (mem_of_mem_splitOn (List.mem_filter.mp member).1 _ inside)
  obtain ⟨values_free, entries_free⟩ := group_staysInRow pieces_free
  unfold Attributes.parse
  rw [String.toList_ofList]
  split
  · rename_i attributes grouped
    rwa [grouped] at entries_free
  · rename_i values attributes _ grouped
    rw [grouped] at values_free entries_free
    exact List.forall_mem_cons.mpr
      ⟨⟨NoLineFeed.empty, values_free⟩, entries_free⟩

theorem Invocation.parse?_staysInRow
    {name : String} {row : List Char} {invocation : Invocation}
    (free : '\n' ∉ row)
    (accepted : parse? name row = some invocation) :
    invocation.StaysInRow := by
  obtain ⟨target, attributes, spells, rfl⟩ := spells_of_parse? accepted
  have trimmed_free : '\n' ∉ trim row := fun member =>
    free ((List.dropWhile_sublist isBlank).mem
      ((trimEnd_isStart (trimStart row)).subset member))
  rw [spells.trim_eq] at trimmed_free
  simp only [List.mem_append, List.mem_cons, not_or] at trimmed_free
  obtain ⟨_, _, target_free, _, attributes_free, _⟩ := trimmed_free
  exact ⟨NoLineFeed.ofList target_free,
    Attributes.parse_staysInRow attributes_free⟩

end Guidebook.Markup
