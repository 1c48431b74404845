import Guidebook.Markup.Link
import Guidebook.Proofs.Markup.AttributeLists
import Guidebook.Proofs.Markup.WrittenRows

/-!
# Labels of guide links

The text of a guide link is read as a list of attributes, and what stands there without a key is the
label: the pieces in front of the first equals sign, or else those behind the first sign that starts
a piece.  So the label is the text as it is written only where no segment of it is empty and none
holds an equals sign, unless the slug, which stands in for a missing label, happens to be the text.
-/

namespace Guidebook.Markup

open Guidebook.Text

namespace Attributes

/-! ## What stands without a key -/

/-- What stands behind the first equals sign that starts a piece, up to the next key. -/
def behindSign? : List (List Char) → Option (List (List Char))
  | [] => none
  | ('=' :: value) :: rest => some (value :: rest.takeWhile fun piece => '=' ∉ piece)
  | _ :: rest => behindSign? rest

/-- The pieces that stand without a key. -/
def unkeyed? (written : List (List Char)) : Option (List (List Char)) :=
  if written.takeWhile (fun piece => '=' ∉ piece) = [] then behindSign? written
  else some (written.takeWhile fun piece => '=' ∉ piece)

theorem group_fst (written : List (List Char)) :
    (group written).1 =
      (written.takeWhile fun piece => '=' ∉ piece).map String.ofList := by
  induction written with
  | nil => rfl
  | cons piece rest ih =>
      rw [group]
      cases found : cut '=' piece with
      | none =>
          have noSign := cut_eq_none_iff.mp found
          rw [List.takeWhile_cons_of_pos (by simpa using noSign), List.map_cons, ← ih]
      | some parts =>
          have sign : '=' ∈ piece := by
            by_contra noSign
            rw [cut_eq_none_iff.mpr noSign] at found
            cases found
          rw [List.takeWhile_cons_of_neg (by simpa using sign), List.map_nil]

theorem behindSign?_cons_of_head?
    {piece : List Char}
    (unsigned : piece.head? ≠ some '=')
    (rest : List (List Char)) :
    behindSign? (piece :: rest) = behindSign? rest := by
  rw [behindSign?]
  rintro value rfl
  exact unsigned rfl

theorem group_find?_isPositional (written : List (List Char)) :
    (group written).2.find? Attribute.isPositional =
      (behindSign? written).map fun behind =>
        ⟨"", behind.map String.ofList⟩ := by
  induction written with
  | nil => rfl
  | cons piece rest ih =>
      rw [group]
      cases found : cut '=' piece with
      | none =>
          have unsigned : piece.head? ≠ some '=' := fun first =>
            cut_eq_none_iff.mp found (List.mem_of_head? first)
          rw [behindSign?_cons_of_head? unsigned, ← ih]
      | some parts =>
          obtain ⟨key, value⟩ := parts
          obtain ⟨rfl, noSign⟩ := cut_eq_some found
          cases key with
          | nil => simp [behindSign?, Attribute.isPositional, group_fst]
          | cons c more =>
              have unsigned :
                  (c :: more ++ '=' :: value).head? ≠ some '=' := by
                intro first
                cases Option.some.inj first
                exact noSign List.mem_cons_self
              rw [behindSign?_cons_of_head? unsigned, ← ih,
                List.find?_cons_of_neg (by simp [Attribute.isPositional])]

theorem positional?_ofGroups (groups : List String × List Attribute) :
    (ofGroups groups).positional? =
      if groups.1 = [] then (groups.2.find? Attribute.isPositional).map Attribute.joined
      else some (Attribute.joined ⟨"", groups.1⟩) := by
  obtain ⟨values, keyed⟩ := groups
  cases values with
  | nil => rfl
  | cons first more => rfl

theorem joined_map_ofList (key : String) (written : List (List Char)) :
    Attribute.joined ⟨key, written.map String.ofList⟩ =
      String.ofList ([','].intercalate written) := by
  have comma : ",".toList = [','] := rfl
  have same : String.toList ∘ String.ofList = id :=
    funext fun piece => String.toList_ofList
  rw [Attribute.joined, ← String.toList_inj, String.toList_intercalate,
    List.map_map, same, List.map_id, comma, String.toList_ofList]

/-- The text without a key is what stands without one, with commas between the pieces. -/
theorem positional?_parse (text : String) :
    (parse text).positional? =
      (unkeyed? (pieces text.toList)).map fun unkeyed =>
        String.ofList ([','].intercalate unkeyed) := by
  rw [parse_eq, positional?_ofGroups, group_fst, group_find?_isPositional, unkeyed?,
    Option.map_map]
  simp only [List.map_eq_nil_iff]
  split
  · exact congrArg (Option.map · _) (funext (joined_map_ofList ""))
  · rw [joined_map_ofList, Option.map_some]

/-! ## Texts without keys -/

/-- Every segment of a text is a piece that stands without a key. -/
def IsProse (text : List Char) : Prop :=
  ∀ segment ∈ text.splitOn ',', segment ≠ [] ∧ '=' ∉ segment

theorem mem_pieces_iff {text piece : List Char} :
    piece ∈ pieces text ↔ piece ∈ text.splitOn ',' ∧ piece ≠ [] := by
  simp [pieces]

theorem behindSign?_eq_some
    {written unkeyed : List (List Char)}
    (found : behindSign? written = some unkeyed) :
    ∃ value more, unkeyed = value :: more ∧ '=' :: value ∈ written ∧
      ∀ piece ∈ more, piece ∈ written ∧ '=' ∉ piece := by
  induction written with
  | nil => cases found
  | cons piece rest ih =>
      by_cases first : piece.head? = some '='
      · obtain ⟨value, rfl⟩ := List.head?_eq_some_iff.mp first
        cases found
        refine ⟨value, _, rfl, List.mem_cons_self, fun other member => ?_⟩
        have inside := (List.takeWhile_prefix _).subset member
        have noSign := List.mem_takeWhile_imp member
        exact ⟨List.mem_cons_of_mem _ inside, by simpa using noSign⟩
      · rw [behindSign?_cons_of_head? first] at found
        obtain ⟨value, more, same, signed, later⟩ := ih found
        exact ⟨value, more, same, List.mem_cons_of_mem _ signed,
          fun other member => (later other member).imp_left (List.mem_cons_of_mem _)⟩

theorem comma_notMem_of_mem_pieces
    {text piece : List Char} (member : piece ∈ pieces text) :
    ',' ∉ piece :=
  separator_notMem_of_mem_splitOn (mem_pieces_iff.mp member).1

/-- The sign in front of the pieces behind it is missing among them, so they are not all. -/
theorem intercalate_behindSign_ne
    {text : List Char} {behind : List (List Char)}
    (found : behindSign? (pieces text) = some behind) :
    [','].intercalate behind ≠ text := by
  obtain ⟨value, more, rfl, signed, later⟩ := behindSign?_eq_some found
  intro whole
  have noComma : ∀ piece ∈ value :: more, ',' ∉ piece :=
    List.forall_mem_cons.mpr
      ⟨fun member => comma_notMem_of_mem_pieces signed (List.mem_cons_of_mem _ member),
        fun piece member => comma_notMem_of_mem_pieces (later piece member).1⟩
  have segments : text.splitOn ',' = value :: more :=
    whole ▸ List.splitOn_intercalate ',' noComma (List.cons_ne_nil value more)
  have present := (mem_pieces_iff.mp signed).1
  rw [segments] at present
  rcases List.mem_cons.mp present with same | another
  · exact absurd (congrArg List.length same) (by simp)
  · exact (later _ another).2 List.mem_cons_self

/-- Nothing of a text of prose is behind a key. -/
theorem unkeyed?_of_isProse {text : List Char} (prose : IsProse text) :
    unkeyed? (pieces text) = some (text.splitOn ',') := by
  have written : pieces text = text.splitOn ',' :=
    List.filter_eq_self.mpr fun segment member => by
      simpa using (prose segment member).1
  have lead :
      (text.splitOn ',').takeWhile (fun piece => '=' ∉ piece) = text.splitOn ',' :=
    List.takeWhile_eq_self_iff.mpr fun segment member => by
      simpa using (prose segment member).2
  rw [unkeyed?, written, lead, if_neg (List.splitOn_ne_nil ',' text)]

/-- What stands without a key is the whole text if and only if nothing in it has a key. -/
theorem intercalate_unkeyed_eq_iff
    {text : List Char} {unkeyed : List (List Char)}
    (found : unkeyed? (pieces text) = some unkeyed) :
    [','].intercalate unkeyed = text ↔ IsProse text := by
  constructor
  · intro whole
    unfold unkeyed? at found
    split at found
    · exact absurd whole (intercalate_behindSign_ne found)
    · rename_i nonempty
      cases found
      have taken :
          ∀ piece ∈ (pieces text).takeWhile (fun piece => '=' ∉ piece), piece ∈ pieces text :=
        fun _ member => (List.takeWhile_prefix _).subset member
      have segments :
          text.splitOn ',' = (pieces text).takeWhile (fun piece => '=' ∉ piece) := by
        conv_lhs => rw [← whole]
        exact List.splitOn_intercalate ','
          (fun piece member => comma_notMem_of_mem_pieces (taken piece member)) nonempty
      intro segment member
      rw [segments] at member
      have noSign := List.mem_takeWhile_imp member
      exact ⟨(mem_pieces_iff.mp (taken segment member)).2, by simpa using noSign⟩
  · intro prose
    rw [unkeyed?_of_isProse prose] at found
    cases found
    exact List.intercalate_splitOn ','

end Attributes

/-! ## Labels -/

namespace GuideLink

open Attributes Invocation

/-- A link to the document of a name. -/
def link (document label : String) : String :=
  s!"link:{document}.html[{label}]"

theorem link_inj {document label other : String} :
    link document label = link document other ↔ label = other := by
  rw [← String.toList_inj, ← String.toList_inj]
  simp [link, toString]

/-- The label of a link to a guide: what stands without a key, else the slug. -/
def label (slug text : String) : String :=
  ((unkeyed? (pieces text.toList)).map fun unkeyed =>
    String.ofList ([','].intercalate unkeyed)).getD slug

/-- The label is the text if all of it is prose, or if the slug is the text and stands in for it. -/
theorem label_eq_text_iff {slug text : String} :
    label slug text = text ↔
      IsProse text.toList ∨ unkeyed? (pieces text.toList) = none ∧ slug = text := by
  unfold label
  cases found : unkeyed? (pieces text.toList) with
  | none =>
      have notProse : ¬IsProse text.toList := by
        intro prose
        rw [unkeyed?_of_isProse prose] at found
        cases found
      simp [notProse]
  | some unkeyed =>
      rw [Option.map_some, Option.getD_some, ← String.toList_inj, String.toList_ofList,
        intercalate_unkeyed_eq_iff found]
      simp

variable {slug text : String}

theorem isWord_name : IsWord "guideLink".toList :=
  IsWord.of_all rfl (by decide)

theorem substitute_row
    (named : slug ≠ "")
    (isTarget : IsTarget slug)
    (inRow : '\n' ∉ text.toList)
    (rendering : Rendering) :
    handler.substitute rendering (row "guideLink" slug text) =
      .ok (link (Layout.variantName slug rendering.variant) (label slug text)) := by
  have expanded :
      expand rendering ⟨"guideLink", slug, Attributes.parse text⟩ =
        some (link (Layout.variantName slug rendering.variant) (label slug text)) := by
    rw [expand, if_neg named, positional?_parse]
    rfl
  rw [handler, Handler.ofLine_substitute_row isWord_name isTarget inRow, expanded]
  rfl

/--
A guide link is a link to the variant of the guide that it names.  Its label is the text that it is
given, or the slug for want of one, if and only if the text has no empty segments and no equals
signs, is empty, or is the slug itself and has a key in every piece.
-/
theorem substitute_keeps_label_iff
    (named : slug ≠ "")
    (isTarget : IsTarget slug)
    (inRow : '\n' ∉ text.toList)
    (rendering : Rendering) :
    let document := Layout.variantName slug rendering.variant
    let rewritten := handler.substitute rendering (row "guideLink" slug text)
    rewritten = .ok (link document (label slug text)) ∧
      (rewritten = .ok (link document (if text = "" then slug else text)) ↔
        text = "" ∨ IsProse text.toList ∨
          unkeyed? (pieces text.toList) = none ∧ slug = text) := by
  intro document rewritten
  have written : rewritten = .ok (link document (label slug text)) :=
    substitute_row named isTarget inRow rendering
  refine ⟨written, ?_⟩
  rw [written, Except.ok.injEq, link_inj]
  split
  · rename_i empty
    cases empty
    exact iff_of_true rfl (Or.inl rfl)
  · rename_i nonempty
    rw [label_eq_text_iff, or_iff_right nonempty]

theorem substitute_keeps_label_iff_prose :
    let rendering : Rendering := ⟨{}, ⟨.maven, .kotlin, .junit⟩, none⟩
    let text := "Read [this], too"
    "other" ≠ "" ∧ IsTarget "other" ∧ '\n' ∉ text.toList ∧
      handler.substitute rendering (row "guideLink" "other" text) =
        .ok (link "other-maven-kotlin" text) := by
  intro rendering text
  have isTarget : IsTarget "other" := .of_all (by decide)
  have inRow : '\n' ∉ text.toList := by decide
  have named : "other" ≠ "" := by decide
  have prose : IsProse text.toList := by
    unfold IsProse
    decide
  have name : Layout.variantName "other" rendering.variant = "other-maven-kotlin" := by
    decide +kernel
  obtain ⟨_, keeps⟩ :=
    substitute_keeps_label_iff named isTarget inRow rendering
  rw [name] at keeps
  exact ⟨named, isTarget, inRow, keeps.mpr (Or.inr (Or.inl prose))⟩

/-- A text with an equals sign is not the label, so a label cannot be any text. -/
theorem substitute_changes_label :
    ¬∀ (rendering : Rendering) (slug text : String),
      slug ≠ "" → IsTarget slug → '\n' ∉ text.toList →
        handler.substitute rendering (row "guideLink" slug text) =
          .ok (link (Layout.variantName slug rendering.variant)
            (if text = "" then slug else text)) := by
  intro always
  have kept :=
    always ⟨{}, ⟨.maven, .kotlin, .junit⟩, none⟩ "other" "E = mc2"
      (by decide) (.of_all (by decide)) (by decide)
  revert kept
  decide +kernel

end GuideLink

end Guidebook.Markup
