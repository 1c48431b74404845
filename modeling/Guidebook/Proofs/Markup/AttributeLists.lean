import Guidebook.Markup.Attribute
import Guidebook.Proofs.Basic
import Mathlib.Tactic.Common

/-!
# Attributes as they are written

Reading a list of attributes groups its pieces, and rendering the attributes writes the same pieces
again, except that an equals sign at the start of a piece is lost with the empty key behind which it
stood.  Where no piece starts with one, what is rendered reads back, also after the attributes of a
key have been taken out: every attribute but the first starts with a piece that has an equals sign,
so its values do not run into those of its neighbours.
-/

namespace Guidebook.Markup

open Guidebook.Text

/-- A piece less the equals sign that it starts with, if it does. -/
def withoutSign : List Char → List Char
  | '=' :: rest => rest
  | piece => piece

theorem withoutSign_of_head?
    {piece : List Char} (unsigned : piece.head? ≠ some '=') :
    withoutSign piece = piece := by
  unfold withoutSign
  split
  · exact absurd rfl unsigned
  · rfl

/-! ## Pieces of an attribute -/

namespace Attribute

/-- The pieces in which an attribute is written. -/
def writtenPieces (entry : Attribute) : List (List Char) :=
  match entry.values with
  | [] => []
  | first :: more =>
    (if entry.isPositional then first.toList
      else entry.key.toList ++ '=' :: first.toList) :: more.map String.toList

variable {entry : Attribute}

theorem writtenPieces_ne_nil
    (valued : entry.values ≠ []) :
    entry.writtenPieces ≠ [] := by
  obtain ⟨first, more, same⟩ := List.exists_cons_of_ne_nil valued
  rw [writtenPieces, same]
  exact List.cons_ne_nil _ _

theorem render_toList
    (valued : entry.values ≠ []) :
    entry.render.toList = [','].intercalate entry.writtenPieces := by
  obtain ⟨first, more, same⟩ := List.exists_cons_of_ne_nil valued
  have comma : ",".toList = [','] := rfl
  unfold render writtenPieces joined
  rw [same]
  cases positional : entry.isPositional with
  | true => simp [comma]
  | false => cases more <;> simp [comma]

end Attribute

namespace Attributes

/-! ## Rendering -/

theorem render_eq
    {attributes : Attributes}
    (valued : ∀ entry ∈ attributes.entries, entry.values ≠ []) :
    attributes.render =
      String.ofList ([','].intercalate
        (attributes.entries.flatMap Attribute.writtenPieces)) := by
  have rendered :
      (attributes.entries.map Attribute.render).map String.toList =
        attributes.entries.map fun entry =>
          [','].intercalate entry.writtenPieces := by
    rw [List.map_map]
    exact List.map_congr_left fun entry member =>
      Attribute.render_toList (valued entry member)
  rw [← String.toList_inj, String.toList_ofList, render,
    String.toList_intercalate, rendered,
    intercalate_flatMap fun entry member =>
      Attribute.writtenPieces_ne_nil (valued entry member)]
  rfl

/-- The values at the start, if there are any, and the attributes behind them. -/
def ofGroups : List String × List Attribute → Attributes
  | ([], keyed) => ⟨keyed⟩
  | (values, keyed) => ⟨⟨"", values⟩ :: keyed⟩

theorem parse_eq (text : String) :
    parse text = ofGroups (group (pieces text.toList)) :=
  rfl

theorem ofGroups_flatMap_writtenPieces
    (values : List String) (keyed : List Attribute) :
    (ofGroups (values, keyed)).entries.flatMap Attribute.writtenPieces =
      values.map String.toList ++ keyed.flatMap Attribute.writtenPieces := by
  cases values with
  | nil => rfl
  | cons first more => rfl

/-- Grouping changes no piece, except that it takes the equals sign from the start of one. -/
theorem group_flatMap_writtenPieces (written : List (List Char)) :
    (group written).1.map String.toList ++
        (group written).2.flatMap Attribute.writtenPieces =
      written.map withoutSign := by
  induction written with
  | nil => rfl
  | cons piece rest ih =>
      rw [group, List.map_cons, ← ih]
      cases found : cut '=' piece with
      | none =>
          have unsigned : piece.head? ≠ some '=' := fun first =>
            cut_eq_none_iff.mp found (List.mem_of_head? first)
          simp [withoutSign_of_head? unsigned]
      | some parts =>
          obtain ⟨key, value⟩ := parts
          obtain ⟨rfl, noSign⟩ := cut_eq_some found
          cases key with
          | nil =>
              simp [Attribute.writtenPieces, Attribute.isPositional,
                withoutSign]
          | cons c more =>
              have unsigned :
                  (c :: more ++ '=' :: value).head? ≠ some '=' := by
                intro first
                cases Option.some.inj first
                exact noSign List.mem_cons_self
              rw [withoutSign_of_head? unsigned]
              simp [Attribute.writtenPieces, Attribute.isPositional]

theorem group_valued (written : List (List Char)) :
    ∀ entry ∈ (group written).2, entry.values ≠ [] := by
  induction written with
  | nil => exact List.forall_mem_nil _
  | cons piece rest ih =>
      rw [group]
      cases cut '=' piece with
      | none => exact ih
      | some parts =>
          exact List.forall_mem_cons.mpr ⟨List.cons_ne_nil _ _, ih⟩

theorem ofGroups_valued
    {values : List String} {keyed : List Attribute}
    (valued : ∀ entry ∈ keyed, entry.values ≠ []) :
    ∀ entry ∈ (ofGroups (values, keyed)).entries, entry.values ≠ [] := by
  cases values with
  | nil => exact valued
  | cons first more =>
      exact List.forall_mem_cons.mpr ⟨List.cons_ne_nil first more, valued⟩

theorem render_ofGroups
    (values : List String) {keyed : List Attribute}
    (valued : ∀ entry ∈ keyed, entry.values ≠ []) :
    (ofGroups (values, keyed)).render =
      String.ofList ([','].intercalate
        (values.map String.toList ++
          keyed.flatMap Attribute.writtenPieces)) := by
  rw [render_eq (ofGroups_valued valued), ofGroups_flatMap_writtenPieces]

/-- What is read of a text is rendered as its pieces, without the equals signs at their starts. -/
theorem render_parse (text : String) :
    (parse text).render =
      String.ofList ([','].intercalate
        ((pieces text.toList).map withoutSign)) := by
  rw [parse_eq, ← group_flatMap_writtenPieces]
  exact render_ofGroups _ (group_valued _)

/-! ## Reading back -/

/-- A value that is written in a piece of its own. -/
structure Continues (value : String) : Prop where
  nonempty : value.toList ≠ []
  noSign : '=' ∉ value.toList
  noComma : ',' ∉ value.toList

/-- An attribute that is written behind its key. -/
structure IsKeyed (entry : Attribute) : Prop where
  named : entry.key ≠ ""
  noSign : '=' ∉ entry.key.toList
  noComma : ',' ∉ entry.key.toList
  values :
    ∃ first more, entry.values = first :: more ∧ ',' ∉ first.toList ∧
      ∀ value ∈ more, Continues value

variable {values : List String} {keyed : List Attribute} {entry : Attribute}

theorem IsKeyed.valued (isKeyed : IsKeyed entry) : entry.values ≠ [] := by
  obtain ⟨first, more, same, _⟩ := isKeyed.values
  rw [same]
  exact List.cons_ne_nil first more

theorem IsKeyed.writtenPieces_eq
    (isKeyed : IsKeyed entry)
    {first : String} {more : List String}
    (same : entry.values = first :: more) :
    entry.writtenPieces =
      (entry.key.toList ++ '=' :: first.toList) :: more.map String.toList := by
  simp [Attribute.writtenPieces, same, Attribute.isPositional, isKeyed.named]

/-- Values in pieces of their own belong to the attribute in front of them. -/
theorem group_values
    (continues : ∀ value ∈ values, Continues value)
    (rest : List (List Char)) :
    group (values.map String.toList ++ rest) =
      (values ++ (group rest).1, (group rest).2) := by
  induction values with
  | nil => rfl
  | cons value more ih =>
      obtain ⟨first, later⟩ := List.forall_mem_cons.mp continues
      rw [List.map_cons, List.cons_append, group, ih later,
        cut_eq_none_iff.mpr first.noSign]
      simp

/-- An attribute is read from its pieces, whatever attributes stand behind it. -/
theorem group_keyed
    (areKeyed : ∀ entry ∈ keyed, IsKeyed entry) :
    group (keyed.flatMap Attribute.writtenPieces) = ([], keyed) := by
  induction keyed with
  | nil => rfl
  | cons entry rest ih =>
      obtain ⟨isKeyed, later⟩ := List.forall_mem_cons.mp areKeyed
      obtain ⟨first, more, same, _, continues⟩ := isKeyed.values
      rw [List.flatMap_cons, isKeyed.writtenPieces_eq same, List.cons_append,
        group, group_values continues, ih later,
        cut_append_cons isKeyed.noSign]
      simp [← same]

/-- Pieces are told by the commas between them. -/
theorem pieces_intercalate
    {written : List (List Char)}
    (nonempty : ∀ piece ∈ written, piece ≠ [])
    (noComma : ∀ piece ∈ written, ',' ∉ piece) :
    pieces ([','].intercalate written) = written := by
  unfold pieces
  by_cases none : written = []
  · rw [none]
    rfl
  · rw [List.splitOn_intercalate ',' noComma none, List.filter_eq_self]
    simpa using nonempty

/-- Attributes that are rendered read back if only the first may lack a key. -/
theorem parse_render_ofGroups
    (continues : ∀ value ∈ values, Continues value)
    (areKeyed : ∀ entry ∈ keyed, IsKeyed entry) :
    parse (ofGroups (values, keyed)).render = ofGroups (values, keyed) := by
  have valued : ∀ entry ∈ keyed, entry.values ≠ [] :=
    fun entry member => (areKeyed entry member).valued
  have whole :
      ∀ piece ∈ values.map String.toList ++
          keyed.flatMap Attribute.writtenPieces,
        piece ≠ [] ∧ ',' ∉ piece := by
    rw [List.forall_mem_append, List.forall_mem_map, List.forall_mem_flatMap]
    refine ⟨fun value member =>
      ⟨(continues value member).nonempty, (continues value member).noComma⟩, ?_⟩
    intro entry member
    have isKeyed := areKeyed entry member
    obtain ⟨first, more, same, noComma, later⟩ := isKeyed.values
    rw [isKeyed.writtenPieces_eq same, List.forall_mem_cons,
      List.forall_mem_map]
    refine ⟨⟨by simp, ?_⟩, fun value present =>
      ⟨(later value present).nonempty, (later value present).noComma⟩⟩
    simp [isKeyed.noComma, noComma]
  rw [render_ofGroups values valued, parse_eq, String.toList_ofList,
    pieces_intercalate (fun piece member => (whole piece member).1)
      (fun piece member => (whole piece member).2),
    group_values continues, group_keyed areKeyed, List.append_nil]

theorem without_ofGroups
    {key : String} (named : key ≠ "") :
    (ofGroups (values, keyed)).without key =
      ofGroups (values, keyed.filter fun entry => entry.key != key) := by
  cases values with
  | nil => rfl
  | cons first more =>
      have stays : (("" : String) != key) = true := by
        simpa using Ne.symm named
      simp [ofGroups, without, stays]

theorem Continues.ofList
    {piece : List Char}
    (nonempty : piece ≠ [])
    (noSign : '=' ∉ piece)
    (noComma : ',' ∉ piece) :
    Continues (String.ofList piece) := by
  constructor <;> rwa [String.toList_ofList]

/-- A piece with an equals sign that it does not start with, and the values behind it. -/
theorem IsKeyed.ofList
    {key value : List Char}
    (noSign : '=' ∉ key)
    (unsigned : (key ++ '=' :: value).head? ≠ some '=')
    (noComma : ',' ∉ key ++ '=' :: value)
    (continues : ∀ value ∈ values, Continues value) :
    IsKeyed ⟨String.ofList key, String.ofList value :: values⟩ := by
  rw [List.mem_append, List.mem_cons, not_or, not_or] at noComma
  obtain ⟨key_noComma, _, value_noComma⟩ := noComma
  refine ⟨?_, ?_, ?_, String.ofList value, values, rfl, ?_, continues⟩
  · intro empty
    rw [← String.toList_inj, String.toList_ofList] at empty
    rw [show key = [] from empty] at unsigned
    exact unsigned rfl
  · rwa [String.toList_ofList]
  · rwa [String.toList_ofList]
  · rwa [String.toList_ofList]

/-- Pieces of which none starts with an equals sign are grouped behind keys, apart from those in
front. -/
theorem group_unsigned
    {written : List (List Char)}
    (nonempty : ∀ piece ∈ written, piece ≠ [])
    (noComma : ∀ piece ∈ written, ',' ∉ piece)
    (unsigned : ∀ piece ∈ written, piece.head? ≠ some '=') :
    (∀ value ∈ (group written).1, Continues value) ∧
      ∀ entry ∈ (group written).2, IsKeyed entry := by
  induction written with
  | nil => exact ⟨List.forall_mem_nil _, List.forall_mem_nil _⟩
  | cons piece rest ih =>
      obtain ⟨piece_nonempty, rest_nonempty⟩ := List.forall_mem_cons.mp nonempty
      obtain ⟨piece_noComma, rest_noComma⟩ := List.forall_mem_cons.mp noComma
      obtain ⟨piece_unsigned, rest_unsigned⟩ := List.forall_mem_cons.mp unsigned
      obtain ⟨continues, areKeyed⟩ := ih rest_nonempty rest_noComma rest_unsigned
      rw [group]
      cases found : cut '=' piece with
      | none =>
          have first : Continues (String.ofList piece) :=
            .ofList piece_nonempty (cut_eq_none_iff.mp found) piece_noComma
          exact ⟨List.forall_mem_cons.mpr ⟨first, continues⟩, areKeyed⟩
      | some parts =>
          obtain ⟨key, value⟩ := parts
          obtain ⟨rfl, noSign⟩ := cut_eq_some found
          have first :
              IsKeyed ⟨String.ofList key,
                String.ofList value :: (group rest).1⟩ :=
            .ofList noSign piece_unsigned piece_noComma continues
          exact ⟨List.forall_mem_nil _,
            List.forall_mem_cons.mpr ⟨first, areKeyed⟩⟩

/-- The pieces of a text in which no segment starts with an equals sign. -/
theorem group_pieces
    {text : List Char}
    (unsigned :
      ∀ segment ∈ text.splitOn ',', segment.head? ≠ some '=') :
    (∀ value ∈ (group (pieces text)).1, Continues value) ∧
      ∀ entry ∈ (group (pieces text)).2, IsKeyed entry := by
  have segments :
      ∀ piece ∈ pieces text, piece ∈ text.splitOn ',' ∧ piece ≠ [] := by
    intro piece member
    simpa [pieces] using member
  exact group_unsigned (fun piece member => (segments piece member).2)
    (fun piece member =>
      separator_notMem_of_mem_splitOn (segments piece member).1)
    (fun piece member => unsigned piece (segments piece member).1)

/--
Attributes are rendered as the segments of the text that are not empty, each less the equals sign
that it starts with.  Where no segment starts with one, they read back, also without those of a key.
-/
theorem parse_reads_back (text : String) :
    (parse text).render =
      String.ofList ([','].intercalate
        (((text.toList.splitOn ',').filter (· ≠ [])).map withoutSign)) ∧
    ((∀ segment ∈ text.toList.splitOn ',', segment.head? ≠ some '=') →
      parse (parse text).render = parse text ∧
      ∀ key, key ≠ "" →
        parse ((parse text).without key).render =
          (parse text).without key) := by
  refine ⟨render_parse text, fun unsigned => ?_⟩
  obtain ⟨continues, areKeyed⟩ := group_pieces unsigned
  rw [parse_eq text]
  refine ⟨parse_render_ofGroups continues areKeyed, fun key named => ?_⟩
  rw [without_ofGroups named]
  exact parse_render_ofGroups continues fun entry member =>
    areKeyed entry (List.mem_filter.mp member).1

theorem parse_reads_back_neighbours :
    let text := "lead,tags=a,b,,url=x=y,c,tags=,d"
    (∀ segment ∈ text.toList.splitOn ',', segment.head? ≠ some '=') ∧
    "url" ≠ "" ∧
    (parse text).entries =
      [⟨"", ["lead"]⟩, ⟨"tags", ["a", "b"]⟩, ⟨"url", ["x=y", "c"]⟩,
        ⟨"tags", ["", "d"]⟩] ∧
    (parse text).render = "lead,tags=a,b,url=x=y,c,tags=,d" ∧
    ((parse text).without "url").render = "lead,tags=a,b,tags=,d" ∧
    parse (parse text).render = parse text ∧
    parse ((parse text).without "url").render =
      (parse text).without "url" := by
  intro text
  have unsigned :
      ∀ segment ∈ text.toList.splitOn ',', segment.head? ≠ some '=' := by
    decide +kernel
  have named : "url" ≠ "" := by decide
  obtain ⟨rendered, reads⟩ := parse_reads_back text
  refine ⟨unsigned, named, by decide +kernel, ?_, by decide +kernel,
    (reads unsigned).1, (reads unsigned).2 "url" named⟩
  rw [rendered]
  decide +kernel

end Attributes

end Guidebook.Markup
