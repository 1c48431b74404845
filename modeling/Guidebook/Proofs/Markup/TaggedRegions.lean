import Guidebook.Markup.Selection
import Guidebook.Proofs.Text.Spans

/-!
# Tagged regions

A line that opens a tag starts a region of it, and one that closes the tag ends it.  A line is in a
region if one in front of it opens the tag and none between the two closes it: a tag may be opened
again inside or behind a region, and a region that nothing closes goes on to the end.  The lines of
a tag's regions are selected without those that mark the tag itself; a line that marks another tag
is one like any other.
-/

namespace Guidebook.Markup

open Guidebook.Text

/-! ## Marks -/

theorem occursIn_iff {part text : List Char} :
    occursIn part text = true ↔ part <:+: text := by
  induction text with
  | nil => rw [occursIn, List.isEmpty_iff, List.infix_nil]
  | cons c rest ih =>
      rw [occursIn, Bool.or_eq_true, ih, List.isPrefixOf_iff_prefix,
        List.infix_cons_iff]

namespace Tag

variable {tag : String} {line opener closer : Line}
  {rows front body back : List Line}

/-- The text in a line that opens a tag. -/
def startMark (tag : String) : List Char :=
  "tag::".toList ++ tag.toList ++ ['[']

/-- The text in a line that closes a tag. -/
def endMark (tag : String) : List Char :=
  "end::".toList ++ tag.toList ++ ['[']

def Opens (tag : String) (line : Line) : Prop :=
  startMark tag <:+: line.content
deriving Decidable

/-- A line with both marks opens the tag. -/
def Closes (tag : String) (line : Line) : Prop :=
  endMark tag <:+: line.content ∧ ¬Opens tag line
deriving Decidable

/-- A line with one of the marks of a tag. -/
def Marks (tag : String) (line : Line) : Prop :=
  startMark tag <:+: line.content ∨ endMark tag <:+: line.content
deriving Decidable

theorem marks_iff :
    Marks tag line ↔ Opens tag line ∨ Closes tag line := by
  constructor
  · rintro (opens | ends)
    · exact Or.inl opens
    · by_cases opens : Opens tag line
      · exact Or.inl opens
      · exact Or.inr ⟨ends, opens⟩
  · rintro (opens | closes)
    · exact Or.inl opens
    · exact Or.inr closes.1

theorem opensTag_iff :
    opensTag tag.toList line.content = true ↔ Opens tag line :=
  occursIn_iff

theorem closesTag_iff :
    closesTag tag.toList line.content = true ↔ endMark tag <:+: line.content :=
  occursIn_iff

/-! ## Regions -/

/-- What follows some lines is in a region: one of them opens the tag, and none behind it closes
it. -/
def InRegion (tag : String) (front : List Line) : Prop :=
  ∃ before opener between, front = before ++ opener :: between ∧
    Opens tag opener ∧ ∀ line ∈ between, ¬Closes tag line

theorem not_inRegion_nil : ¬InRegion tag [] := by
  rintro ⟨before, opener, between, split, -⟩
  simp at split

/-- One more line opens the tag, or closes it, or leaves everything as it is. -/
theorem inRegion_concat_iff :
    InRegion tag (front ++ [line]) ↔
      Opens tag line ∨ InRegion tag front ∧ ¬Closes tag line := by
  constructor
  · rintro ⟨before, opener, between, split, opens, unclosed⟩
    rcases List.eq_nil_or_concat' between with rfl | ⟨others, last, rfl⟩
    · obtain ⟨-, rfl⟩ := List.append_singleton_inj.mp split
      exact Or.inl opens
    · rw [← List.cons_append, ← List.append_assoc] at split
      obtain ⟨rfl, rfl⟩ := List.append_singleton_inj.mp split
      rw [List.forall_mem_append, List.forall_mem_singleton] at unclosed
      exact Or.inr ⟨⟨before, opener, others, rfl, opens, unclosed.1⟩, unclosed.2⟩
  · rintro (opens | ⟨⟨before, opener, between, rfl, opens, unclosed⟩, open_still⟩)
    · exact ⟨front, line, [], rfl, opens, List.forall_mem_nil _⟩
    · refine ⟨before, opener, between ++ [line], by simp, opens, ?_⟩
      rw [List.forall_mem_append, List.forall_mem_singleton]
      exact ⟨unclosed, open_still⟩

/-- Whether a region is open behind some lines, found by reading them once. -/
def isOpenBehind (tag : String) (front : List Line) : Bool :=
  front.foldl
    (fun inside line => decide (Opens tag line) || inside && !decide (Closes tag line))
    false

theorem isOpenBehind_iff :
    isOpenBehind tag front = true ↔ InRegion tag front := by
  induction front using List.reverseRecOn with
  | nil => simp [isOpenBehind, not_inRegion_nil]
  | append_singleton front line ih =>
      rw [inRegion_concat_iff, ← ih]
      simp [isOpenBehind]

instance : DecidablePred (InRegion tag) :=
  fun _ => decidable_of_iff _ isOpenBehind_iff

/-- The lines in the regions of a tag that do not mark it. -/
def regionLines (tag : String) (rows : List Line) : List Line :=
  ((withFronts rows).filter fun entry =>
    InRegion tag entry.1 ∧ ¬Marks tag entry.2).map Prod.snd

/-- A line that does not mark the tag is added where a region is open. -/
theorem regionLines_concat (rows : List Line) (line : Line) :
    regionLines tag (rows ++ [line]) =
      regionLines tag rows ++
        if InRegion tag rows ∧ ¬Marks tag line then [line] else [] := by
  unfold regionLines
  rw [withFronts_concat, List.filter_append, List.map_append]
  congr 1
  split
  · rename_i taken
    simp [taken]
  · rename_i left
    simp [left]

theorem inRegion_opener (opens : Opens tag line) :
    InRegion tag (front ++ [line]) :=
  inRegion_concat_iff.mpr (Or.inl opens)

theorem not_inRegion_closer (closes : Closes tag line) :
    ¬InRegion tag (front ++ [line]) := by
  rw [inRegion_concat_iff, not_or, not_and_not_right]
  exact ⟨closes.2, fun _ => closes⟩

theorem inRegion_unmarked (unmarked : ¬Marks tag line) :
    InRegion tag (front ++ [line]) ↔ InRegion tag front := by
  rw [marks_iff, not_or] at unmarked
  rw [inRegion_concat_iff, or_iff_right unmarked.1, and_iff_left unmarked.2]

/-- Reading on behind some lines adds the lines that are in a region there. -/
theorem regionLines_append_eq (front back : List Line) :
    (regionLines tag (front ++ back)).map Line.content =
      (regionLines tag front).map Line.content ++
        taggedLines tag.toList (decide (InRegion tag front))
          (back.map Line.content) := by
  -- What the reading carries along is whether a region is open behind the lines read so far, so
  -- each line moves from the lines to come to the end of those.
  induction back generalizing front with
  | nil => simp [taggedLines]
  | cons line rest ih =>
      have step := ih (front ++ [line])
      rw [List.append_assoc, List.singleton_append, regionLines_concat,
        List.map_append, List.append_assoc] at step
      rw [step, List.map_cons, taggedLines]
      congr 1
      by_cases marked : Marks tag line
      · rw [if_neg (fun both => both.2 marked), List.map_nil, List.nil_append]
        rcases marks_iff.mp marked with opens | closes
        · rw [if_pos (opensTag_iff.mpr opens),
            decide_eq_true (inRegion_opener opens)]
        · rw [if_neg (mt opensTag_iff.mp closes.2),
            if_pos (closesTag_iff.mpr closes.1),
            decide_eq_false (not_inRegion_closer closes)]
      · obtain ⟨unopened, unclosed⟩ := not_or.mp marked
        rw [if_neg (mt opensTag_iff.mp unopened),
          if_neg (mt closesTag_iff.mp unclosed)]
        simp only [inRegion_unmarked marked, marked, not_false_eq_true,
          and_true, decide_eq_true_eq]
        split
        · rfl
        · rfl

/-- Reading the lines of a text once finds the lines in the regions of a tag. -/
theorem taggedLines_eq (rows : List Line) :
    taggedLines tag.toList false (rows.map Line.content) =
      (regionLines tag rows).map Line.content := by
  have whole :
      (regionLines tag rows).map Line.content =
        taggedLines tag.toList (decide (InRegion tag []))
          (rows.map Line.content) :=
    regionLines_append_eq [] rows
  rw [whole, decide_eq_false not_inRegion_nil]

/-! ## Regions one after the other -/

/-- A region stays open up to the next line that closes it. -/
theorem inRegion_append
    (inside : InRegion tag front)
    (unclosed : ∀ line ∈ body, ¬Closes tag line) :
    InRegion tag (front ++ body) := by
  obtain ⟨before, opener, between, rfl, opens, front_unclosed⟩ := inside
  refine ⟨before, opener, between ++ body, by simp, opens, ?_⟩
  exact List.forall_mem_append.mpr ⟨front_unclosed, unclosed⟩

/-- The lines up to the next that closes a region are taken, but for those that open it again. -/
theorem regionLines_inside
    (inside : InRegion tag front)
    (unclosed : ∀ line ∈ body, ¬Closes tag line) :
    regionLines tag (front ++ body) =
      regionLines tag front ++ body.filter fun line => ¬Opens tag line := by
  induction body using List.reverseRecOn with
  | nil => simp
  | append_singleton more line ih =>
      rw [List.forall_mem_append, List.forall_mem_singleton] at unclosed
      have still : InRegion tag (front ++ more) :=
        inRegion_append inside unclosed.1
      rw [← List.append_assoc, regionLines_concat, ih unclosed.1,
        List.filter_append, List.append_assoc]
      congr 2
      simp [still, marks_iff, unclosed.2, List.filter_singleton]

/-- Where no region is open, later ones are those of what follows alone. -/
theorem inRegion_append_iff (outside : ¬InRegion tag front) :
    InRegion tag (front ++ back) ↔ InRegion tag back := by
  induction back using List.reverseRecOn with
  | nil =>
      rw [List.append_nil]
      exact iff_of_false outside not_inRegion_nil
  | append_singleton more line ih =>
      rw [← List.append_assoc, inRegion_concat_iff, inRegion_concat_iff, ih]

theorem regionLines_append
    (outside : ¬InRegion tag front) (back : List Line) :
    regionLines tag (front ++ back) =
      regionLines tag front ++ regionLines tag back := by
  induction back using List.reverseRecOn with
  | nil => simp [regionLines, withFronts]
  | append_singleton more line ih =>
      rw [← List.append_assoc, regionLines_concat, regionLines_concat, ih,
        List.append_assoc]
      simp only [inRegion_append_iff outside]

/-- A region that nothing closes goes on to the end. -/
theorem regionLines_last
    (front : List Line)
    (opens : Opens tag opener)
    (unclosed : ∀ line ∈ body, ¬Closes tag line) :
    regionLines tag (front ++ opener :: body) =
      regionLines tag front ++ body.filter fun line => ¬Opens tag line := by
  have marks : Marks tag opener := marks_iff.mpr (Or.inl opens)
  have inside : InRegion tag (front ++ [opener]) := inRegion_opener opens
  have region := regionLines_inside inside unclosed
  rw [List.append_assoc, List.singleton_append, regionLines_concat,
    if_neg fun both => both.2 marks, List.append_nil] at region
  exact region

/-- Behind a region that is closed, further regions are taken as well. -/
theorem regionLines_reopened
    (front : List Line)
    (opens : Opens tag opener)
    (unclosed : ∀ line ∈ body, ¬Closes tag line)
    (closes : Closes tag closer)
    (back : List Line) :
    regionLines tag (front ++ opener :: (body ++ closer :: back)) =
      regionLines tag front ++ (body.filter fun line => ¬Opens tag line) ++
        regionLines tag back := by
  have split :
      front ++ opener :: (body ++ closer :: back) =
        (front ++ opener :: body ++ [closer]) ++ back := by
    simp
  have marks : Marks tag closer := marks_iff.mpr (Or.inr closes)
  rw [split, regionLines_append (not_inRegion_closer closes) back,
    regionLines_concat, if_neg fun both => both.2 marks, List.append_nil,
    regionLines_last front opens unclosed]

end Tag

/-! ## Tags one after the other -/

section Tags

variable {rows : List Line} {target : String} {tags : List String}

theorem any_opensTag_iff {tag : String} :
    (rows.map Line.content).any (opensTag tag.toList) = true ↔
      ∃ line ∈ rows, Tag.Opens tag line := by
  simp only [List.any_map, List.any_eq_true, Function.comp_apply,
    Tag.opensTag_iff]

theorem selectTagged_eq_ok
    (opened : ∀ tag ∈ tags, ∃ line ∈ rows, Tag.Opens tag line) :
    selectTagged (rows.map Line.content) target tags =
      .ok ((tags.flatMap fun tag => Tag.regionLines tag rows).map
        Line.content) := by
  induction tags with
  | nil => rfl
  | cons tag rest ih =>
      obtain ⟨first, later⟩ := List.forall_mem_cons.mp opened
      rw [selectTagged, if_pos (any_opensTag_iff.mpr first), ih later,
        Tag.taggedLines_eq, List.flatMap_cons, List.map_append]

theorem selectTagged_eq_error
    {front back : List String} {tag : String}
    (opened : ∀ earlier ∈ front, ∃ line ∈ rows, Tag.Opens earlier line)
    (missing : ¬∃ line ∈ rows, Tag.Opens tag line) :
    selectTagged (rows.map Line.content) target (front ++ tag :: back) =
      .error (.missingTag target tag) := by
  induction front with
  | nil =>
      rw [List.nil_append, selectTagged,
        if_neg (mt any_opensTag_iff.mp missing)]
  | cons first rest ih =>
      obtain ⟨found, later⟩ := List.forall_mem_cons.mp opened
      rw [List.cons_append, selectTagged, if_pos (any_opensTag_iff.mpr found),
        ih later]

/-- Either every tag is opened, or there is a first one that is not. -/
theorem opened_or_missing (rows : List Line) (tags : List String) :
    (∀ tag ∈ tags, ∃ line ∈ rows, Tag.Opens tag line) ∨
      ∃ front tag back, tags = front ++ tag :: back ∧
        (∀ earlier ∈ front, ∃ line ∈ rows, Tag.Opens earlier line) ∧
        ¬∃ line ∈ rows, Tag.Opens tag line := by
  induction tags with
  | nil => exact Or.inl (List.forall_mem_nil _)
  | cons first rest ih =>
      by_cases found : ∃ line ∈ rows, Tag.Opens first line
      · rcases ih with opened | ⟨front, tag, back, rfl, opened, missing⟩
        · exact Or.inl (List.forall_mem_cons.mpr ⟨found, opened⟩)
        · exact Or.inr ⟨first :: front, tag, back, rfl,
            List.forall_mem_cons.mpr ⟨found, opened⟩, missing⟩
      · exact Or.inr ⟨[], first, rest, rfl, List.forall_mem_nil _, found⟩

variable {content selected : String}

theorem selectTags_eq_ok
    (opened :
      ∀ tag ∈ tags, ∃ line ∈ lines content.toList, Tag.Opens tag line) :
    selectTags content tags target =
      .ok (String.ofList (unlines
        ((tags.flatMap fun tag =>
          Tag.regionLines tag (lines content.toList)).map Line.content))) := by
  rw [selectTags, lineContents, selectTagged_eq_ok opened]

theorem selectTags_eq_error
    {front back : List String} {tag : String}
    (opened :
      ∀ earlier ∈ front, ∃ line ∈ lines content.toList, Tag.Opens earlier line)
    (missing : ¬∃ line ∈ lines content.toList, Tag.Opens tag line) :
    selectTags content (front ++ tag :: back) target =
      .error (.missingTag target tag) := by
  rw [selectTags, lineContents, selectTagged_eq_error opened missing]

theorem selectTags_eq_ok_iff :
    selectTags content tags target = .ok selected ↔
      (∀ tag ∈ tags, ∃ line ∈ lines content.toList, Tag.Opens tag line) ∧
        selected.toList = unlines
          ((tags.flatMap fun tag =>
            Tag.regionLines tag (lines content.toList)).map Line.content) := by
  constructor
  · intro succeeded
    rcases opened_or_missing (lines content.toList) tags with
      opened | ⟨front, tag, back, rfl, opened, missing⟩
    · rw [selectTags_eq_ok opened] at succeeded
      cases succeeded
      exact ⟨opened, String.toList_ofList⟩
    · rw [selectTags_eq_error opened missing] at succeeded
      cases succeeded
  · rintro ⟨opened, same⟩
    rw [selectTags_eq_ok opened, ← same, String.ofList_toList]

theorem selectTags_eq_error_iff {reason : Error} :
    selectTags content tags target = .error reason ↔
      ∃ front tag back, tags = front ++ tag :: back ∧
        (∀ earlier ∈ front,
          ∃ line ∈ lines content.toList, Tag.Opens earlier line) ∧
        (¬∃ line ∈ lines content.toList, Tag.Opens tag line) ∧
        reason = .missingTag target tag := by
  constructor
  · intro failed
    rcases opened_or_missing (lines content.toList) tags with
      opened | ⟨front, tag, back, rfl, opened, missing⟩
    · rw [selectTags_eq_ok opened] at failed
      cases failed
    · rw [selectTags_eq_error opened missing] at failed
      cases failed
      exact ⟨front, tag, back, rfl, opened, missing, rfl⟩
  · rintro ⟨front, tag, back, rfl, opened, missing, rfl⟩
    exact selectTags_eq_error opened missing

end Tags

/--
A text falls into lines in one way.  A selection fails for the first tag that none of them opens,
and for nothing else.  Otherwise it consists of the lines that are in a region of a tag and do not
mark it, each ended by a line feed, in the order of the text and tag after tag.  Regions behind one
that is closed are taken as well, and one that nothing closes goes on to the end.
-/
theorem selectTags_selects_regions
    (content target : String) (tags : List String) :
    let rows := lines content.toList
    (∀ others, FallsInto content.toList others ↔ others = rows) ∧
    (∀ reason,
      selectTags content tags target = .error reason ↔
        ∃ front tag back, tags = front ++ tag :: back ∧
          (∀ earlier ∈ front, ∃ line ∈ rows, Tag.Opens earlier line) ∧
          (¬∃ line ∈ rows, Tag.Opens tag line) ∧
          reason = .missingTag target tag) ∧
    (∀ selected,
      selectTags content tags target = .ok selected ↔
        (∀ tag ∈ tags, ∃ line ∈ rows, Tag.Opens tag line) ∧
          selected.toList =
            tags.flatMap fun tag =>
              (Tag.regionLines tag rows).flatMap fun line =>
                line.content ++ ['\n']) ∧
    ∀ tag front opener body,
      Tag.Opens tag opener →
      (∀ line ∈ body, ¬Tag.Closes tag line) →
        (rows = front ++ opener :: body →
          Tag.regionLines tag rows =
            Tag.regionLines tag front ++
              body.filter fun line => ¬Tag.Opens tag line) ∧
        ∀ closer back,
          Tag.Closes tag closer →
          rows = front ++ opener :: (body ++ closer :: back) →
            Tag.regionLines tag rows =
              Tag.regionLines tag front ++
                (body.filter fun line => ¬Tag.Opens tag line) ++
                  Tag.regionLines tag back := by
  intro rows
  refine ⟨fun _ => fallsInto_iff, fun _ => selectTags_eq_error_iff,
    fun selected => ?_, fun tag front opener body opens unclosed => ⟨?_, ?_⟩⟩
  · rw [selectTags_eq_ok_iff, unlines, List.flatMap_map, List.flatMap_assoc]
  · intro split
    rw [split]
    exact Tag.regionLines_last front opens unclosed
  · intro closer back closes split
    rw [split]
    exact Tag.regionLines_reopened front opens unclosed closes back

/-- A tag inside the region of another, whose name ends like its own, and opened twice. -/
example :
    selectTags "tag::b[]\n1\ntag::ab[]\r\n2\nend::ab[]\n3\ntag::ab[] end::ab[]\n4"
        ["ab", "b"] "X" =
      .ok "2\n4\n1\ntag::ab[]\n2\nend::ab[]\n3\ntag::ab[] end::ab[]\n4\n" := by
  decide

end Guidebook.Markup
