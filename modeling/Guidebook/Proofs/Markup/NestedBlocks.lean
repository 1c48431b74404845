import Guidebook.Proofs.Markup.Pipeline
import Mathlib.Data.List.TakeWhile

/-!
# Nested blocks

A document is an outline of plain lines and of blocks between markers, where blocks of different
kinds may stand inside each other.  The pass of a kind takes the blocks of this kind out of the
outline, with their markers, and meets the markers of other kinds as lines like any other.  So
passes in any order leave the same: the plain lines around which no block matches the variant.
-/

namespace Guidebook.Markup

open Guidebook.Text

/-- What the first marker of a block says. -/
structure Condition where
  kind : ExclusionKind
  parameters : List Char

/-- Whether a block is left out of a variant. -/
def Condition.holds (condition : Condition) (variant : Variant) : Bool :=
  condition.kind.Matches variant condition.parameters

/-- A document of plain lines and blocks. -/
inductive Outline where
  | empty
  | plain (line : Line) (rest : Outline)
  | block (condition : Condition) (opener : Line) (body : Outline)
      (closer : Line) (rest : Outline)

namespace Outline

variable {variant : Variant} {jdk : UInt32}
  {around done : List ExclusionKind} {kind other : ExclusionKind}
  {line : Line} {outline : Outline}

/-- The lines of a document as they are written. -/
def lines : Outline → List Line
  | empty => []
  | plain line rest => line :: rest.lines
  | block _ opener body closer rest =>
    opener :: (body.lines ++ [closer]) ++ rest.lines

/-- The plain lines, each with the conditions of the blocks around it. -/
def plainLines
    (conditions : List Condition) : Outline → List (Line × List Condition)
  | empty => []
  | plain line rest => (line, conditions) :: rest.plainLines conditions
  | block condition _ body _ rest =>
    body.plainLines (condition :: conditions) ++ rest.plainLines conditions

/-- The plain lines around which no block matches a variant. -/
def survivors (outline : Outline) (variant : Variant) : List Line :=
  ((outline.plainLines []).filter fun entry =>
    !entry.2.any fun condition => condition.holds variant).map Prod.fst

/--
Markers stand where they belong: plain lines are none, a block starts with one that has parameters
and ends with one that has none, and no block stands inside another of its kind.  The kinds of the
blocks around the document are given.
-/
inductive WellNested (jdk : UInt32) : List ExclusionKind → Outline → Prop where
  | empty {around : List ExclusionKind} :
      WellNested jdk around .empty
  | plain {around : List ExclusionKind} {line : Line} {rest : Outline}
      (unmarked :
        ∀ kind ∈ exclusionKinds jdk, parameters? kind.marker line = none)
      (rest_nested : WellNested jdk around rest) :
      WellNested jdk around (.plain line rest)
  | block {around : List ExclusionKind} {condition : Condition}
      {opener closer : Line} {body rest : Outline}
      (known : condition.kind ∈ exclusionKinds jdk)
      (outside : condition.kind ∉ around)
      (opens :
        parameters? condition.kind.marker opener = some condition.parameters)
      (nonempty : condition.parameters ≠ [])
      (closes : parameters? condition.kind.marker closer = some [])
      (body_nested : WellNested jdk (condition.kind :: around) body)
      (rest_nested : WellNested jdk around rest) :
      WellNested jdk around (.block condition opener body closer rest)

/-! ## Markers of other kinds -/

theorem colon_notMem_name (kind : ExclusionKind) :
    ':' ∉ kind.name.toList := by
  cases kind with
  | build => decide
  | languages => decide
  | jdkLowerThan jdk =>
      change ':' ∉ "exclude-for-jdk-lower-than".toList
      decide

/-- The name in a marker ends at the second colon. -/
theorem takeWhile_name (kind : ExclusionKind) (rest : List Char) :
    (kind.name.toList ++ ':' :: rest).takeWhile (· != ':') =
      kind.name.toList := by
  refine (takeWhile_append_cons_of_not (by decide) _ rest).trans ?_
  refine List.takeWhile_eq_self_iff.mpr fun c member => ?_
  exact bne_iff_ne.mpr fun same => colon_notMem_name kind (same ▸ member)

theorem name_eq_of_parameters
    {first second : List Char}
    (marked : parameters? kind.marker line = some first)
    (markedOther : parameters? other.marker line = some second) :
    kind.name = other.name := by
  have split := afterStart?_eq_some_iff.mp marked
  rw [afterStart?_eq_some_iff.mp markedOther] at split
  simp only [ExclusionKind.marker, List.cons_append, List.append_assoc,
    List.nil_append, List.cons.injEq, true_and] at split
  have names := congrArg (List.takeWhile (· != ':')) split
  rw [takeWhile_name, takeWhile_name, String.toList_inj] at names
  exact names.symm

theorem exclusionKinds_names_nodup (jdk : UInt32) :
    ((exclusionKinds jdk).map ExclusionKind.name).Nodup := by
  change
    ["exclude-for-build", "exclude-for-languages",
      "exclude-for-jdk-lower-than"].Nodup
  decide

/-- A marker of one kind is none of another. -/
theorem unmarked_of_other
    (known : kind ∈ exclusionKinds jdk)
    (known_other : other ∈ exclusionKinds jdk)
    (differs : other ≠ kind)
    {parameters : List Char}
    (marked : parameters? other.marker line = some parameters) :
    parameters? kind.marker line = none := by
  rw [Option.eq_none_iff_forall_ne_some]
  intro second markedToo
  exact differs (List.inj_on_of_nodup_map (exclusionKinds_names_nodup jdk)
    known_other known (name_eq_of_parameters marked markedToo))

/-! ## The lines that passes leave -/

/-- The lines that stay after the passes of some kinds. -/
def linesAfter
    (variant : Variant) (done : List ExclusionKind) : Outline → List Line
  | empty => []
  | plain line rest => line :: rest.linesAfter variant done
  | block condition opener body closer rest =>
    (if condition.kind ∈ done then
        if condition.holds variant then [] else body.linesAfter variant done
      else opener :: (body.linesAfter variant done ++ [closer])) ++
      rest.linesAfter variant done

theorem linesAfter_nil (outline : Outline) :
    outline.linesAfter variant [] = outline.lines := by
  induction outline with
  | empty => rfl
  | plain line rest ih => simp only [linesAfter, lines, ih]
  | block condition opener body closer rest body_ih rest_ih =>
      simp only [linesAfter, lines, body_ih, rest_ih, List.not_mem_nil,
        if_false]

/-- After the passes of all kinds, the plain lines stay that no block around them excludes. -/
theorem filter_plainLines
    (nested : WellNested jdk around outline)
    (all : ∀ kind ∈ exclusionKinds jdk, kind ∈ done)
    (conditions : List Condition) :
    ((outline.plainLines conditions).filter fun entry =>
      !entry.2.any fun condition => condition.holds variant).map Prod.fst =
      if conditions.any fun condition => condition.holds variant then []
      else outline.linesAfter variant done := by
  induction nested generalizing conditions with
  | empty => simp [plainLines, linesAfter]
  | plain _ _ ih =>
      rw [plainLines, List.filter_cons]
      cases excluded : conditions.any fun condition => condition.holds variant with
      | true => simpa [excluded] using ih conditions
      | false => simpa [excluded, linesAfter] using ih conditions
  | @block _ condition _ _ _ _ known _ _ _ _ _ _ body_ih rest_ih =>
      have finished := all condition.kind known
      rw [plainLines, List.filter_append, List.map_append, body_ih, rest_ih,
        List.any_cons, linesAfter, if_pos finished]
      cases condition.holds variant <;>
        cases conditions.any fun condition => condition.holds variant <;> simp

theorem linesAfter_all
    (nested : WellNested jdk [] outline)
    (all : ∀ kind ∈ exclusionKinds jdk, kind ∈ done) :
    outline.linesAfter variant done = outline.survivors variant :=
  (filter_plainLines nested all []).symm

/-- After the passes of all kinds, no marker stays. -/
theorem unmarked_linesAfter_all
    (nested : WellNested jdk around outline)
    (all : ∀ kind ∈ exclusionKinds jdk, kind ∈ done) :
    ∀ line ∈ outline.linesAfter variant done,
      ∀ kind ∈ exclusionKinds jdk, parameters? kind.marker line = none := by
  induction nested with
  | empty => exact List.forall_mem_nil _
  | plain unmarked _ ih => exact List.forall_mem_cons.mpr ⟨unmarked, ih⟩
  | block known _ _ _ _ _ _ body_ih rest_ih =>
      rw [linesAfter, if_pos (all _ known)]
      refine List.forall_mem_append.mpr ⟨?_, rest_ih⟩
      split
      · exact List.forall_mem_nil _
      · exact body_ih

/-- Inside a block there are no markers of its kind. -/
theorem unmarked_linesAfter
    (nested : WellNested jdk around outline)
    (known : kind ∈ exclusionKinds jdk)
    (inside : kind ∈ around) :
    ∀ line ∈ outline.linesAfter variant done,
      parameters? kind.marker line = none := by
  induction nested with
  | empty => exact List.forall_mem_nil _
  | plain unmarked _ ih =>
      exact List.forall_mem_cons.mpr ⟨unmarked kind known, ih inside⟩
  | @block _ condition opener closer body rest known_other outside opens _ closes _ _
      body_ih rest_ih =>
      have differs : condition.kind ≠ kind :=
        fun same => outside (same ▸ inside)
      have body_unmarked := body_ih (List.mem_cons_of_mem _ inside)
      have opener_unmarked :=
        unmarked_of_other known known_other differs opens
      have closer_unmarked :=
        unmarked_of_other known known_other differs closes
      intro line member
      rw [linesAfter, List.mem_append] at member
      rcases member with within | behind
      · split at within
        · split at within
          · exact absurd within List.not_mem_nil
          · exact body_unmarked line within
        · rw [List.mem_cons, List.mem_append, List.mem_singleton] at within
          rcases within with rfl | member | rfl
          · exact opener_unmarked
          · exact body_unmarked line member
          · exact closer_unmarked
      · exact rest_ih inside line behind

/-! ## Passes -/

/-- The pass of a kind takes the blocks of this kind out of a document, and those alone. -/
theorem keepLines_linesAfter
    (nested : WellNested jdk around outline)
    (known : kind ∈ exclusionKinds jdk)
    (pending : kind ∉ done) :
    keepLines kind.marker (kind.Matches variant) none
        (outline.linesAfter variant done) =
      (outline.linesAfter variant (kind :: done), false) := by
  induction nested with
  | empty => rfl
  | @plain _ line _ unmarked _ ih =>
      have plain :
          ∀ c more, parameters? kind.marker line ≠ some (c :: more) := by
        simp [unmarked kind known]
      rw [linesAfter, keepLines_plain plain, ih]
      rfl
  | @block around condition opener closer body rest known_other _ opens nonempty closes
      body_nested _ body_ih rest_ih =>
      by_cases same : condition.kind = kind
      · have body_unmarked :
            ∀ line ∈ body.linesAfter variant done,
              parameters? kind.marker line = none :=
          unmarked_linesAfter body_nested known (same ▸ List.mem_cons_self)
        have body_endless :
            ∀ line ∈ body.linesAfter variant done,
              parameters? kind.marker line ≠ some [] := by
          intro line member
          simp [body_unmarked line member]
        have body_kept :
            body.linesAfter variant (kind :: done) =
              body.linesAfter variant done := by
          rw [keepLines_unmarked body_unmarked] at body_ih
          exact (congrArg Prod.fst body_ih).symm
        have written :
            (block condition opener body closer rest).linesAfter variant done =
              opener :: (body.linesAfter variant done ++
                closer :: rest.linesAfter variant done) := by
          simp [linesAfter, same, pending]
        rw [same] at opens closes
        rw [written,
          keepLines_block opens nonempty body_endless closes, rest_ih]
        simp only [linesAfter, same, List.mem_cons_self, if_true, body_kept,
          Condition.holds]
      · have opener_plain :
            ∀ c more, parameters? kind.marker opener ≠ some (c :: more) := by
          simp [unmarked_of_other known known_other same opens]
        have closer_plain :
            ∀ c more, parameters? kind.marker closer ≠ some (c :: more) := by
          simp [unmarked_of_other known known_other same closes]
        have still :
            condition.kind ∈ kind :: done ↔ condition.kind ∈ done := by
          simp [same]
        have within :
            keepLines kind.marker (kind.Matches variant) none
                (if condition.kind ∈ done then
                  if condition.holds variant then []
                  else body.linesAfter variant done
                else opener :: (body.linesAfter variant done ++ [closer])) =
              (if condition.kind ∈ done then
                  if condition.holds variant then []
                  else body.linesAfter variant (kind :: done)
                else opener ::
                  (body.linesAfter variant (kind :: done) ++ [closer]),
                false) := by
          split
          · split
            · rfl
            · exact body_ih
          · rw [keepLines_plain opener_plain,
              keepLines_append (by rw [body_ih]), body_ih,
              keepLines_plain closer_plain]
            rfl
        rw [linesAfter, keepLines_append (by rw [within]), within, rest_ih,
          linesAfter]
        simp only [still]

/-! ## Passes over a text -/

theorem lines_exclude
    (nested : WellNested jdk around outline)
    (known : kind ∈ exclusionKinds jdk)
    (pending : kind ∉ done)
    {text : String}
    (written : Text.lines text.toList = outline.linesAfter variant done) :
    Text.lines (kind.exclude variant text).toList =
      outline.linesAfter variant (kind :: done) := by
  rw [ExclusionKind.lines_exclude, ExclusionKind.keep, written,
    keepLines_linesAfter nested known pending]

/-- Passes of different kinds succeed one after the other. -/
theorem runHandlers_linesAfter
    {rendering : Rendering} {kinds : List ExclusionKind}
    (nested : WellNested jdk around outline)
    (known : ∀ kind ∈ kinds, kind ∈ exclusionKinds jdk)
    (distinct : kinds.Nodup)
    (pending : ∀ kind ∈ kinds, kind ∉ done)
    {text : String}
    (written :
      Text.lines text.toList = outline.linesAfter rendering.variant done) :
    ∃ result,
      runHandlers rendering (kinds.map ExclusionKind.handler) text =
          .ok result ∧
        Text.lines result.toList =
          outline.linesAfter rendering.variant (kinds.reverse ++ done) := by
  induction kinds generalizing done text with
  | nil => exact ⟨text, rfl, written⟩
  | cons kind rest ih =>
      obtain ⟨first_known, rest_known⟩ := List.forall_mem_cons.mp known
      obtain ⟨first_pending, rest_pending⟩ := List.forall_mem_cons.mp pending
      obtain ⟨absent, rest_distinct⟩ := List.nodup_cons.mp distinct
      have rest_still : ∀ later ∈ rest, later ∉ kind :: done := by
        intro later member
        rw [List.mem_cons, not_or]
        exact ⟨fun same => absent (same ▸ member), rest_pending later member⟩
      obtain ⟨result, passed, left⟩ :=
        ih rest_known rest_distinct rest_still
          (lines_exclude nested first_known first_pending written)
      refine ⟨result, passed, ?_⟩
      rw [List.reverse_cons, List.append_assoc, List.singleton_append]
      exact left

/--
Whatever the order of the three passes, they leave of a document its plain lines, as they are, less
those with a block around them that matches the variant, and no marker.
-/
theorem passes_leave_survivors
    {rendering : Rendering}
    (nested : WellNested jdk [] outline)
    {text : String}
    (written : Text.lines text.toList = outline.lines)
    {kinds : List ExclusionKind}
    (order : kinds.Perm (exclusionKinds jdk)) :
    ∃ result,
      runHandlers rendering (kinds.map ExclusionKind.handler) text =
          .ok result ∧
        Text.lines result.toList = outline.survivors rendering.variant ∧
        ∀ line ∈ Text.lines result.toList,
          ∀ kind ∈ exclusionKinds jdk,
            parameters? kind.marker line = none := by
  have distinct : kinds.Nodup :=
    order.nodup_iff.mpr (exclusionKinds_names_nodup jdk).of_map
  have all : ∀ kind ∈ exclusionKinds jdk, kind ∈ kinds.reverse ++ [] := by
    intro kind known
    rw [List.append_nil, List.mem_reverse]
    exact order.mem_iff.mpr known
  have none : outline.linesAfter rendering.variant [] = outline.lines :=
    linesAfter_nil outline
  rw [← none] at written
  obtain ⟨result, passed, left⟩ :=
    runHandlers_linesAfter nested (fun _ => order.mem_iff.mp) distinct
      (fun _ _ => List.not_mem_nil) written
  refine ⟨result, passed, left.trans (linesAfter_all nested all), ?_⟩
  rw [left]
  exact unmarked_linesAfter_all nested all

theorem passes_leave_survivors_threeDeep :
    let rendering : Rendering := ⟨{}, ⟨.gradle, .java, .junit⟩, none⟩
    let ended (content : String) : Line := ⟨content.toList, ['\n']⟩
    let recent (body : Outline) : Outline :=
      .block ⟨.jdkLowerThan 17, "11,+21".toList⟩
        (ended ":exclude-for-jdk-lower-than:11,+21") body
        (ended ":exclude-for-jdk-lower-than:") .empty
    let maven (body rest : Outline) : Outline :=
      .block ⟨.build, "MAVEN".toList⟩ (ended "  :exclude-for-build:MAVEN") body
        (ended ":exclude-for-build: ") rest
    let outline : Outline :=
      .block ⟨.languages, "Kotlin , groovy".toList⟩
        ⟨":exclude-for-languages:Kotlin , groovy".toList, ['\r', '\n']⟩
        (maven (recent (.plain (ended "dropped") .empty))
          (.plain ⟨"kept".toList, ['\r', '\n']⟩
            (recent (maven (.plain (ended "dropped too") .empty) .empty))))
        (ended ":exclude-for-languages:")
        (.plain ⟨"last".toList, []⟩ .empty)
    let text := String.ofList (outline.lines.flatMap Line.text)
    let kinds : List ExclusionKind := [.jdkLowerThan 17, .languages, .build]
    WellNested 17 [] outline ∧
    Text.lines text.toList = outline.lines ∧
    kinds.Perm (exclusionKinds 17) ∧
    outline.survivors rendering.variant =
      [⟨"kept".toList, ['\r', '\n']⟩, ⟨"last".toList, []⟩] ∧
    ∃ result,
      runHandlers rendering (kinds.map ExclusionKind.handler) text =
          .ok result ∧
        Text.lines result.toList = outline.survivors rendering.variant ∧
        ∀ line ∈ Text.lines result.toList,
          ∀ kind ∈ exclusionKinds 17,
            parameters? kind.marker line = none := by
  intro rendering ended recent maven outline text kinds
  have recent_nested :
      ∀ {around body}, .jdkLowerThan 17 ∉ around →
        WellNested 17 (.jdkLowerThan 17 :: around) body →
          WellNested 17 around (recent body) :=
    fun outside body_nested =>
      .block (by decide) outside (by decide +kernel) (by decide)
        (by decide +kernel) body_nested .empty
  have maven_nested :
      ∀ {around body rest}, .build ∉ around →
        WellNested 17 (.build :: around) body → WellNested 17 around rest →
          WellNested 17 around (maven body rest) :=
    fun outside body_nested rest_nested =>
      .block (by decide) outside (by decide +kernel) (by decide)
        (by decide +kernel) body_nested rest_nested
  have nested : WellNested 17 [] outline :=
    .block (by decide) (by decide) (by decide +kernel) (by decide)
      (by decide +kernel)
      (maven_nested (by decide)
        (recent_nested (by decide) (.plain (by decide +kernel) .empty))
        (.plain (by decide +kernel)
          (recent_nested (by decide)
            (maven_nested (by decide) (.plain (by decide +kernel) .empty)
              .empty))))
      (.plain (by decide +kernel) .empty)
  have written : Text.lines text.toList = outline.lines := by
    rw [String.toList_ofList]
    rfl
  have order : kinds.Perm (exclusionKinds 17) := by decide
  exact ⟨nested, written, order, by decide +kernel,
    passes_leave_survivors nested written order⟩

end Outline

end Guidebook.Markup
