import Guidebook.Proofs.Inheritance.Completion

/-!
# The recursion ends

The resolver bounds the depth of its recursion.  `Evaluates` says what becomes of a call without any
bound: a derivation has one rule for each way in which a guide is finished, and as it is finite, so
is the recursion that it describes.  The calls that arise in a batch, whatever its bases look like,
have exactly one such outcome, and it is the one that the resolver gives.
-/

namespace Guidebook.Inheritance

variable {guides : List Guide} {strict : Bool}

/-- The outcome of a call, with the record that it leaves, by rules that do not bound the depth. -/
inductive Evaluates (strict : Bool) (guides : List Guide) :
    List Nat → Nat → Guide → Progress →
      Except Error Guide × Progress → Prop where
  | finished {visiting position guide start value}
      (entry : start.guide? position = some value) :
      Evaluates strict guides visiting position guide start
        (.ok value, start)
  | withoutBase {visiting position guide start}
      (pending : start.guide? position = none)
      (alone : guide.base = none) :
      Evaluates strict guides visiting position guide start
        (.ok guide, start.record position guide)
  | refused {visiting position guide start slug}
      (pending : start.guide? position = none)
      (named : guide.base = some slug)
      (unknown : position? guides slug = none)
      (asked : strict = true) :
      Evaluates strict guides visiting position guide start
        (.error (.unknownBaseGuide guide.slug slug), start)
  | passedOver {visiting position guide start slug}
      (pending : start.guide? position = none)
      (named : guide.base = some slug)
      (unknown : position? guides slug = none)
      (lenient : strict = false) :
      Evaluates strict guides visiting position guide start
        (.ok guide,
          (start.warned
              s!"guide {guide.slug} declares unknown base {slug}, leaving it unmerged").record
            position guide)
  | closed {visiting position basePosition guide start slug}
      (pending : start.guide? position = none)
      (named : guide.base = some slug)
      (found : position? guides slug = some basePosition)
      (closes : basePosition ∈ visiting ∨ basePosition = position) :
      Evaluates strict guides visiting position guide start
        (.ok guide,
          (position :: cycleMembers visiting basePosition).foldl
            (Progress.recordAuthored guides)
            (start.warned
              s!"guide {guide.slug} has a cyclic base chain through {slug}, leaving it unmerged"))
  | descends
      {visiting position basePosition guide baseGuide start slug outcome}
      (pending : start.guide? position = none)
      (named : guide.base = some slug)
      (found : position? guides slug = some basePosition)
      (isOpen : ¬(basePosition ∈ visiting ∨ basePosition = position))
      (authored : guides[basePosition]? = some baseGuide)
      (base :
        Evaluates strict guides (position :: visiting) basePosition
          baseGuide start outcome) :
      Evaluates strict guides visiting position guide start
        (mergedInto position guide outcome)

variable {depth position : Nat} {visiting : List Nat} {guide : Guide}
  {start : Progress}

/-- A call has a depth to spend. -/
theorem IsCall.exists_depth_eq_succ
    (call : IsCall guides depth visiting position guide) :
    ∃ spare, depth = spare + 1 := by
  have budget := call.budget
  have length := call.length_visiting_lt
  exact ⟨depth - 1, by omega⟩

/-- What the resolver gives can be derived. -/
theorem IsCall.evaluates
    (call : IsCall guides depth visiting position guide)
    (start : Progress) :
    Evaluates strict guides visiting position guide start
      ((resolve strict guides depth visiting position guide).runFrom
        start) := by
  induction depth generalizing visiting position guide with
  | zero =>
      obtain ⟨spare, impossible⟩ := call.exists_depth_eq_succ
      contradiction
  | succ depth ih =>
      cases pending : start.guide? position with
      | some value =>
          rw [resolve_finished pending]
          exact .finished pending
      | none =>
          cases named : guide.base with
          | none =>
              rw [resolve_withoutBase pending named]
              exact .withoutBase pending named
          | some slug =>
              cases found : position? guides slug with
              | none =>
                  rw [resolve_unknownBase pending named found]
                  cases strict with
                  | true => exact .refused pending named found rfl
                  | false => exact .passedOver pending named found rfl
              | some basePosition =>
                  by_cases closes :
                      basePosition ∈ visiting ∨ basePosition = position
                  · rw [resolve_closed pending named found closes]
                    exact .closed pending named found closes
                  · obtain ⟨baseGuide, authored, -⟩ :=
                      position?_eq_some found
                    have leads : Leads guides position basePosition :=
                      .of_base call.authored named found
                    rw [resolve_open pending named found closes authored]
                    exact .descends pending named found closes authored
                      (ih (call.descend leads closes authored))

/-- What can be derived is what the resolver gives. -/
theorem Evaluates.eq_resolve
    {outcome : Except Error Guide × Progress}
    (evaluates :
      Evaluates strict guides visiting position guide start outcome)
    (call : IsCall guides depth visiting position guide) :
    (resolve strict guides depth visiting position guide).runFrom start =
      outcome := by
  induction evaluates generalizing depth with
  | finished entry => exact resolve_finished entry
  | withoutBase pending alone => exact resolve_withoutBase pending alone
  | refused pending named unknown asked =>
      rw [resolve_unknownBase pending named unknown, if_pos asked]
  | passedOver pending named unknown lenient =>
      rw [resolve_unknownBase pending named unknown, if_neg (by simp [lenient])]
  | closed pending named found closes =>
      exact resolve_closed pending named found closes
  | descends pending named found isOpen authored _ ih =>
      obtain ⟨spare, rfl⟩ := call.exists_depth_eq_succ
      have leads := Leads.of_base call.authored named found
      rw [resolve_open pending named found isOpen authored,
        ih (call.descend leads isOpen authored)]

/-! ## Whole batches -/

/-- The outcome of the calls for a list of positions, one after another up to the first that is
refused. -/
inductive EvaluatesAll (strict : Bool) (guides : List Guide) :
    List (Guide × Nat) → Progress → Except Error Unit × Progress →
      Prop where
  | done {start : Progress} :
      EvaluatesAll strict guides [] start (.ok (), start)
  | next {entry rest start value middle outcome}
      (call :
        Evaluates strict guides [] entry.2 entry.1 start
          (.ok value, middle))
      (others : EvaluatesAll strict guides rest middle outcome) :
      EvaluatesAll strict guides (entry :: rest) start outcome
  | refused {entry rest start reason after}
      (call :
        Evaluates strict guides [] entry.2 entry.1 start
          (.error reason, after)) :
      EvaluatesAll strict guides (entry :: rest) start
        (.error reason, after)

theorem evaluatesAll_iff
    (entries : List (Guide × Nat))
    (authored : ∀ entry ∈ entries, guides[entry.2]? = some entry.1)
    (start : Progress) (outcome : Except Error Unit × Progress) :
    EvaluatesAll strict guides entries start outcome ↔
      Resolution.runFrom
          (entries.forM fun entry => do
            let _ ← resolve strict guides guides.length [] entry.2 entry.1)
          start =
        outcome := by
  induction entries generalizing start with
  | nil =>
      constructor
      · rintro ⟨⟩
        rfl
      · rintro rfl
        exact .done
  | cons entry rest ih =>
      obtain ⟨here, later⟩ := List.forall_mem_cons.mp authored
      have call := isCall_start here
      rw [forM_resolve_cons]
      constructor
      · intro evaluates
        cases evaluates with
        | next first others =>
            rw [first.eq_resolve call]
            exact (ih later _).mp others
        | refused first => rw [first.eq_resolve call]
      · intro resolved
        have evaluates :
            Evaluates strict guides [] entry.2 entry.1 start _ :=
          call.evaluates start
        revert resolved
        generalize
          (resolve strict guides guides.length [] entry.2 entry.1).runFrom
            start = first at evaluates
        obtain ⟨first, middle⟩ := first
        cases first with
        | error reason =>
            rintro rfl
            exact .refused evaluates
        | ok value =>
            intro resolved
            exact .next evaluates ((ih later middle).mpr resolved)

/-- The loop over a batch has one outcome, and the resolver gives it. -/
theorem evaluatesAll_batch_iff
    (outcome : Except Error Unit × Progress) :
    EvaluatesAll strict guides guides.zipIdx (.pending guides) outcome ↔
      (resolveAll strict guides).runFrom (.pending guides) = outcome :=
  evaluatesAll_iff guides.zipIdx
    (fun _ inside => List.mem_zipIdx_iff_getElem?.mp inside)
    (.pending guides) outcome

end Guidebook.Inheritance
