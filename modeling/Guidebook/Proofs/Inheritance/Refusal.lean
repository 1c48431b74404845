import Guidebook.Proofs.Inheritance.Evaluation

/-!
# Unknown bases

Where known bases are asked for, a batch is refused if and only if one of its guides names a base
that is not in the batch.  It does not matter where that guide stands, nor which chain leads to it
first: as long as nothing is refused it stays unfinished, so at the latest its own turn refuses it.

A batch that is worked on in place is either completed as a whole or left as it was.
-/

namespace Guidebook.Inheritance

variable {guides : List Guide} {strict : Bool}

/-- A guide of the batch names as its base a slug that no guide of the batch has. -/
def NamesUnknownBase
    (guides : List Guide) (child : Guide) (slug : String) : Prop :=
  child ∈ guides ∧ child.base = some slug ∧
    ∀ other ∈ guides, other.slug ≠ slug

/-! ## Dangling positions -/

/-- The guide at a position names a base that is not in the batch. -/
def Dangles (guides : List Guide) (position : Nat) : Prop :=
  ∃ guide slug,
    guides[position]? = some guide ∧ guide.base = some slug ∧
      position? guides slug = none

theorem NamesUnknownBase.dangles
    {child : Guide} {slug : String}
    (unknown : NamesUnknownBase guides child slug) :
    ∃ position < guides.length, Dangles guides position := by
  obtain ⟨member, named, absent⟩ := unknown
  obtain ⟨position, authored⟩ := List.mem_iff_getElem?.mp member
  exact ⟨position, (List.getElem?_eq_some_iff.mp authored).1, child, slug,
    authored, named, position?_eq_none_iff.mpr absent⟩

variable {position other : Nat} {visiting : List Nat} {guide : Guide}
  {start : Progress} {outcome : Except Error Guide × Progress}

theorem Dangles.not_leads
    {base : Nat} (dangles : Dangles guides position) :
    ¬Leads guides position base := by
  obtain ⟨guide, slug, authored, named, unknown⟩ := dangles
  simp [Leads, basePosition?, authored, named, unknown]

theorem Dangles.not_onCycle (dangles : Dangles guides position) :
    ¬OnCycle guides position := by
  intro cycle
  obtain ⟨next, leads, -⟩ := Relation.TransGen.head'_iff.mp cycle
  exact dangles.not_leads leads

theorem mergedInto_guide?
    (different : position ≠ other)
    (pending : outcome.2.guide? other = none) :
    (mergedInto position guide outcome).2.guide? other = none := by
  obtain ⟨result, after⟩ := outcome
  cases result with
  | error reason => exact pending
  | ok base =>
      rw [mergedInto]
      cases after.guide? position with
      | some value => exact pending
      | none => rwa [Progress.guide?_record_ne different]

/-- A call that asks for known bases finishes no dangling position. -/
theorem Evaluates.keeps_pending
    (evaluates :
      Evaluates true guides visiting position guide start outcome)
    {depth : Nat} (call : IsCall guides depth visiting position guide)
    (dangles : Dangles guides other)
    (unfinished : start.guide? other = none) :
    outcome.2.guide? other = none := by
  induction evaluates generalizing depth with
  | finished entry => exact unfinished
  | refused pending named unknown asked => exact unfinished
  | passedOver pending named unknown lenient => contradiction
  | @withoutBase visiting position guide start pending alone =>
      have different : position ≠ other := by
        rintro rfl
        obtain ⟨same, slug, authored, named, -⟩ := dangles
        obtain rfl := Option.some.inj (call.authored.symm.trans authored)
        rw [alone] at named
        contradiction
      rwa [Progress.guide?_record_ne different]
  | closed pending named found closes =>
      -- All that is recorded lies on the cycle that the trail closes.
      obtain ⟨trail, back⟩ :=
        call.closed_cycleMembers (.of_base call.authored named found) closes
      rwa [guide?_recordAll_of_notMem]
      exact fun member =>
        dangles.not_onCycle (trail.onCycle_of_closes back member)
  | descends pending named found isOpen authored _ ih =>
      obtain ⟨spare, rfl⟩ := call.exists_depth_eq_succ
      have leads := Leads.of_base call.authored named found
      refine mergedInto_guide? ?_
        (ih (call.descend leads isOpen authored) unfinished)
      rintro rfl
      exact dangles.not_leads leads

/-- A call for a dangling position is refused. -/
theorem Evaluates.refuses_dangling
    (evaluates :
      Evaluates true guides visiting position guide start outcome)
    (authored : guides[position]? = some guide)
    (dangles : Dangles guides position)
    (unfinished : start.guide? position = none) :
    ∃ reason, outcome.1 = .error reason := by
  obtain ⟨same, slug, present, named, unknown⟩ := dangles
  obtain rfl := Option.some.inj (authored.symm.trans present)
  cases evaluates with
  | finished entry =>
      rw [unfinished] at entry
      contradiction
  | withoutBase pending alone =>
      rw [alone] at named
      contradiction
  | refused => exact ⟨_, rfl⟩
  | passedOver pending namedToo unknownToo lenient => contradiction
  | closed pending namedToo found closes =>
      obtain rfl := Option.some.inj (named.symm.trans namedToo)
      rw [unknown] at found
      contradiction
  | descends pending namedToo found isOpen authoredBase base =>
      obtain rfl := Option.some.inj (named.symm.trans namedToo)
      rw [unknown] at found
      contradiction

/-- The calls for positions of which one dangles end with a refusal. -/
theorem EvaluatesAll.refuses_dangling
    {entries : List (Guide × Nat)} {result : Except Error Unit × Progress}
    (evaluates : EvaluatesAll true guides entries start result)
    (authored : ∀ entry ∈ entries, guides[entry.2]? = some entry.1)
    (dangles : Dangles guides position)
    (present : position ∈ entries.map Prod.snd)
    (unfinished : start.guide? position = none) :
    ∃ reason, result.1 = .error reason := by
  induction evaluates with
  | done => simp at present
  | refused call => exact ⟨_, rfl⟩
  | @next entry rest start value middle result first others ih =>
      obtain ⟨here, later⟩ := List.forall_mem_cons.mp authored
      by_cases same : position = entry.2
      · subst same
        obtain ⟨reason, impossible⟩ :=
          first.refuses_dangling here dangles unfinished
        contradiction
      · rw [List.map_cons, List.mem_cons] at present
        exact ih later (present.resolve_left same)
          (first.keeps_pending (isCall_start here) dangles unfinished)

/-! ## Runs -/

/-- A run that asks for known bases is refused if a guide names an unknown one. -/
theorem run_refuses
    {child : Guide} {slug : String}
    (unknown : NamesUnknownBase guides child slug) :
    ∃ reason, (run true guides).1 = .error reason := by
  obtain ⟨position, inside, dangles⟩ := unknown.dangles
  have present : position ∈ guides.zipIdx.map Prod.snd := by
    rw [List.zipIdx_map_snd]
    simpa using inside
  have evaluates :
      EvaluatesAll true guides guides.zipIdx (.pending guides) _ :=
    (evaluatesAll_batch_iff _).mpr rfl
  have refused :=
    evaluates.refuses_dangling
      (fun _ member => List.mem_zipIdx_iff_getElem?.mp member)
      dangles present (guide?_pending position)
  rw [run_eq]
  revert refused
  generalize (resolveAll true guides).runFrom (.pending guides) = result
  obtain ⟨result, after⟩ := result
  rintro ⟨reason, rfl⟩
  exact ⟨reason, rfl⟩

/-- The only error of a run names a guide with an unknown base. -/
theorem run_eq_error
    {reason : Error} (failed : (run strict guides).1 = .error reason) :
    strict = true ∧
      ∃ child slug,
        NamesUnknownBase guides child slug ∧
          reason = .unknownBaseGuide child.slug slug := by
  rcases run_cases strict guides with
    ⟨finals, succeeded, -⟩ | ⟨asked, child, member, slug, named, unknown, error⟩
  · rw [succeeded] at failed
    contradiction
  · rw [error] at failed
    exact ⟨asked, child, slug, ⟨member, named, unknown⟩,
      (Except.error.inj failed).symm⟩

theorem run_fails_iff (strict : Bool) (guides : List Guide) :
    (∃ reason, (run strict guides).1 = .error reason) ↔
      strict = true ∧
        ∃ child slug, NamesUnknownBase guides child slug := by
  constructor
  · rintro ⟨reason, failed⟩
    obtain ⟨asked, child, slug, unknown, -⟩ := run_eq_error failed
    exact ⟨asked, child, slug, unknown⟩
  · rintro ⟨rfl, child, slug, unknown⟩
    exact run_refuses unknown

/-- A run that succeeds completes every position. -/
theorem completesAll_of_run
    {finals : List Guide} (succeeded : (run strict guides).1 = .ok finals) :
    CompletesAll guides finals := by
  rcases run_cases strict guides with
    ⟨others, result, completed⟩ | ⟨-, child, -, slug, -, -, error⟩
  · rw [result] at succeeded
    obtain rfl := Except.ok.inj succeeded
    exact completed
  · rw [error] at succeeded
    contradiction

/-! ## Batches in place -/

theorem Batch.foldl_replace
    (finished : List (Option Guide)) {front back : List Guide}
    (length : finished.length = back.length) (warnings : Log) :
    (finished.zipIdx front.length).foldl Batch.replace
        ⟨front ++ back, warnings⟩ =
      ⟨front ++ (back.zip finished).map fun entry => entry.2.getD entry.1,
        warnings⟩ := by
  induction finished generalizing front back with
  | nil =>
      obtain rfl := List.length_eq_zero_iff.mp length.symm
      rfl
  | cons entry rest ih =>
      obtain ⟨first, others, rfl⟩ := List.exists_cons_of_length_eq_add_one length.symm
      have replaced :
          Batch.replace ⟨front ++ first :: others, warnings⟩
              (entry, front.length) =
            ⟨(front ++ [entry.getD first]) ++ others, warnings⟩ := by
        cases entry <;> simp [Batch.replace]
      have shorter : rest.length = others.length := by
        simpa using length
      have later := @ih (front ++ [entry.getD first]) others shorter
      rw [List.length_append, List.length_singleton] at later
      rw [List.zipIdx_cons, List.foldl_cons, replaced, later,
        List.zip_cons_cons, List.map_cons, List.append_assoc]
      rfl

/-- Working in place has the outcome of a run.  The batch holds what the run gives, or what it held
before if the run gives nothing. -/
theorem runInPlace_eq (strict : Bool) (batch : Batch) :
    (runInPlace strict).run.run batch =
      match run strict batch.guides with
      | (.ok finals, warnings) =>
        (.ok (), ⟨finals, batch.warnings ++ warnings⟩)
      | (.error reason, warnings) =>
        (.error reason, ⟨batch.guides, batch.warnings ++ warnings⟩) := by
  have resolved := resolveAll_outcome strict batch.guides
  have started :
      (get : ExceptT Error (StateM Batch) Batch).run.run batch =
        (.ok batch, batch) :=
    rfl
  rw [run_eq]
  rcases ran : (resolveAll strict batch.guides).runFrom
    (.pending batch.guides) with ⟨outcome, progress⟩
  rw [ran] at resolved
  change (resolveAll strict batch.guides).run.run
    ⟨batch.guides.map fun _ => none, []⟩ = _ at ran
  have noted :
      (modify fun batch =>
          { batch with warnings := batch.warnings ++ progress.warnings } :
        ExceptT Error (StateM Batch) Unit).run.run batch =
        (.ok (), ⟨batch.guides, batch.warnings ++ progress.warnings⟩) :=
    rfl
  rw [runInPlace, run_bind_state, started]
  dsimp only
  rw [ran]
  dsimp only
  rw [run_bind_state, noted]
  dsimp only
  cases outcome with
  | error reason => rfl
  | ok done =>
      cases resolved with
      | finished sound keeps entries =>
          have replaced :=
            @Batch.foldl_replace progress.finished [] batch.guides
              sound.length (batch.warnings ++ progress.warnings)
          dsimp only
          rw [run_bind_state, run_forIn_state Batch.replace]
          · exact congrArg (Prod.mk (Except.ok ())) replaced
          · intro entry before
            rfl

theorem runInPlace_fails_iff {batch : Batch} {reason : Error} :
    ((runInPlace strict).run.run batch).1 = .error reason ↔
      (run strict batch.guides).1 = .error reason := by
  rw [runInPlace_eq]
  generalize run strict batch.guides = result
  obtain ⟨outcome, warnings⟩ := result
  cases outcome with
  | ok finals =>
      exact ⟨nofun, nofun⟩
  | error other =>
      constructor
      · rintro ⟨⟩
        rfl
      · rintro ⟨⟩
        rfl

/-- A batch that is refused is left as it was. -/
theorem runInPlace_unchanged
    {batch : Batch} {reason : Error}
    (failed : ((runInPlace strict).run.run batch).1 = .error reason) :
    ((runInPlace strict).run.run batch).2.guides = batch.guides := by
  rw [runInPlace_fails_iff] at failed
  rw [runInPlace_eq]
  revert failed
  generalize run strict batch.guides = result
  obtain ⟨outcome, warnings⟩ := result
  rintro rfl
  rfl

/--
A batch is refused if and only if known bases are asked for and one of its guides names an unknown
one.  The error then names such a guide with its base, and every guide is as it was.  Whatever the
bases look like, and whether or not known ones are asked for, the recursion over the batch ends.
-/
theorem runInPlace_refuses_unknownBases
    (strict : Bool) (batch : Batch) :
    ((∃ reason,
        ((runInPlace strict).run.run batch).1 = .error reason) ↔
      strict = true ∧
        ∃ child slug, NamesUnknownBase batch.guides child slug) ∧
    (∀ reason,
      ((runInPlace strict).run.run batch).1 = .error reason →
        (∃ child slug,
          NamesUnknownBase batch.guides child slug ∧
            reason = .unknownBaseGuide child.slug slug) ∧
        ((runInPlace strict).run.run batch).2.guides = batch.guides) ∧
    ∀ outcome,
      EvaluatesAll strict batch.guides batch.guides.zipIdx
          (.pending batch.guides) outcome ↔
        (resolveAll strict batch.guides).runFrom
          (.pending batch.guides) = outcome := by
  refine ⟨?_, ?_, evaluatesAll_batch_iff⟩
  · rw [← run_fails_iff]
    exact exists_congr fun reason => runInPlace_fails_iff
  · intro reason failed
    have refused := runInPlace_fails_iff.mp failed
    exact ⟨(run_eq_error refused).2, runInPlace_unchanged failed⟩

/-- A guide whose base is missing, reached first through two others that stand before it, in a batch
that has finished a cycle by then. -/
def danglingBatch : List Guide :=
  [{ slug := "left", base := some "right", tags := ["l"] },
    { slug := "right", base := some "left", title := "Right" },
    { slug := "grandchild", base := some "child", tags := ["g"] },
    { slug := "child", base := some "dangling" },
    { slug := "dangling", base := some "missing" }]

theorem runInPlace_refuses_danglingBatch :
    ∃ child slug,
      NamesUnknownBase danglingBatch child slug ∧
      ((runInPlace true).run.run ⟨danglingBatch, []⟩).1 =
        .error (.unknownBaseGuide child.slug slug) ∧
      ((runInPlace true).run.run ⟨danglingBatch, []⟩).2.guides =
        danglingBatch := by
  obtain ⟨fails, named, -⟩ :=
    runInPlace_refuses_unknownBases true ⟨danglingBatch, []⟩
  have unknown :
      NamesUnknownBase danglingBatch
        { slug := "dangling", base := some "missing" } "missing" :=
    ⟨by decide, rfl, by decide⟩
  obtain ⟨reason, failed⟩ := fails.mpr ⟨rfl, _, _, unknown⟩
  obtain ⟨⟨child, slug, names, rfl⟩, unchanged⟩ := named reason failed
  exact ⟨child, slug, names, failed, unchanged⟩

end Guidebook.Inheritance
