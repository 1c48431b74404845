import Guidebook.Proofs.Inheritance.Resolution
import Mathlib.Data.List.Perm.Subperm
import Mathlib.Data.List.Range

/-!
# Completing a batch

The resolver finishes a position with the value that `Completes` gives it.

Between two steps the record is sound: its entries are such values, and together with a position
it holds the whole cycle into which that position leads.  The second half is what tells, when the
resolver comes back to a position that is still pending, that this position is on no cycle.
-/

namespace Guidebook.Inheritance

open Relation

variable {guides : List Guide} {strict : Bool}

/-! ## Sound records -/

/-- What a record of finished guides satisfies between two steps of the resolver. -/
structure Sound (guides : List Guide) (progress : Progress) : Prop where
  length : progress.finished.length = guides.length
  completes : ∀ {position value},
    progress.guide? position = some value →
      Completes guides position value
  closed : ∀ {position member},
    (progress.guide? position).isSome →
      ReflTransGen (Leads guides) position member →
      OnCycle guides member →
      (progress.guide? member).isSome

/-- No finished guide is lost or changed. -/
def Progress.Extends (before after : Progress) : Prop :=
  ∀ position value,
    before.guide? position = some value →
      after.guide? position = some value

theorem Progress.Extends.refl (progress : Progress) :
    progress.Extends progress :=
  fun _ _ entry => entry

theorem Progress.Extends.trans
    {first second third : Progress}
    (left : first.Extends second) (right : second.Extends third) :
    first.Extends third :=
  fun position value entry =>
    right position value (left position value entry)

/-- Between sound records it is enough that no position is lost. -/
theorem Sound.extends_of_isSome
    {before after : Progress}
    (soundBefore : Sound guides before)
    (soundAfter : Sound guides after)
    (kept : ∀ position,
      (before.guide? position).isSome → (after.guide? position).isSome) :
    before.Extends after := by
  intro position value entry
  obtain ⟨other, found⟩ :=
    Option.isSome_iff_exists.mp
      (kept position (Option.isSome_of_eq_some entry))
  have same :=
    (soundBefore.completes entry).unique (soundAfter.completes found)
  rw [found, same]

theorem Sound.warned
    {progress : Progress} (sound : Sound guides progress)
    (message : String) :
    Sound guides (progress.warned message) where
  length := sound.length
  completes := sound.completes
  closed := sound.closed

/-- A record stays sound when positions are finished with their values, together with the cycles
into which they lead. -/
theorem Sound.update
    {before after : Progress} (new : List Nat)
    (sound : Sound guides before)
    (length : after.finished.length = before.finished.length)
    (old : ∀ {position},
      position ∉ new → after.guide? position = before.guide? position)
    (completes : ∀ {position}, position ∈ new →
      ∃ value,
        after.guide? position = some value ∧
          Completes guides position value)
    (closed : ∀ {position member}, position ∈ new →
      ReflTransGen (Leads guides) position member →
      OnCycle guides member →
      (after.guide? member).isSome) :
    Sound guides after ∧ before.Extends after := by
  have kept : ∀ position,
      (before.guide? position).isSome →
        (after.guide? position).isSome := by
    intro position present
    by_cases isNew : position ∈ new
    · obtain ⟨value, entry, -⟩ := completes isNew
      exact Option.isSome_of_eq_some entry
    · rwa [old isNew]
  have soundAfter : Sound guides after := by
    refine ⟨length.trans sound.length, ?_, ?_⟩
    · intro position value entry
      by_cases isNew : position ∈ new
      · obtain ⟨other, found, completed⟩ := completes isNew
        obtain rfl := Option.some.inj (found.symm.trans entry)
        exact completed
      · rw [old isNew] at entry
        exact sound.completes entry
    · intro position member present reaches cycle
      by_cases isNew : position ∈ new
      · exact closed isNew reaches cycle
      · rw [old isNew] at present
        exact kept member (sound.closed present reaches cycle)
  exact ⟨soundAfter, sound.extends_of_isSome soundAfter kept⟩

/-- A position can be recorded once the cycles are into which it leads. -/
theorem Sound.record
    {progress : Progress} {position : Nat} {value : Guide}
    (sound : Sound guides progress)
    (inside : position < guides.length)
    (completed : Completes guides position value)
    (reached : ∀ {member},
      ReflTransGen (Leads guides) position member →
        OnCycle guides member →
        (progress.guide? member).isSome) :
    Sound guides (progress.record position value) ∧
      progress.Extends (progress.record position value) := by
  have here :
      (progress.record position value).guide? position = some value :=
    Progress.guide?_record_self (sound.length ▸ inside) value
  have elsewhere : ∀ {other}, other ∉ [position] →
      (progress.record position value).guide? other =
        progress.guide? other := by
    intro other different
    exact Progress.guide?_record_ne
      (fun same => different (List.mem_singleton.mpr same.symm))
      progress value
  refine sound.update [position] (by simp) elsewhere ?_ ?_
  · intro other same
    obtain rfl := List.mem_singleton.mp same
    exact ⟨value, here, completed⟩
  · intro other member same reaches cycle
    obtain rfl := List.mem_singleton.mp same
    by_cases again : member = other
    · subst again
      exact Option.isSome_of_eq_some here
    · rw [elsewhere (mt List.mem_singleton.mp again)]
      exact reached reaches cycle

theorem Sound.recordRootless
    {progress : Progress} {position : Nat} {guide : Guide}
    (sound : Sound guides progress)
    (authored : guides[position]? = some guide)
    (alone : basePosition? guides position = none) :
    Sound guides (progress.record position guide) ∧
      progress.Extends (progress.record position guide) := by
  refine sound.record (List.getElem?_eq_some_iff.mp authored).1
    (.rootless authored alone) ?_
  intro member reaches cycle
  rcases ReflTransGen.cases_head reaches with rfl | ⟨next, leads, -⟩
  · exact (not_onCycle_of_rootless alone cycle).elim
  · rw [Leads, alone] at leads
    contradiction

/-! ## Recording a cycle -/

theorem guide?_recordAuthored_self
    {progress : Progress} {position : Nat}
    (inside : position < guides.length)
    (length : progress.finished.length = guides.length) :
    (Progress.recordAuthored guides progress position).guide? position =
      guides[position]? := by
  rw [Progress.recordAuthored, List.getElem?_eq_getElem inside]
  exact Progress.guide?_record_self (length ▸ inside) _

theorem guide?_recordAuthored_ne
    {position other : Nat} (different : position ≠ other)
    (progress : Progress) :
    (Progress.recordAuthored guides progress position).guide? other =
      progress.guide? other := by
  unfold Progress.recordAuthored
  split
  · exact Progress.guide?_record_ne different progress _
  · rfl

theorem length_recordAll
    (members : List Nat) (progress : Progress) :
    (members.foldl (Progress.recordAuthored guides)
        progress).finished.length =
      progress.finished.length := by
  induction members generalizing progress with
  | nil => rfl
  | cons member rest ih =>
      rw [List.foldl_cons, ih, Progress.length_recordAuthored]

theorem guide?_recordAll_of_notMem
    {members : List Nat} {other : Nat}
    (absent : other ∉ members) (progress : Progress) :
    (members.foldl (Progress.recordAuthored guides)
        progress).guide? other =
      progress.guide? other := by
  induction members generalizing progress with
  | nil => rfl
  | cons member rest ih =>
      obtain ⟨different, absentLater⟩ :=
        not_or.mp (mt List.mem_cons.mpr absent)
      rw [List.foldl_cons, ih absentLater,
        guide?_recordAuthored_ne (Ne.symm different)]

theorem guide?_recordAll_of_mem
    {members : List Nat} {position : Nat}
    (present : position ∈ members)
    (inside : position < guides.length)
    {progress : Progress}
    (length : progress.finished.length = guides.length) :
    (members.foldl (Progress.recordAuthored guides)
        progress).guide? position =
      guides[position]? := by
  induction members generalizing progress with
  | nil => simp at present
  | cons member rest ih =>
      rw [List.foldl_cons]
      by_cases later : position ∈ rest
      · exact ih later (by rw [Progress.length_recordAuthored, length])
      · obtain rfl := (List.mem_cons.mp present).resolve_right later
        rw [guide?_recordAll_of_notMem later,
          guide?_recordAuthored_self inside length]

/-- A closed trail can be recorded as it is written. -/
theorem Sound.recordCycle
    {progress : Progress} {first : Nat} {rest : List Nat}
    (sound : Sound guides progress)
    (trail : IsTrail guides (first :: rest))
    (closes :
      Leads guides first
        ((first :: rest).getLast (List.cons_ne_nil first rest))) :
    Sound guides
        ((first :: rest).foldl (Progress.recordAuthored guides)
          progress) ∧
      progress.Extends
        ((first :: rest).foldl (Progress.recordAuthored guides)
          progress) := by
  have cyclic : ∀ {member}, member ∈ first :: rest →
      OnCycle guides member :=
    fun inside => trail.onCycle_of_closes closes inside
  have recorded : ∀ {member}, member ∈ first :: rest →
      ∃ value,
        ((first :: rest).foldl (Progress.recordAuthored guides)
            progress).guide? member = some value ∧
          Completes guides member value := by
    intro member inside
    obtain ⟨next, leads, -⟩ := TransGen.head'_iff.mp (cyclic inside)
    have authored := List.getElem?_eq_getElem leads.source_lt
    refine ⟨_, ?_, .cyclic authored (cyclic inside)⟩
    rw [guide?_recordAll_of_mem inside leads.source_lt sound.length,
      authored]
  refine sound.update (first :: rest) (length_recordAll _ _)
    (fun absent => guide?_recordAll_of_notMem absent progress)
    recorded ?_
  intro position member inside reaches cycle
  obtain ⟨value, entry, -⟩ :=
    recorded (trail.mem_of_reaches closes inside reaches)
  exact Option.isSome_of_eq_some entry

/-! ## Calls of the resolver -/

/-- What holds whenever the resolver is called: the positions whose bases are being finished form
a trail to the called one without repetitions, and the depth suffices for the others. -/
structure IsCall
    (guides : List Guide) (depth : Nat) (visiting : List Nat)
    (position : Nat) (guide : Guide) : Prop where
  authored : guides[position]? = some guide
  trail : IsTrail guides (position :: visiting)
  distinct : (position :: visiting).Nodup
  budget : guides.length ≤ depth + visiting.length

variable {depth position basePosition : Nat} {visiting : List Nat}
  {guide baseGuide : Guide}

theorem IsTrail.lt_of_mem_tail
    {first member : Nat} {rest : List Nat}
    (trail : IsTrail guides (first :: rest))
    (inside : member ∈ rest) :
    member < guides.length := by
  induction rest generalizing first with
  | nil => simp at inside
  | cons second rest ih =>
      obtain ⟨leads, before⟩ := List.isChain_cons_cons.mp trail
      rcases List.mem_cons.mp inside with rfl | later
      · exact leads.source_lt
      · exact ih before later

theorem IsCall.position_lt
    (call : IsCall guides depth visiting position guide) :
    position < guides.length :=
  (List.getElem?_eq_some_iff.mp call.authored).1

/-- The trail has no more positions than the batch. -/
theorem IsCall.length_visiting_lt
    (call : IsCall guides depth visiting position guide) :
    visiting.length < guides.length := by
  have within : position :: visiting ⊆ List.range guides.length := by
    intro member inside
    rw [List.mem_range]
    rcases List.mem_cons.mp inside with rfl | later
    · exact call.position_lt
    · exact call.trail.lt_of_mem_tail later
  have bound := (call.distinct.subperm within).length_le
  rwa [List.length_cons, List.length_range] at bound

/-- The call for the base, where the trail does not close. -/
theorem IsCall.descend
    (call : IsCall guides (depth + 1) visiting position guide)
    (leads : Leads guides position basePosition)
    (isOpen : ¬(basePosition ∈ visiting ∨ basePosition = position))
    (authored : guides[basePosition]? = some baseGuide) :
    IsCall guides depth (position :: visiting) basePosition baseGuide where
  authored := authored
  trail := List.isChain_cons_cons.mpr ⟨leads, call.trail⟩
  distinct := by
    refine List.nodup_cons.mpr ⟨?_, call.distinct⟩
    rw [List.mem_cons]
    exact fun visited => isOpen visited.symm
  budget := by
    have := call.budget
    rw [List.length_cons]
    omega

theorem takeWhile_ne_append_of_mem
    {member : Nat} {members : List Nat} (inside : member ∈ members) :
    ∃ rest,
      members =
        (members.takeWhile (· != member) ++ [member]) ++ rest := by
  induction members with
  | nil => simp at inside
  | cons first later ih =>
      by_cases same : first = member
      · exact ⟨later, by simp [same]⟩
      · obtain ⟨rest, split⟩ :=
          ih ((List.mem_cons.mp inside).resolve_left (Ne.symm same))
        exact ⟨rest, by simpa [same] using split⟩

/-- Where the trail closes, the positions that are recorded form a closed trail. -/
theorem IsCall.closed_cycleMembers
    (call : IsCall guides depth visiting position guide)
    (leads : Leads guides position basePosition)
    (closes : basePosition ∈ visiting ∨ basePosition = position) :
    IsTrail guides (position :: cycleMembers visiting basePosition) ∧
      Leads guides position
        ((position :: cycleMembers visiting basePosition).getLast
          (List.cons_ne_nil _ _)) := by
  by_cases visited : basePosition ∈ visiting
  · have reached :
        cycleMembers visiting basePosition =
          visiting.takeWhile (· != basePosition) ++ [basePosition] := by
      simp [cycleMembers, visited]
    constructor
    · obtain ⟨rest, split⟩ := takeWhile_ne_append_of_mem visited
      have trail := call.trail
      rw [split, ← reached, IsTrail, ← List.cons_append] at trail
      exact (List.isChain_append.mp trail).1
    · simpa [reached] using leads
  · obtain rfl := closes.resolve_left visited
    simpa [cycleMembers, visited, IsTrail] using leads

/-! ## Outcomes -/

/-- The outcomes of a call: the position is finished, or a base that is no guide is refused. -/
inductive Outcome
    (strict : Bool) (guides : List Guide) (position : Nat)
    (start : Progress) : Except Error Guide × Progress → Prop where
  | finished {value after}
      (sound : Sound guides after)
      (keeps : start.Extends after)
      (entry : after.guide? position = some value) :
      Outcome strict guides position start (.ok value, after)
  | refused {child slug after}
      (asked : strict = true)
      (member : child ∈ guides)
      (named : child.base = some slug)
      (unknown : ∀ other ∈ guides, other.slug ≠ slug) :
      Outcome strict guides position start
        (.error (.unknownBaseGuide child.slug slug), after)

theorem Outcome.of_warned
    {start : Progress} {message : String}
    {outcome : Except Error Guide × Progress}
    (resolved :
      Outcome strict guides position (start.warned message) outcome) :
    Outcome strict guides position start outcome := by
  cases resolved with
  | finished sound keeps entry => exact .finished sound keeps entry
  | refused asked member named unknown =>
      exact .refused asked member named unknown

theorem Outcome.of_record
    {start before : Progress} {value : Guide}
    (keeps : start.Extends before)
    (inside : position < before.finished.length)
    (recorded :
      Sound guides (before.record position value) ∧
        before.Extends (before.record position value)) :
    Outcome strict guides position start
      (.ok value, before.record position value) :=
  .finished recorded.1 (keeps.trans recorded.2)
    (Progress.guide?_record_self inside value)

/-- A guide without a base in the batch is finished as it is written. -/
theorem outcome_rootless
    (call : IsCall guides depth visiting position guide)
    {start : Progress} (sound : Sound guides start)
    (alone : basePosition? guides position = none) :
    Outcome strict guides position start
      (.ok guide, start.record position guide) :=
  .of_record (.refl start) (sound.length ▸ call.position_lt)
    (sound.recordRootless call.authored alone)

/-- Where the trail closes, the cycle is finished as it is written. -/
theorem outcome_closed
    (call : IsCall guides depth visiting position guide)
    {start : Progress} (sound : Sound guides start)
    (leads : Leads guides position basePosition)
    (closes : basePosition ∈ visiting ∨ basePosition = position) :
    Outcome strict guides position start
      (.ok guide,
        (position :: cycleMembers visiting basePosition).foldl
          (Progress.recordAuthored guides) start) := by
  obtain ⟨trail, back⟩ := call.closed_cycleMembers leads closes
  obtain ⟨soundAfter, keeps⟩ := sound.recordCycle trail back
  refine .finished soundAfter keeps ?_
  rw [guide?_recordAll_of_mem List.mem_cons_self call.position_lt
    sound.length, call.authored]

/-- Once its base is finished, a position is either finished as part of a cycle or on no cycle. -/
theorem outcome_merged
    (call : IsCall guides depth visiting position guide)
    {start : Progress}
    (leads : Leads guides position basePosition)
    {outcome : Except Error Guide × Progress}
    (resolved : Outcome strict guides basePosition start outcome) :
    Outcome strict guides position start
      (mergedInto position guide outcome) := by
  cases resolved with
  | refused asked member named unknown =>
      exact .refused asked member named unknown
  | @finished base after sound keeps entry =>
      have finished := Option.isSome_of_eq_some entry
      rw [mergedInto]
      cases pending : after.guide? position with
      | some value => exact .finished sound keeps pending
      | none =>
          have acyclic : ¬OnCycle guides position := by
            intro cycle
            have present :=
              sound.closed finished (cycle.reaches_back leads) cycle
            simp [pending] at present
          refine .of_record keeps (sound.length ▸ call.position_lt)
            (sound.record call.position_lt
              (.merged call.authored leads acyclic
                (sound.completes entry)) ?_)
          intro member reaches cycle
          rcases ReflTransGen.cases_head reaches with
            rfl | ⟨next, step, further⟩
          · exact (acyclic cycle).elim
          · obtain rfl := leads.unique step
            exact sound.closed finished further cycle

/-- Every call finishes its position with the value that `Completes` gives it, or refuses a base
that is no guide. -/
theorem resolve_outcome
    (call : IsCall guides depth visiting position guide)
    {start : Progress} (sound : Sound guides start) :
    Outcome strict guides position start
      ((resolve strict guides depth visiting position guide).runFrom
        start) := by
  induction depth generalizing visiting position guide start with
  | zero =>
      have budget := call.budget
      have length := call.length_visiting_lt
      omega
  | succ depth ih =>
      cases pending : start.guide? position with
      | some value =>
          rw [resolve_finished pending]
          exact .finished sound (.refl start) pending
      | none =>
          cases named : guide.base with
          | none =>
              rw [resolve_withoutBase pending named]
              apply outcome_rootless call sound
              simp [basePosition?, call.authored, named]
          | some slug =>
              cases found : position? guides slug with
              | none =>
                  rw [resolve_unknownBase pending named found]
                  split
                  · exact .refused ‹_›
                      (List.mem_of_getElem? call.authored) named
                      (position?_eq_none_iff.mp found)
                  · apply (outcome_rootless call (sound.warned _) ?_).of_warned
                    simp [basePosition?, call.authored, named, found]
              | some basePosition =>
                  have leads : Leads guides position basePosition :=
                    .of_base call.authored named found
                  by_cases closes :
                      basePosition ∈ visiting ∨ basePosition = position
                  · rw [resolve_closed pending named found closes]
                    exact (outcome_closed call (sound.warned _) leads
                      closes).of_warned
                  · obtain ⟨baseGuide, authored, -⟩ :=
                      position?_eq_some found
                    rw [resolve_open pending named found closes authored]
                    exact outcome_merged call leads
                      (ih (call.descend leads closes authored) sound)

/-! ## Whole batches -/

/-- The call with which the walk from a position starts. -/
theorem isCall_start
    (authored : guides[position]? = some guide) :
    IsCall guides guides.length [] position guide where
  authored := authored
  trail := List.isChain_singleton position
  distinct := by simp
  budget := Nat.le_refl guides.length

/-- The outcomes for a list of positions: all are finished, or a base that is no guide is
refused. -/
inductive BatchOutcome
    (strict : Bool) (guides : List Guide) (positions : List Nat)
    (start : Progress) : Except Error Unit × Progress → Prop where
  | finished {after}
      (sound : Sound guides after)
      (keeps : start.Extends after)
      (entries : ∀ position ∈ positions,
        (after.guide? position).isSome) :
      BatchOutcome strict guides positions start (.ok (), after)
  | refused {child slug after}
      (asked : strict = true)
      (member : child ∈ guides)
      (named : child.base = some slug)
      (unknown : ∀ other ∈ guides, other.slug ≠ slug) :
      BatchOutcome strict guides positions start
        (.error (.unknownBaseGuide child.slug slug), after)

theorem forM_resolve_outcome
    (entries : List (Guide × Nat))
    (authored : ∀ entry ∈ entries, guides[entry.2]? = some entry.1)
    {start : Progress} (sound : Sound guides start) :
    BatchOutcome strict guides (entries.map Prod.snd) start
      (Resolution.runFrom
        (entries.forM fun entry => do
          let _ ← resolve strict guides guides.length [] entry.2 entry.1)
        start) := by
  induction entries generalizing start with
  | nil => exact .finished sound (.refl start) (by simp)
  | cons entry rest ih =>
      have resolved :
          Outcome strict guides entry.2 start
            ((resolve strict guides guides.length [] entry.2
              entry.1).runFrom start) :=
        resolve_outcome
          (isCall_start (authored entry List.mem_cons_self)) sound
      rw [forM_resolve_cons]
      generalize
        (resolve strict guides guides.length [] entry.2 entry.1).runFrom
          start = outcome at resolved ⊢
      cases resolved with
      | refused asked member named unknown =>
          exact .refused asked member named unknown
      | @finished value after soundAfter keeps here =>
          have others :=
            ih (fun other later =>
              authored other (List.mem_cons_of_mem entry later))
              soundAfter
          dsimp only
          generalize Resolution.runFrom _ after = outcome at others ⊢
          cases others with
          | refused asked member named unknown =>
              exact .refused asked member named unknown
          | finished soundLast keepsLater entries =>
              refine .finished soundLast (keeps.trans keepsLater) ?_
              intro position inside
              rcases List.mem_cons.mp inside with rfl | later
              · exact Option.isSome_of_eq_some
                  (keepsLater entry.2 value here)
              · exact entries position later

/-- The record in which no position is finished. -/
def Progress.pending (guides : List Guide) : Progress :=
  ⟨guides.map fun _ => none, []⟩

theorem guide?_pending (position : Nat) :
    (Progress.pending guides).guide? position = none := by
  simp only [Progress.guide?, Progress.pending, List.getElem?_map]
  cases guides[position]? <;> rfl

theorem sound_pending : Sound guides (Progress.pending guides) where
  length := List.length_map _
  completes entry := by
    rw [guide?_pending] at entry
    contradiction
  closed present := by
    rw [guide?_pending] at present
    contradiction

/-- The guides as a record has them, those that it lacks as they are written. -/
def Progress.values (guides : List Guide) (progress : Progress) :
    List Guide :=
  (guides.zip progress.finished).map fun entry => entry.2.getD entry.1

theorem run_eq (strict : Bool) (guides : List Guide) :
    run strict guides =
      match (resolveAll strict guides).runFrom (.pending guides) with
      | (.ok (), progress) =>
        (.ok (progress.values guides), progress.warnings)
      | (.error reason, progress) => (.error reason, progress.warnings) :=
  rfl

/-- The values that complete the positions of a batch, in order. -/
structure CompletesAll (guides finals : List Guide) : Prop where
  length : finals.length = guides.length
  completes : ∀ {position value},
    finals[position]? = some value → Completes guides position value

/-- A record that lacks no position holds the values of the batch. -/
theorem Sound.completesAll
    {progress : Progress} (sound : Sound guides progress)
    (entries : ∀ position < guides.length,
      (progress.guide? position).isSome) :
    CompletesAll guides (progress.values guides) where
  length := by
    simp [Progress.values, sound.length]
  completes := by
    intro position value found
    simp only [Progress.values, List.getElem?_map,
      Option.map_eq_some_iff] at found
    obtain ⟨⟨authored, finished⟩, both, rfl⟩ := found
    obtain ⟨present, recorded⟩ := List.getElem?_zip_eq_some.mp both
    have inside := (List.getElem?_eq_some_iff.mp present).1
    obtain ⟨other, entry⟩ :=
      Option.isSome_iff_exists.mp (entries position inside)
    have same : finished = some other := by
      simpa [Progress.guide?, recorded] using entry
    simpa [same] using sound.completes entry

/-- The outcomes for a whole batch. -/
theorem resolveAll_outcome (strict : Bool) (guides : List Guide) :
    BatchOutcome strict guides (guides.zipIdx.map Prod.snd)
      (.pending guides)
      ((resolveAll strict guides).runFrom (.pending guides)) :=
  forM_resolve_outcome guides.zipIdx
    (fun _ inside => List.mem_zipIdx_iff_getElem?.mp inside)
    sound_pending

/-- A run completes every position of the batch, or refuses a base that is no guide. -/
theorem run_cases (strict : Bool) (guides : List Guide) :
    (∃ finals,
      (run strict guides).1 = .ok finals ∧ CompletesAll guides finals) ∨
    (strict = true ∧
      ∃ child ∈ guides, ∃ slug,
        child.base = some slug ∧
          (∀ other ∈ guides, other.slug ≠ slug) ∧
          (run strict guides).1 =
            .error (.unknownBaseGuide child.slug slug)) := by
  have resolved := resolveAll_outcome strict guides
  rw [run_eq]
  generalize
    (resolveAll strict guides).runFrom (.pending guides) = outcome
    at resolved ⊢
  cases resolved with
  | refused asked member named unknown =>
      exact Or.inr ⟨asked, _, member, _, named, unknown, rfl⟩
  | finished sound keeps entries =>
      refine Or.inl ⟨_, rfl, sound.completesAll ?_⟩
      intro position inside
      apply entries
      rw [List.zipIdx_map_snd]
      simpa using inside

/-- A run that does not ask for known bases completes every position. -/
theorem run_lenient (guides : List Guide) :
    ∃ finals,
      (run false guides).1 = .ok finals ∧ CompletesAll guides finals := by
  rcases run_cases false guides with completed | ⟨asked, -⟩
  · exact completed
  · contradiction

end Guidebook.Inheritance
