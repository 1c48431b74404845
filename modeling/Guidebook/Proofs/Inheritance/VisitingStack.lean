import Guidebook.Proofs.Inheritance.CallStack

/-!
# The visiting stack

Whenever the resolver is called, the visiting stack holds different positions, each of which leads
to the next and the last of them to the called one.  All of them are pending then: a cycle that
closes is recorded at once, and no call is made before the calls of its members have come back.
Hence no entry of the record is ever changed, a position is not visited twice, and no more calls are
open than there are guides.
-/

namespace Guidebook.Inheritance

open Relation

variable {strict : Bool} {guides : List Guide}

/-! ## The last guide of a slug -/

/-- The guide at a position names as its base the slug of the guide at another, and no later guide
of the batch has that slug. -/
def IsBaseOf (guides : List Guide) (base position : Nat) : Prop :=
  ∃ child parent,
    guides[position]? = some child ∧ guides[base]? = some parent ∧
      child.base = some parent.slug ∧
      ∀ later other, base < later → guides[later]? = some other →
        other.slug ≠ parent.slug

/-- Behind the position of a slug no guide has that slug. -/
theorem slug_ne_of_position?
    {slug : String} {position later : Nat} {other : Guide}
    (found : position? guides slug = some position)
    (behind : position < later)
    (authored : guides[later]? = some other) :
    other.slug ≠ slug := by
  simp only [position?, List.findRev?_eq_find?_reverse,
    Option.map_eq_some_iff, List.find?_eq_some_iff_append] at found
  obtain ⟨⟨guide, index⟩, ⟨-, front, back, split, others⟩, rfl⟩ := found
  have descending :
      guides.zipIdx.reverse.Pairwise fun first second =>
        second.2 < first.2 := by
    rw [List.pairwise_reverse, ← List.pairwise_map, List.zipIdx_map_snd]
    exact List.pairwise_lt_range'
  have member : (other, later) ∈ guides.zipIdx.reverse :=
    List.mem_reverse.mpr (List.mem_zipIdx_iff_getElem?.mpr authored)
  rw [split] at descending member
  rcases List.mem_append.mp member with before | here
  · simpa using others (other, later) before
  · -- What stands behind the one found has a smaller position.
    have smaller :=
      (List.pairwise_cons.mp (List.pairwise_append.mp descending).2.1).1
    rcases List.mem_cons.mp here with same | after
    · obtain ⟨-, rfl⟩ := Prod.mk.inj same
      exact (Nat.lt_irrefl _ behind).elim
    · exact (Nat.lt_asymm behind (smaller _ after)).elim

theorem Leads.isBaseOf
    {position base : Nat} (leads : Leads guides position base) :
    IsBaseOf guides base position := by
  obtain ⟨slug, named, found⟩ := Option.bind_eq_some_iff.mp leads
  obtain ⟨child, authored, named⟩ := Option.bind_eq_some_iff.mp named
  obtain ⟨parent, present, rfl⟩ := position?_eq_some found
  exact ⟨child, parent, authored, present, named,
    fun later other behind => slug_ne_of_position? found behind⟩

/-! ## Entries of the record -/

namespace Progress

variable {progress after : Progress} {position : Nat}

theorem Extends.isSome
    (keeps : progress.Extends after)
    (present : (progress.guide? position).isSome) :
    (after.guide? position).isSome := by
  obtain ⟨value, entry⟩ := Option.isSome_iff_exists.mp present
  exact Option.isSome_of_eq_some (keeps position value entry)

/-- Recording a pending position changes no entry. -/
theorem extends_record
    (pending : progress.guide? position = none) (guide : Guide) :
    progress.Extends (progress.record position guide) := by
  intro other value entry
  have different : position ≠ other := by
    rintro rfl
    rw [pending] at entry
    contradiction
  rwa [guide?_record_ne different]

theorem extends_recordAuthored
    (pending : progress.guide? position = none) :
    progress.Extends (recordAuthored guides progress position) := by
  rw [recordAuthored]
  split
  · exact extends_record pending _
  · exact .refl progress

end Progress

/-! ## Ongoing calls -/

/-- The call for a position has been made and has not come back; `visiting` holds the positions
whose calls wait for it, and the outermost of these calls is that of the loop. -/
structure IsOngoing
    (guides : List Guide) (handled : Nat) (visiting : List Nat)
    (position : Nat) (guide : Guide) : Prop where
  call :
    IsCall guides (guides.length - visiting.length) visiting position guide
  outermost : (position :: visiting).getLast? = some handled

variable {handled position basePosition : Nat} {visiting : List Nat}
  {guide baseGuide : Guide} {slug : String}

theorem isOngoing_start (authored : guides[handled]? = some guide) :
    IsOngoing guides handled [] handled guide where
  call := isCall_start authored
  outermost := rfl

theorem IsOngoing.descend
    (ongoing : IsOngoing guides handled visiting position guide)
    (named : guide.base = some slug)
    (found : position? guides slug = some basePosition)
    (isOpen : ¬(basePosition ∈ visiting ∨ basePosition = position))
    (authored : guides[basePosition]? = some baseGuide) :
    IsOngoing guides handled (position :: visiting) basePosition
      baseGuide where
  call := by
    obtain ⟨spare, depth⟩ := ongoing.call.exists_depth_eq_succ
    have leads := Leads.of_base ongoing.call.authored named found
    have call := ongoing.call
    rw [depth] at call
    have rest : guides.length - (position :: visiting).length = spare := by
      rw [List.length_cons]
      omega
    rw [rest]
    exact call.descend leads isOpen authored
  outermost := ongoing.outermost

/-- When a call comes back, the one that waits for it goes on. -/
theorem IsOngoing.ascend
    (ongoing :
      IsOngoing guides handled (position :: visiting) basePosition
        baseGuide) :
    ∃ guide, IsOngoing guides handled visiting position guide := by
  obtain ⟨leads, trail⟩ := List.isChain_cons_cons.mp ongoing.call.trail
  refine ⟨_, ⟨List.getElem?_eq_getElem leads.source_lt, trail,
    ongoing.call.distinct.tail, ?_⟩, ongoing.outermost⟩
  omega

theorem IsOngoing.length_lt
    (ongoing : IsOngoing guides handled visiting position guide) :
    visiting.length < guides.length :=
  ongoing.call.length_visiting_lt

/-- The members of a cycle that are on the visiting stack stand there in the same order. -/
theorem cycleMembers_sublist (visiting : List Nat) (position : Nat) :
    (cycleMembers visiting position).Sublist visiting := by
  rw [cycleMembers]
  split
  · obtain ⟨rest, split⟩ :=
      takeWhile_ne_append_of_mem (List.contains_iff_mem.mp ‹_›)
    exact List.IsPrefix.sublist ⟨rest, split.symm⟩
  · exact List.nil_sublist visiting

/-! ## Lawful moments -/

/-- What holds at a moment for the sake of what happens next.  The visited positions are known to be
pending at a call only: a call that comes back may have closed a cycle, and so finished some of
them. -/
def Moment.Fits (guides : List Guide) (moment : Moment) : Prop :=
  match moment.control with
  | .between => moment.visiting = []
  | .called position guide =>
    IsOngoing guides moment.handled moment.visiting position guide ∧
      ∀ member ∈ moment.visiting, moment.record.guide? member = none
  | .closing position guide members =>
    IsOngoing guides moment.handled moment.visiting position guide ∧
      members.Nodup ∧
      (∀ member ∈ members, moment.record.guide? member = none) ∧
      (position ∈ members ∨ (moment.record.guide? position).isSome)
  | .returned position _ =>
    (∃ guide,
      IsOngoing guides moment.handled moment.visiting position guide) ∧
      (moment.record.guide? position).isSome
  | .refused _ =>
    ∃ position guide,
      IsOngoing guides moment.handled moment.visiting position guide

/-- What holds at every moment of a run. -/
structure Lawful (guides : List Guide) (moment : Moment) : Prop where
  length : moment.record.finished.length = guides.length
  waiting : moment.visiting = moment.frames.map Frame.position
  finished : ∀ position < moment.handled,
    (moment.record.guide? position).isSome
  fits : moment.Fits guides

theorem lawful_start (guides : List Guide) :
    Lawful guides (.start guides) where
  length := List.length_map _
  waiting := rfl
  finished _ before := (Nat.not_lt_zero _ before).elim
  fits := rfl

/-- A pending position whose call is ongoing can be recorded, and the call comes back. -/
theorem lawful_record
    {frames : List Frame} {record : Progress}
    (length : record.finished.length = guides.length)
    (waiting : visiting = frames.map Frame.position)
    (finished : ∀ other < handled, (record.guide? other).isSome)
    (ongoing : IsOngoing guides handled visiting position guide)
    (pending : record.guide? position = none) (value : Guide) :
    Lawful guides
        ⟨handled, frames, visiting, record.record position value,
          .returned position value⟩ ∧
      record.Extends (record.record position value) := by
  have keeps := Progress.extends_record pending value
  refine ⟨⟨?_, waiting, fun other before => ?_, ⟨guide, ongoing⟩, ?_⟩, keeps⟩
  · rw [Progress.length_record, length]
  · exact keeps.isSome (finished other before)
  · have inside := length ▸ ongoing.call.position_lt
    exact Option.isSome_of_eq_some
      (Progress.guide?_record_self inside value)

/-- The next member of a cycle that closes can be recorded: it is pending, and so are those behind
it. -/
theorem lawful_recordAuthored
    {frames : List Frame} {record : Progress} {member : Nat}
    {members : List Nat}
    (length : record.finished.length = guides.length)
    (waiting : visiting = frames.map Frame.position)
    (finished : ∀ other < handled, (record.guide? other).isSome)
    (ongoing : IsOngoing guides handled visiting position guide)
    (distinct : (member :: members).Nodup)
    (unfinished : ∀ other ∈ member :: members,
      record.guide? other = none)
    (unlessRecorded :
      position ∈ member :: members ∨ (record.guide? position).isSome) :
    Lawful guides
        ⟨handled, frames, visiting,
          Progress.recordAuthored guides record member,
          .closing position guide members⟩ ∧
      record.Extends (Progress.recordAuthored guides record member) := by
  obtain ⟨pending, unfinishedLater⟩ := List.forall_mem_cons.mp unfinished
  obtain ⟨absent, distinctLater⟩ := List.nodup_cons.mp distinct
  have keeps : record.Extends (Progress.recordAuthored guides record member) :=
    Progress.extends_recordAuthored pending
  refine ⟨⟨?_, waiting, fun other before => ?_, ongoing, distinctLater,
    fun other later => ?_, ?_⟩, keeps⟩
  · rw [Progress.length_recordAuthored, length]
  · exact keeps.isSome (finished other before)
  · rw [guide?_recordAuthored_ne (ne_of_mem_of_not_mem later absent).symm]
    exact unfinishedLater other later
  · rcases unlessRecorded with present | recorded
    · rcases List.mem_cons.mp present with rfl | later
      · have entry :=
          guide?_recordAuthored_self ongoing.call.position_lt length
        exact Or.inr
          (Option.isSome_of_eq_some (entry.trans ongoing.call.authored))
      · exact Or.inl later
    · exact Or.inr (keeps.isSome recorded)

/-- A step leads from a lawful moment to a lawful one, and no entry of the record is changed. -/
theorem Lawful.step
    {moment next : Moment}
    (lawful : Lawful guides moment)
    (step : Step strict guides moment next) :
    Lawful guides next ∧ moment.record.Extends next.record := by
  obtain ⟨length, waiting, finished, fits⟩ := lawful
  cases step with
  | begins authored =>
      exact ⟨⟨length, rfl, finished, isOngoing_start authored, by simp⟩,
        .refl _⟩
  | finished entry =>
      obtain ⟨ongoing, -⟩ := fits
      exact ⟨⟨length, waiting, finished, ⟨_, ongoing⟩,
        Option.isSome_of_eq_some entry⟩, .refl _⟩
  | withoutBase pending alone =>
      obtain ⟨ongoing, -⟩ := fits
      exact lawful_record length waiting finished ongoing pending _
  | refused pending named unknown asked =>
      obtain ⟨ongoing, -⟩ := fits
      exact ⟨⟨length, waiting, finished, _, _, ongoing⟩, .refl _⟩
  | passedOver pending named unknown lenient =>
      obtain ⟨ongoing, -⟩ := fits
      -- A warning leaves the entries as they are.
      refine lawful_record ?_ waiting ?_ ongoing ?_ _
      · exact length
      · exact finished
      · exact pending
  | @closes handled frames visiting record position guide slug basePosition
      pending named found closes =>
      obtain ⟨ongoing, unfinished⟩ := fits
      have within := cycleMembers_sublist visiting basePosition
      refine ⟨⟨length, waiting, finished, ongoing, ?_, ?_,
        Or.inl List.mem_cons_self⟩, .refl _⟩
      · exact ongoing.call.distinct.sublist (within.cons_cons _)
      · exact List.forall_mem_cons.mpr
          ⟨pending, fun member present =>
            unfinished member (within.subset present)⟩
  | descends pending named found isOpen authored =>
      obtain ⟨ongoing, unfinished⟩ := fits
      refine ⟨⟨length, congrArg _ waiting, finished,
        ongoing.descend named found isOpen authored, ?_⟩, .refl _⟩
      exact List.forall_mem_cons.mpr ⟨pending, unfinished⟩
  | records =>
      obtain ⟨ongoing, distinct, unfinished, unlessRecorded⟩ := fits
      exact lawful_recordAuthored length waiting finished ongoing distinct
        unfinished unlessRecorded
  | closed =>
      obtain ⟨ongoing, -, -, unlessRecorded⟩ := fits
      exact ⟨⟨length, waiting, finished, ⟨_, ongoing⟩,
        unlessRecorded.resolve_left List.not_mem_nil⟩, .refl _⟩
  | resumes entry =>
      obtain ⟨⟨_, ongoing⟩, -⟩ := fits
      obtain ⟨rfl, rfl⟩ := List.cons.inj waiting
      exact ⟨⟨length, rfl, finished, ongoing.ascend,
        Option.isSome_of_eq_some entry⟩, .refl _⟩
  | merges pending =>
      obtain ⟨⟨_, ongoing⟩, -⟩ := fits
      obtain ⟨rfl, rfl⟩ := List.cons.inj waiting
      obtain ⟨_, caller⟩ := ongoing.ascend
      exact lawful_record length rfl finished caller pending _
  | @ends handled visiting record position value =>
      obtain ⟨⟨_, ongoing⟩, here⟩ := fits
      obtain rfl : visiting = [] := waiting
      obtain rfl : position = handled := Option.some.inj ongoing.outermost
      refine ⟨⟨length, rfl, fun other before => ?_, rfl⟩, .refl _⟩
      rcases Nat.lt_succ_iff_lt_or_eq.mp before with earlier | rfl
      · exact finished other earlier
      · exact here

theorem Lawful.reaches
    {moment next : Moment}
    (lawful : Lawful guides moment)
    (reaches : Reaches strict guides moment next) :
    Lawful guides next ∧ moment.record.Extends next.record := by
  induction reaches with
  | refl => exact ⟨lawful, .refl _⟩
  | tail _ step ih =>
      obtain ⟨before, keeps⟩ := ih
      obtain ⟨after, keepsToo⟩ := before.step step
      exact ⟨after, keeps.trans keepsToo⟩

/-- No more calls are open than there are guides. -/
theorem Lawful.depth_le
    {moment : Moment} (lawful : Lawful guides moment) :
    moment.depth ≤ guides.length := by
  obtain ⟨handled, frames, visiting, record, control⟩ := moment
  obtain rfl : visiting = frames.map Frame.position := lawful.waiting
  have fits := lawful.fits
  have room : ∀ {position guide},
      IsOngoing guides handled (frames.map Frame.position) position guide →
        frames.length < guides.length := by
    intro position guide ongoing
    simpa using ongoing.length_lt
  cases control with
  | between =>
      obtain rfl := List.map_eq_nil_iff.mp fits
      exact Nat.zero_le _
  | called position guide => exact room fits.1
  | closing position guide members => exact room fits.1
  | returned position value =>
      obtain ⟨⟨_, ongoing⟩, -⟩ := fits
      exact (room ongoing).le
  | refused reason =>
      obtain ⟨_, _, ongoing⟩ := fits
      exact (room ongoing).le

/--
At every moment of a run the following holds.  The run ends with what `resolveAll` gives for the
batch.  If the resolver is called, it is called as `resolve` is, and comes back with what `resolve`
gives; the positions on the visiting stack differ from each other and from the called one, the base
of each is the next, and the base of the last is the called one.  No entry of the record is changed
from then on.  No more calls are open than there are guides.  And the record has an entry for every
position that the loop has handled.
-/
theorem run_keeps_stack_and_record
    (strict : Bool) (guides : List Guide) (moment : Moment)
    (reaches : Reaches strict guides (.start guides) moment) :
    (∃ last,
      Reaches strict guides moment last ∧
        last.HasEnded guides
          ((resolveAll strict guides).runFrom (.pending guides))) ∧
    (∀ position guide,
      moment.control = .called position guide →
        moment.Settles strict guides position
          ((resolve strict guides
              (guides.length - moment.visiting.length) moment.visiting
              position guide).runFrom moment.record) ∧
        (position :: moment.visiting).Nodup ∧
        (position :: moment.visiting).IsChain (IsBaseOf guides)) ∧
    (∀ next,
      Reaches strict guides moment next →
        moment.record.Extends next.record) ∧
    moment.depth ≤ guides.length ∧
    ∀ position < moment.handled,
      (moment.record.guide? position).isSome := by
  have lawful := ((lawful_start guides).reaches reaches).1
  refine ⟨?_, fun position guide called => ?_,
    fun next later => (lawful.reaches later).2, lawful.depth_le,
    lawful.finished⟩
  · obtain ⟨last, whole, ended⟩ := reaches_end strict guides
    exact ⟨last, reaches.of_ended whole ended, ended⟩
  · obtain ⟨handled, frames, visiting, record, control⟩ := moment
    obtain rfl : control = .called position guide := called
    obtain ⟨ongoing, -⟩ := lawful.fits
    refine ⟨(ongoing.call.evaluates record).settles handled frames,
      ongoing.call.distinct, ?_⟩
    exact ongoing.call.trail.imp fun _ _ leads => leads.isBaseOf

/-- Two guides of one slug, of which the last counts: it closes a cycle, into which the first guide
of the batch leads. -/
def twinBatch : List Guide :=
  [{ slug := "follower", base := some "left" },
    { slug := "left" },
    { slug := "right", base := some "left" },
    { slug := "left", base := some "right" }]

theorem run_keeps_stack_and_record_twinBatch :
    let right : Guide := { slug := "right", base := some "left" }
    ∃ moment : Moment,
      Reaches true twinBatch (.start twinBatch) moment ∧
      moment.control = .called 2 right ∧ moment.visiting = [3, 0] ∧
      [2, 3, 0].Nodup ∧ [2, 3, 0].IsChain (IsBaseOf twinBatch) ∧
      moment.depth = 3 ∧ moment.depth ≤ twinBatch.length := by
  intro right
  have reaches :
      Reaches true twinBatch (.start twinBatch)
        ⟨0, [⟨3, { slug := "left", base := some "right" }⟩,
            ⟨0, { slug := "follower", base := some "left" }⟩],
          [3, 0], .pending twinBatch, .called 2 right⟩ :=
    .head (.begins rfl)
      (.head (.descends rfl rfl (by decide) (by decide) rfl)
        (.single (.descends rfl rfl (by decide) (by decide) rfl)))
  obtain ⟨-, called, -, bounded, -⟩ :=
    run_keeps_stack_and_record true twinBatch _ reaches
  obtain ⟨-, distinct, trail⟩ := called 2 right rfl
  exact ⟨_, reaches, rfl, rfl, distinct, trail, rfl, bounded⟩

end Guidebook.Inheritance
