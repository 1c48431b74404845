import Guidebook.Proofs.Markup.Locality
import Mathlib.Data.List.Nodup
import Mathlib.Data.List.Sort

/-!
# The order in which handlers run

The handlers of a pipeline run in ascending order, and those of equal order as they were given.
These two conditions leave one list only.  A text passes through the handlers of that list one after
another, up to the first that fails; so handlers of different orders make the same of every text,
however they are given.
-/

namespace Guidebook.Markup

/-! ## One list for each order -/

variable {α : Type} {key : α → Int} {members others : List α}

/-- Lists with the same members for each key have the same members. -/
theorem mem_of_filter_eq
    (same : ∀ value,
      members.filter (fun member => key member == value) =
        others.filter fun member => key member == value)
    {other : α} (present : other ∈ others) :
    other ∈ members := by
  have kept : other ∈ others.filter fun member => key member == key other :=
    List.mem_filter.mpr ⟨present, beq_self_eq_true _⟩
  rw [← same] at kept
  exact List.mem_of_mem_filter kept

/-- Of two ascending lists with the same members for each key, the first member of one stands before
all members of the other. -/
theorem key_le_of_filter_eq
    {first : α} {rest : List α}
    (ascending :
      (first :: rest).Pairwise fun earlier later => key earlier ≤ key later)
    (same : ∀ value,
      (first :: rest).filter (fun member => key member == value) =
        others.filter fun member => key member == value)
    {other : α} (present : other ∈ others) :
    key first ≤ key other := by
  rcases List.mem_cons.mp (mem_of_filter_eq same present) with rfl | later
  · exact Int.le_refl _
  · exact (List.pairwise_cons.mp ascending).1 other later

/-- An ascending list is determined by its members of each key, in their order. -/
theorem eq_of_filter_eq
    (ascending :
      members.Pairwise fun earlier later => key earlier ≤ key later)
    (ascendingToo :
      others.Pairwise fun earlier later => key earlier ≤ key later)
    (same : ∀ value,
      members.filter (fun member => key member == value) =
        others.filter fun member => key member == value) :
    members = others := by
  induction members generalizing others with
  | nil =>
      rw [eq_comm, List.eq_nil_iff_forall_not_mem]
      intro other present
      exact List.not_mem_nil (mem_of_filter_eq same present)
  | cons first rest ih =>
      cases others with
      | nil => simpa using same (key first)
      | cons other later =>
          have level : key first = key other :=
            Int.le_antisymm
              (key_le_of_filter_eq ascending same List.mem_cons_self)
              (key_le_of_filter_eq ascendingToo (fun value => (same value).symm)
                List.mem_cons_self)
          have heads := same (key first)
          simp only [List.filter_cons, level, BEq.rfl, ↓reduceIte] at heads
          obtain ⟨rfl, -⟩ := List.cons.inj heads
          refine congrArg (first :: ·)
            (ih ascending.tail ascendingToo.tail fun value => ?_)
          have whole := same value
          rw [List.filter_cons, List.filter_cons] at whole
          split at whole
          · exact List.tail_eq_of_cons_eq whole
          · exact whole

/-! ## The running order -/

/-- The handlers of a list in an order that ascends and leaves those of equal order as they were
given. -/
structure IsRunningOrder (given ordered : List Handler) : Prop where
  rearranged : ordered.Perm given
  ascending :
    ordered.Pairwise fun earlier later => earlier.order ≤ later.order
  ties : ∀ order,
    ordered.filter (fun handler => handler.order == order) =
      given.filter fun handler => handler.order == order

variable {given ordered : List Handler}

theorem IsRunningOrder.unique
    {candidate : List Handler}
    (first : IsRunningOrder given ordered)
    (second : IsRunningOrder given candidate) :
    ordered = candidate :=
  eq_of_filter_eq first.ascending second.ascending fun order =>
    (first.ties order).trans (second.ties order).symm

theorem order_le_trans (first second third : Handler)
    (before : decide (first.order ≤ second.order) = true)
    (after : decide (second.order ≤ third.order) = true) :
    decide (first.order ≤ third.order) = true :=
  decide_eq_true
    (Int.le_trans (of_decide_eq_true before) (of_decide_eq_true after))

theorem order_le_total (first second : Handler) :
    (decide (first.order ≤ second.order) ||
      decide (second.order ≤ first.order)) = true := by
  simpa using Int.le_total first.order second.order

/-- Handlers of one order are in order already, so sorting leaves them as they were given. -/
theorem filter_mergeSort_order (given : List Handler) (order : Int) :
    (given.mergeSort fun first second => first.order ≤ second.order).filter
        (fun handler => handler.order == order) =
      given.filter fun handler => handler.order == order := by
  have level :
      (given.filter fun handler => handler.order == order).Pairwise
        fun first second => decide (first.order ≤ second.order) = true := by
    rw [List.pairwise_filter]
    refine List.pairwise_of_forall fun first second left right => ?_
    rw [beq_iff_eq] at left right
    simp [left, right]
  have kept :=
    (List.sublist_mergeSort order_le_trans order_le_total level
      List.filter_sublist).filter fun handler => handler.order == order
  rw [List.filter_filter] at kept
  simp only [Bool.and_self] at kept
  refine (kept.eq_of_length ?_).symm
  exact ((List.mergeSort_perm given _).filter _).length_eq.symm

theorem isRunningOrder_ofHandlers (given : List Handler) :
    IsRunningOrder given (Pipeline.ofHandlers given).handlers where
  rearranged := List.mergeSort_perm given _
  ascending :=
    (List.pairwise_mergeSort order_le_trans order_le_total given).imp
      of_decide_eq_true
  ties := filter_mergeSort_order given

/-- The handlers of a pipeline stand in the one running order that there is. -/
theorem isRunningOrder_iff :
    IsRunningOrder given ordered ↔
      ordered = (Pipeline.ofHandlers given).handlers := by
  constructor
  · intro running
    exact running.unique (isRunningOrder_ofHandlers given)
  · rintro rfl
    exact isRunningOrder_ofHandlers given

/-- Where no two handlers have the same order, it does not matter how they are given. -/
theorem ofHandlers_eq_of_perm
    {others : List Handler}
    (distinct : (given.map Handler.order).Nodup)
    (rearranged : others.Perm given) :
    Pipeline.ofHandlers others = Pipeline.ofHandlers given := by
  have running := isRunningOrder_ofHandlers given
  have runningToo := isRunningOrder_ofHandlers others
  refine congrArg Pipeline.mk
    (List.Perm.eq_of_pairwise ?_ runningToo.ascending running.ascending ?_)
  · intro first second present presentToo before after
    have member := rearranged.mem_iff.mp (runningToo.rearranged.mem_iff.mp present)
    exact List.inj_on_of_nodup_map distinct member
      (running.rearranged.mem_iff.mp presentToo) (Int.le_antisymm before after)
  · exact (runningToo.rearranged.trans rearranged).trans running.rearranged.symm

/-! ## Looking handlers up -/

/-- The first handler of a list that handles a name. -/
def IsFirstHandling
    (handlers : List Handler) (name : String) (handler : Handler) : Prop :=
  ∃ earlier later,
    handlers = earlier ++ handler :: later ∧ handler.handles name ∧
      ∀ other ∈ earlier, ¬other.handles name

theorem find?_eq_some_iff {name : String} {handler : Handler} :
    (Pipeline.ofHandlers given).find? name = some handler ↔
      IsFirstHandling (Pipeline.ofHandlers given).handlers name handler := by
  rw [Pipeline.find?, List.find?_eq_some_iff_append]
  constructor
  · rintro ⟨handles, earlier, later, split, others⟩
    exact ⟨earlier, later, split, handles, by simpa using others⟩
  · rintro ⟨earlier, later, split, handles, others⟩
    exact ⟨handles, earlier, later, split, by simpa using others⟩

theorem find?_eq_none_iff {name : String} :
    (Pipeline.ofHandlers given).find? name = none ↔
      ∀ handler ∈ given, ¬handler.handles name := by
  have sameMembers := fun handler =>
    (isRunningOrder_ofHandlers given).rearranged.mem_iff (a := handler)
  simp only [Pipeline.find?, List.find?_eq_none, sameMembers]

/-! ## Passing a text through -/

/-- What becomes of a text that handlers rewrite one after another, each what the one before it
has made of the text, up to the first that fails. -/
inductive Passes (rendering : Rendering) :
    List Handler → String → Except Error String → Prop where
  | done {text} : Passes rendering [] text (.ok text)
  | goesOn {handler rest text rewritten outcome}
      (step : handler.substitute rendering text = .ok rewritten)
      (others : Passes rendering rest rewritten outcome) :
      Passes rendering (handler :: rest) text outcome
  | fails {handler rest text reason}
      (step : handler.substitute rendering text = .error reason) :
      Passes rendering (handler :: rest) text (.error reason)

theorem passes_iff
    {rendering : Rendering} {handlers : List Handler} {text : String}
    {outcome : Except Error String} :
    Passes rendering handlers text outcome ↔
      runHandlers rendering handlers text = outcome := by
  constructor
  · intro passes
    induction passes with
    | done => rfl
    | goesOn step _ ih =>
        simp only [runHandlers_cons, step]
        exact ih
    | fails step =>
        simp only [runHandlers_cons, step]
        rfl
  · rintro rfl
    induction handlers generalizing text with
    | nil => exact .done
    | cons handler rest ih =>
        simp only [runHandlers_cons]
        cases step : handler.substitute rendering text with
        | ok rewritten => exact .goesOn step ih
        | error reason => exact .fails step

/--
There is one list of the given handlers that ascends and keeps ties as they were given, and the
pipeline runs that list.  It finds for a name the first handler of the list that handles it; and it
passes a text through the list, each handler working on what the one before it has made of the text,
up to the first that fails.  Handlers of different orders therefore make the same text of every
text, or fail with the same error, in whatever order they are given.
-/
theorem ofHandlers_runs_in_order (given : List Handler) :
    ∃ ordered,
      (Pipeline.ofHandlers given).handlers = ordered ∧
      (∀ candidate,
        IsRunningOrder given candidate ↔ candidate = ordered) ∧
      (∀ name handler,
        (Pipeline.ofHandlers given).find? name = some handler ↔
          IsFirstHandling ordered name handler) ∧
      (∀ name,
        (Pipeline.ofHandlers given).find? name = none ↔
          ∀ handler ∈ given, ¬handler.handles name) ∧
      (∀ rendering text outcome,
        (Pipeline.ofHandlers given).substitute rendering text = outcome ↔
          Passes rendering ordered text outcome) ∧
      ((given.map Handler.order).Nodup →
        ∀ others, others.Perm given →
          ∀ rendering text,
            (Pipeline.ofHandlers others).substitute rendering text =
              (Pipeline.ofHandlers given).substitute rendering text) := by
  refine ⟨_, rfl, fun candidate => isRunningOrder_iff,
    fun name handler => find?_eq_some_iff, fun name => find?_eq_none_iff,
    fun rendering text outcome => passes_iff.symm, ?_⟩
  intro distinct others rearranged rendering text
  rw [ofHandlers_eq_of_perm distinct rearranged]

/-- A handler that puts its name behind a text. -/
def Handler.appending (name : String) (order : Int) : Handler where
  name := name
  order := order
  substitute := fun _ text => .ok (text ++ name)

theorem ofHandlers_runs_in_order_appending :
    let first := Handler.appending "a" (-1)
    let second := Handler.appending "b" 0
    let third := Handler.appending "c" 2
    ([third, first, second].map Handler.order).Nodup ∧
    [second, third, first].Perm [third, first, second] ∧
    ∀ rendering,
      (Pipeline.ofHandlers [third, first, second]).substitute rendering ">" =
        .ok ">abc" ∧
      (Pipeline.ofHandlers [second, third, first]).substitute rendering ">" =
        .ok ">abc" := by
  intro first second third
  have distinct : ([third, first, second].map Handler.order).Nodup := by decide
  have rearranged : [second, third, first].Perm [third, first, second] :=
    (List.perm_append_comm : ([second] ++ [third, first]).Perm _)
  obtain ⟨ordered, -, running, -, -, passes, same⟩ :=
    ofHandlers_runs_in_order [third, first, second]
  have inOrder : [first, second, third] = ordered := by
    refine (running _).mp ⟨?_, by decide, fun order => ?_⟩
    · exact (List.perm_append_comm : ([first, second] ++ [third]).Perm _)
    · rcases eq_or_ne 2 order with rfl | earlier
      · rfl
      · simp [List.filter_cons, first, second, third, Handler.appending, earlier]
  refine ⟨distinct, rearranged, fun rendering => ?_⟩
  have expanded :
      (Pipeline.ofHandlers [third, first, second]).substitute rendering ">" =
        .ok ">abc" := by
    rw [passes, ← inOrder]
    exact .goesOn rfl (.goesOn rfl (.goesOn rfl .done))
  exact ⟨expanded, (same distinct _ rearranged rendering ">").trans expanded⟩

end Guidebook.Markup
