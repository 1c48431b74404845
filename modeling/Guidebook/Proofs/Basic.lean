import Guidebook.Error
import Mathlib.Data.List.Flatten
import Mathlib.Data.List.Nodup

/-!
# Lists and results

What the proofs about guides need of lists and of computations that may fail.
-/

namespace Guidebook

/-! ## Computations that may fail -/

theorem except_bind_eq_ok
    {α β : Type} {first : Except Error α} {next : α → Except Error β}
    {result : β} :
    (first >>= next) = .ok result ↔
      ∃ value, first = .ok value ∧ next value = .ok result := by
  cases first with
  | error reason =>
      constructor
      · intro impossible
        cases impossible
      · rintro ⟨value, impossible, _⟩
        cases impossible
  | ok value =>
      constructor
      · exact fun succeeded => ⟨value, rfl, succeeded⟩
      · rintro ⟨other, same, succeeded⟩
        cases same
        exact succeeded

theorem option_bind_eq_some
    {α β : Type} {first : Option α} {next : α → Option β} {result : β} :
    (first >>= next) = some result ↔
      ∃ value, first = some value ∧ next value = some result :=
  Option.bind_eq_some_iff

/-- What succeeds for every member of a list gives results that are those of the members. -/
theorem exists_of_mapM_eq_ok
    {α β : Type} {action : α → Except Error β}
    {inputs : List α} {results : List β}
    (succeeded : inputs.mapM action = .ok results) :
    ∀ result ∈ results, ∃ input ∈ inputs, action input = .ok result := by
  induction inputs generalizing results with
  | nil =>
      cases succeeded
      exact List.forall_mem_nil _
  | cons input rest ih =>
      rw [List.mapM_cons] at succeeded
      obtain ⟨first, first_passed, others⟩ := except_bind_eq_ok.mp succeeded
      obtain ⟨later, later_passed, same⟩ := except_bind_eq_ok.mp others
      cases same
      intro result member
      rcases List.mem_cons.mp member with rfl | later_member
      · exact ⟨input, List.mem_cons_self, first_passed⟩
      · obtain ⟨other, other_member, passed⟩ :=
          ih later_passed result later_member
        exact ⟨other, List.mem_cons_of_mem _ other_member, passed⟩

theorem mapM_eq_ok
    {α β : Type} {action : α → Except Error β} {value : α → β}
    {inputs : List α}
    (succeeds : ∀ input ∈ inputs, action input = .ok (value input)) :
    inputs.mapM action = .ok (inputs.map value) := by
  induction inputs with
  | nil => rfl
  | cons input rest ih =>
      obtain ⟨first, later⟩ := List.forall_mem_cons.mp succeeds
      rw [List.mapM_cons, first, ih later]
      rfl

/-- A computation that fails, if it does, for a reason that is expected. -/
def FailsOnly
    {α : Type} (expected : Error → Prop) (outcome : Except Error α) : Prop :=
  ∀ reason, outcome = .error reason → expected reason

namespace FailsOnly

variable {α β : Type} {expected : Error → Prop}

theorem ok (value : α) :
    FailsOnly expected (.ok value) := by
  intro reason impossible
  cases impossible

theorem error
    {reason : Error} (holds : expected reason) :
    FailsOnly expected (.error reason : Except Error α) := by
  intro other same
  cases same
  exact holds

theorem bind
    {first : Except Error α} {next : α → Except Error β}
    (first_fails : FailsOnly expected first)
    (next_fails : ∀ value, FailsOnly expected (next value)) :
    FailsOnly expected (first >>= next) := by
  cases first with
  | error reason => exact error (first_fails reason rfl)
  | ok value => exact next_fails value

theorem map
    {first : Except Error α}
    (fails : FailsOnly expected first) (change : α → β) :
    FailsOnly expected (first.map change) := by
  cases first with
  | error reason => exact error (fails reason rfl)
  | ok value => exact ok (change value)

/-- What is done for every member of a list fails as one of the members makes it fail. -/
theorem mapM
    {action : α → Except Error β} {inputs : List α}
    (fails : ∀ input ∈ inputs, FailsOnly expected (action input)) :
    FailsOnly expected (inputs.mapM action) := by
  induction inputs with
  | nil => exact ok []
  | cons input rest ih =>
      obtain ⟨first, later⟩ := List.forall_mem_cons.mp fails
      rw [List.mapM_cons]
      exact first.bind fun _ => (ih later).bind fun _ => ok _

end FailsOnly

/-! ## Steps on a state that may fail -/

/-- What comes second starts where the first has left the state, if the first has gone through. -/
theorem run_bind_state
    {σ α β : Type} (first : ExceptT Error (StateM σ) α)
    (next : α → ExceptT Error (StateM σ) β) (before : σ) :
    (first >>= next).run.run before =
      match first.run.run before with
      | (.ok value, after) => (next value).run.run after
      | (.error reason, after) => (.error reason, after) := by
  simp only [ExceptT.run_bind, StateT.run_bind]
  rcases first.run.run before with ⟨outcome, after⟩
  cases outcome <;> rfl

theorem run_map_state
    {σ α β : Type} (change : α → β)
    (first : ExceptT Error (StateM σ) α) (before : σ) :
    (change <$> first).run.run before =
      ((first.run.run before).1.map change, (first.run.run before).2) := by
  rw [map_eq_pure_bind, run_bind_state]
  rcases first.run.run before with ⟨outcome, after⟩
  cases outcome <;> rfl

/-- Two steps go through if both do. -/
theorem run_bind_eq_ok
    {σ α β : Type} {first : ExceptT Error (StateM σ) α}
    {next : α → ExceptT Error (StateM σ) β} {before after : σ} {result : β} :
    (first >>= next).run.run before = (.ok result, after) ↔
      ∃ value middle, first.run.run before = (.ok value, middle) ∧
        (next value).run.run middle = (.ok result, after) := by
  rw [run_bind_state]
  rcases first.run.run before with ⟨outcome, middle⟩
  cases outcome with
  | error reason =>
      constructor
      · intro impossible
        cases impossible
      · rintro ⟨value, other, impossible, _⟩
        cases impossible
  | ok value =>
      constructor
      · intro went_through
        exact ⟨value, middle, rfl, went_through⟩
      · rintro ⟨other, another, same, went_through⟩
        cases same
        exact went_through

/-- A loop whose passes all go through folds them over the state. -/
theorem run_forIn_state
    {σ α : Type} {body : α → PUnit → ExceptT Error (StateM σ) (ForInStep PUnit)}
    (pass : σ → α → σ)
    (passes : ∀ member before,
      (body member .unit).run.run before =
        (.ok (.yield .unit), pass before member))
    (members : List α) (before : σ) :
    (forIn members PUnit.unit body).run.run before =
      (.ok PUnit.unit, members.foldl pass before) := by
  induction members generalizing before with
  | nil => rfl
  | cons member rest ih =>
      rw [List.forIn_cons, run_bind_state, passes, List.foldl_cons]
      exact ih (pass before member)

/-! ## Parts of lists -/

theorem takeWhile_append_cons_of_not
    {α : Type} {accepts : α → Bool} {stop : α}
    (stops : accepts stop = false)
    (front back : List α) :
    (front ++ stop :: back).takeWhile accepts = front.takeWhile accepts := by
  induction front with
  | nil => simp [stops]
  | cons first rest ih => simp [List.takeWhile_cons, ih]

theorem dropWhile_append_cons_of_not
    {α : Type} {accepts : α → Bool} {stop : α}
    (stops : accepts stop = false)
    (front back : List α) :
    (front ++ stop :: back).dropWhile accepts =
      front.dropWhile accepts ++ stop :: back := by
  induction front with
  | nil => simp [stops]
  | cons first rest ih =>
      simp only [List.cons_append, List.dropWhile_cons, ih]
      split <;> rfl

/-- What a text starts with that does not hold the separator ends in front of it. -/
theorem prefix_of_prefix_append_cons
    {α : Type} {separator : α} {start front back : List α}
    (start_free : separator ∉ start)
    (starts : start <+: front ++ separator :: back) :
    start <+: front := by
  rcases List.prefix_or_prefix_of_prefix starts
      (List.prefix_append front (separator :: back)) with
    inside | ⟨more, rfl⟩
  · exact inside
  · rw [List.prefix_append_right_inj] at starts
    cases more with
    | nil => exact (List.append_nil front).symm ▸ List.prefix_refl front
    | cons first rest =>
        obtain ⟨rfl, -⟩ := List.cons_prefix_cons.mp starts
        exact absurd (List.mem_append_right front List.mem_cons_self) start_free

/-- A text is cut at the first separator in one way only. -/
theorem append_cons_inj_of_notMem_front
    {α : Type} {separator : α} {front other back rest : List α}
    (front_free : separator ∉ front)
    (other_free : separator ∉ other) :
    front ++ separator :: back = other ++ separator :: rest ↔
      front = other ∧ back = rest := by
  induction front generalizing other with
  | nil =>
      cases other with
      | nil => simp
      | cons c more =>
          have differs : separator ≠ c :=
            (List.ne_and_not_mem_of_not_mem_cons other_free).1
          simp [differs]
  | cons c more ih =>
      obtain ⟨differs, more_free⟩ :=
        List.ne_and_not_mem_of_not_mem_cons front_free
      cases other with
      | nil => simp [Ne.symm differs]
      | cons d others =>
          have others_free : separator ∉ others :=
            (List.ne_and_not_mem_of_not_mem_cons other_free).2
          rw [List.cons_append, List.cons_append, List.cons.injEq,
            List.cons.injEq, ih more_free others_free, and_assoc]

/-- A text is cut at the last separator in one way only. -/
theorem append_cons_inj_of_notMem_back
    {α : Type} {separator : α} {front other back rest : List α}
    (back_free : separator ∉ back)
    (rest_free : separator ∉ rest) :
    front ++ separator :: back = other ++ separator :: rest ↔
      front = other ∧ back = rest := by
  rw [← List.reverse_inj, List.reverse_append, List.reverse_append,
    List.reverse_cons, List.reverse_cons, List.append_assoc,
    List.append_assoc, List.singleton_append, List.singleton_append,
    append_cons_inj_of_notMem_front (by simpa using back_free)
      (by simpa using rest_free),
    List.reverse_inj, List.reverse_inj, and_comm]

/-- The pieces between separators hold the other characters of the text only. -/
theorem mem_piece_of_splitOnP
    {α : Type} {separates : α → Bool} {text : List α} :
    ∀ piece ∈ text.splitOnP separates, ∀ c ∈ piece,
      c ∈ text ∧ separates c = false := by
  induction text with
  | nil =>
      rw [List.splitOnP_nil]
      exact List.forall_mem_singleton.mpr (List.forall_mem_nil _)
  | cons first rest ih =>
      have later :
          ∀ piece ∈ rest.splitOnP separates, ∀ c ∈ piece,
            c ∈ first :: rest ∧ separates c = false :=
        fun piece found c member =>
          (ih piece found c member).imp_left (List.mem_cons_of_mem _)
      rw [List.splitOnP_cons_eq_if_modifyHead]
      split
      · exact List.forall_mem_cons.mpr
          ⟨List.forall_mem_nil _, later⟩
      · rename_i inside
        obtain ⟨head, pieces, split⟩ :=
          List.exists_cons_of_ne_nil (List.splitOnP_ne_nil separates rest)
        rw [split, List.forall_mem_cons] at later
        rw [split, List.modifyHead_cons]
        refine List.forall_mem_cons.mpr ⟨fun c member => ?_, later.2⟩
        rcases List.mem_cons.mp member with rfl | inHead
        · exact ⟨List.mem_cons_self, Bool.eq_false_iff.mpr inside⟩
        · exact later.1 c inHead

theorem mem_of_mem_splitOnP
    {α : Type} {separates : α → Bool} {text : List α} :
    ∀ piece ∈ text.splitOnP separates, ∀ c ∈ piece, c ∈ text :=
  fun piece found c member => (mem_piece_of_splitOnP piece found c member).1

theorem mem_of_mem_splitOn
    {α : Type} [BEq α] {separator : α} {text piece : List α}
    (found : piece ∈ text.splitOn separator) :
    ∀ c ∈ piece, c ∈ text := by
  rw [List.splitOn_eq_splitOnP] at found
  exact mem_of_mem_splitOnP piece found

theorem separator_notMem_of_mem_splitOn
    {α : Type} [BEq α] [LawfulBEq α] {separator : α} {text piece : List α}
    (found : piece ∈ text.splitOn separator) :
    separator ∉ piece := by
  rw [List.splitOn_eq_splitOnP] at found
  intro member
  simpa using (mem_piece_of_splitOnP piece found separator member).2

theorem intercalate_append
    {α : Type} {separator : List α} {front back : List (List α)}
    (front_nonempty : front ≠ [])
    (back_nonempty : back ≠ []) :
    separator.intercalate (front ++ back) =
      separator.intercalate front ++ separator ++ separator.intercalate back := by
  induction front with
  | nil => exact absurd rfl front_nonempty
  | cons piece rest ih =>
      cases rest with
      | nil =>
          rw [List.singleton_append,
            List.intercalate_cons_of_ne_nil back_nonempty,
            List.intercalate_singleton]
      | cons next more =>
          rw [List.cons_append, List.cons_append, List.intercalate_cons_cons,
            ← List.cons_append, ih (List.cons_ne_nil next more),
            List.intercalate_cons_cons]
          simp only [List.append_assoc]

/-- Pieces may be joined group by group. -/
theorem intercalate_flatMap
    {α β : Type} {separator : List α} {pieces : β → List (List α)}
    {members : List β}
    (nonempty : ∀ member ∈ members, pieces member ≠ []) :
    separator.intercalate (members.flatMap pieces) =
      separator.intercalate
        (members.map fun member => separator.intercalate (pieces member)) := by
  induction members with
  | nil => rfl
  | cons member rest ih =>
      obtain ⟨first, later⟩ := List.forall_mem_cons.mp nonempty
      rw [List.flatMap_cons, List.map_cons]
      cases rest with
      | nil => simp
      | cons next more =>
          have behind : (next :: more).flatMap pieces ≠ [] := by
            rw [List.flatMap_cons]
            exact List.append_ne_nil_of_left_ne_nil
              (later next List.mem_cons_self) _
          rw [intercalate_append first behind, ih later,
            List.intercalate_cons_of_ne_nil (by simp)]

/-- Texts with a separator between them hold its characters and theirs. -/
theorem notMem_intercalate
    {α : Type} {c : α} {separator : List α} {pieces : List (List α)}
    (separator_free : c ∉ separator)
    (free : ∀ piece ∈ pieces, c ∉ piece) :
    c ∉ separator.intercalate pieces := by
  induction pieces with
  | nil => exact List.not_mem_nil
  | cons piece rest ih =>
      obtain ⟨piece_free, rest_free⟩ := List.forall_mem_cons.mp free
      cases rest with
      | nil => rwa [List.intercalate_singleton]
      | cons next more =>
          rw [List.intercalate_cons_cons, List.mem_append, List.mem_append,
            not_or, not_or]
          exact ⟨⟨piece_free, separator_free⟩, ih rest_free⟩

/-- Members may be left out if and only if nothing comes of them. -/
theorem flatMap_eq_flatMap_filter_iff
    {α β : Type} {keeps : α → Bool} {pieces : α → List β} {members : List α} :
    members.flatMap pieces = (members.filter keeps).flatMap pieces ↔
      ∀ member ∈ members, keeps member = false → pieces member = [] := by
  induction members with
  | nil => simp
  | cons member rest ih =>
      rw [List.forall_mem_cons, ← ih, List.flatMap_cons]
      cases kept : keeps member with
      | true => simp [List.filter_cons_of_pos kept]
      | false =>
          rw [List.filter_cons_of_neg (by simp [kept])]
          constructor
          · intro same
            have fewer :=
              ((List.filter_sublist (p := keeps) (l := rest)).flatMap
                pieces).length_le
            have lengths := congrArg List.length same
            rw [List.length_append] at lengths
            have empty : pieces member = [] :=
              List.length_eq_zero_iff.mp (by omega)
            rw [empty, List.nil_append] at same
            exact ⟨fun _ => empty, same⟩
          · rintro ⟨empty, same⟩
            rw [empty rfl, List.nil_append, same]

/-- A member is what is found if it is the only one that is looked for. -/
theorem find?_eq_some_of_unique
    {α : Type} {wanted : α → Bool} {members : List α} {member : α}
    (present : member ∈ members)
    (holds : wanted member)
    (unique : ∀ other ∈ members, wanted other → other = member) :
    members.find? wanted = some member := by
  have isSome : (members.find? wanted).isSome :=
    List.find?_isSome.mpr ⟨member, present, holds⟩
  obtain ⟨other, found⟩ := Option.isSome_iff_exists.mp isSome
  rw [found, unique other (List.mem_of_find?_eq_some found)
    (List.find?_some found)]

end Guidebook
