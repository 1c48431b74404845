import Guidebook.Files.Path

/-!
# Components of joined paths

Joining a path with a relative one appends its steps to the components.  What the slashes between
them look like, and how many there are, makes no difference.
-/

namespace Guidebook.Path

open Guidebook.Text

/-- The steps of a text between its slashes, wherever the path starts. -/
def steps (text : String) : List Component :=
  (Path.mk text).pieces.filterMap Component.ofPiece?

/-- The component that tells where a path starts, if there is one. -/
def lead (text : String) : List Component :=
  if (Path.mk text).isAbsolute then [.root]
  else if (Path.mk text).pieces.head? = some "." then [.current]
  else []

theorem components_eq (text : String) :
    (Path.mk text).components = lead text ++ steps text := by
  unfold components lead steps
  split
  · rfl
  · split <;> rfl

@[simp]
theorem components_empty : (Path.mk "").components = [] := by
  decide

theorem pieces_append_slash (front back : String) :
    (Path.mk (front ++ "/" ++ back)).pieces =
      (Path.mk front).pieces ++ (Path.mk back).pieces := by
  have split :
      (front ++ "/" ++ back).toList =
        front.toList ++ '/' :: back.toList := by
    simp
  simp only [pieces, split, List.splitOn_append_cons_self, List.map_append]

theorem steps_append_slash (front back : String) :
    steps (front ++ "/" ++ back) = steps front ++ steps back := by
  simp only [steps, pieces_append_slash, List.filterMap_append]

theorem steps_slash (front : String) :
    steps (front ++ "/") = steps front := by
  have split := steps_append_slash front ""
  rwa [String.append_empty, show steps "" = [] by decide,
    List.append_nil] at split

theorem lead_append_slash (front back : String) :
    lead (front ++ "/" ++ back) = lead (front ++ "/") := by
  have first : ∀ text : String,
      (Path.mk (front ++ "/" ++ text)).pieces.head? =
        (Path.mk front).pieces.head? := by
    intro text
    obtain ⟨piece, rest, split⟩ :
        ∃ piece rest, (Path.mk front).pieces = piece :: rest :=
      List.exists_cons_of_ne_nil (by simp [pieces])
    rw [pieces_append_slash, split]
    rfl
  have absolute : ∀ text : String,
      (Path.mk (front ++ "/" ++ text)).isAbsolute =
        (Path.mk (front ++ "/")).isAbsolute := by
    intro text
    simp only [isAbsolute, String.toList_append]
    cases front.toList <;> rfl
  have trailing := first ""
  rw [String.append_empty] at trailing
  simp only [lead, absolute, first, trailing]

theorem lead_slash
    {front : String} (nonempty : front ≠ "") :
    lead (front ++ "/") = lead front := by
  obtain ⟨c, rest, split⟩ :
      ∃ c rest, front.toList = c :: rest :=
    List.exists_cons_of_ne_nil (by simpa using nonempty)
  have first := pieces_append_slash front ""
  rw [String.append_empty] at first
  obtain ⟨piece, others, pieces⟩ :
      ∃ piece others, (Path.mk front).pieces = piece :: others :=
    List.exists_cons_of_ne_nil (by simp [Path.pieces])
  simp only [lead, first, pieces, isAbsolute, String.toList_append, split,
    List.cons_append, List.head?_cons]

/-- What follows a slash only adds its steps. -/
theorem components_append_slash (front back : String) :
    (Path.mk (front ++ "/" ++ back)).components =
      (Path.mk (front ++ "/")).components ++ steps back := by
  rw [components_eq, components_eq, lead_append_slash,
    steps_append_slash, steps_slash, List.append_assoc]

/-- A slash at the end adds nothing to a path. -/
theorem components_slash
    {front : String} (nonempty : front ≠ "") :
    (Path.mk (front ++ "/")).components = (Path.mk front).components := by
  rw [components_eq, components_eq, lead_slash nonempty, steps_slash]

theorem exists_append_slash
    {text : String} (slashed : text.toList.getLast? = some '/') :
    ∃ front, text = front ++ "/" := by
  obtain ⟨front, split⟩ := List.getLast?_eq_some_iff.mp slashed
  refine ⟨String.ofList front, String.toList_inj.mp ?_⟩
  rw [split]
  simp

/-- A relative path that starts with a step adds its steps to the path that it is joined to. -/
theorem components_join
    (base : Path) {part : String}
    (relative : lead part = []) :
    (base.join part).components = base.components ++ steps part := by
  obtain ⟨text⟩ := base
  have notAbsolute : ¬part.toList.head? = some '/' := by
    intro absolute
    simp [lead, isAbsolute, absolute] at relative
  unfold join
  simp only [beq_iff_eq, notAbsolute, ↓reduceIte]
  split
  · rename_i plain
    rcases plain with empty | slashed
    · subst empty
      rw [String.empty_append, components_eq, relative, components_empty]
    · obtain ⟨front, rfl⟩ := exists_append_slash slashed
      exact components_append_slash front part
  · rename_i plain
    rw [components_append_slash, components_slash (mt Or.inl plain)]

theorem components_join_empty (base : Path) :
    (base.join "").components = base.components := by
  rw [components_join base (by decide), show steps "" = [] by decide,
    List.append_nil]

/-- What follows a slash adds its steps behind whatever comes before it. -/
theorem components_join_append_slash
    (base : Path) (front back : String) :
    (base.join (front ++ "/" ++ back)).components =
      (base.join (front ++ "/")).components ++ steps back := by
  have start : ∀ text : String,
      (front ++ "/" ++ text).toList.head? =
        (front ++ "/").toList.head? := by
    intro text
    simp only [String.toList_append]
    cases front.toList <;> rfl
  unfold join
  simp only [start]
  split
  · exact components_append_slash front back
  · split
    · rw [← String.append_assoc, ← String.append_assoc,
        components_append_slash]
    · rw [← String.append_assoc, ← String.append_assoc,
        components_append_slash]

end Guidebook.Path
