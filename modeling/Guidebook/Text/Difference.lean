/-!
# Differences

The difference between two sequences is a list of edits: items that are kept, deleted or inserted.
It is found by searching for the middle of a shortest way through the grid of both sequences, from
both of its corners at once.  Then insertions are moved to meet other edits, and in each group of
edits the deletions come first.
-/

namespace Guidebook.Text

universe u

/-- A stretch of a difference. -/
inductive Edit (α : Type u) where
  | keep (items : List α)
  | delete (items : List α)
  | insert (items : List α)
deriving DecidableEq

namespace Edit

variable {α : Type u}

/-- The items of an edit. -/
def items : Edit α → List α
  | .keep items => items
  | .delete items => items
  | .insert items => items

/-- What an edit takes from the first sequence. -/
def removed : Edit α → List α
  | .keep items => items
  | .delete items => items
  | .insert _ => []

/-- What an edit gives to the second sequence. -/
def added : Edit α → List α
  | .keep items => items
  | .delete _ => []
  | .insert items => items

end Edit

namespace Difference

variable {α : Type u} [DecidableEq α]

/-- The number of items that two sequences have in common at their starts. -/
def commonStart : List α → List α → Nat
  | first :: firstRest, second :: secondRest =>
    if first = second then commonStart firstRest secondRest + 1 else 0
  | _, _ => 0

/-- The number of items that two sequences have in common at their ends. -/
def commonEnd (first second : List α) : Nat :=
  commonStart first.reverse second.reverse

/-! ## The middle of a shortest way -/

/-- How far ways of a number of edits reach on each diagonal, from one corner. -/
structure Frontier where
  reached : List (Int × Nat)

/-- How far the ways reach on a diagonal. -/
def Frontier.at (frontier : Frontier) (diagonal : Int) : Nat :=
  (frontier.reached.lookup diagonal).getD 0

/-- Where the next way on a diagonal starts: one edit from the further of its neighbours. -/
def Frontier.next (frontier : Frontier) (edits : Nat) (diagonal : Int) : Nat :=
  let below := frontier.at (diagonal - 1)
  let above := frontier.at (diagonal + 1)
  if diagonal = -(edits : Int) ∨ (diagonal ≠ edits ∧ below < above) then above else below + 1

/-- The diagonals that a number of edits can reach, the outermost first. -/
def diagonals (edits : Nat) : List Int :=
  (List.range (edits + 1)).map fun (index : Nat) => (edits : Int) - 2 * (index : Int)

/-- The second coordinate on a diagonal. -/
def across (x : Nat) (diagonal : Int) : Nat :=
  ((x : Int) - diagonal).toNat

/-- Extends the ways from one corner by an edit, until one of them meets a way of the other. -/
def extend (first second : List α) (edits : Nat) (before other : Frontier)
    (meets : Int → Bool) (reached : List (Int × Nat)) :
    List Int → Except (Nat × Nat × Nat × Nat) Frontier
  | [] => .ok ⟨reached⟩
  | diagonal :: rest =>
    let x := before.next edits diagonal
    let y := across x diagonal
    let common := commonStart (first.drop x) (second.drop y)
    let opposite : Int := (first.length : Int) - second.length - diagonal
    if meets diagonal && first.length ≤ x + common + other.at opposite then
      .error (x, y, x + common, y + common)
    else
      extend first second edits before other meets ((diagonal, x + common) :: reached) rest

/-- Where a shortest way passes, found with at most `fuel` further edits from both corners. -/
def meeting? (first second : List α) (fuel edits : Nat) (forward backward : Frontier) :
    Option (Nat × Nat) :=
  match fuel with
  | 0 => none
  | fuel + 1 =>
    let offset : Int := (first.length : Int) - second.length
    let isOdd := offset % 2 == 1
    let near := fun (most : Int) (diagonal : Int) => (diagonal - offset).natAbs ≤ most
    let fromStart := extend first second edits forward backward
      (fun diagonal => isOdd && near ((edits : Int) - 1) diagonal) [] (diagonals edits)
    match fromStart with
    | .error (x, y, _, _) => some (x, y)
    | .ok forward =>
      let fromEnd := extend first.reverse second.reverse edits backward forward
        (fun diagonal => !isOdd && near edits diagonal) [] (diagonals edits)
      match fromEnd with
      | .error (_, _, x, y) => some (first.length - x, second.length - y)
      | .ok backward => meeting? first second fuel (edits + 1) forward backward

/-- The frontier before the first edit. -/
def startFrontier : Frontier :=
  ⟨[(1, 0)]⟩

/-- The place at which a difference is divided. -/
def middle? (first second : List α) : Option (Nat × Nat) :=
  meeting? first second ((first.length + second.length + 1) / 2 + 1) 0 startFrontier startFrontier

/-- Items that are kept, if there are any. -/
def kept (items : List α) : List (Edit α) :=
  if items.isEmpty then [] else [.keep items]

/-- The edits from one sequence to another, divided until nothing is left between common ends. -/
def edits (fuel : Nat) (first second : List α) : List (Edit α) :=
  match fuel with
  | 0 => [.delete first, .insert second]
  | fuel + 1 =>
    let start := commonStart first second
    let first' := first.drop start
    let second' := second.drop start
    let ending := commonEnd first' second'
    let old := first'.take (first'.length - ending)
    let new := second'.take (second'.length - ending)
    let between :=
      if old.isEmpty && new.isEmpty then []
      else if new.isEmpty then [.delete old]
      else if old.isEmpty then [.insert new]
      else
        match middle? old new with
        | some (x, y) =>
          edits fuel (old.take x) (new.take y) ++ edits fuel (old.drop x) (new.drop y)
        | none => [.delete old, .insert new]
    kept (first.take start) ++ between ++ kept (first'.drop (first'.length - ending))

/-! ## Moving edits together -/

/-- An edit among those before it, the nearest first, and those behind it. -/
structure Focus (α : Type u) where
  before : List (Edit α)
  edit : Edit α
  after : List (Edit α)

/-- Adds kept items in front of edits. -/
def keepBefore (items : List α) : List (Edit α) → List (Edit α)
  | .keep more :: rest => .keep (items ++ more) :: rest
  | edits => .keep items :: edits

/-- Adds kept items behind edits of which the nearest comes first. -/
def keepBehind (items : List α) : List (Edit α) → List (Edit α)
  | .keep more :: rest => .keep (more ++ items) :: rest
  | edits => .keep items :: edits

/-- Moves an edit up over the edit before it or joins it with that, where this is possible. -/
def Focus.up? (focus : Focus α) : Option (Focus α) :=
  match focus.before, focus.edit with
  | .keep items :: before, .insert new =>
    let common := commonEnd items new
    if common = 0 then if items.isEmpty then some { focus with before := before } else none
    else
      let passed := items.drop (items.length - common)
      let moved := passed ++ new.take (new.length - common)
      some ⟨kept (items.take (items.length - common)) ++ before, .insert moved,
        keepBefore passed focus.after⟩
  | .keep items :: before, .delete _ =>
    if items.isEmpty then some { focus with before := before } else none
  | .insert new :: before, .delete old => some ⟨before, .delete old, .insert new :: focus.after⟩
  | .delete old :: before, .insert new => some ⟨before, .insert new, .delete old :: focus.after⟩
  | .insert more :: before, .insert new => some ⟨before, .insert (more ++ new), focus.after⟩
  | .delete more :: before, .delete old => some ⟨before, .delete (more ++ old), focus.after⟩
  | _, _ => none

/-- Moves an edit down over the edit behind it or joins it with that, where this is possible. -/
def Focus.down? (focus : Focus α) : Option (Focus α) :=
  match focus.edit, focus.after with
  | .insert new, .keep items :: after =>
    let common := commonStart items new
    if common = 0 then if items.isEmpty then some { focus with after := after } else none
    else
      let passed := items.take common
      some ⟨keepBehind passed focus.before, .insert (new.drop common ++ passed),
        kept (items.drop common) ++ after⟩
  | .delete _, .keep items :: after =>
    if items.isEmpty then some { focus with after := after } else none
  | .delete old, .insert new :: after => some ⟨.insert new :: focus.before, .delete old, after⟩
  | .insert new, .delete old :: after => some ⟨.delete old :: focus.before, .insert new, after⟩
  | .insert new, .insert more :: after => some ⟨focus.before, .insert (new ++ more), after⟩
  | .delete old, .delete more :: after => some ⟨focus.before, .delete (old ++ more), after⟩
  | _, _ => none

/-- Repeats a move as long as it is possible, at most `fuel` times. -/
def Focus.repeatMove (move : Focus α → Option (Focus α)) : Nat → Focus α → Focus α
  | 0, focus => focus
  | fuel + 1, focus =>
    match move focus with
    | none => focus
    | some moved => repeatMove move fuel moved

/-- Moves each edit of a kind up and then down, at most `fuel` of them. -/
def moveAll (isMoved : Edit α → Bool) (steps : Nat) :
    Nat → List (Edit α) → List (Edit α) → List (Edit α)
  | _, before, [] => before.reverse
  | 0, before, after => before.reverse ++ after
  | fuel + 1, before, edit :: after =>
    if isMoved edit then
      let up := Focus.repeatMove Focus.up? steps ⟨before, edit, after⟩
      let down := Focus.repeatMove Focus.down? steps up
      moveAll isMoved steps fuel (down.edit :: down.before) down.after
    else moveAll isMoved steps fuel (edit :: before) after

/-- Edits in which deletions and then insertions have been moved to meet others. -/
def compact (edits : List (Edit α)) : List (Edit α) :=
  let steps := edits.foldl (fun count edit => count + edit.items.length + 1) 1
  let isDelete := fun (edit : Edit α) => match edit with
    | .delete _ => true
    | _ => false
  let isInsert := fun (edit : Edit α) => match edit with
    | .insert _ => true
    | _ => false
  moveAll isInsert steps (2 * steps) [] (moveAll isDelete steps (2 * steps) [] edits)

/-- The edits of a group that has been begun: its deletions, then its insertions. -/
def groupEdits (deleted inserted : List α) : List (Edit α) :=
  (if deleted.isEmpty then [] else [.delete deleted]) ++
    (if inserted.isEmpty then [] else [.insert inserted])

/-- Edits in which each group between kept items has its deletions first. -/
def grouped (deleted inserted : List α) : List (Edit α) → List (Edit α)
  | [] => groupEdits deleted inserted
  | .keep items :: rest => groupEdits deleted inserted ++ .keep items :: grouped [] [] rest
  | .delete items :: rest => grouped (deleted ++ items) inserted rest
  | .insert items :: rest => grouped deleted (inserted ++ items) rest

end Difference

/-- The difference between two sequences. -/
def difference {α : Type u} [DecidableEq α] (first second : List α) : List (Edit α) :=
  Difference.grouped [] []
    (Difference.compact (Difference.edits (first.length + second.length + 1) first second))

/-! ## Lines -/

/-- The lines of a text with what ends them; a lone carriage return ends a line, too. -/
def brokenLines : List Char → List (List Char)
  | [] => []
  | '\n' :: rest => ['\n'] :: brokenLines rest
  | '\r' :: '\n' :: rest => ['\r', '\n'] :: brokenLines rest
  | '\r' :: rest => ['\r'] :: brokenLines rest
  | c :: rest =>
    match brokenLines rest with
    | [] => [[c]]
    | line :: more => (c :: line) :: more

/-- A line that ends in a line break, which is added if there is none. -/
def terminated (line : List Char) : List Char :=
  match line.getLast? with
  | some '\n' => line
  | some '\r' => line
  | _ => line ++ ['\n']

end Guidebook.Text
