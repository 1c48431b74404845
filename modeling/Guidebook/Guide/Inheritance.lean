import Guidebook.Guide.Basic
import Guidebook.Log

/-!
# Inheritance

A guide that names a base takes from it what it leaves unset.  In a batch of guides each base is
completed before the guides that inherit from it.  A base that is not in the batch is passed over,
or refused where that is asked for; guides whose bases form a cycle stay as they are written.
-/

namespace Guidebook

/-- A list, or the inherited one if the list is empty. -/
def inheritedList {α : Type} (inherited own : List α) : List α :=
  if own.isEmpty then inherited else own

/-- A text, or the inherited one if the text is empty. -/
def inheritedText (inherited own : String) : String :=
  if own = "" then inherited else own

/--
The guide `child` with what it leaves unset taken from `base`.  The tags of both are joined, those
of the base first, and so are the environments, in which the child's values count.  Slug, folder,
document, publication and module of the child are its own.
-/
def Guide.merge (base child : Guide) : Guide :=
  { child with
    title := inheritedText base.title child.title
    intro := inheritedText base.intro child.intro
    publicationDate := child.publicationDate.or base.publicationDate
    cloud := child.cloud.or base.cloud
    minimumJavaVersion := child.minimumJavaVersion.or base.minimumJavaVersion
    maximumJavaVersion := child.maximumJavaVersion.or base.maximumJavaVersion
    testFramework := child.testFramework.or base.testFramework
    baseSourceModule := child.baseSourceModule.or base.sourceModule
    authors := inheritedList base.authors child.authors
    categories := inheritedList base.categories child.categories
    languages := inheritedList base.languages child.languages
    buildTools := inheritedList base.buildTools child.buildTools
    zipIncludes := inheritedList base.zipIncludes child.zipIncludes
    apps := inheritedList base.apps child.apps
    tags := (base.tags ++ child.tags).eraseDups
    env := base.env.insertAll child.env.entries }

namespace Inheritance

/-- What has been found out about a batch: the finished guides by their positions, and warnings. -/
structure Progress where
  finished : List (Option Guide)
  warnings : Log

/-- Steps that may fail and keep what they have found out. -/
abbrev Resolution := ExceptT Error (StateM Progress)

/-- The guide that is finished at a position. -/
def finished? (position : Nat) : Resolution (Option Guide) := do
  return (← get).finished[position]?.join

/-- Records a finished guide. -/
def finish (position : Nat) (guide : Guide) : Resolution Unit :=
  modify fun progress =>
    { progress with finished := progress.finished.set position (some guide) }

/-- Records a warning. -/
def warn (message : String) : Resolution Unit :=
  modify fun progress => { progress with warnings := progress.warnings ++ [.warning message] }

/-- The position of the last guide of a slug. -/
def position? (guides : List Guide) (slug : String) : Option Nat :=
  (guides.zipIdx.findRev? fun entry => entry.1.slug == slug).map Prod.snd

/-- The guides of a path up to and including a position: those on the cycle that it closes. -/
def cycleMembers (visiting : List Nat) (position : Nat) : List Nat :=
  if visiting.contains position then visiting.takeWhile (· != position) ++ [position] else []

/--
Finishes the guide at a position after its bases.  `visiting` holds the positions whose bases are
being finished, the latest first.  Its members differ, so a depth of the number of guides suffices.
-/
def resolve (strict : Bool) (guides : List Guide) :
    Nat → List Nat → (position : Nat) → Guide → Resolution Guide
  | depth, visiting, position, guide => do
    match ← finished? position with
    | some result => return result
    | none =>
      match guide.base with
      | none =>
        finish position guide
        return guide
      | some slug =>
        match position? guides slug with
        | none =>
          if strict then throw (.unknownBaseGuide guide.slug slug)
          warn s!"guide {guide.slug} declares unknown base {slug}, leaving it unmerged"
          finish position guide
          return guide
        | some basePosition =>
          if visiting.contains basePosition || basePosition == position then
            warn s!"guide {guide.slug} has a cyclic base chain through {slug}, leaving it unmerged"
            for member in position :: cycleMembers visiting basePosition do
              match guides[member]? with
              | some authored => finish member authored
              | none => pure ()
            return guide
          else
            match depth, guides[basePosition]? with
            | depth + 1, some baseGuide =>
              let base ← resolve strict guides depth (position :: visiting) basePosition baseGuide
              match ← finished? position with
              | some result => return result
              | none =>
                let result := base.merge guide
                finish position result
                return result
            | _, _ => return guide

/-- Finishes every guide of a batch, in order. -/
def resolveAll (strict : Bool) (guides : List Guide) : Resolution Unit :=
  guides.zipIdx.forM fun entry => do
    let _ ← resolve strict guides guides.length [] entry.2 entry.1

/-- Applies inheritance to a batch, and tells what it warns of. -/
def run (strict : Bool) (guides : List Guide) : Except Error (List Guide) × Log :=
  let start : Progress := ⟨guides.map fun _ => none, []⟩
  match ((resolveAll strict guides).run).run start with
  | (.ok (), progress) =>
    (.ok ((guides.zip progress.finished).map fun entry => entry.2.getD entry.1), progress.warnings)
  | (.error reason, progress) => (.error reason, progress.warnings)

/-! ## Batches in place -/

/-- A batch that is worked on in place, and what has been warned of so far. -/
structure Batch where
  guides : List Guide
  warnings : Log

/-- The batch with a finished guide, if there is one, in place of the guide at a position. -/
def Batch.replace (batch : Batch) (entry : Option Guide × Nat) : Batch :=
  match entry.1 with
  | some guide => { batch with guides := batch.guides.set entry.2 guide }
  | none => batch

/--
Applies inheritance to a batch in place.  The guides are replaced one after another, but none before
all of them are finished.
-/
def runInPlace (strict : Bool) : ExceptT Error (StateM Batch) Unit := do
  let guides := (← get).guides
  let start : Progress := ⟨guides.map fun _ => none, []⟩
  let (outcome, progress) := ((resolveAll strict guides).run).run start
  modify fun batch => { batch with warnings := batch.warnings ++ progress.warnings }
  match outcome with
  | .error reason => throw reason
  | .ok () =>
    for entry in progress.finished.zipIdx do
      modify fun batch => batch.replace entry

end Inheritance

end Guidebook
