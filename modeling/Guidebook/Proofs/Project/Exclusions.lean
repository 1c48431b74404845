import Guidebook.Project.Transfer
import Guidebook.Proofs.Files.Ways
import Guidebook.Proofs.Workspace

/-!
# Exclusions

An entry of a list of exclusions takes away a whole tree or a single class, and what it takes away
can be told from the entry and the place of a file alone.  So the lists of an application leave the
files that none of their entries takes away, in whichever order the entries are dealt with and
however often.
-/

namespace Guidebook

/-- The exclusions of an application for a source set. -/
def App.exclusions (app : App) : SourceSet → List String
  | .main => app.excludeSource
  | .test => app.excludeTest

namespace Transfer

open Guidebook.Path

/-! ## Places of trees and classes -/

/-- The names that lead from an application to the tree of a source set and a language. -/
def treeNames (sourceSet : SourceSet) (language : Language) : List String :=
  ["src", sourceSet.name, language.name]

/-- The names that lead from an application to one of its classes. -/
def classNames
    (app : App) (className : String) (sourceSet : SourceSet)
    (language : Language) : List String :=
  (Path.mk (Layout.codePath app className sourceSet language)).pieces

theorem isName_treeNames (sourceSet : SourceSet) (language : Language) :
    ∀ name ∈ treeNames sourceSet language, IsName name := by
  cases sourceSet <;> cases language <;> decide

/-- A package and exclusions whose segments are names. -/
structure HasPlainExclusions (app : App) : Prop where
  package :
    app.packageName ≠ "" →
      ∀ segment ∈ (Path.mk (Layout.packagePath app.packageName)).pieces,
        IsName segment
  entries :
    ∀ sourceSet, ∀ entry ∈ app.exclusions sourceSet,
      ∀ segment ∈ (Path.mk entry).pieces, IsName segment

/-- A last segment with the extension of a language is a name. -/
theorem isName_extended
    {segment : String} (noSlash : '/' ∉ segment.toList) (language : Language) :
    IsName (segment ++ "." ++ language.extension) := by
  have letters :
      (segment ++ "." ++ language.extension).toList =
        segment.toList ++ '.' :: language.extension.toList := by
    simp
  have long : 2 ≤ language.extension.toList.length := by
    cases language <;> decide
  have different : ∀ short : String, short.toList.length ≤ 2 →
      segment ++ "." ++ language.extension ≠ short := by
    rintro short few rfl
    rw [letters, List.length_append, List.length_cons] at few
    omega
  refine ⟨different "" (by decide), different "." (by decide),
    different ".." (by decide), ?_⟩
  rw [letters, List.mem_append, List.mem_cons, not_or, not_or]
  exact ⟨noSlash, by decide, by cases language <;> decide⟩

theorem isName_of_mem_pieces_extended
    {className : String}
    (areNames : ∀ segment ∈ (Path.mk className).pieces, IsName segment)
    (language : Language) :
    ∀ segment ∈ (Path.mk (className ++ "." ++ language.extension)).pieces,
      IsName segment := by
  by_cases slashed : '/' ∈ className.toList.reverse
  · obtain ⟨last, front, split, noSlash⟩ := List.eq_append_cons_of_mem slashed
    have whole : className =
        String.ofList front.reverse ++ "/" ++ String.ofList last.reverse := by
      apply String.toList_inj.mp
      rw [← List.reverse_inj, split]
      simp
    have extended : className ++ "." ++ language.extension =
        String.ofList front.reverse ++ "/" ++
          (String.ofList last.reverse ++ "." ++ language.extension) := by
      rw [whole]
      simp only [String.append_assoc]
    have isName :
        IsName (String.ofList last.reverse ++ "." ++ language.extension) :=
      isName_extended (by simpa using noSlash) language
    rw [extended, pieces_append_slash, pieces_of_noSlash isName.noSlash]
    rw [whole, pieces_append_slash, List.forall_mem_append] at areNames
    exact List.forall_mem_append.mpr
      ⟨areNames.1, List.forall_mem_singleton.mpr isName⟩
  · have isName : IsName (className ++ "." ++ language.extension) :=
      isName_extended (by simpa using slashed) language
    rw [pieces_of_noSlash isName.noSlash]
    exact List.forall_mem_singleton.mpr isName

theorem HasPlainExclusions.isName_classNames
    {app : App} (plain : HasPlainExclusions app)
    {sourceSet : SourceSet} {entry : String}
    (listed : entry ∈ app.exclusions sourceSet) (language : Language) :
    ∀ name ∈ classNames app entry sourceSet language, IsName name := by
  have tree :
      ∀ name ∈
        (Path.mk s!"src/{sourceSet.name}/{language.name}").pieces,
        IsName name := by
    cases sourceSet <;> cases language <;> decide
  have last :=
    isName_of_mem_pieces_extended (plain.entries sourceSet entry listed) language
  unfold classNames
  by_cases none : app.packageName = ""
  · have split :
        Layout.codePath app entry sourceSet language =
          s!"src/{sourceSet.name}/{language.name}" ++ "/" ++
            (entry ++ "." ++ language.extension) := by
      apply String.toList_inj.mp
      simp [Layout.codePath, Layout.packageFolder, none, toString]
    rw [split, pieces_append_slash]
    exact List.forall_mem_append.mpr ⟨tree, last⟩
  · have split :
        Layout.codePath app entry sourceSet language =
          s!"src/{sourceSet.name}/{language.name}" ++ "/" ++
            (Layout.packagePath app.packageName ++ "/" ++
              (entry ++ "." ++ language.extension)) := by
      apply String.toList_inj.mp
      simp [Layout.codePath, Layout.packageFolder, none, toString]
    rw [split, pieces_append_slash, pieces_append_slash]
    exact List.forall_mem_append.mpr ⟨tree,
      List.forall_mem_append.mpr ⟨plain.package none, last⟩⟩

/-! ## What an entry takes away -/

/-- Whether an entry takes away what stands at a place, below the location of an application. -/
def takesAway
    (location : Location) (app : App) (language : Language)
    (sourceSet : SourceSet) (entry : String) (present : Location × Entry) :
    Bool :=
  let tree := location ++ treeNames sourceSet language
  match present.2 with
  | .directory => entry == everything && tree.isPrefixOf present.1
  | .file _ =>
    if entry = everything then tree.isPrefixOf present.1 && tree != present.1
    else present.1 == location ++ classNames app entry sourceSet language

section Application

variable {app : App} {destination : Path} {language : Language}
  {sourceSet : SourceSet} {entry : String} {location : Location}
  {disk : Disk} {before : Workspace}

theorem takesAway_everything (present : Location × Entry) :
    takesAway location app language sourceSet everything present = true ↔
      location ++ treeNames sourceSet language <+: present.1 ∧
        (present.2 = .directory ∨
          location ++ treeNames sourceSet language ≠ present.1) := by
  obtain ⟨place, stands⟩ := present
  cases stands <;>
    simp [takesAway, List.isPrefixOf_iff_prefix, bne_iff_ne]

theorem takesAway_class
    (single : entry ≠ everything) (present : Location × Entry) :
    takesAway location app language sourceSet entry present = true ↔
      present.1 = location ++ classNames app entry sourceSet language ∧
        present.2 ≠ .directory := by
  obtain ⟨place, stands⟩ := present
  cases stands <;> simp [takesAway, single]

/-- A tree that is taken away is a directory with all that lies below it. -/
theorem eraseBelow_tree
    (tree : disk.IsTree)
    (stands :
      disk.entry? (location ++ treeNames sourceSet language) =
        some .directory) :
    disk.eraseBelow (location ++ treeNames sourceSet language) =
      disk.without (takesAway location app language sourceSet everything) := by
  change disk.without (fun present =>
    (location ++ treeNames sourceSet language).isPrefixOf present.1) = _
  refine Disk.without_congr ?_
  intro present member
  rw [Bool.eq_iff_iff, takesAway_everything, List.isPrefixOf_iff_prefix]
  refine ⟨fun below => ⟨below, ?_⟩, fun both => both.1⟩
  by_contra notAway
  obtain ⟨noDirectory, same⟩ := not_or.mp notAway
  have found := tree.entry?_of_mem member
  rw [← not_not.mp same, stands] at found
  exact noDirectory (Option.some.inj found).symm

/-- Where no tree stands there is nothing below it to be taken away. -/
theorem without_tree_eq_self
    (tree : disk.IsTree)
    (absent :
      disk.entry? (location ++ treeNames sourceSet language) ≠
        some .directory) :
    disk.without (takesAway location app language sourceSet everything) =
      disk := by
  refine Disk.without_eq_self fun present member => ?_
  rw [← Bool.not_eq_true, takesAway_everything]
  rintro ⟨⟨rest, same⟩, away⟩
  have found := tree.entry?_of_mem member
  rw [← same] at found away
  rcases away with directory | further
  · by_cases here : rest = []
    · rw [here, List.append_nil, directory] at found
      exact absent found
    · exact absent (tree.directory_of_append found here)
  · refine absent (tree.directory_of_append found ?_)
    rintro rfl
    exact further (List.append_nil _).symm

theorem erase_class
    (tree : disk.IsTree) (single : entry ≠ everything) {content : ByteArray}
    (stands :
      disk.entry? (location ++ classNames app entry sourceSet language) =
        some (.file content)) :
    disk.erase (location ++ classNames app entry sourceSet language) =
      disk.without (takesAway location app language sourceSet entry) := by
  change disk.without (fun present =>
    present.1 == location ++ classNames app entry sourceSet language) = _
  refine Disk.without_congr ?_
  intro present member
  rw [Bool.eq_iff_iff, takesAway_class single, beq_iff_eq]
  refine ⟨fun here => ⟨here, ?_⟩, fun both => both.1⟩
  intro directory
  have found := tree.entry?_of_mem member
  rw [here, stands, directory] at found
  cases found

theorem without_class_eq_self
    (tree : disk.IsTree) (single : entry ≠ everything)
    (absent : ∀ content,
      disk.entry? (location ++ classNames app entry sourceSet language) ≠
        some (.file content)) :
    disk.without (takesAway location app language sourceSet entry) = disk := by
  refine Disk.without_eq_self fun present member => ?_
  rw [← Bool.not_eq_true, takesAway_class single]
  rintro ⟨here, noDirectory⟩
  have found := tree.entry?_of_mem member
  obtain ⟨place, stands⟩ := present
  cases stands with
  | directory => exact noDirectory rfl
  | file content => exact absent content (here ▸ found)

/-! ## What an exclusion does -/

theorem applyExclusion_everything
    (app : App) (destination : Path) (language : Language)
    (sourceSet : SourceSet) :
    applyExclusion app destination language sourceSet everything =
      (Action.disk >>= fun disk =>
        let tree := destination.joinAll (treeNames sourceSet language)
        if disk.isDirectory tree then
          Action.changing fun disk => disk.removeDirectory tree
        else pure ()) := by
  simp only [applyExclusion, ↓reduceIte]
  rfl

theorem run_applyExclusion_everything
    (tree : before.disk.IsTree)
    (leads :
      before.disk.follow (before.disk.start destination)
        destination.pieces = .ok location)
    (short :
      (destination.joinAll (treeNames sourceSet language)).text.utf8ByteSize ≤
        Disk.longestPath) :
    (applyExclusion app destination language sourceSet everything).run.run
        before =
      (.ok (),
        { before with
          disk := before.disk.without
            (takesAway location app language sourceSet everything) }) := by
  have way :=
    Disk.continues_joinAll leads (isName_treeNames sourceSet language)
      (List.cons_ne_nil _ _)
  have isDirectory := tree.isDirectory_continues way short
  rw [applyExclusion_everything, run_bind_state, Action.run_disk]
  simp only
  by_cases stands :
      before.disk.entry? (location ++ treeNames sourceSet language) =
        some .directory
  · rw [if_pos (isDirectory.mpr stands), ← eraseBelow_tree tree stands]
    exact Action.run_changing (tree.removeDirectory_continues way short stands)
  · rw [if_neg (mt isDirectory.mp stands), without_tree_eq_self tree stands]
    rfl

theorem run_applyExclusion_class
    (tree : before.disk.IsTree)
    (leads :
      before.disk.follow (before.disk.start destination)
        destination.pieces = .ok location)
    (single : entry ≠ everything)
    (areNames :
      ∀ name ∈ classNames app entry sourceSet language, IsName name)
    (short :
      (destination.join
        (Layout.codePath app entry sourceSet language)).text.utf8ByteSize ≤
          Disk.longestPath) :
    ∃ log,
      (applyExclusion app destination language sourceSet entry).run.run before =
        (.ok (),
          ⟨before.disk.without
            (takesAway location app language sourceSet entry), log⟩) := by
  have way := Disk.continues_join leads areNames
  have isFile := tree.isFile_continues way short
  unfold applyExclusion
  rw [run_bind_state, Action.run_disk]
  simp only [single, ↓reduceIte]
  by_cases stands :
      ∃ content,
        before.disk.entry?
            (location ++ classNames app entry sourceSet language) =
          some (.file content)
  · rw [if_pos (isFile.mpr stands)]
    obtain ⟨content, found⟩ := stands
    rw [← erase_class tree single found]
    exact ⟨_, Action.run_changing (tree.removeFile_continues way short found)⟩
  · rw [if_neg (mt isFile.mp stands),
      without_class_eq_self tree single (not_exists.mp stands)]
    exact ⟨_, rfl⟩

/-! ## All exclusions -/

/-- The exclusions of an application, each with its source set, in the order of the lists. -/
def exclusionSteps (app : App) : List (SourceSet × String) :=
  app.excludeSource.map (Prod.mk .main) ++ app.excludeTest.map (Prod.mk .test)

theorem mem_exclusionSteps_iff :
    (sourceSet, entry) ∈ exclusionSteps app ↔
      entry ∈ app.exclusions sourceSet := by
  cases sourceSet <;> simp [exclusionSteps, App.exclusions]

/-- The path that an exclusion looks at: that of a whole tree or that of a class. -/
def examinedPath
    (app : App) (destination : Path) (language : Language)
    (sourceSet : SourceSet) (entry : String) : Path :=
  if entry = everything then destination.joinAll (treeNames sourceSet language)
  else destination.join (Layout.codePath app entry sourceSet language)

/-- The paths that the exclusions of an application look at. -/
def examinedPaths (app : App) (destination : Path) (language : Language) :
    List Path :=
  (exclusionSteps app).map fun step =>
    examinedPath app destination language step.1 step.2

theorem examinedPath_mem (listed : entry ∈ app.exclusions sourceSet) :
    examinedPath app destination language sourceSet entry ∈
      examinedPaths app destination language :=
  List.mem_map.mpr
    ⟨(sourceSet, entry), mem_exclusionSteps_iff.mpr listed, rfl⟩

/-- Whether some of the given exclusions take away what stands at a place. -/
def takenAway
    (location : Location) (app : App) (language : Language)
    (steps : List (SourceSet × String)) (present : Location × Entry) : Bool :=
  steps.any fun step => takesAway location app language step.1 step.2 present

theorem takenAway_cons
    (location : Location) (app : App) (language : Language)
    (step : SourceSet × String) (rest : List (SourceSet × String)) :
    (fun present =>
      takenAway location app language [step] present ||
        takenAway location app language rest present) =
      takenAway location app language (step :: rest) := by
  funext present
  simp [takenAway]

theorem takesAway_below
    {present : Location × Entry}
    (away : takesAway location app language sourceSet entry present = true) :
    location <+: present.1 ∧ present.1 ≠ location := by
  by_cases whole : entry = everything
  · subst whole
    obtain ⟨⟨rest, same⟩, -⟩ := (takesAway_everything present).mp away
    rw [← same, List.append_assoc]
    exact ⟨List.prefix_append _ _, by simp [treeNames]⟩
  · obtain ⟨here, -⟩ := (takesAway_class whole present).mp away
    rw [here]
    exact ⟨List.prefix_append _ _, by simp [classNames, pieces]⟩

/-- What lies in a directory that is taken away is taken away with it. -/
theorem takesAway_together
    {present : Location × Entry}
    (below : present.1 ≠ [])
    (away :
      takesAway location app language sourceSet entry
        (present.1.dropLast, .directory) = true) :
    takesAway location app language sourceSet entry present = true := by
  by_cases whole : entry = everything
  · subst whole
    obtain ⟨inside, -⟩ := (takesAway_everything _).mp away
    refine (takesAway_everything present).mpr
      ⟨inside.trans (List.dropLast_prefix _), Or.inr ?_⟩
    intro same
    have shorter := inside.length_le
    rw [same, List.length_dropLast] at shorter
    have positive := List.length_pos_of_ne_nil below
    omega
  · exact absurd rfl ((takesAway_class whole _).mp away).2

theorem isTree_withoutTaken
    (tree : disk.IsTree) (steps : List (SourceSet × String)) :
    (disk.without (takenAway location app language steps)).IsTree := by
  refine tree.without fun present member away => ?_
  obtain ⟨step, listed, away⟩ := List.any_eq_true.mp away
  exact List.any_eq_true.mpr
    ⟨step, listed, takesAway_together (tree.placed present member).1 away⟩

/-- Exclusions change nothing but what lies below the application. -/
theorem entry?_withoutTaken
    (tree : disk.IsTree) (steps : List (SourceSet × String))
    {place : Location}
    (changed :
      Disk.entry? (disk.without (takenAway location app language steps)) place ≠
        disk.entry? place) :
    location <+: place ∧ place ≠ location := by
  by_contra outside
  refine changed (tree.entry?_without_of_stays fun stands => ?_)
  rw [← Bool.not_eq_true]
  intro away
  obtain ⟨step, -, away⟩ := List.any_eq_true.mp away
  exact outside (takesAway_below away)

theorem reaches_withoutTaken
    (tree : disk.IsTree) (reaches : disk.Reaches destination location)
    (steps : List (SourceSet × String)) :
    (disk.without (takenAway location app language steps)).Reaches
      destination location :=
  reaches.of_changes_below rfl fun _ => entry?_withoutTaken tree steps

section Run

variable (plain : HasPlainExclusions app)
  (short :
    ∀ path ∈ examinedPaths app destination language,
      path.text.utf8ByteSize ≤ Disk.longestPath)

include plain short

theorem run_applyExclusion
    (tree : before.disk.IsTree)
    (reaches : before.disk.Reaches destination location)
    (listed : entry ∈ app.exclusions sourceSet) :
    ∃ log,
      (applyExclusion app destination language sourceSet entry).run.run before =
        (.ok (),
          ⟨before.disk.without
            (takesAway location app language sourceSet entry), log⟩) := by
  have examined := short _ (examinedPath_mem listed)
  by_cases whole : entry = everything
  · subst whole
    rw [examinedPath, if_pos rfl] at examined
    exact ⟨_, run_applyExclusion_everything tree reaches.leads examined⟩
  · rw [examinedPath, if_neg whole] at examined
    exact run_applyExclusion_class tree reaches.leads whole
      (plain.isName_classNames listed language) examined

/-- A run of exclusions goes through and leaves what none of them takes away. -/
theorem run_steps
    (tree : before.disk.IsTree)
    (reaches : before.disk.Reaches destination location)
    {steps : List (SourceSet × String)}
    (listed : ∀ step ∈ steps, step.2 ∈ app.exclusions step.1) :
    ∃ log,
      (steps.forM fun step =>
          applyExclusion app destination language step.1 step.2).run.run
        before =
        (.ok (),
          ⟨before.disk.without (takenAway location app language steps),
            log⟩) := by
  induction steps generalizing before with
  | nil =>
      have same :
          before.disk.without (takenAway location app language []) =
            before.disk :=
        Disk.without_eq_self fun present _ => rfl
      rw [same]
      exact ⟨before.log, rfl⟩
  | cons step rest ih =>
      obtain ⟨first_listed, rest_listed⟩ := List.forall_mem_cons.mp listed
      obtain ⟨middleLog, ran⟩ :=
        run_applyExclusion plain short tree reaches first_listed
      have single :
          takesAway location app language step.1 step.2 =
            takenAway location app language [step] := by
        funext present
        simp [takenAway]
      rw [single] at ran
      obtain ⟨log, ran_rest⟩ :
          ∃ log,
            (rest.forM fun step =>
                applyExclusion app destination language step.1 step.2).run.run
              ⟨before.disk.without (takenAway location app language [step]),
                middleLog⟩ =
              (.ok (), ⟨Disk.without _ _, log⟩) :=
        ih (isTree_withoutTaken tree [step])
          (reaches_withoutTaken tree reaches [step]) rest_listed
      refine ⟨log, ?_⟩
      rw [List.forM_eq_forM, List.forM_cons, run_bind_state, ran]
      simp only
      rw [← List.forM_eq_forM, ran_rest, Disk.without_without, takenAway_cons]

end Run

theorem applyExclusions_eq_steps
    (app : App) (destination : Path) (variant : Variant) :
    applyExclusions app destination variant =
      (exclusionSteps app).forM fun step =>
        applyExclusion app destination variant.language step.1 step.2 := by
  rw [exclusionSteps, List.forM_eq_forM, List.forM_append, List.forM_map,
    List.forM_map]
  rfl

theorem run_applyExclusions
    {variant : Variant}
    (plain : HasPlainExclusions app)
    (short :
      ∀ path ∈ examinedPaths app destination variant.language,
        path.text.utf8ByteSize ≤ Disk.longestPath)
    (tree : before.disk.IsTree)
    (reaches : before.disk.Reaches destination location) :
    ∃ log,
      (applyExclusions app destination variant).run.run before =
        (.ok (),
          ⟨before.disk.without
            (takenAway location app variant.language (exclusionSteps app)),
            log⟩) := by
  rw [applyExclusions_eq_steps]
  exact run_steps plain short tree reaches fun step listed =>
    mem_exclusionSteps_iff.mp listed

/-! ## What is left -/

/-- Whether the exclusions of an application leave the file that names lead to. -/
structure Leaves (app : App) (language : Language) (names : List String) :
    Prop where
  outside :
    ∀ sourceSet, everything ∈ app.exclusions sourceSet →
      ∀ further ≠ [], names ≠ treeNames sourceSet language ++ further
  unnamed :
    ∀ sourceSet, ∀ entry ∈ app.exclusions sourceSet, entry ≠ everything →
      names ≠ classNames app entry sourceSet language

theorem takenAway_file_iff {names : List String} {content : ByteArray} :
    takenAway location app language (exclusionSteps app)
        (location ++ names, .file content) = false ↔
      Leaves app language names := by
  rw [← Bool.not_eq_true, takenAway, List.any_eq_true]
  constructor
  · intro stays
    constructor
    case outside =>
      rintro sourceSet listed further nonempty rfl
      refine stays ⟨(sourceSet, everything), mem_exclusionSteps_iff.mpr listed,
        (takesAway_everything _).mpr ⟨?_, Or.inr ?_⟩⟩
      · rw [← List.append_assoc]
        exact List.prefix_append _ _
      · simpa using nonempty
    case unnamed =>
      rintro sourceSet entry listed single rfl
      exact stays ⟨(sourceSet, entry), mem_exclusionSteps_iff.mpr listed,
        (takesAway_class single _).mpr ⟨rfl, Entry.noConfusion⟩⟩
  · rintro leaves ⟨⟨sourceSet, entry⟩, listed, away⟩
    have listed := mem_exclusionSteps_iff.mp listed
    by_cases whole : entry = everything
    · subst whole
      obtain ⟨⟨further, same⟩, inside⟩ := (takesAway_everything _).mp away
      rw [List.append_assoc, List.append_cancel_left_eq] at same
      refine leaves.outside sourceSet listed further ?_ same.symm
      rintro rfl
      rw [List.append_nil] at same
      exact inside.elim Entry.noConfusion fun different =>
        different (congrArg _ same)
    · obtain ⟨here, -⟩ := (takesAway_class whole _).mp away
      exact leaves.unnamed sourceSet entry listed whole
        (List.append_cancel_left here)

/-- Applications of one package that exclude the same. -/
structure ExcludesSame (app other : App) : Prop where
  package : other.packageName = app.packageName
  exclusions :
    ∀ sourceSet entry,
      entry ∈ other.exclusions sourceSet ↔ entry ∈ app.exclusions sourceSet

namespace ExcludesSame

variable {other : App} (same : ExcludesSame app other)

include same

theorem codePath_eq
    (entry : String) (sourceSet : SourceSet) (language : Language) :
    Layout.codePath other entry sourceSet language =
      Layout.codePath app entry sourceSet language := by
  rw [Layout.codePath, Layout.codePath, same.package]

theorem plain (plain : HasPlainExclusions app) : HasPlainExclusions other where
  package := by
    rw [same.package]
    exact plain.package
  entries := fun sourceSet entry listed =>
    plain.entries sourceSet entry ((same.exclusions sourceSet entry).mp listed)

theorem mem_examinedPaths
    {path : Path}
    (member : path ∈ examinedPaths other destination language) :
    path ∈ examinedPaths app destination language := by
  obtain ⟨⟨sourceSet, entry⟩, listed, rfl⟩ := List.mem_map.mp member
  rw [examinedPath, same.codePath_eq]
  exact examinedPath_mem
    ((same.exclusions sourceSet entry).mp (mem_exclusionSteps_iff.mp listed))

theorem takenAway_eq :
    takenAway location other language (exclusionSteps other) =
      takenAway location app language (exclusionSteps app) := by
  have single : takesAway location other language =
      takesAway location app language := by
    funext sourceSet entry present
    simp only [takesAway, classNames, same.codePath_eq]
  funext present
  rw [Bool.eq_iff_iff, takenAway, takenAway, List.any_eq_true,
    List.any_eq_true, single]
  refine exists_congr fun step => and_congr_left fun _ => ?_
  rw [mem_exclusionSteps_iff, mem_exclusionSteps_iff]
  exact same.exclusions step.1 step.2

end ExcludesSame

/--
Applying the exclusions of an application leaves, with their contents, exactly the files that no
exclusion takes away, and all that does not lie below the application.  Lists with the same entries
leave the same disk, and so does applying the exclusions again.
-/
theorem applyExclusions_leave
    {variant : Variant}
    (plain : HasPlainExclusions app)
    (tree : before.disk.IsTree)
    (reaches : before.disk.Reaches destination location)
    (short :
      ∀ path ∈ examinedPaths app destination variant.language,
        path.text.utf8ByteSize ≤ Disk.longestPath) :
    ∃ after log,
      (applyExclusions app destination variant).run.run before =
          (.ok (), ⟨after, log⟩) ∧
        (∀ names content,
          after.content? (location ++ names) = some content ↔
            before.disk.content? (location ++ names) = some content ∧
              Leaves app variant.language names) ∧
        (∀ place, ¬location <+: place →
          after.entry? place = before.disk.entry? place) ∧
        (∀ other, ExcludesSame app other →
          ∃ otherLog,
            (applyExclusions other destination variant).run.run before =
              (.ok (), ⟨after, otherLog⟩)) ∧
        ∃ laterLog,
          (applyExclusions app destination variant).run.run ⟨after, log⟩ =
            (.ok (), ⟨after, laterLog⟩) := by
  obtain ⟨log, ran⟩ := run_applyExclusions plain short tree reaches
  refine ⟨_, log, ran, ?left, ?frame, ?order, ?again⟩
  case left =>
    intro names content
    rw [Disk.content?_eq_some_iff, Disk.content?_eq_some_iff,
      ← takenAway_file_iff]
    by_cases root : location ++ names = []
    · rw [root]
      simp
    · exact tree.entry?_without root
  case frame =>
    intro place outside
    by_contra changed
    exact outside (entry?_withoutTaken tree _ changed).1
  case order =>
    intro other same
    obtain ⟨otherLog, ranOther⟩ :=
      run_applyExclusions (same.plain plain)
        (fun path member => short path (same.mem_examinedPaths member))
        tree reaches
    rw [same.takenAway_eq] at ranOther
    exact ⟨otherLog, ranOther⟩
  case again =>
    obtain ⟨laterLog, ranAgain⟩ :
        ∃ laterLog,
          (applyExclusions app destination variant).run.run
              ⟨before.disk.without
                (takenAway location app variant.language
                  (exclusionSteps app)), log⟩ =
            (.ok (), ⟨Disk.without _ _, laterLog⟩) :=
      run_applyExclusions plain short
        (isTree_withoutTaken tree (exclusionSteps app))
        (reaches_withoutTaken tree reaches (exclusionSteps app))
    rw [Disk.without_without] at ranAgain
    simp only [Bool.or_self] at ranAgain
    exact ⟨laterLog, ranAgain⟩

end Application

/-! ## An application that keeps one of its classes -/

namespace Pruned

def app : App where
  name := "default"
  packageName := "example"
  excludeSource := ["Controller", "all"]
  excludeTest := ["sub/ClientTest", "Missing"]

def variant : Variant :=
  ⟨.gradle, .java, .junit⟩

def destination : Path :=
  ⟨"../code"⟩

def disk : Disk where
  entries :=
    [(["work"], .directory),
      (["code"], .directory),
      (["code", "README"], .file "read".toUTF8),
      (["code", "src"], .directory),
      (["code", "src", "main"], .directory),
      (["code", "src", "main", "java"], .directory),
      (["code", "src", "main", "java", "Controller.java"],
        .file "class".toUTF8),
      (["code", "src", "test"], .directory),
      (["code", "src", "test", "java"], .directory),
      (["code", "src", "test", "java", "example"], .directory),
      (["code", "src", "test", "java", "example", "ClientTest.java"],
        .file "kept".toUTF8),
      (["code", "src", "test", "java", "example", "sub"], .directory),
      (["code", "src", "test", "java", "example", "sub", "ClientTest.java"],
        .file "gone".toUTF8)]
  workingDirectory := ["work"]

theorem hasPlainExclusions : HasPlainExclusions app where
  package := by decide +kernel
  entries := by
    intro sourceSet
    cases sourceSet <;> decide

theorem reaches : disk.Reaches destination ["code"] where
  leads := by decide
  direct := by decide

end Pruned

open Pruned in
theorem applyExclusions_leave_pruned :
    HasPlainExclusions app ∧
      disk.IsTree ∧
      disk.Reaches destination ["code"] ∧
      (∀ path ∈ examinedPaths app destination .java,
        path.text.utf8ByteSize ≤ Disk.longestPath) ∧
      ∃ after log,
        (applyExclusions app destination variant).run.run ⟨disk, []⟩ =
            (.ok (), ⟨after, log⟩) ∧
          ∀ names content,
            after.content? (["code"] ++ names) = some content ↔
              disk.content? (["code"] ++ names) = some content ∧
                Leaves app .java names := by
  let before : Workspace := ⟨disk, []⟩
  have tree : before.disk.IsTree := by decide +kernel
  have direct : before.disk.Reaches destination ["code"] := reaches
  have short :
      ∀ path ∈ examinedPaths app destination variant.language,
        path.text.utf8ByteSize ≤ Disk.longestPath := by
    decide +kernel
  obtain ⟨after, log, ran, left, -⟩ :=
    applyExclusions_leave hasPlainExclusions tree direct short
  exact ⟨hasPlainExclusions, tree, reaches, short, after, log, ran, left⟩

end Transfer

end Guidebook
