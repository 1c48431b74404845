import Guidebook.Corpus
import Guidebook.Proofs.Files.PathOrder

/-!
# The directories of guides

The search for guides finds the directories of a tree that hold a metadata file, except for those
that are passed over and what lies below them, and puts them in the order of their paths.
-/

namespace Guidebook

/-- The directories below a location are those whose locations continue it. -/
theorem Disk.mem_directoriesBelow_iff
    {disk : Disk} {location : Location} {names : List String} :
    names ∈ disk.directoriesBelow location ↔
      names ≠ [] ∧ (location ++ names, Entry.directory) ∈ disk.entries := by
  unfold directoriesBelow
  rw [List.mem_filterMap]
  constructor
  · rintro ⟨⟨place, entry⟩, present, found⟩
    cases entry with
    | file content => contradiction
    | directory =>
        simp only [Bool.and_eq_true, List.isPrefixOf_iff_prefix, bne_iff_ne,
          Option.ite_none_right_eq_some, Option.some.injEq] at found
        obtain ⟨⟨⟨below, rfl⟩, different⟩, rfl⟩ := found
        rw [List.drop_left]
        refine ⟨?_, present⟩
        rintro rfl
        exact different (List.append_nil location)
  · rintro ⟨nonempty, present⟩
    exact ⟨_, present, by simp [nonempty]⟩

namespace Corpus

/-- A directory of the tree at `guidesDir` that holds a metadata file, if none of the names that
lead to it from there is passed over. -/
def IsGuideDirectory
    (disk : Disk) (guidesDir : Path) (metadataFile : String)
    (directory : Path) : Prop :=
  ∃ location names,
    disk.locate guidesDir = .ok location ∧
      (names = [] ∨ (location ++ names, Entry.directory) ∈ disk.entries) ∧
      (∀ name ∈ names, isPassedOver name = false) ∧
      directory = guidesDir.joinAll names ∧
      disk.isFile (directory.join metadataFile) = true

variable {disk : Disk} {guidesDir directory : Path} {metadataFile : String}

/-- The search finds the directories of guides and nothing else. -/
theorem mem_directories_iff :
    directory ∈ directories disk guidesDir metadataFile ↔
      IsGuideDirectory disk guidesDir metadataFile directory := by
  unfold directories IsGuideDirectory
  cases located : disk.locate guidesDir with
  | error reason => simp
  | ok location =>
      simp only [List.mem_mergeSort, List.mem_filter, List.mem_cons,
        List.mem_map, Disk.mem_directoriesBelow_iff]
      constructor
      · rintro ⟨rfl | ⟨names, ⟨⟨-, present⟩, wanted⟩, rfl⟩, holds⟩
        · exact ⟨location, [], rfl, Or.inl rfl, List.forall_mem_nil _,
            rfl, holds⟩
        · refine ⟨location, names, rfl, Or.inr present, ?_, rfl, holds⟩
          simpa using wanted
      · rintro ⟨place, names, same, stands, wanted, rfl, holds⟩
        obtain rfl := Except.ok.inj same
        refine ⟨?_, holds⟩
        cases names with
        | nil => exact Or.inl rfl
        | cons name rest =>
            refine Or.inr ⟨name :: rest, ⟨⟨List.cons_ne_nil _ _,
              stands.resolve_left (List.cons_ne_nil _ _)⟩, ?_⟩, rfl⟩
            simpa using wanted

/-- The directories are in the order of their paths. -/
theorem directories_pairwise
    (disk : Disk) (guidesDir : Path) (metadataFile : String) :
    (directories disk guidesDir metadataFile).Pairwise
      fun first second => (!second.precedes first) = true := by
  unfold directories
  split
  · exact List.Pairwise.nil
  · exact Path.pairwise_mergeSort _

/-- Directories that are found in order stay in it. -/
theorem directories_eq_of_pairwise
    {location : Location} {paths : List Path}
    (located : disk.locate guidesDir = .ok location)
    (found :
      ((guidesDir ::
          ((disk.directoriesBelow location).filter fun names =>
            !names.any isPassedOver).map guidesDir.joinAll).filter
        fun directory => disk.isFile (directory.join metadataFile)) = paths)
    (ordered : paths.Pairwise fun first second =>
      (!second.precedes first) = true) :
    directories disk guidesDir metadataFile = paths := by
  rw [directories, located]
  simp only [found]
  exact List.mergeSort_of_pairwise ordered

end Corpus

end Guidebook
