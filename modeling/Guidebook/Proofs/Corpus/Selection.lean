import Guidebook.Proofs.Corpus.Directories
import Guidebook.Proofs.Corpus.Metadata
import Guidebook.Proofs.Files.Location
import Guidebook.Proofs.Workspace

/-!
# The guides that are chosen

Of the directories whose metadata describes a guide, in their order, those are chosen whose slugs
have not been taken by one that was chosen before.  So no slug is chosen twice, and a directory is
left out only in favour of an earlier one.  A directory cannot be chosen under two paths of the same
components: read from there, the guide would have the same slug.
-/

namespace Guidebook.Corpus

variable {config : Config} {disk : Disk} {directory other : Path}
  {guide otherGuide : Guide}

/-! ## Descriptions -/

/-- The metadata file of a directory can be read, is accepted, and describes a guide. -/
def Describes
    (config : Config) (disk : Disk) (directory : Path) (guide : Guide) :
    Prop :=
  ∃ content,
    disk.readText (directory.join config.metadataFile) = .ok content ∧
      readGuide config directory (directory.join config.metadataFile)
          content = .ok guide

theorem readGuide_eq_ok
    {path : Path} {content : String}
    (read : readGuide config directory path content = .ok guide) :
    ∃ metadata described,
      Json.parse? content = some metadata ∧
        Guide.ofValue? metadata = some described ∧
        described.inFolder directory = guide := by
  cases parsed : Json.parse? content with
  | none =>
      rw [readGuide, parsed] at read
      contradiction
  | some metadata =>
      obtain ⟨-, described, given, same⟩ :=
        (readGuide_eq_ok_iff parsed).mp read
      exact ⟨metadata, described, rfl, given, same⟩

namespace Describes

theorem unique
    (described : Describes config disk directory guide)
    (describedToo : Describes config disk directory otherGuide) :
    guide = otherGuide := by
  obtain ⟨content, found, read⟩ := described
  obtain ⟨otherContent, foundToo, readToo⟩ := describedToo
  obtain rfl := Except.ok.inj (found.symm.trans foundToo)
  exact Except.ok.inj (read.symm.trans readToo)

theorem folder (described : Describes config disk directory guide) :
    guide.folder = directory := by
  obtain ⟨content, -, read⟩ := described
  obtain ⟨metadata, authored, -, -, rfl⟩ := readGuide_eq_ok read
  rfl

/-- A guide that has no slug, even from its folder, cannot get one from there later on. -/
theorem directoryName_eq
    (described : Describes config disk directory guide)
    (unnamed : guide.slug = "") :
    directoryName guide.folder = "" := by
  obtain ⟨content, -, read⟩ := described
  obtain ⟨metadata, authored, -, -, rfl⟩ := readGuide_eq_ok read
  change (if authored.slug = "" then directoryName directory
    else authored.slug) = "" at unnamed
  split at unnamed
  · exact unnamed
  · contradiction

/-- Under paths of the same components guides of the same slug are read. -/
theorem slug_eq_of_components
    (described : Describes config disk directory guide)
    (describedToo : Describes config disk other otherGuide)
    (same : directory.components = other.components) :
    guide.slug = otherGuide.slug := by
  obtain ⟨content, found, read⟩ := described
  obtain ⟨otherContent, foundToo, readToo⟩ := describedToo
  have sameTarget :
      (directory.join config.metadataFile).target disk.workingDirectory =
        (other.join config.metadataFile).target disk.workingDirectory := by
    have sameBase :
        directory.target disk.workingDirectory =
          other.target disk.workingDirectory := by
      rw [Path.target, Path.target, same]
    rw [Path.target_join, Path.target_join, sameBase]
  obtain rfl := Disk.readText_unique sameTarget found foundToo
  have sameName : directoryName directory = directoryName other := by
    unfold directoryName Path.fileName?
    rw [same]
  obtain ⟨metadata, authored, parsed, given, rfl⟩ := readGuide_eq_ok read
  obtain ⟨_, _, parsedToo, givenToo, rfl⟩ := readGuide_eq_ok readToo
  obtain rfl := Option.some.inj (parsed.symm.trans parsedToo)
  obtain rfl := Option.some.inj (given.symm.trans givenToo)
  simp only [Guide.inFolder, sameName]

end Describes

/-! ## Choice -/

/-- The guides that are chosen from a list of directories if the slugs in `taken` are taken. -/
inductive Chooses (config : Config) (disk : Disk) :
    List String → List Path → List Guide → Prop where
  | done {taken : List String} : Chooses config disk taken [] []
  | unreadable
      {taken : List String} {directory : Path} {rest : List Path}
      {guides : List Guide}
      (nothing : ∀ guide, ¬Describes config disk directory guide)
      (others : Chooses config disk taken rest guides) :
      Chooses config disk taken (directory :: rest) guides
  | duplicate
      {taken : List String} {directory : Path} {rest : List Path}
      {guide : Guide} {guides : List Guide}
      (described : Describes config disk directory guide)
      (present : guide.slug ∈ taken)
      (others : Chooses config disk taken rest guides) :
      Chooses config disk taken (directory :: rest) guides
  | chosen
      {taken : List String} {directory : Path} {rest : List Path}
      {guide : Guide} {guides : List Guide}
      (described : Describes config disk directory guide)
      (absent : guide.slug ∉ taken)
      (others : Chooses config disk (guide.slug :: taken) rest guides) :
      Chooses config disk taken (directory :: rest) (guide :: guides)

namespace Chooses

variable {taken : List String} {directories : List Path}
  {guides : List Guide}

theorem describes
    (chooses : Chooses config disk taken directories guides) :
    ∀ guide ∈ guides, Describes config disk guide.folder guide := by
  induction chooses with
  | done => exact List.forall_mem_nil _
  | unreadable nothing others ih => exact ih
  | duplicate described present others ih => exact ih
  | chosen described absent others ih =>
      rw [List.forall_mem_cons]
      exact ⟨described.folder.symm ▸ described, ih⟩

/-- The guides stand in the order of their directories. -/
theorem sublist (chooses : Chooses config disk taken directories guides) :
    (guides.map Guide.folder).Sublist directories := by
  induction chooses with
  | done => exact List.Sublist.slnil
  | unreadable nothing others ih => exact ih.cons _
  | duplicate described present others ih => exact ih.cons _
  | chosen described absent others ih =>
      rw [List.map_cons, described.folder]
      exact ih.cons_cons _

theorem slug_notMem
    (chooses : Chooses config disk taken directories guides) :
    ∀ guide ∈ guides, guide.slug ∉ taken := by
  induction chooses with
  | done => exact List.forall_mem_nil _
  | unreadable nothing others ih => exact ih
  | duplicate described present others ih => exact ih
  | chosen described absent others ih =>
      rw [List.forall_mem_cons]
      refine ⟨absent, fun guide member => ?_⟩
      exact List.not_mem_of_not_mem_cons (ih guide member)

theorem pairwise_slug
    (chooses : Chooses config disk taken directories guides) :
    guides.Pairwise fun first second => first.slug ≠ second.slug := by
  induction chooses with
  | done => exact List.Pairwise.nil
  | unreadable nothing others ih => exact ih
  | duplicate described present others ih => exact ih
  | chosen described absent others ih =>
      rw [List.pairwise_cons]
      refine ⟨fun other member same => ?_, ih⟩
      exact others.slug_notMem other member (same ▸ List.mem_cons_self)

/-- A directory that describes a guide is chosen, or one that stands before it is chosen in its
place and has its slug. -/
theorem exists_chosen
    {before : Path → Path → Prop}
    (chooses : Chooses config disk taken directories guides)
    (ordered : directories.Pairwise before)
    (member : directory ∈ directories)
    (described : Describes config disk directory guide)
    (free : guide.slug ∉ taken) :
    ∃ chosen ∈ guides,
      chosen.slug = guide.slug ∧
        (chosen.folder = directory ∨ before chosen.folder directory) := by
  induction chooses with
  | done => exact absurd member List.not_mem_nil
  | unreadable nothing others ih =>
      obtain ⟨-, later⟩ := List.pairwise_cons.mp ordered
      rcases List.mem_cons.mp member with rfl | below
      · exact absurd described (nothing guide)
      · exact ih later below free
  | duplicate describedHere present others ih =>
      obtain ⟨-, later⟩ := List.pairwise_cons.mp ordered
      rcases List.mem_cons.mp member with rfl | below
      · obtain rfl := described.unique describedHere
        exact absurd present free
      · exact ih later below free
  | @chosen taken here rest first guides describedHere absent others ih =>
      obtain ⟨earlier, later⟩ := List.pairwise_cons.mp ordered
      rcases List.mem_cons.mp member with rfl | below
      · obtain rfl := described.unique describedHere
        exact ⟨guide, List.mem_cons_self, rfl, Or.inl described.folder⟩
      · by_cases same : first.slug = guide.slug
        · refine ⟨first, List.mem_cons_self, same, Or.inr ?_⟩
          rw [describedHere.folder]
          exact earlier directory below
        · have stillFree : guide.slug ∉ first.slug :: taken := by
            rw [List.mem_cons, not_or]
            exact ⟨Ne.symm same, free⟩
          obtain ⟨chosen, present, slug, place⟩ := ih later below stillFree
          exact ⟨chosen, List.mem_cons_of_mem _ present, slug, place⟩

end Chooses

/-! ## Runs -/

/-- Reading a directory gives the guide that it describes, and changes nothing. -/
theorem guideIn?_run_described
    (described : Describes config disk directory guide) (log : Log) :
    (guideIn? config directory).run.run ⟨disk, log⟩ =
      (.ok (some guide), ⟨disk, log⟩) := by
  obtain ⟨content, found, read⟩ := described
  rw [guideIn?, run_bind_state, Action.run_disk]
  simp only [found, read]
  rfl

/-- Reading a directory that describes no guide gives none, with a warning. -/
theorem guideIn?_run_unreadable
    (nothing : ∀ guide, ¬Describes config disk directory guide) (log : Log) :
    (guideIn? config directory).run.run ⟨disk, log⟩ =
      (.ok none,
        ⟨disk, log ++ [.warning s!"skipping guide {directory.text}"]⟩) := by
  rw [guideIn?, run_bind_state, Action.run_disk]
  cases found : disk.readText (directory.join config.metadataFile) with
  | error reason =>
      simp only [run_bind_state, found, Action.run_warn]
      rfl
  | ok content =>
      cases read :
          readGuide config directory (directory.join config.metadataFile)
            content with
      | error reason =>
          simp only [run_bind_state, found, read, Action.run_warn]
          rfl
      | ok guide => exact absurd ⟨content, found, read⟩ (nothing guide)

variable {taken : List String} {rest : List Path}

theorem guidesIn_run_chosen
    (described : Describes config disk directory guide)
    (absent : guide.slug ∉ taken)
    {others : List Guide} {log later : Log}
    (read :
      (guidesIn config (guide.slug :: taken) rest).run.run ⟨disk, log⟩ =
        (.ok others, ⟨disk, later⟩)) :
    (guidesIn config taken (directory :: rest)).run.run ⟨disk, log⟩ =
      (.ok (guide :: others), ⟨disk, later⟩) := by
  rw [guidesIn, run_bind_state, guideIn?_run_described described]
  simp only [List.contains_iff_mem, absent, if_false, run_bind_state, read]
  rfl

theorem guidesIn_run_duplicate
    (described : Describes config disk directory guide)
    (present : guide.slug ∈ taken) (log : Log) :
    (guidesIn config taken (directory :: rest)).run.run ⟨disk, log⟩ =
      (guidesIn config taken rest).run.run
        ⟨disk, log ++ [.warning
          s!"duplicate guide slug `{guide.slug}` in {directory.text}, skipping"]⟩ := by
  rw [guidesIn, run_bind_state, guideIn?_run_described described]
  simp only [List.contains_iff_mem, present, if_true, run_bind_state,
    Action.run_warn]

theorem guidesIn_run_unreadable
    (nothing : ∀ guide, ¬Describes config disk directory guide) (log : Log) :
    (guidesIn config taken (directory :: rest)).run.run ⟨disk, log⟩ =
      (guidesIn config taken rest).run.run
        ⟨disk, log ++ [.warning s!"skipping guide {directory.text}"]⟩ := by
  rw [guidesIn, run_bind_state, guideIn?_run_unreadable nothing]

/-- Reading several directories chooses guides from them, and leaves the disk as it is. -/
theorem guidesIn_run
    (config : Config) (disk : Disk) (taken : List String)
    (directories : List Path) (log : Log) :
    ∃ guides later,
      (guidesIn config taken directories).run.run ⟨disk, log⟩ =
          (.ok guides, ⟨disk, later⟩) ∧
        Chooses config disk taken directories guides := by
  induction directories generalizing taken log with
  | nil => exact ⟨[], log, rfl, .done⟩
  | cons directory rest ih =>
      by_cases readable : ∃ guide, Describes config disk directory guide
      · obtain ⟨guide, described⟩ := readable
        by_cases present : guide.slug ∈ taken
        · rw [guidesIn_run_duplicate described present]
          obtain ⟨guides, later, others, chooses⟩ := ih taken _
          exact ⟨guides, later, others, .duplicate described present chooses⟩
        · obtain ⟨guides, later, others, chooses⟩ :=
            ih (guide.slug :: taken) log
          exact ⟨guide :: guides, later,
            guidesIn_run_chosen described present others,
            .chosen described present chooses⟩
      · have nothing : ∀ guide, ¬Describes config disk directory guide :=
          not_exists.mp readable
        rw [guidesIn_run_unreadable nothing]
        obtain ⟨guides, later, others, chooses⟩ := ih taken _
        exact ⟨guides, later, others, .unreadable nothing chooses⟩

/-- Loading reads the directories of guides, applies inheritance, and fills in the defaults. -/
theorem load_run
    {guidesDir : Path} {log later warnings : Log}
    {authored finals : List Guide}
    (present : disk.isDirectory guidesDir = true)
    (chosen :
      (guidesIn config []
          (directories disk guidesDir config.metadataFile)).run.run
        ⟨disk, log⟩ = (.ok authored, ⟨disk, later⟩))
    (merged :
      Inheritance.run config.strictBase authored = (.ok finals, warnings)) :
    (load config guidesDir).run.run ⟨disk, log⟩ =
      (.ok (finals.map (Guide.withDefaults config)),
        ⟨disk, later ++ warnings⟩) := by
  simp only [load, run_bind_state, Action.run_disk, present, Bool.not_true,
    Bool.false_eq_true, if_false, chosen, merged, Action.run_report,
    Action.run_ofExcept_ok]
  rfl

end Guidebook.Corpus
