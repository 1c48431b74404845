import Guidebook.Proofs.Corpus.Selection
import Guidebook.Proofs.Guide.Defaults
import Guidebook.Proofs.Inheritance.Repetition

/-!
# The guides of a loaded corpus

Between the choice of its guides and the end, inheritance and defaults change a corpus, but neither
changes where a guide stands: its slug and its folder.  What the choice has settled about slugs and
folders thus holds of the result, and what the defaults fill in is filled in when all is done.
-/

namespace Guidebook

/-- Where a guide stands in a corpus: its slug and its folder. -/
def Guide.place (guide : Guide) : String × Path :=
  (guide.slug, guide.folder)

open Inheritance in
theorem Inheritance.CompletesAll.map_place
    {guides finals : List Guide} (completed : CompletesAll guides finals) :
    finals.map Guide.place = guides.map Guide.place := by
  refine completed.map_eq fun authored value => ?_
  obtain ⟨guide, present, slug, -, folder⟩ := value.exists_authored
  obtain rfl := Option.some.inj (authored.symm.trans present)
  exact Prod.ext slug folder

theorem Guide.withDefaults_place
    (config : Config) {guide : Guide}
    (settled : guide.slug = "" → directoryName guide.folder = "") :
    (guide.withDefaults config).place = guide.place :=
  Prod.ext (withDefaults_slug config settled) (withDefaults_folder config guide)

/-- What a relation of places says of the guides of a list depends on their places only. -/
theorem pairwise_of_map_place
    {guides others : List Guide}
    (relation : String × Path → String × Path → Prop)
    (same : guides.map Guide.place = others.map Guide.place)
    (holds : others.Pairwise fun first second =>
      relation first.place second.place) :
    guides.Pairwise fun first second =>
      relation first.place second.place := by
  rw [← List.pairwise_map] at holds ⊢
  rwa [same]

namespace Corpus

variable {config : Config} {disk : Disk} {guidesDir : Path}
  {paths : List Path} {authored finals guides : List Guide}

/-- What holds of the guides of a corpus.  Paths are the same if their components are. -/
structure IsCorpus
    (config : Config) (disk : Disk) (guidesDir : Path)
    (guides : List Guide) : Prop where
  distinctSlugs : guides.Pairwise fun first second =>
    first.slug ≠ second.slug
  distinctFolders : guides.Pairwise fun first second =>
    first.folder.components ≠ second.folder.components
  ascending : guides.Pairwise fun first second =>
    first.folder.precedes second.folder = true
  complete : ∀ guide ∈ guides, guide.IsComplete
  /-- A guide has been read in its folder, and has the slug that it had then. -/
  origin : ∀ guide ∈ guides,
    IsGuideDirectory disk guidesDir config.metadataFile guide.folder ∧
      ∃ described,
        Describes config disk guide.folder described ∧
          described.slug = guide.slug
  /-- A guide that could be read is missing only in favour of an earlier one of its slug. -/
  missing : ∀ directory described,
    IsGuideDirectory disk guidesDir config.metadataFile directory →
      Describes config disk directory described →
      (∀ guide ∈ guides,
        guide.folder.components ≠ directory.components) →
      ∃ guide ∈ guides,
        guide.slug = described.slug ∧
          guide.folder.precedes directory = true
  settled : ∀ guide ∈ guides, guide.withDefaults config = guide

/-! ## Places -/

theorem Chooses.pairwise_components
    (chooses : Chooses config disk [] paths authored) :
    authored.Pairwise fun first second =>
      first.folder.components ≠ second.folder.components := by
  apply chooses.pairwise_slug.imp_of_mem
  intro first second present presentToo different same
  exact different
    ((chooses.describes first present).slug_eq_of_components
      (chooses.describes second presentToo) same)

theorem Chooses.pairwise_precedes
    (chooses : Chooses config disk [] paths authored)
    (ordered : paths.Pairwise fun first second =>
      (!second.precedes first) = true) :
    authored.Pairwise fun first second =>
      first.folder.precedes second.folder = true := by
  have notAfter := List.pairwise_map.mp (ordered.sublist chooses.sublist)
  apply (notAfter.and chooses.pairwise_components).imp
  rintro first second ⟨notAfter, different⟩
  exact Path.precedes_of_not_precedes notAfter different

/-- If a directory describes a guide and is not chosen, one that precedes it is chosen in its
place. -/
theorem Chooses.exists_preceding
    {directory : Path} {described : Guide}
    (chooses : Chooses config disk [] paths authored)
    (ordered : paths.Pairwise fun first second =>
      (!second.precedes first) = true)
    (member : directory ∈ paths)
    (describes : Describes config disk directory described)
    (absent : ∀ guide ∈ authored,
      guide.folder.components ≠ directory.components) :
    ∃ guide ∈ authored,
      guide.slug = described.slug ∧
        guide.folder.precedes directory = true := by
  obtain ⟨guide, present, slug, place⟩ :=
    chooses.exists_chosen ordered member describes List.not_mem_nil
  refine ⟨guide, present, slug, ?_⟩
  have different := absent guide present
  rcases place with same | notAfter
  · exact absurd (congrArg Path.components same) different
  · exact Path.precedes_of_not_precedes notAfter different

/-- Inheritance and defaults leave every guide in its place. -/
theorem Chooses.map_place
    (chooses : Chooses config disk [] paths authored)
    (completed : Inheritance.CompletesAll authored finals) :
    (finals.map (Guide.withDefaults config)).map Guide.place =
      authored.map Guide.place := by
  rw [← completed.map_place, List.map_map]
  apply List.map_congr_left
  intro final member
  apply Guide.withDefaults_place
  intro unnamed
  have present : final.place ∈ authored.map Guide.place :=
    completed.map_place ▸ List.mem_map_of_mem member
  obtain ⟨guide, member, same⟩ := List.mem_map.mp present
  obtain ⟨slug, folder⟩ := Prod.mk.inj same
  rw [← folder]
  exact (chooses.describes guide member).directoryName_eq
    (slug.trans unnamed)

theorem mem_of_map_place
    {others : List Guide} {guide : Guide}
    (same : guides.map Guide.place = others.map Guide.place)
    (member : guide ∈ guides) :
    ∃ other ∈ others,
      other.slug = guide.slug ∧ other.folder = guide.folder := by
  have present : guide.place ∈ others.map Guide.place :=
    same ▸ List.mem_map_of_mem member
  obtain ⟨other, present, place⟩ := List.mem_map.mp present
  exact ⟨other, present, Prod.mk.inj place⟩

/-! ## Loading -/

/-- What is loaded has been chosen from the directories of guides and completed. -/
theorem load_eq_ok
    {before after : Workspace}
    (loaded :
      (load config guidesDir).run.run before = (.ok guides, after)) :
    ∃ authored finals,
      Chooses config before.disk []
          (directories before.disk guidesDir config.metadataFile) authored ∧
        Inheritance.CompletesAll authored finals ∧
        guides = finals.map (Guide.withDefaults config) := by
  obtain ⟨disk, log⟩ := before
  obtain ⟨authored, later, chosen, chooses⟩ :=
    guidesIn_run config disk []
      (directories disk guidesDir config.metadataFile) log
  rcases merged : Inheritance.run config.strictBase authored with
    ⟨outcome, warnings⟩
  cases present : disk.isDirectory guidesDir with
  | false =>
      simp only [load, run_bind_state, Action.run_disk, present,
        Bool.not_false, if_true, Action.run_throw] at loaded
      cases loaded
  | true =>
      cases outcome with
      | error reason =>
          simp only [load, run_bind_state, Action.run_disk, present,
            Bool.not_true, Bool.false_eq_true, if_false, chosen, merged,
            Action.run_report, Action.ofExcept, Action.run_throw] at loaded
          cases loaded
      | ok finals =>
          rw [load_run present chosen merged] at loaded
          cases loaded
          have succeeded := congrArg Prod.fst merged
          exact ⟨authored, finals, chooses,
            Inheritance.completesAll_of_run succeeded, rfl⟩

/-- Whatever is loaded has distinct slugs and stands in ascending order; it is complete, and it
lacks nothing that could be read except in favour of an earlier guide. -/
theorem load_isCorpus
    {before after : Workspace}
    (defaults : config.HasDefaults)
    (loaded :
      (load config guidesDir).run.run before = (.ok guides, after)) :
    IsCorpus config before.disk guidesDir guides := by
  obtain ⟨authored, finals, chooses, completed, rfl⟩ := load_eq_ok loaded
  have places := chooses.map_place completed
  have ordered :=
    directories_pairwise before.disk guidesDir config.metadataFile
  constructor
  case distinctSlugs =>
    exact pairwise_of_map_place
      (fun first second => first.1 ≠ second.1)
      places chooses.pairwise_slug
  case distinctFolders =>
    exact pairwise_of_map_place
      (fun first second => first.2.components ≠ second.2.components)
      places chooses.pairwise_components
  case ascending =>
    exact pairwise_of_map_place
      (fun first second => first.2.precedes second.2 = true)
      places (chooses.pairwise_precedes ordered)
  case complete =>
    intro guide member
    obtain ⟨final, -, rfl⟩ := List.mem_map.mp member
    exact final.withDefaults_isComplete defaults
  case origin =>
    intro guide member
    obtain ⟨described, present, slug, folder⟩ :=
      mem_of_map_place places member
    rw [← folder]
    constructor
    · apply mem_directories_iff.mp
      exact chooses.sublist.subset (List.mem_map_of_mem present)
    · exact ⟨described, chooses.describes described present, slug⟩
  case missing =>
    intro directory described found describes absent
    have absentBefore : ∀ guide ∈ authored,
        guide.folder.components ≠ directory.components := by
      intro guide present
      obtain ⟨final, member, -, folder⟩ :=
        mem_of_map_place places.symm present
      rw [← folder]
      exact absent final member
    obtain ⟨guide, present, slug, before⟩ :=
      chooses.exists_preceding ordered (mem_directories_iff.mpr found)
        describes absentBefore
    obtain ⟨final, member, sameSlug, folder⟩ :=
      mem_of_map_place places.symm present
    exact ⟨final, member, sameSlug.trans slug, folder.symm ▸ before⟩
  case settled =>
    intro guide member
    obtain ⟨final, -, rfl⟩ := List.mem_map.mp member
    exact final.withDefaults_again config

end Corpus

/-! ## A corpus with a repeated slug -/

namespace Corpus.Repeated

def config : Config :=
  { validateMetadata := false }

def alpha : String :=
  "\x7b\"categories\":[\"A\",\"A\"],\"apps\":[\x7b\"name\":\" \"\x7d]\x7d"

def beta : String :=
  "\x7b\"base\":\"alpha\",\"tags\":[\"t\"]\x7d"

/-- A guide that says it has the slug that another one has from its directory. -/
def gamma : String :=
  "\x7b\"slug\":\"alpha\"\x7d"

def disk : Disk where
  entries :=
    [(["guides"], .directory),
      (["guides", "alpha"], .directory),
      (["guides", "alpha", "metadata.json"], .file alpha.toUTF8),
      (["guides", "beta"], .directory),
      (["guides", "beta", "metadata.json"], .file beta.toUTF8),
      (["guides", "gamma"], .directory),
      (["guides", "gamma", "metadata.json"], .file gamma.toUTF8)]
  workingDirectory := []

def authoredAlpha : Guide where
  slug := "alpha"
  categories := ["A", "A"]
  apps := [{ name := " " }]
  folder := ⟨"guides/alpha"⟩

def authoredBeta : Guide where
  slug := "beta"
  base := some "alpha"
  tags := ["t"]
  folder := ⟨"guides/beta"⟩

def authoredGamma : Guide where
  slug := "alpha"
  folder := ⟨"guides/gamma"⟩

/-- What a guide of the corpus has in the end, whether it is its own, inherited or a default. -/
def filled (authored : Guide) : Guide :=
  { authored with
    categories := ["A"]
    languages := [.java, .groovy, .kotlin]
    buildTools := [.gradle, .maven]
    apps := [{ name := "default", packageName := "example.micronaut" }]
    asciidoctor := some (authored.slug ++ ".adoc") }

theorem directories_eq :
    directories disk ⟨"guides"⟩ config.metadataFile =
      [⟨"guides/alpha"⟩, ⟨"guides/beta"⟩, ⟨"guides/gamma"⟩] := by
  have located : disk.locate ⟨"guides"⟩ = .ok ["guides"] := rfl
  apply directories_eq_of_pairwise located
  · rfl
  · decide

theorem describes_alpha :
    Describes config disk ⟨"guides/alpha"⟩ authoredAlpha :=
  ⟨alpha, by decide +kernel, by decide +kernel⟩

theorem describes_beta :
    Describes config disk ⟨"guides/beta"⟩ authoredBeta :=
  ⟨beta, by decide +kernel, by decide +kernel⟩

theorem describes_gamma :
    Describes config disk ⟨"guides/gamma"⟩ authoredGamma :=
  ⟨gamma, by decide +kernel, by decide +kernel⟩

theorem guidesIn_eq :
    ∃ log,
      (guidesIn config []
          (directories disk ⟨"guides"⟩ config.metadataFile)).run.run
        ⟨disk, []⟩ =
        (.ok [authoredAlpha, authoredBeta], ⟨disk, log⟩) := by
  have last :
      ∃ log,
        (guidesIn config ["beta", "alpha"] [⟨"guides/gamma"⟩]).run.run
          ⟨disk, []⟩ = (.ok [], ⟨disk, log⟩) := by
    rw [guidesIn_run_duplicate describes_gamma (by decide)]
    exact ⟨_, rfl⟩
  obtain ⟨log, last⟩ := last
  have others := guidesIn_run_chosen describes_beta (by decide) last
  have all := guidesIn_run_chosen describes_alpha (by decide) others
  rw [directories_eq]
  exact ⟨log, all⟩

theorem load_eq :
    ∃ after,
      (load config ⟨"guides"⟩).run.run ⟨disk, []⟩ =
        (.ok [filled authoredAlpha, filled authoredBeta], after) := by
  obtain ⟨log, chosen⟩ := guidesIn_eq
  have merged :
      Inheritance.run config.strictBase [authoredAlpha, authoredBeta] =
        (.ok [authoredAlpha, authoredAlpha.merge authoredBeta], []) := by
    decide +kernel
  have completed :
      [authoredAlpha, authoredAlpha.merge authoredBeta].map
          (Guide.withDefaults config) =
        [filled authoredAlpha, filled authoredBeta] := by
    rfl
  have present : disk.isDirectory ⟨"guides"⟩ = true := by
    rfl
  rw [load_run present chosen merged, completed]
  exact ⟨_, rfl⟩

end Corpus.Repeated

namespace Corpus

open Repeated in
theorem load_isCorpus_repeated :
    Repeated.config.HasDefaults ∧
      ∃ after,
        (load Repeated.config ⟨"guides"⟩).run.run ⟨Repeated.disk, []⟩ =
            (.ok [filled authoredAlpha, filled authoredBeta], after) ∧
          IsCorpus Repeated.config Repeated.disk ⟨"guides"⟩
            [filled authoredAlpha, filled authoredBeta] := by
  have defaults : Repeated.config.HasDefaults := by
    constructor <;> decide
  obtain ⟨after, loaded⟩ := load_eq
  exact ⟨defaults, after, loaded, load_isCorpus defaults loaded⟩

end Corpus

end Guidebook
