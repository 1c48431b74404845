import Guidebook.Proofs.Corpus.Selection
import Guidebook.Proofs.Files.Disk
import Guidebook.Proofs.Markup.Pipeline
import Guidebook.Proofs.Website.Recording
import Guidebook.Website

/-!
# Documents of a run

A run writes the document of a variant once the variant has gone through, one variant of a guide
after the other, and a document can be read as soon as it is written.  If a later variant fails, the
documents of the earlier ones stay where they were written, but the report leaves all of them out,
since it lists the documents of a guide only if the guide has gone through as a whole.
-/

namespace Guidebook

/-! ## Runs that record documents -/

namespace Website

open Recording

variable (website : Website)

/-- Renders a variant and records its document as soon as it is written. -/
def recordVariant (guides : List Guide) (guide : Guide) (root output : Path)
    (markup : String) (variant : Variant) : Recording String := do
  perform (website.createCode guides guide variant output)
  let text ← perform (website.document guide variant root output markup)
  let name := website.documentName guide variant
  perform (Action.makeDirectories output)
  perform
    (Action.changing fun disk => disk.write (output.join name) text.toUTF8)
  note name
  perform (Action.info s!"rendered guide {guide.slug} ({variant.name})")
  return name

/-- Renders every variant of a guide and records the documents. -/
def recordGuide (guides : List Guide) (root output : Path) (guide : Guide) :
    Recording (List String) := do
  let markup ← perform (Document.read guide)
  let variants ← perform (Document.variants guide)
  variants.mapM (website.recordVariant guides guide root output markup)

/-- Renders the guides that take part in the run and records the documents. -/
def recordAll (guides : List Guide) (root output : Path) :
    List Guide → Recording WebsiteReport
  | [] => return ⟨[], [], []⟩
  | guide :: rest => do
    perform
      (Action.report (guide.processedLog true website.config website.jdk))
    if guide.isProcessed true website.config website.jdk then
      let outcome ← attempt (website.recordGuide guides root output guide)
      match outcome with
      | .ok _ => pure ()
      | .error reason =>
        perform (Action.warn
          s!"failed to render guide {guide.slug}: {reason.message}")
      return addOutcome (← recordAll guides root output rest) guide.slug outcome
    else
      let report ← recordAll guides root output rest
      return { report with skipped := guide.slug :: report.skipped }

/-- Renders the guides of a project into a directory and records the documents. -/
def record (root output : Path) : Recording WebsiteReport := do
  let guides ← perform (Corpus.ofProject website.config root)
  website.recordAll guides root output guides

end Website

/-! ## What becomes of a guide -/

/-- What became of a guide in a run. -/
structure GuideRun where
  guide : Guide
  /-- The variants whose documents were written. -/
  written : List Variant
  /-- Why the guide failed. -/
  reason? : Option Error
  leads : written <+: guide.renderedVariants
  complete : reason? = none → written = guide.renderedVariants

namespace GuideRun

variable (website : Website)

/-- The documents that were written. -/
def documents (run : GuideRun) : List String :=
  run.written.map (website.documentName run.guide)

/-- What the run of the guide gives. -/
def outcome (run : GuideRun) : Except Error (List String) :=
  match run.reason? with
  | none => .ok (run.documents website)
  | some reason => .error reason

end GuideRun

namespace Website

variable {website : Website} {guides : List Guide} {guide : Guide}
  {root output : Path} {markup : String}

/-- Whether a guide takes part in a run. -/
def takesPart (website : Website) (guide : Guide) : Bool :=
  guide.isProcessed true website.config website.jdk

/-- The report on a list of guides, given what became of those that took part. -/
def summary (website : Website) (guides : List Guide) (runs : List GuideRun) :
    WebsiteReport where
  rendered :=
    (runs.filter fun run => run.reason?.isNone).flatMap
      (GuideRun.documents website)
  failures :=
    runs.filterMap fun run =>
      run.reason?.map fun reason => ⟨run.guide.slug, reason⟩
  skipped :=
    (guides.filter fun guide => !website.takesPart guide).map Guide.slug

/-- A report tells what became of guides, and documents are what they wrote. -/
structure Accounts (website : Website) (guides : List Guide)
    (runs : List GuideRun) (report : WebsiteReport)
    (documents : List String) : Prop where
  /-- Every guide that takes part has become something, in order. -/
  guides_eq : runs.map GuideRun.guide = guides.filter website.takesPart
  documents_eq : documents = runs.flatMap (GuideRun.documents website)
  report_eq : report = website.summary guides runs

namespace Accounts

variable {runs : List GuideRun} {report : WebsiteReport}
  {documents : List String}

theorem nil : Accounts website [] [] ⟨[], [], []⟩ [] :=
  ⟨rfl, rfl, rfl⟩

theorem cons
    (others : Accounts website guides runs report documents)
    {run : GuideRun} (present : website.takesPart run.guide) :
    Accounts website (run.guide :: guides) (run :: runs)
      (addOutcome report run.guide.slug (run.outcome website))
      (run.documents website ++ documents) where
  guides_eq := by
    rw [List.map_cons, others.guides_eq, List.filter_cons_of_pos present]
  documents_eq := by
    rw [others.documents_eq, List.flatMap_cons]
  report_eq := by
    have notSkipped :
        (run.guide :: guides).filter (fun guide => !website.takesPart guide) =
          guides.filter fun guide => !website.takesPart guide :=
      List.filter_cons_of_neg (by simp [present])
    rw [others.report_eq]
    unfold GuideRun.outcome summary
    rw [notSkipped]
    cases ended : run.reason? with
    | none => simp [addOutcome, ended]
    | some reason => simp [addOutcome, ended]

theorem skip
    (others : Accounts website guides runs report documents)
    (absent : website.takesPart guide = false) :
    Accounts website (guide :: guides) runs
      { report with skipped := guide.slug :: report.skipped } documents where
  guides_eq := by
    rw [others.guides_eq, List.filter_cons_of_neg (by simp [absent])]
  documents_eq := others.documents_eq
  report_eq := by
    rw [others.report_eq]
    simp [summary, absent]

/--
The report lists the documents that were written exactly if no guide that failed had written any.
-/
theorem documents_eq_rendered_iff
    (accounts : Accounts website guides runs report documents) :
    documents = report.rendered ↔
      ∀ run ∈ runs, run.reason? ≠ none → run.written = [] := by
  rw [accounts.documents_eq, accounts.report_eq]
  refine flatMap_eq_flatMap_filter_iff.trans
    (forall₂_congr fun run _ => imp_congr ?_ ?_)
  · rw [Option.isNone_eq_false_iff, Option.isSome_iff_ne_none]
  · exact List.map_eq_nil_iff

end Accounts

/-- Notes of names, each taken on a disk on which the name led to a text below the output. -/
structure Documented (output : Path) (names : List String) (notes : List Note) :
    Prop where
  names_eq : notes.map Note.name = names
  stored :
    ∀ note ∈ notes, ∃ text : String,
      note.disk.read (output.join note.name) = .ok text.toUTF8

namespace Documented

variable {names later : List String} {notes added : List Note}

theorem nil : Documented output [] [] :=
  ⟨rfl, List.forall_mem_nil _⟩

theorem append
    (first : Documented output names notes)
    (second : Documented output later added) :
    Documented output (names ++ later) (notes ++ added) where
  names_eq := by
    rw [List.map_append, first.names_eq, second.names_eq]
  stored := List.forall_mem_append.mpr ⟨first.stored, second.stored⟩

end Documented

/-- A variant goes through and adds its document, or fails and adds none. -/
inductive WritesOne (output : Path) (name : String) :
    Except Error String → List Note → Prop
  | through {notes : List Note}
      (documented : Documented output [name] notes) :
      WritesOne output name (.ok name) notes
  | failed (reason : Error) : WritesOne output name (.error reason) []

theorem recordVariant_records (variant : Variant) :
    Records
      (website.recordVariant guides guide root output markup variant)
      (website.renderVariant guides guide root output markup variant)
      (WritesOne output (website.documentName guide variant)) := by
  -- Writing the document is the last thing that may fail.
  refine Records.perform_bind .failed fun _ => ?_
  refine Records.perform_bind .failed fun text => ?_
  refine Records.perform_bind .failed fun _ => ?_
  refine Records.perform_note_bind .failed fun before _ after written => ?_
  have stored := Disk.read_of_write (Action.run_changing_eq_ok written)
  refine Records.perform_bind_of_ok (fun _ => ⟨_, rfl⟩) ?_
  refine (Records.pure _).mono ?_
  rintro outcome added ⟨rfl, rfl⟩
  exact .through ⟨rfl, List.forall_mem_singleton.mpr ⟨text, stored⟩⟩

/-- Variants go through and add their documents, or those in front of the first that fails do. -/
inductive WritesLeading (output : Path) (name : Variant → String)
    (variants : List Variant) :
    Except Error (List String) → List Note → Prop
  | all {notes : List Note}
      (documented : Documented output (variants.map name) notes) :
      WritesLeading output name variants (.ok (variants.map name)) notes
  | failed {written : List Variant} {notes : List Note}
      (leads : written <+: variants) (reason : Error)
      (documented : Documented output (written.map name) notes) :
      WritesLeading output name variants (.error reason) notes

theorem recordVariants_records (variants : List Variant) :
    Records
      (variants.mapM
        (website.recordVariant guides guide root output markup))
      (variants.mapM
        (website.renderVariant guides guide root output markup))
      (WritesLeading output (website.documentName guide) variants) := by
  induction variants with
  | nil =>
      refine (Records.pure []).mono ?_
      rintro outcome added ⟨rfl, rfl⟩
      exact .all .nil
  | cons variant rest ih =>
      rw [List.mapM_cons, List.mapM_cons]
      refine (recordVariant_records variant).bind ?_ ?_
      · intro reason added failed
        cases failed
        exact .failed List.nil_prefix reason .nil
      · intro name added written
        cases written with
        | through first =>
            refine ih.map ?_ ?_
            · intro reason later failed
              cases failed with
              | failed leads reason documented =>
                  exact .failed (List.cons_prefix_cons.mpr ⟨rfl, leads⟩) reason
                    (first.append documented)
            · intro names later written
              cases written with
              | all documented => exact .all (first.append documented)

theorem recordGuide_records (guide : Guide) :
    Records
      (website.recordGuide guides root output guide)
      (website.renderGuide guides root output guide)
      fun outcome added =>
        ∃ run : GuideRun, run.guide = guide ∧
          Documented output (run.documents website) added ∧
            outcome = run.outcome website := by
  refine Records.perform_bind ?_ fun markup => ?_
  · intro reason
    exact ⟨⟨guide, [], some reason, List.nil_prefix, nofun⟩, rfl, .nil, rfl⟩
  · refine Records.perform_bind_of_ok (fun _ => ⟨_, rfl⟩) ?_
    refine (recordVariants_records guide.renderedVariants).mono ?_
    intro outcome added written
    cases written with
    | all documented =>
        exact ⟨⟨guide, _, none, List.prefix_rfl, fun _ => rfl⟩, rfl, documented,
          rfl⟩
    | failed leads reason documented =>
        exact ⟨⟨guide, _, some reason, leads, nofun⟩, rfl, documented, rfl⟩

/-- A run goes on after a guide that fails, so it comes to an end with a report. -/
theorem recordAll_records (rest : List Guide) :
    Records
      (website.recordAll guides root output rest)
      (website.renderAll guides root output rest)
      fun outcome added =>
        ∃ runs report documents,
          outcome = .ok report ∧ Documented output documents added ∧
            Accounts website rest runs report documents := by
  induction rest with
  | nil =>
      refine (Records.pure _).mono ?_
      rintro outcome added ⟨rfl, rfl⟩
      exact ⟨[], _, [], rfl, .nil, .nil⟩
  | cons guide rest ih =>
      unfold recordAll renderAll
      refine Records.perform_bind_of_ok (fun _ => ⟨_, rfl⟩) ?_
      cases present : website.takesPart guide with
      | true =>
          have processed :
              guide.isProcessed true website.config website.jdk :=
            present
          rw [if_pos processed, if_pos processed]
          refine (recordGuide_records guide).attempt_bind ?_
          rintro outcome added ⟨run, rfl, first, rfl⟩
          have others :
              Records
                (do
                  let report ← website.recordAll guides root output rest
                  return addOutcome report run.guide.slug
                    (run.outcome website))
                (do
                  let report ← website.renderAll guides root output rest
                  return addOutcome report run.guide.slug
                    (run.outcome website))
                fun outcome later =>
                  ∃ runs report documents,
                    outcome = .ok report ∧
                      Documented output documents (added ++ later) ∧
                        Accounts website (run.guide :: rest) runs report
                          documents := by
            refine ih.map ?_ ?_
            · rintro reason later ⟨_, _, _, impossible, _⟩
              cases impossible
            · rintro report later ⟨runs, _, _, same, documented, accounts⟩
              cases same
              exact ⟨run :: runs, _, _, rfl, first.append documented,
                accounts.cons present⟩
          generalize run.outcome website = outcome at others ⊢
          cases outcome with
          | ok names => exact others
          | error reason =>
              exact Records.perform_bind_of_ok (fun _ => ⟨_, rfl⟩) others
      | false =>
          have passedOver :
              ¬ guide.isProcessed true website.config website.jdk := by
            rw [← takesPart, present]
            exact Bool.false_ne_true
          rw [if_neg passedOver, if_neg passedOver]
          refine ih.map ?_ ?_
          · rintro reason added ⟨_, _, _, impossible, _⟩
            cases impossible
          · rintro report added ⟨runs, _, _, same, documented, accounts⟩
            cases same
            exact ⟨runs, _, _, rfl, documented, accounts.skip present⟩

end Website

/-! ## A guide that fails behind a document -/

namespace Website.Interrupted

/-- The guide as its metadata has it: one application, two build tools. -/
def authored : Guide where
  slug := "hello"
  languages := [.java]
  buildTools := [.gradle, .maven]
  apps := [{ name := "default" }]
  folder := ⟨"guides/hello"⟩

def guide : Guide :=
  { authored with
    apps := [{ name := "default", packageName := "example.micronaut" }]
    asciidoctor := some "hello.adoc" }

def metadata : String :=
  "\x7b\"languages\":[\"java\"],\"buildTools\":[\"gradle\",\"maven\"]," ++
    "\"apps\":[\x7b\"name\":\"default\"\x7d]\x7d"

/-- For Maven, the document refers to an application that the guide does not declare. -/
def markup : String :=
  ":exclude-for-build:gradle\ncreate-app:ghost[]\n:exclude-for-build:\n"

def disk : Disk where
  entries :=
    [(["guides"], .directory),
      (["guides", "hello"], .directory),
      (["guides", "hello", "metadata.json"], .file metadata.toUTF8),
      (["guides", "hello", "hello.adoc"], .file markup.toUTF8)]
  workingDirectory := []

def website : Website where
  config := { validateMetadata := false }
  jdk := 17
  converter := .identity
  generator := .manifest

theorem directories_eq :
    Corpus.directories disk ⟨"guides"⟩ website.config.metadataFile =
      [⟨"guides/hello"⟩] := by
  have located : disk.locate ⟨"guides"⟩ = .ok ["guides"] := rfl
  apply Corpus.directories_eq_of_pairwise located
  · rfl
  · exact List.pairwise_singleton _ _

theorem describes_authored :
    Corpus.Describes website.config disk ⟨"guides/hello"⟩ authored :=
  ⟨metadata, by decide +kernel, by decide +kernel⟩

theorem guidesIn_run :
    (Corpus.guidesIn website.config []
        (Corpus.directories disk ⟨"guides"⟩
          website.config.metadataFile)).run.run ⟨disk, []⟩ =
      (.ok [authored], ⟨disk, []⟩) := by
  rw [directories_eq]
  exact Corpus.guidesIn_run_chosen describes_authored (by decide) rfl

theorem ofProject_run :
    (Corpus.ofProject website.config ⟨""⟩).run.run ⟨disk, []⟩ =
      (.ok [guide], ⟨disk, []⟩) := by
  have guidesPath : website.config.guidesPath ⟨""⟩ = ⟨"guides"⟩ := by
    rfl
  have present : disk.isDirectory ⟨"guides"⟩ = true := by rfl
  have completed :
      Inheritance.run website.config.strictBase [authored] =
        (.ok [authored], []) := by
    decide +kernel
  have filled :
      [authored].map (Guide.withDefaults website.config) = [guide] := by
    rfl
  rw [Corpus.ofProject, guidesPath,
    Corpus.load_run present guidesIn_run completed, filled,
    List.append_nil]

/-- What a run leaves that writes a document and reports none. -/
theorem recordAll_run :
    ∃ report after notes,
      (website.recordAll [guide] ⟨""⟩ ⟨"site"⟩ [guide]).run.run
          (⟨disk, []⟩, []) =
        (.ok report, (after, notes)) ∧
      notes.map Note.name = ["hello-gradle-java.adoc"] ∧
      report.rendered = [] ∧
      after.disk.isFile ⟨"site/hello-gradle-java.adoc"⟩ := by
  have variant :
      ∀ guides guide root output markup,
        website.recordVariant guides guide root output markup =
          fun variant =>
            website.recordVariant guides guide root output markup variant :=
    fun _ _ _ _ _ => rfl
  have checked :
      (match (website.recordAll [guide] ⟨""⟩ ⟨"site"⟩ [guide]).run.run
          (⟨disk, []⟩, []) with
        | (.ok report, (after, notes)) =>
          decide (report.rendered = []) &&
            decide (notes.map Note.name = ["hello-gradle-java.adoc"]) &&
              after.disk.isFile ⟨"site/hello-gradle-java.adoc"⟩
        | _ => false) = true := by
    -- Sorting the handlers does not reduce, so the pipeline is given in its order first.
    simp only [recordAll, recordGuide]
    simp only [variant, recordVariant, document, Markup.standard_eq]
    decide +kernel
  revert checked
  generalize (website.recordAll [guide] ⟨""⟩ ⟨"site"⟩ [guide]).run.run
    (⟨disk, []⟩, []) = result
  obtain ⟨outcome, after, notes⟩ := result
  cases outcome with
  | error reason =>
      intro impossible
      cases impossible
  | ok report =>
      simp only [Bool.and_eq_true, decide_eq_true_eq]
      rintro ⟨⟨none, named⟩, written⟩
      exact ⟨report, after, notes, rfl, named, none, written⟩

end Website.Interrupted

namespace Website

variable {website : Website} {guides : List Guide} {root output : Path}

/-! ## The whole run -/

theorem generate_run
    {before loaded : Workspace}
    (read :
      (Corpus.ofProject website.config root).run.run before =
        (.ok guides, loaded)) :
    (website.generate root output).run.run before =
      (website.renderAll guides root output guides).run.run loaded := by
  rw [generate, run_bind_state, read]

theorem record_run
    {before loaded : Workspace} {notes : List Note}
    (read :
      (Corpus.ofProject website.config root).run.run before =
        (.ok guides, loaded)) :
    (website.record root output).run.run (before, notes) =
      (website.recordAll guides root output guides).run.run (loaded, notes) := by
  rw [record, run_bind_state, Recording.run_perform, read]

/-- A run does what the recording of its guides does. -/
theorem generate_run_of_recordAll
    {before loaded after : Workspace} {notes later : List Note}
    {outcome : Except Error WebsiteReport}
    (read :
      (Corpus.ofProject website.config root).run.run before =
        (.ok guides, loaded))
    (recorded :
      (website.recordAll guides root output guides).run.run (loaded, notes) =
        (outcome, (after, later))) :
    (website.generate root output).run.run before = (outcome, after) :=
  (generate_run read).trans ((recordAll_records guides).run_eq recorded)

/--
A run that gives a report has read the guides of the project and then written, guide by guide, the
documents of each guide's variants up to the first that fails.  Each document could be read below
the output as soon as it was written.  The report accounts for the guides, but it lists all the
documents only if no guide failed behind a document that it had written.
-/
theorem generate_documents
    {before after : Workspace} {report : WebsiteReport}
    (ran : (website.generate root output).run.run before = (.ok report, after)) :
    ∃ notes documents guides runs,
      (website.record root output).run.run (before, []) =
          (.ok report, (after, notes)) ∧
        Documented output documents notes ∧
        ((Corpus.ofProject website.config root).run.run before).1 =
            .ok guides ∧
          Accounts website guides runs report documents ∧
            (documents = report.rendered ↔
              ∀ run ∈ runs, run.reason? ≠ none → run.written = []) := by
  rcases read : (Corpus.ofProject website.config root).run.run before with
    ⟨outcome, loaded⟩
  cases outcome with
  | error reason =>
      rw [generate, run_bind_state, read] at ran
      cases ran
  | ok guides =>
      have records :
          Records
            (website.recordAll guides root output guides)
            (website.renderAll guides root output guides) _ :=
        recordAll_records guides
      obtain ⟨outcome, last, notes, rendered, recorded, runs, _, documents, rfl,
          documented, accounts⟩ :=
        records loaded []
      rw [generate_run read, rendered] at ran
      cases ran
      exact ⟨notes, documents, guides, runs, (record_run read).trans recorded,
        documented, rfl, accounts, accounts.documents_eq_rendered_iff⟩

open Interrupted in
theorem generate_documents_interrupted :
    ∃ report after,
      (Interrupted.website.generate ⟨""⟩ ⟨"site"⟩).run.run ⟨disk, []⟩ =
          (.ok report, after) ∧
        ∃ notes documents guides runs,
          (Interrupted.website.record ⟨""⟩ ⟨"site"⟩).run.run (⟨disk, []⟩, []) =
              (.ok report, (after, notes)) ∧
            Documented ⟨"site"⟩ documents notes ∧
            ((Corpus.ofProject Interrupted.website.config ⟨""⟩).run.run
                ⟨disk, []⟩).1 =
                .ok guides ∧
              Accounts Interrupted.website guides runs report documents ∧
                (documents = report.rendered ↔
                  ∀ run ∈ runs, run.reason? ≠ none → run.written = []) ∧
                documents = ["hello-gradle-java.adoc"] ∧
                report.rendered = [] := by
  obtain ⟨report, after, notes, recorded, named, none, -⟩ := recordAll_run
  have ran :
      (Interrupted.website.generate ⟨""⟩ ⟨"site"⟩).run.run ⟨disk, []⟩ =
        (.ok report, after) :=
    generate_run_of_recordAll ofProject_run recorded
  obtain ⟨noted, documents, guides, runs, recorded', documented, read, accounts,
      agree⟩ :=
    generate_documents ran
  have same : notes = noted := by
    rw [record_run ofProject_run, recorded] at recorded'
    cases recorded'
    rfl
  exact ⟨report, after, ran, noted, documents, guides, runs, recorded',
    documented, read, accounts, agree,
    documented.names_eq.symm.trans (same ▸ named), none⟩

/-- A run may write a document that its report leaves out. -/
theorem generate_omits_document :
    ∃ report after notes,
      (Interrupted.website.generate ⟨""⟩ ⟨"site"⟩).run.run
            ⟨Interrupted.disk, []⟩ =
          (.ok report, after) ∧
        (Interrupted.website.record ⟨""⟩ ⟨"site"⟩).run.run
              (⟨Interrupted.disk, []⟩, []) =
            (.ok report, (after, notes)) ∧
          notes.map Note.name = ["hello-gradle-java.adoc"] ∧
          Interrupted.disk.isFile ⟨"site/hello-gradle-java.adoc"⟩ = false ∧
            after.disk.isFile ⟨"site/hello-gradle-java.adoc"⟩ = true ∧
              report.rendered = [] := by
  obtain ⟨report, after, notes, recorded, named, none, written⟩ :=
    Interrupted.recordAll_run
  exact ⟨report, after, notes,
    generate_run_of_recordAll Interrupted.ofProject_run recorded,
    (record_run Interrupted.ofProject_run).trans recorded, named,
    by decide +kernel, written, none⟩

end Website

end Guidebook
