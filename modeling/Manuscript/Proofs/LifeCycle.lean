import Manuscript.Proofs.Steps
import Manuscript.Template

/-!
# The life of a compilation

Whatever compilers do to the files, and whatever engine renders the templates, a compilation runs at most one
compiler, and only once all sources are there; it fails only without having run any; and a temporary directory
outlives it exactly when there is no PDF although one is wanted (`run_lifeCycle`). The compilers are only asked to
leave the directory they work in and the LaTeX source in it. Of the engine nothing is asked.
-/

namespace Manuscript

open FileSystem (Keeps)
open Typeset (Compiler Job)

variable {files after : FileSystem}

/-- A compiler takes away neither the directory it works in nor the LaTeX source there. What else it does to the
files is left open. -/
structure Typeset.Compiler.Spares (compiler : Compiler) (job : Job) : Prop where
  workDir : ∀ files : FileSystem, files.isDirectory job.workDir = true →
    (compiler.run job files).2.isDirectory job.workDir = true
  source : ∀ files : FileSystem, files.isFile job.sourcePath = true →
    (compiler.run job files).2.isFile job.sourcePath = true

/-- Whether typesetting succeeds or not, it leaves the directory of the job where it was, with the source in it. -/
theorem Typesetter.typeset_spares {typesetter : Typesetter} {job : Job} (directory : Path) {location : Location}
    (spares : ∀ compiler ∈ typesetter.compilers, compiler.Spares job) (habs : job.workDir.isAbsolute = true)
    (hdir : files.locate job.workDir = .ok (location, .directory)) (hsource : files.isFile job.sourcePath = true) :
    (typesetter.typeset job directory files).files.locate job.workDir = .ok (location, .directory) ∧
      (typesetter.typeset job directory files).files.isFile job.sourcePath = true := by
  rcases typesetter.typeset_cases job directory files with ⟨error, hnone⟩ | ⟨position, compiler, hfirst, -, keeps⟩
  · rw [hnone]
    exact ⟨hdir, hsource⟩
  · have hspares := spares compiler (List.mem_of_getElem? hfirst.1)
    obtain ⟨location', hdir'⟩ :=
      FileSystem.isDirectory_iff.1 (hspares.workDir files (FileSystem.isDirectory_iff.2 ⟨location, hdir⟩))
    have hsame : location = location' := FileSystem.locate_unique habs hdir hdir'
    subst hsame
    exact ⟨keeps.locate_directory hdir', keeps.isFile (hspares.source files hsource)⟩

namespace Compilation

variable {engine : TemplateEngine} {root : Node} {context : CompilationContext} {options : Options}
  {typesetter : Typesetter} {directory : WorkingDirectory} {prepared : FileSystem} {written : Sources.Written}

/-- The directory for the sources when it is not a temporary one. -/
def sourceDirectory (context : CompilationContext) (options : Options) : Path :=
  match options.latexDir with
  | some directory => context.locate directory
  | none => context.outputDir

/-! ## Directories -/

/-- The working directory is one that was asked for, or a temporary one when a PDF is wanted. -/
theorem prepareDirectory_eq_ok (h : prepareDirectory context options files = (.ok directory, prepared)) :
    (directory.isTemporary = false ∧ directory.path = sourceDirectory context options) ∨
      (options.pdf = true ∧ makeTemporary context files = (.ok directory, prepared)) := by
  unfold prepareDirectory at h
  split at h
  · rename_i wanted hwanted
    simp only [Prod.mk.injEq] at h
    obtain ⟨hresult, -⟩ := h
    cases hmade : (makeDirectories (context.locate wanted) files).1 with
    | error error =>
      rw [hmade] at hresult
      cases hresult
    | ok u =>
      rw [hmade] at hresult
      cases hresult
      exact Or.inl ⟨rfl, by rw [sourceDirectory, hwanted]⟩
  · rename_i hwanted
    split at h
    · rename_i hpdf
      exact Or.inr ⟨hpdf, h⟩
    · cases h
      exact Or.inl ⟨rfl, by rw [sourceDirectory, hwanted]⟩

/-- Without an output directory the working directory is discarded. -/
theorem prepare_of_output_error {error : CompilationError}
    (houtput : (makeDirectories context.outputDir files).1 = .error error)
    (hdirectory : prepareDirectory context options (makeDirectories context.outputDir files).2 =
      (.ok directory, prepared)) :
    prepare context options files = (.error error, directory.discard prepared) := by
  simp only [prepare, houtput, hdirectory]

/-- With an output directory, preparing is making the working directory. -/
theorem prepare_of_output {u : Unit} (houtput : (makeDirectories context.outputDir files).1 = .ok u) :
    prepare context options files = prepareDirectory context options (makeDirectories context.outputDir files).2 := by
  simp only [prepare, houtput]

/-- Where both directories are ready, the working directory was made behind the output directory. -/
theorem prepare_eq_ok (h : prepare context options files = (.ok directory, prepared)) :
    prepareDirectory context options (makeDirectories context.outputDir files).2 = (.ok directory, prepared) := by
  cases houtput : (makeDirectories context.outputDir files).1 with
  | ok u => rwa [prepare_of_output houtput] at h
  | error error =>
    cases hdirectory : prepareDirectory context options (makeDirectories context.outputDir files).2 with
    | mk result made =>
      simp only [prepare, houtput, hdirectory] at h
      cases result <;> cases h

/-! ## Sources -/

/-- Writing the sources keeps the directories there are. -/
theorem keeps_writeSources (engine : TemplateEngine) (root : Node) (context : CompilationContext) (options : Options)
    (directory : Path) (files : FileSystem) :
    Keeps files (writeSources engine root context options directory files).2 := by
  unfold writeSources
  split
  · exact Keeps.refl files
  · exact Sources.keeps_write _ directory files

/-- The directory of the input is known from the root unless it is a relative one and the current directory is gone. -/
theorem exists_absoluteInputDir_iff :
    (∃ inputDir, absoluteInputDir context files = .ok inputDir) ↔
      context.inputDir.isAbsolute = true ∨ files.find? files.workingDirectory = some .directory := by
  unfold absoluteInputDir
  by_cases habsolute : context.inputDir.isAbsolute = true
  · rw [if_pos habsolute]
    exact iff_of_true ⟨_, rfl⟩ (Or.inl habsolute)
  · rw [if_neg habsolute]
    simp only [FileSystem.bind_eq_ok, FileSystem.currentDirectory_eq_ok]
    constructor
    · rintro ⟨-, -, ⟨hthere, -⟩, -⟩
      exact Or.inr hthere
    · intro h
      exact ⟨_, _, ⟨h.resolve_left habsolute, rfl⟩, rfl⟩

/-- The sources come from the package that is found, looked up from the directory of the input. Their text is what
the engine renders for its template and the data of the document, and they have the name of the document and its
bibliography. -/
theorem rendered_of_sources {sources : Sources}
    (h : Compilation.sources engine root context options files = .ok sources) :
    ∃ inputDir template, absoluteInputDir context files = .ok inputDir ∧
      (libraryOf context options).find files options.template inputDir = .ok sources.package ∧
      readTemplate engine options sources.package files = .ok template ∧
      engine.render template (templateData root context options inputDir).toValue = .ok sources.text ∧
      sources.name = context.name ∧ sources.bibliography = bibliography context := by
  unfold Compilation.sources at h
  obtain ⟨inputDir, hinput, h⟩ := FileSystem.bind_eq_ok.1 h
  obtain ⟨package, hpackage, h⟩ := FileSystem.bind_eq_ok.1 h
  obtain ⟨template, htemplate, h⟩ := FileSystem.bind_eq_ok.1 h
  obtain ⟨rendered, hrendered, h⟩ := FileSystem.bind_eq_ok.1 h
  cases h
  exact ⟨inputDir, template, FileSystem.mapError_eq_ok.1 hinput, hpackage, htemplate,
    FileSystem.mapError_eq_ok.1 hrendered, rfl, rfl⟩

/-- The sources have the name of the document and its bibliography. -/
theorem sources_eq_ok {sources : Sources} (h : Compilation.sources engine root context options files = .ok sources) :
    ∃ text package, sources = { name := context.name, text, bibliography := bibliography context, package } := by
  obtain ⟨-, -, -, -, -, -, hname, hbibliography⟩ := rendered_of_sources h
  exact ⟨sources.text, sources.package, by rw [← hname, ← hbibliography]⟩

/-- The sources have the name of the compilation. -/
theorem sources_name {sources : Sources} (h : Compilation.sources engine root context options files = .ok sources) :
    sources.name = context.name := by
  obtain ⟨text, package, rfl⟩ := sources_eq_ok h
  rfl

/-- Once the sources are written, each of them is there, and the LaTeX source has the name of the document. -/
theorem writeSources_eq_ok {path : Path}
    (h : writeSources engine root context options path files = (.ok written, after)) :
    written.source = path.child (context.name ++ ".tex") ∧ ∀ source ∈ written.paths, after.isFile source = true := by
  unfold writeSources at h
  split at h
  · cases h
  · rename_i sources hsources
    rw [← sources_name hsources]
    exact Sources.isFile_of_write h

/-! ## The whole -/

/-- A run whose directories are not ready is over. -/
theorem run_of_prepare_error {error : CompilationError} (h : prepare context options files = (.error error, prepared)) :
    run engine root context options typesetter files = { result := .error error, files := prepared } := by
  simp only [run, h]

/-- A run whose sources are not written discards its working directory. -/
theorem run_of_writeSources_error {error : CompilationError}
    (hp : prepare context options files = (.ok directory, prepared))
    (hw : writeSources engine root context options directory.path prepared = (.error error, after)) :
    run engine root context options typesetter files =
      { result := .error error, directory, files := directory.discard after } := by
  simp only [run, hp, hw]

/-- A compilation that cannot tell the directory of the input from the root fails with that, and what is temporary
goes. -/
theorem run_of_inputDir_error {error : FileError} (hp : prepare context options files = (.ok directory, prepared))
    (hdir : absoluteInputDir context prepared = .error error) :
    run engine root context options typesetter files =
      { result := .error (.file context.inputDir error), directory, files := directory.discard prepared } := by
  have hsources : Compilation.sources engine root context options prepared = .error (.file context.inputDir error) := by
    rw [Compilation.sources, hdir]
    rfl
  refine run_of_writeSources_error hp ?_
  simp only [writeSources, hsources]

/-- A run without a PDF ends with its working directory. -/
theorem run_of_sourcesOnly (hp : prepare context options files = (.ok directory, prepared))
    (hw : writeSources engine root context options directory.path prepared = (.ok written, after))
    (hpdf : options.pdf = false) :
    run engine root context options typesetter files =
      { result := .ok (some directory.path), directory, files := after } := by
  simp only [run, hp, hw, hpdf, Bool.false_eq_true, if_false]

/-- A run with a PDF ends as its typesetting does. -/
theorem run_of_typeset (hp : prepare context options files = (.ok directory, prepared))
    (hw : writeSources engine root context options directory.path prepared = (.ok written, after))
    (hpdf : options.pdf = true) :
    run engine root context options typesetter files =
      let report := typesetter.typeset (jobOf context options directory.path) context.outputDir after
      match report.result with
      | .ok pdf => { result := .ok (some pdf), directory, runs := report.runs, files := directory.discard report.files }
      | .error failure =>
        { result := .ok none, directory, runs := report.runs, failure := some failure, files := report.files } := by
  cases hresult : (typesetter.typeset (jobOf context options directory.path) context.outputDir after).result with
  | ok pdf => simp only [run, hp, hw, hpdf, if_true, hresult]
  | error failure => simp only [run, hp, hw, hpdf, if_true, hresult]

/-- Either the sources are not written, and the failure is the result; or they are, and it is no failure that is the
result. -/
theorem run_cases (engine : TemplateEngine) (root : Node) (context : CompilationContext) (options : Options)
    (files : FileSystem) :
    (∃ error directory after, ∀ typesetter,
      run engine root context options typesetter files = { result := .error error, directory, files := after }) ∨
      ∃ directory prepared written after, prepare context options files = (.ok directory, prepared) ∧
        writeSources engine root context options directory.path prepared = (.ok written, after) := by
  cases hp : prepare context options files with
  | mk result prepared =>
    cases result with
    | error error => exact Or.inl ⟨error, none, prepared, fun _ => run_of_prepare_error hp⟩
    | ok directory =>
      cases hw : writeSources engine root context options directory.path prepared with
      | mk result after =>
        cases result with
        | error error =>
          exact Or.inl ⟨error, some directory, directory.discard after, fun _ => run_of_writeSources_error hp hw⟩
        | ok written => exact Or.inr ⟨directory, prepared, written, after, rfl, hw⟩

/-- The processes of a run with a PDF are those of its typesetting. -/
theorem runs_of_typeset (hp : prepare context options files = (.ok directory, prepared))
    (hw : writeSources engine root context options directory.path prepared = (.ok written, after))
    (hpdf : options.pdf = true) :
    (run engine root context options typesetter files).runs =
      (typesetter.typeset (jobOf context options directory.path) context.outputDir after).runs := by
  rw [run_of_typeset hp hw hpdf]
  dsimp only
  split <;> rfl

/-- Without a PDF no compiler has a part in it, and the result is the directory for the sources. -/
theorem run_sourcesOnly (engine : TemplateEngine) (root : Node) (context : CompilationContext) (options : Options)
    (typesetter : Typesetter) (files : FileSystem) (hpdf : options.pdf = false) :
    (run engine root context options typesetter files).runs = [] ∧
      (∀ other, run engine root context options other files = run engine root context options typesetter files) ∧
      ∀ path, (run engine root context options typesetter files).result = .ok path →
        path = some (sourceDirectory context options) := by
  rcases run_cases engine root context options files with
    ⟨error, directory, after, herror⟩ | ⟨directory, prepared, written, after, hp, hw⟩
  · rw [herror]
    refine ⟨rfl, fun other => herror other, fun path h => ?_⟩
    cases h
  · rw [run_of_sourcesOnly hp hw hpdf]
    refine ⟨rfl, fun other => run_of_sourcesOnly hp hw hpdf, fun path h => ?_⟩
    cases h
    rcases prepareDirectory_eq_ok (prepare_eq_ok hp) with ⟨-, hpath⟩ | ⟨hpdf', -⟩
    · rw [hpath]
    · rw [hpdf] at hpdf'
      cases hpdf'

/-- At most one compiler is run: the first that can be, when all sources are there. -/
theorem run_runs (engine : TemplateEngine) (root : Node) (context : CompilationContext) (options : Options)
    (typesetter : Typesetter) (files : FileSystem) (hpdf : options.pdf = true) :
    (run engine root context options typesetter files).runs.length ≤ 1 ∧
      ∀ made ∈ (run engine root context options typesetter files).runs,
        (∃ compiler, typesetter.IsFirst made.position compiler made.before) ∧
        ∃ directory prepared written, prepare context options files = (.ok directory, prepared) ∧
          writeSources engine root context options directory.path prepared = (.ok written, made.before) ∧
          made.job = jobOf context options directory.path ∧
          ∀ source ∈ written.paths, made.before.isFile source = true := by
  rcases run_cases engine root context options files with
    ⟨error, directory, after, herror⟩ | ⟨directory, prepared, written, after, hp, hw⟩
  · rw [herror]
    refine ⟨Nat.zero_le 1, fun made hmade => ?_⟩
    cases hmade
  · rw [runs_of_typeset hp hw hpdf]
    rcases typesetter.typeset_cases (jobOf context options directory.path) context.outputDir after with
      ⟨error, hnone⟩ | ⟨position, compiler, hfirst, hruns, -⟩
    · rw [hnone]
      refine ⟨Nat.zero_le 1, fun made hmade => ?_⟩
      cases hmade
    · rw [hruns]
      refine ⟨Nat.le_refl 1, fun made hmade => ?_⟩
      rw [List.mem_singleton] at hmade
      subst hmade
      exact ⟨⟨compiler, hfirst⟩, directory, prepared, written, hp, hw, rfl, (writeSources_eq_ok hw).2⟩

/-- Once the sources are written there is no failure: the result is the PDF of the output directory, or none for
whatever reason. -/
theorem run_result (hp : prepare context options files = (.ok directory, prepared))
    (hw : writeSources engine root context options directory.path prepared = (.ok written, after)) :
    (∀ error, (run engine root context options typesetter files).result ≠ .error error) ∧
      (options.pdf = true →
        (∀ pdf, (typesetter.typeset (jobOf context options directory.path) context.outputDir after).result = .ok pdf →
          (run engine root context options typesetter files).result =
            .ok (some (context.outputDir.child (context.name ++ ".pdf")))) ∧
        ∀ failure,
          (typesetter.typeset (jobOf context options directory.path) context.outputDir after).result =
              .error failure →
            (run engine root context options typesetter files).result = .ok none) := by
  refine ⟨fun error => ?_, fun hpdf => ⟨fun pdf hresult => ?_, fun failure hresult => ?_⟩⟩
  · cases hpdf : options.pdf with
    | false =>
      rw [run_of_sourcesOnly hp hw hpdf]
      intro h
      cases h
    | true =>
      rw [run_of_typeset hp hw hpdf]
      dsimp only
      split
      · intro h
        cases h
      · intro h
        cases h
  · have hpath := Typesetter.typeset_ok hresult
    rw [run_of_typeset hp hw hpdf]
    simp only [hresult, hpath]
    rfl
  · rw [run_of_typeset hp hw hpdf]
    simp only [hresult]

/-- A failure is one without a compiler: with any others it is the same. -/
theorem run_error (engine : TemplateEngine) (root : Node) (context : CompilationContext) (options : Options)
    (typesetter : Typesetter) (files : FileSystem) {error : CompilationError}
    (h : (run engine root context options typesetter files).result = .error error) :
    (run engine root context options typesetter files).runs = [] ∧
      ∀ other, run engine root context options other files = run engine root context options typesetter files := by
  rcases run_cases engine root context options files with
    ⟨error, directory, after, herror⟩ | ⟨directory, prepared, written, after, hp, hw⟩
  · rw [herror]
    exact ⟨rfl, fun other => herror other⟩
  · exact absurd h ((run_result hp hw).1 error)

/-- A discarded temporary directory is gone. -/
theorem find?_discard {location : Location} (htemporary : directory.isTemporary = true) (hne : location ≠ [])
    (h : files.locate directory.path = .ok (location, .directory)) :
    (directory.discard files).find? location = none := by
  rw [WorkingDirectory.discard, if_pos htemporary]
  exact FileSystem.find?_removeTree h hne

/-- A temporary directory is new. Afterwards it is there, with the LaTeX source in it, when there is no PDF although
one is wanted, and nothing is there when the result is any other. -/
theorem run_temporary (engine : TemplateEngine) (root : Node)
    (spares : ∀ compiler ∈ typesetter.compilers, ∀ directory, compiler.Spares (jobOf context options directory))
    (hmade : prepareDirectory context options (makeDirectories context.outputDir files).2 = (.ok directory, prepared))
    (htemporary : directory.isTemporary = true) :
    ∃ location, files.find? location = none ∧ prepared.locate directory.path = .ok (location, .directory) ∧
      ((run engine root context options typesetter files).result = .ok none →
        (run engine root context options typesetter files).files.find? location = some .directory ∧
        (run engine root context options typesetter files).files.isFile
          (directory.path.child (context.name ++ ".tex")) = true) ∧
      ((run engine root context options typesetter files).result ≠ .ok none →
        (run engine root context options typesetter files).files.find? location = none) := by
  rcases prepareDirectory_eq_ok hmade with ⟨hfixed, -⟩ | ⟨hpdf, htemp⟩
  · rw [htemporary] at hfixed
    cases hfixed
  obtain ⟨-, habs, location, hne, hfree, hleads⟩ := makeTemporary_eq_ok htemp
  refine ⟨location, (keeps_makeDirectories context.outputDir files).find?_eq_none hfree, hleads, ?_⟩
  cases houtput : (makeDirectories context.outputDir files).1 with
  | error error =>
    rw [run_of_prepare_error (prepare_of_output_error houtput hmade)]
    refine ⟨fun h => ?_, fun _ => find?_discard htemporary hne hleads⟩
    cases h
  | ok u =>
    have hp : prepare context options files = (.ok directory, prepared) := by rw [prepare_of_output houtput, hmade]
    have keeps := keeps_writeSources engine root context options directory.path prepared
    cases hw : writeSources engine root context options directory.path prepared with
    | mk result after =>
      rw [hw] at keeps
      have hleads' := keeps.locate_directory hleads
      cases result with
      | error error =>
        rw [run_of_writeSources_error hp hw]
        refine ⟨fun h => ?_, fun _ => find?_discard htemporary hne hleads'⟩
        cases h
      | ok written =>
        obtain ⟨hsource, hfiles⟩ := writeSources_eq_ok hw
        have hthere := hfiles written.source List.mem_cons_self
        rw [hsource] at hthere
        have hspares : ∀ compiler ∈ typesetter.compilers, compiler.Spares (jobOf context options directory.path) :=
          fun compiler hmem => spares compiler hmem directory.path
        obtain ⟨hdir, htex⟩ := Typesetter.typeset_spares context.outputDir hspares habs hleads' hthere
        rw [run_of_typeset hp hw hpdf]
        dsimp only
        split
        · refine ⟨fun h => ?_, fun _ => find?_discard htemporary hne hdir⟩
          cases h
        · exact ⟨fun _ => ⟨(FileSystem.locate_eq_ok.1 hdir).2.2, htex⟩, fun h => absurd rfl h⟩

/-- The life of a compilation, whatever the engine makes of templates, and whatever the compilers do as long as they
spare the sources. Without a PDF no compiler is run, and the result is the directory for the sources. Else at most
one is run, the first that can be, when all sources are there. Once they are, the result is the PDF of the output
directory or none, and never a failure; a failure is one without a compiler. A temporary directory made for the
compilation is there afterwards, with the LaTeX source in it, exactly when the result is that there is no PDF. -/
theorem run_lifeCycle (engine : TemplateEngine) (root : Node) (context : CompilationContext) (options : Options)
    (typesetter : Typesetter) (files : FileSystem)
    (spares : ∀ compiler ∈ typesetter.compilers, ∀ directory, compiler.Spares (jobOf context options directory)) :
    let report := run engine root context options typesetter files
    (options.pdf = false →
      report.runs = [] ∧ (∀ other, run engine root context options other files = report) ∧
        ∀ path, report.result = .ok path → path = some (sourceDirectory context options)) ∧
    (options.pdf = true →
      report.runs.length ≤ 1 ∧
        ∀ made ∈ report.runs,
          (∃ compiler, typesetter.IsFirst made.position compiler made.before) ∧
          ∃ directory prepared written, prepare context options files = (.ok directory, prepared) ∧
            writeSources engine root context options directory.path prepared = (.ok written, made.before) ∧
            made.job = jobOf context options directory.path ∧
            ∀ source ∈ written.paths, made.before.isFile source = true) ∧
    (∀ directory prepared written after, prepare context options files = (.ok directory, prepared) →
      writeSources engine root context options directory.path prepared = (.ok written, after) →
      (∀ error, report.result ≠ .error error) ∧
        (options.pdf = true →
          let typeset := (typesetter.typeset (jobOf context options directory.path) context.outputDir after).result
          (∀ pdf, typeset = .ok pdf → report.result = .ok (some (context.outputDir.child (context.name ++ ".pdf")))) ∧
            ∀ failure, typeset = .error failure → report.result = .ok none)) ∧
    (∀ error, report.result = .error error →
      report.runs = [] ∧ ∀ other, run engine root context options other files = report) ∧
    (∀ directory prepared,
      prepareDirectory context options (makeDirectories context.outputDir files).2 = (.ok directory, prepared) →
      directory.isTemporary = true →
      ∃ location, files.find? location = none ∧ prepared.locate directory.path = .ok (location, .directory) ∧
        (report.result = .ok none →
          report.files.find? location = some .directory ∧
          report.files.isFile (directory.path.child (context.name ++ ".tex")) = true) ∧
        (report.result ≠ .ok none → report.files.find? location = none)) := by
  refine ⟨?_, ?_, ?_, ?_, ?_⟩
  · exact run_sourcesOnly engine root context options typesetter files
  · exact run_runs engine root context options typesetter files
  · intro directory prepared written after hp hw
    exact run_result hp hw
  · intro error herror
    exact run_error engine root context options typesetter files herror
  · intro directory prepared hmade htemporary
    exact run_temporary engine root spares hmade htemporary

/-! ## A compilation -/

/-- A compiler that cannot be run. -/
def absentCompiler : Compiler where
  name := "absent"
  isAvailable := fun _ => false
  run := fun _ files => (.ok (), files)

/-- A compiler that writes a PDF and nothing else. -/
def pdfWriter : Compiler where
  name := "writer"
  isAvailable := fun _ => true
  run := fun job files =>
    match files.write job.pdfPath (Utf8.encode "PDF".toList) with
    | .ok changed => (.ok (), changed)
    | .error error => (.error (.file error), files)

/-- The typesetter of the examples leaves the directories of the run alone. -/
theorem pdfWriter_spares (job : Job) : pdfWriter.Spares job := by
  have keeps : ∀ files, Keeps files (pdfWriter.run job files).2 := by
    intro files
    unfold pdfWriter
    dsimp only
    split
    · rename_i h
      exact FileSystem.keeps_write h
    · exact Keeps.refl files
  exact ⟨fun files h => (keeps files).isDirectory h, fun files h => (keeps files).isFile h⟩

/-- A letter next to a template package with one word as its template. -/
def letterFiles : FileSystem where
  entries :=
    [(["in"], .directory), (["in", "plain"], .directory),
      (["in", "plain", "template.toml"], .file (Utf8.encode "template = 'plain.tex'".toList) false),
      (["in", "plain", "plain.tex"], .file (Utf8.encode "Hello".toList) false)]
  workingDirectory := []

def letterContext : CompilationContext :=
  .ofInput ⟨"/in/letter.json"⟩ ⟨"/out"⟩ ⟨"/tmp"⟩

def letterOptions : Options := { template := "plain" }

def letterCompilers : Typesetter := ⟨[absentCompiler, pdfWriter]⟩

/-- The second compiler makes the PDF of a letter, and the temporary directory is gone. -/
theorem run_lifeCycle_letter :
    (∀ compiler ∈ letterCompilers.compilers, ∀ directory,
      compiler.Spares (jobOf letterContext letterOptions directory)) ∧
      (run Template.engine default letterContext letterOptions letterCompilers letterFiles).runs.map
        (·.position) = [1] ∧
      ∃ directory prepared location,
        prepareDirectory letterContext letterOptions
          (makeDirectories letterContext.outputDir letterFiles).2 = (.ok directory, prepared) ∧
        prepared.locate directory.path = .ok (location, .directory) ∧
        (run Template.engine default letterContext letterOptions letterCompilers letterFiles).files.find? location =
          none := by
  have spares : ∀ compiler ∈ letterCompilers.compilers, ∀ directory,
      compiler.Spares (jobOf letterContext letterOptions directory) := by
    intro compiler hmem directory
    rcases List.mem_cons.1 hmem with rfl | hmem
    · exact ⟨fun files h => h, fun files h => h⟩
    · rw [List.mem_singleton.1 hmem]
      exact pdfWriter_spares _
  have hresult :
      (run Template.engine default letterContext letterOptions letterCompilers letterFiles).result.toOption.map
        (·.isSome) = some true := by
    decide +kernel
  refine ⟨spares, by decide +kernel, ?_⟩
  obtain ⟨-, -, -, -, htemp⟩ :=
    run_lifeCycle Template.engine default letterContext letterOptions letterCompilers letterFiles spares
  have hdir :
      (prepareDirectory letterContext letterOptions
        (makeDirectories letterContext.outputDir letterFiles).2).1.toOption.map
      (·.isTemporary) = some true := by
    decide +kernel
  cases hmade : prepareDirectory letterContext letterOptions
      (makeDirectories letterContext.outputDir letterFiles).2 with
  | mk result prepared =>
    rw [hmade] at hdir
    cases result with
    | error error => cases hdir
    | ok directory =>
      obtain ⟨location, -, hleads, -, hgone⟩ := htemp directory prepared hmade (Option.some.inj hdir)
      refine ⟨directory, prepared, location, rfl, hleads, hgone (fun hnone => ?_)⟩
      rw [hnone] at hresult
      cases hresult

end Compilation

end Manuscript
