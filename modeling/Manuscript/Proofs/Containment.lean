import Manuscript.Proofs.SourceFiles

/-!
# Where a compilation writes

A compilation makes directories, writes the sources directly into its working directory, and copies the PDF directly
into the output directory, each under a name of its own without slashes (`run_writes_only`). Whatever the input is
called and whatever a package lists, it writes no file elsewhere; what else there is afterwards was there before or
comes from a compiler. The name of a document need not be a file name by itself (`name_of_dots`), but it is one with
each of the extensions that it is given.
-/

namespace Manuscript

namespace FileSystem

variable {before middle after files changed : FileSystem} {path : Path} {places others : Location → Prop}

/-- Every file that stands after stood before, as it is, but for those at some places. -/
def WritesOnly (places : Location → Prop) (before after : FileSystem) : Prop :=
  ∀ location bytes executable, after.find? location = some (.file bytes executable) →
    places location ∨ before.find? location = some (.file bytes executable)

namespace WritesOnly

theorem refl (places : Location → Prop) (files : FileSystem) : WritesOnly places files files :=
  fun _ _ _ h => Or.inr h

theorem trans (first : WritesOnly places before middle) (second : WritesOnly places middle after) :
    WritesOnly places before after :=
  fun location bytes executable h => (second location bytes executable h).elim Or.inl (first location bytes executable)

end WritesOnly

/-- Writing at some places is no more than a change there. -/
theorem Overwrites.writesOnly (h : Overwrites places before after) : WritesOnly places before after := by
  intro location bytes executable hfile
  by_cases hplace : places location
  · exact Or.inl hplace
  · exact Or.inr (h.elsewhere location hplace ▸ hfile)

/-- Making a directory writes no file. -/
theorem writesOnly_makeDirectory (h : files.makeDirectory path = .ok changed) :
    WritesOnly (fun _ => False) files changed := by
  obtain ⟨directory, name, -, -, -, -, rfl⟩ := makeDirectory_eq_ok h
  intro location bytes executable hfile
  rw [find?_put files _ location _ (by simp)] at hfile
  split at hfile
  · cases hfile
  · exact Or.inr hfile

/-- Making a directory with those above it writes no file. -/
theorem writesOnly_makeDirectories (files : FileSystem) (path : Path) :
    WritesOnly (fun _ => False) files (files.makeDirectories path).2 :=
  makeDirectories_rel (WritesOnly.refl _) WritesOnly.trans writesOnly_makeDirectory files path

/-- Removing a directory writes nothing. -/
theorem writesOnly_removeTree (files : FileSystem) (path : Path) : WritesOnly places files (files.removeTree path) := by
  intro location bytes executable hfile
  unfold removeTree at hfile
  split at hfile
  · rename_i directory _
    refine Or.inr ?_
    cases hbelow : directory.isPrefixOf location with
    | false => rwa [find?_eraseTree files directory location hbelow] at hfile
    | true =>
      by_cases hroot : location = []
      · rw [hroot] at hfile
        cases hfile
      · rw [find?_eraseTree_of_isPrefixOf files directory location hbelow hroot] at hfile
        cases hfile
  · exact Or.inr hfile

end FileSystem

open FileSystem (WritesOnly Overwrites)

/-- A PDF is delivered directly into the output directory, under the name of the job. -/
theorem Typesetter.overwrites_deliver (job : Typeset.Job) (hname : '/' ∉ job.name.toList) (directory : Path)
    (files : FileSystem) :
    Overwrites (files.ChildOf directory (job.name ++ ".pdf")) files (deliver job directory files).2 := by
  unfold deliver
  dsimp only
  split
  · exact Overwrites.refl _ files
  · exact Overwrites.refl _ files
  · split
    · exact Overwrites.refl _ files
    · split
      · rename_i copied hcopy
        exact FileSystem.overwrites_copy (Path.isFileName_append hname (by decide) (by decide)) hcopy
      · exact Overwrites.refl _ files

namespace Compilation

variable {engine : TemplateEngine} {root : Node} {context : CompilationContext} {options : Options}
  {typesetter : Typesetter} {directory : WorkingDirectory} {files prepared after : FileSystem}

/-! ## Directories -/

/-- Discarding a directory writes no file. -/
theorem writesOnly_discard {places : Location → Prop} (directory : WorkingDirectory) (files : FileSystem) :
    WritesOnly places files (directory.discard files) := by
  unfold WorkingDirectory.discard
  split
  · exact FileSystem.writesOnly_removeTree files directory.path
  · exact WritesOnly.refl _ files

/-- Making one candidate for a temporary directory writes no file. -/
theorem writesOnly_makeChild (parent : Path) (name : String) (files : FileSystem) :
    WritesOnly (fun _ => False) files (makeChild parent name files).2 := by
  unfold makeChild
  split
  · rename_i changed hmade
    exact FileSystem.writesOnly_makeDirectory hmade
  · exact WritesOnly.refl _ files

/-- Trying the candidates in turn writes no file. -/
theorem writesOnly_makeFresh (attempts : Nat) (parent : Path) (name : String) (files : FileSystem) :
    WritesOnly (fun _ => False) files (makeFresh attempts parent name files).2 := by
  induction attempts generalizing name with
  | zero => exact writesOnly_makeChild parent name files
  | succ attempts ih =>
    unfold makeFresh unlessTaken
    split
    · rename_i tried htried
      rw [makeChild_eq_error htried]
      exact ih _
    · exact writesOnly_makeChild parent name files

/-- Making the temporary directory writes no file. -/
theorem writesOnly_makeTemporary (context : CompilationContext) (files : FileSystem) :
    WritesOnly (fun _ => False) files (makeTemporary context files).2 := by
  have hparents : WritesOnly (fun _ => False) files (makeDirectories context.tempDir files).2 :=
    FileSystem.writesOnly_makeDirectories files context.tempDir
  unfold makeTemporary
  split
  · rename_i error made hmade
    rw [hmade] at hparents
    exact hparents
  · rename_i made hmade
    rw [hmade] at hparents
    exact hparents.trans (writesOnly_makeFresh _ _ _ made)

/-- Making the working directory writes no file. -/
theorem writesOnly_prepareDirectory (context : CompilationContext) (options : Options) (files : FileSystem) :
    WritesOnly (fun _ => False) files (prepareDirectory context options files).2 := by
  unfold prepareDirectory
  split
  · exact FileSystem.writesOnly_makeDirectories files _
  · split
    · exact writesOnly_makeTemporary context files
    · exact WritesOnly.refl _ files

/-- Before the sources are written, directories are made and no files. -/
theorem writesOnly_prepare (context : CompilationContext) (options : Options) (files : FileSystem) :
    WritesOnly (fun _ => False) files (prepare context options files).2 := by
  have hboth : WritesOnly (fun _ => False) files
      (prepareDirectory context options (makeDirectories context.outputDir files).2).2 :=
    (FileSystem.writesOnly_makeDirectories files context.outputDir).trans
      (writesOnly_prepareDirectory context options _)
  unfold prepare
  dsimp only
  split
  · exact hboth
  · exact hboth.trans (writesOnly_discard _ _)
  · exact hboth

/-! ## Sources and PDF -/

/-- The sources of a document have file names. -/
theorem named_of_sources {sources : Sources} (h : Compilation.sources engine root context options files = .ok sources) :
    sources.Named := by
  obtain ⟨text, package, rfl⟩ := sources_eq_ok h
  refine ⟨context.name_spec.2, fun b hb => ?_⟩
  unfold bibliography at hb
  split at hb
  · rename_i file citations hfile hcitations
    cases hb
    obtain ⟨cited, -, rfl⟩ := Option.map_eq_some_iff.1 hfile
    rfl
  · cases hb

/-- The sources are written in their directory, under file names, or nothing is written. -/
theorem writesOnly_writeSources (engine : TemplateEngine) (root : Node) (context : CompilationContext)
    (options : Options) (directory : Path) (files : FileSystem) :
    (writeSources engine root context options directory files).2 = files ∨
      ∃ sources, Compilation.sources engine root context options files = .ok sources ∧
        (∀ name ∈ sources.fileNames, Path.IsFileName name) ∧
          WritesOnly (files.ChildrenOf directory sources.fileNames) files
            (writeSources engine root context options directory files).2 := by
  unfold writeSources
  split
  · exact Or.inl rfl
  · rename_i sources hsources
    have hnamed := named_of_sources hsources
    exact Or.inr ⟨sources, hsources, hnamed.isFileName, (hnamed.overwrites_write directory files).writesOnly⟩

/-- After the compiler only the delivery writes. -/
theorem writesOnly_typeset (typesetter : Typesetter) (job : Typeset.Job) (hname : '/' ∉ job.name.toList)
    (directory : Path) (files : FileSystem) :
    WritesOnly ((typesetter.compile job files).files.ChildOf directory (job.name ++ ".pdf"))
      (typesetter.compile job files).files
      (typesetter.typeset job directory files).files := by
  unfold Typesetter.typeset
  dsimp only
  split
  · exact WritesOnly.refl _ _
  · exact (Typesetter.overwrites_deliver job hname directory _).writesOnly

/-! ## The whole -/

/-- Where a compilation writes. The name of the document is a single one, not empty and without slashes, and a file
name with each extension. By itself it is a file name too, unless the input is called by two or three dots with an
ending without dots behind them, as `..json` is. The names of auxiliary files are file names. From the files before
to those after there are four steps. In the first only directories are made. In the second the sources are written,
directly into the working directory. The third is that of a compiler, if one runs. In the last the PDF is written
directly into the output directory, and what was temporary goes. -/
theorem run_writes_only (engine : TemplateEngine) (root : Node) (context : CompilationContext) (options : Options)
    (typesetter : Typesetter) (files : FileSystem) :
    let report := run engine root context options typesetter files
    (context.name ≠ "" ∧ '/' ∉ context.name.toList ∧ (⟨context.name⟩ : Path).components.length = 1 ∧
        (∀ extension ∈ [".tex", ".bib", ".pdf"], Path.IsFileName (context.name ++ extension)) ∧
        (Path.IsFileName context.name ↔
          ∀ file ∈ context.inputPath.fileName?, ∀ ending : String, '.' ∉ ending.toList →
            file ≠ ".." ++ ending ∧ file ≠ "..." ++ ending)) ∧
      (∀ (package : Package), ∀ a ∈ package.auxiliaryFiles, Path.IsFileName a.2) ∧
      ∃ prepared written compiled,
        WritesOnly (fun _ => False) files prepared ∧
          (written = prepared ∨
            ∃ directory sources, report.directory = some directory ∧
              Compilation.sources engine root context options prepared = .ok sources ∧
                (∀ name ∈ sources.fileNames, Path.IsFileName name) ∧
                  WritesOnly (prepared.ChildrenOf directory.path sources.fileNames) prepared written) ∧
          (compiled = written ∨
            ∃ directory, report.directory = some directory ∧
              compiled = (typesetter.compile (jobOf context options directory.path) written).files) ∧
          WritesOnly (compiled.ChildOf context.outputDir (context.name ++ ".pdf")) compiled report.files := by
  intro report
  obtain ⟨hne, hslash⟩ := context.name_spec
  refine ⟨⟨hne, hslash, Path.length_components_of_noSlash hslash hne, ?_, context.isFileName_name_iff⟩, ?_, ?_⟩
  · intro extension hextension
    have hall : ∀ extension ∈ [".tex", ".bib", ".pdf"], '/' ∉ extension.toList ∧ 2 < extension.length := by decide
    exact Path.isFileName_append hslash (hall extension hextension).1 (hall extension hextension).2
  · exact fun package a ha => Path.isFileName_of_fileName? (Package.mem_auxiliaryFiles ha)
  · subst report
    have hprepare := writesOnly_prepare context options files
    cases hp : prepare context options files with
    | mk result prepared =>
      rw [hp] at hprepare
      cases result with
      | error error =>
        rw [run_of_prepare_error hp]
        exact ⟨prepared, prepared, prepared, hprepare, Or.inl rfl, Or.inl rfl, WritesOnly.refl _ prepared⟩
      | ok directory =>
        have hwrite := writesOnly_writeSources engine root context options directory.path prepared
        cases hw : writeSources engine root context options directory.path prepared with
        | mk result written =>
          rw [hw] at hwrite
          have hsecond : written = prepared ∨
              ∃ other sources, some directory = some other ∧
                Compilation.sources engine root context options prepared = .ok sources ∧
                (∀ name ∈ sources.fileNames, Path.IsFileName name) ∧
                  WritesOnly (prepared.ChildrenOf other.path sources.fileNames) prepared written := by
            rcases hwrite with hsame | ⟨sources, hsources⟩
            · exact Or.inl hsame
            · exact Or.inr ⟨directory, sources, rfl, hsources⟩
          cases result with
          | error error =>
            rw [run_of_writeSources_error hp hw]
            exact ⟨prepared, written, written, hprepare, hsecond, Or.inl rfl, writesOnly_discard directory written⟩
          | ok paths =>
            cases hpdf : options.pdf with
            | false =>
              rw [run_of_sourcesOnly hp hw hpdf]
              exact ⟨prepared, written, written, hprepare, hsecond, Or.inl rfl, WritesOnly.refl _ written⟩
            | true =>
              have hlast := writesOnly_typeset typesetter (jobOf context options directory.path) hslash
                context.outputDir written
              rw [run_of_typeset hp hw hpdf]
              dsimp only
              refine ⟨prepared, written, (typesetter.compile (jobOf context options directory.path) written).files,
                hprepare, ?_, Or.inr ⟨directory, ?_, rfl⟩, ?_⟩
              · split
                · exact hsecond
                · exact hsecond
              · split <;> rfl
              · split
                · exact hlast.trans (writesOnly_discard directory _)
                · exact hlast

/-- The context of a document whose name is two dots. -/
def dotsContext : CompilationContext :=
  .ofInput ⟨"/docs/...json"⟩ ⟨"/out"⟩ ⟨"/tmp"⟩

/-- The name of such a document is the directory above, which no file can be called. -/
theorem name_of_dots : dotsContext.name = ".." ∧ ¬Path.IsFileName dotsContext.name := by
  decide +kernel

/-- A package whose manifest points out of it. -/
def strayPackage : Package where
  directory := ⟨"/in/plain"⟩
  manifest := { template := "plain.tex", files := ["../../etc//logo.png/.", "/etc/cls", "a/.."] }

/-- The PDF of a letter has a file name, and so have the files of a package that points out of itself. -/
theorem letter_writes_only :
    Path.IsFileName (letterContext.name ++ ".pdf") ∧
      strayPackage.auxiliaryFiles = [(⟨"/in/plain/../../etc//logo.png/."⟩, "logo.png"), (⟨"/etc/cls"⟩, "cls")] ∧
        Path.IsFileName "logo.png" := by
  obtain ⟨⟨-, -, -, hname, -⟩, hauxiliary, -⟩ :=
    run_writes_only Template.engine default letterContext letterOptions letterCompilers letterFiles
  have hfiles : strayPackage.auxiliaryFiles =
      [(⟨"/in/plain/../../etc//logo.png/."⟩, "logo.png"), (⟨"/etc/cls"⟩, "cls")] := by
    decide +kernel
  refine ⟨hname ".pdf" (by decide), hfiles, ?_⟩
  exact hauxiliary strayPackage (⟨"/in/plain/../../etc//logo.png/."⟩, "logo.png") (hfiles ▸ List.mem_cons_self)

end Compilation

end Manuscript
