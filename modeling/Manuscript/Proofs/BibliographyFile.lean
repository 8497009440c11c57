import Manuscript.Proofs.Containment

/-!
# The bibliography of a compilation

Whether there is something to cite is decided in several places: for the template, for the files that are written,
for their text and for the compiler. All of them say yes when some entry of the bibliography has a character that is
not blank, and no otherwise (`bibliography_agrees`). Each entry adds its own text to the file, whatever comes before
it or after it (`bibliographyText_append`).
-/

namespace Manuscript

/-! ## The text -/

namespace Citations

/-- Whether something can be cited: an entry of the bibliography has a character that is not blank. -/
def Cites (citations : Citations) : Prop :=
  ∃ entry ∈ citations.bibliography, ∃ c ∈ entry.toList, Text.isBlank c = false

/-- A string is not blank when one of its characters is not. -/
theorem isBlankString_eq_false_iff {s : String} : isBlankString s = false ↔ ∃ c ∈ s.toList, Text.isBlank c = false := by
  rw [isBlankString, Text.allBlank, List.all_eq_false]
  simp

/-- There is a bibliography when an entry that is not blank is given. -/
theorem hasBibliography_iff {citations : Citations} : citations.hasBibliography = true ↔ citations.Cites := by
  rw [hasBibliography, List.any_eq_true, Cites]
  simp only [Bool.not_eq_true', isBlankString_eq_false_iff]

/-- What an entry adds to the file. -/
def entryText (entry : String) : List Char :=
  Bibtex.escape (Text.trim entry.toList)

/-- The text of the file holds the entries that are not blank, each trimmed and escaped by itself, with a blank line
between one and the next. -/
theorem bibliographyText_eq (citations : Citations) :
    citations.bibliographyText =
      Text.joinWith ['\n', '\n'] ((citations.bibliography.filter (fun entry => !isBlankString entry)).map entryText) ++
      ['\n'] := by
  have hblank : ∀ entry : String, (Text.trim entry.toList).isEmpty = isBlankString entry := by
    intro entry
    rw [Bool.eq_iff_iff, List.isEmpty_iff, Text.trim_eq_nil_iff]
    rfl
  rw [bibliographyText, entries, List.filter_map, List.map_map]
  simp only [Function.comp_def, hblank]
  rfl

/-- Where something is cited there is an entry to write. -/
theorem entryTexts_ne_nil {citations : Citations} (h : citations.Cites) :
    (citations.bibliography.filter (fun entry => !isBlankString entry)).map entryText ≠ [] := by
  obtain ⟨entry, hentry, hc⟩ := h
  rw [ne_eq, List.map_eq_nil_iff, List.filter_eq_nil_iff]
  intro hall
  refine hall entry hentry ?_
  rw [isBlankString_eq_false_iff.2 hc]
  rfl

/-- The text of two lists of entries is that of each, with an empty line between them: no entry has a part in how
another is set. -/
theorem bibliographyText_append {references : List Reference} {before behind : List String}
    (hbefore : Cites ⟨references, before⟩) (hbehind : Cites ⟨references, behind⟩) :
    bibliographyText ⟨references, before ++ behind⟩ =
      bibliographyText ⟨references, before⟩ ++ '\n' :: bibliographyText ⟨references, behind⟩ := by
  simp only [bibliographyText_eq, List.filter_append, List.map_append]
  rw [Text.joinWith_append _ (entryTexts_ne_nil hbefore) (entryTexts_ne_nil hbehind)]
  simp

/-- A blank entry adds nothing. -/
theorem bibliographyText_blank {references : List Reference} (before behind : List String) {entry : String}
    (hentry : isBlankString entry = true) :
    bibliographyText ⟨references, before ++ entry :: behind⟩ = bibliographyText ⟨references, before ++ behind⟩ := by
  simp only [bibliographyText_eq, List.filter_append, List.filter_cons, hentry, Bool.not_true, Bool.false_eq_true,
    if_false]

/-- There is a bibliography file when something can be cited, and it is called after the document. -/
theorem bibliographyFile_eq_some_iff {name file : String} {citations : Option Citations} :
    bibliographyFile name citations = some file ↔ (∃ c ∈ citations, c.Cites) ∧ file = name ++ ".bib" := by
  rw [bibliographyFile, Option.map_eq_some_iff]
  constructor
  · rintro ⟨c, hc, rfl⟩
    obtain ⟨hmem, hcites⟩ := Option.filter_eq_some_iff.1 hc
    exact ⟨⟨c, hmem, hasBibliography_iff.1 hcites⟩, rfl⟩
  · rintro ⟨⟨c, hc, hcites⟩, rfl⟩
    exact ⟨c, Option.filter_eq_some_iff.2 ⟨hc, hasBibliography_iff.2 hcites⟩, rfl⟩

/-- The file is named exactly if something is cited. -/
theorem isSome_bibliographyFile {name : String} {citations : Option Citations} :
    (bibliographyFile name citations).isSome = true ↔ ∃ c ∈ citations, c.Cites := by
  rw [Option.isSome_iff_exists]
  simp only [bibliographyFile_eq_some_iff, exists_and_left, exists_eq, and_true]

end Citations

namespace Compilation

variable {engine : TemplateEngine} {root : Node} {context : CompilationContext} {options : Options}
  {directory : WorkingDirectory} {files prepared after : FileSystem} {written : Sources.Written} {sources : Sources}

/-- The file that is written, with its name and its text. -/
theorem bibliography_eq_some_iff {b : String × List Char} :
    bibliography context = some b ↔ ∃ c ∈ context.citations, c.Cites ∧
    b = (context.name ++ ".bib", c.bibliographyText) := by
  rw [bibliography]
  constructor
  · intro h
    split at h
    · rename_i file c hfile hc
      obtain ⟨⟨_, hc', hcites⟩, rfl⟩ := Citations.bibliographyFile_eq_some_iff.1 hfile
      rw [hc] at hc'
      cases hc'
      cases h
      exact ⟨c, hc, hcites, rfl⟩
    · cases h
  · rintro ⟨c, hc, hcites, rfl⟩
    rw [Citations.bibliographyFile_eq_some_iff.2 ⟨⟨c, hc, hcites⟩, rfl⟩, hc]

/-- A bibliography is written exactly if something is cited. -/
theorem isSome_bibliography : (bibliography context).isSome = true ↔ ∃ c ∈ context.citations, c.Cites := by
  rw [Option.isSome_iff_exists]
  constructor
  · rintro ⟨b, hb⟩
    obtain ⟨c, hc, hcites, -⟩ := bibliography_eq_some_iff.1 hb
    exact ⟨c, hc, hcites⟩
  · rintro ⟨c, hc, hcites⟩
    exact ⟨_, bibliography_eq_some_iff.2 ⟨c, hc, hcites, rfl⟩⟩

/-! ## The files -/

/-- The bibliography has a place among the sources when something can be cited, provided that no auxiliary file
takes its name. -/
theorem mem_fileNames_iff (hsources : Compilation.sources engine root context options files = .ok sources)
    (hown : context.name ++ ".bib" ∉ sources.package.auxiliaryFiles.map (·.2)) :
    context.name ++ ".bib" ∈ sources.fileNames ↔ ∃ c ∈ context.citations, c.Cites := by
  obtain ⟨-, -, -, -, -, -, hname, hbibliography⟩ := rendered_of_sources hsources
  have hnamed := named_of_sources hsources
  rw [← isSome_bibliography, ← hbibliography, Sources.fileNames, ← hname]
  cases hb : sources.bibliography with
  | none =>
    rw [← hname] at hown
    exact iff_of_false (List.not_mem_cons_of_ne_of_not_mem (Sources.tex_ne_bib sources.name).symm hown)
      Bool.false_ne_true
  | some b =>
    rw [← hnamed.bibliography b hb]
    exact iff_of_true (List.mem_cons_of_mem _ List.mem_cons_self) rfl

/-- Where nothing can be cited, what stands at the place of the bibliography stays as it is. -/
theorem find?_of_not_cites (hsources : Compilation.sources engine root context options files = .ok sources)
    (hown : context.name ++ ".bib" ∉ sources.package.auxiliaryFiles.map (·.2))
    (hcites : ¬∃ c ∈ context.citations, c.Cites)
    {path : Path} (h : sources.WritesTo path files after) {location : Location}
    (hplace : files.ChildOf path (context.name ++ ".bib") location) :
    after.find? location = files.find? location := by
  refine ((named_of_sources hsources).overwrites_writesTo h).elsewhere location (hplace.not_childrenOf ?_)
  rwa [mem_fileNames_iff hsources hown]

/-- Where something can be cited, the bibliography file is there with its text, in whatever order the sources are
written. -/
theorem read_of_cites (hsources : Compilation.sources engine root context options files = .ok sources)
    (hown : context.name ++ ".bib" ∉ sources.package.auxiliaryFiles.map (·.2)) {c : Citations}
    (hc : c ∈ context.citations) (hcites : c.Cites) {path : Path} (h : sources.WritesTo path files after) :
    after.read (path.child (context.name ++ ".bib")) = .ok (Utf8.encode c.bibliographyText) := by
  obtain ⟨-, -, -, -, -, -, -, hbibliography⟩ := rendered_of_sources hsources
  have hb := bibliography_eq_some_iff.2 ⟨c, hc, hcites, rfl⟩
  rw [← hbibliography] at hb
  have hread := (named_of_sources hsources).read_bibliography h hb hown
  exact hread

/-- What is written is what the sources are, and the bibliography is said to be where it was written. -/
theorem sources_of_writeSources {path : Path}
    (hw : writeSources engine root context options path files = (.ok written, after)) :
    ∃ sources, Compilation.sources engine root context options files = .ok sources ∧ sources.WritesTo path files after ∧
      written.bibliography = (bibliography context).map (fun b => path.child b.1) := by
  unfold writeSources at hw
  split at hw
  · cases hw
  · rename_i sources hsources
    obtain ⟨-, -, -, -, -, -, -, hbibliography⟩ := rendered_of_sources hsources
    have hok : (sources.write path files).1.isOk = true := by
      rw [hw]
      rfl
    have hwritten := Sources.writesTo_of_write hok
    rw [hw] at hwritten
    refine ⟨sources, hsources, hwritten, ?_⟩
    rw [← hbibliography, Sources.bibliography_of_write hw]
    rfl

/-- Each run of a compiler is for the job of the compilation. -/
theorem job_of_mem_runs {typesetter : Typesetter} (hp : prepare context options files = (.ok directory, prepared))
    {made : Typeset.Run} (hmade : made ∈ (run engine root context options typesetter files).runs) :
    made.job = jobOf context options directory.path := by
  cases hpdf : options.pdf with
  | false =>
    rw [(run_sourcesOnly engine root context options typesetter files hpdf).1] at hmade
    cases hmade
  | true =>
    obtain ⟨-, other, prepared', written, hp', -, hjob, -⟩ :=
      (run_runs engine root context options typesetter files hpdf).2 made hmade
    rw [hp] at hp'
    cases hp'
    exact hjob

/-! ## The whole -/

/-- The decisions of one compilation about its bibliography agree, whatever the engine makes of templates, provided
that no auxiliary file of its package takes the name of the bibliography file. The file is among those that are
written, the data that the engine renders the template for has a name for it, and the compiler is asked to see to
it, exactly when some entry has a character that is not blank. Then the file stands in the working directory under
the name that the template sees, in whatever order the sources are written, with the entries that are not blank,
each trimmed and escaped by itself, an empty line between one and the next and an end of line behind the last.
Otherwise nothing changes at its place. What an entry adds does not hang on the others: two lists of entries make
the texts of each, and a blank entry makes none. -/
theorem bibliography_agrees (hp : prepare context options files = (.ok directory, prepared))
    (hw : writeSources engine root context options directory.path prepared = (.ok written, after))
    (hown : ∀ inputDir package, absoluteInputDir context prepared = .ok inputDir →
      (libraryOf context options).find prepared options.template inputDir = .ok package →
        context.name ++ ".bib" ∉ package.auxiliaryFiles.map (·.2)) :
    let file := context.name ++ ".bib"
    let cites := ∃ c ∈ context.citations, c.Cites
    ∃ inputDir sources template, absoluteInputDir context prepared = .ok inputDir ∧
      let data := templateData root context options inputDir
      (Compilation.sources engine root context options prepared = .ok sources ∧
        sources.WritesTo directory.path prepared after ∧
        (libraryOf context options).find prepared options.template inputDir = .ok sources.package ∧
        readTemplate engine options sources.package prepared = .ok template ∧
        engine.render template data.toValue = .ok sources.text) ∧
      ((file ∈ sources.fileNames ↔ cites) ∧ (written.bibliography.isSome = true ↔ cites) ∧
        (data.bibliography.isSome = true ↔ cites) ∧
        ((jobOf context options directory.path).bibliography = true ↔ cites) ∧
        ∀ typesetter, ∀ made ∈ (run engine root context options typesetter files).runs,
          made.job.bibliography = true ↔ cites) ∧
      (∀ c ∈ context.citations, c.Cites →
        data.bibliography = some file ∧ written.bibliography = some (directory.path.child file) ∧
          c.bibliographyText =
            Text.joinWith ['\n', '\n']
              ((c.bibliography.filter (fun entry => !isBlankString entry)).map Citations.entryText) ++ ['\n'] ∧
          ∀ final, sources.WritesTo directory.path prepared final →
            final.read (directory.path.child file) = .ok (Utf8.encode c.bibliographyText)) ∧
      (¬cites → ∀ final, sources.WritesTo directory.path prepared final →
        ∀ location, prepared.ChildOf directory.path file location → final.find? location = prepared.find? location) ∧
      (∀ references before behind, Citations.Cites ⟨references, before⟩ → Citations.Cites ⟨references, behind⟩ →
        Citations.bibliographyText ⟨references, before ++ behind⟩ =
          Citations.bibliographyText ⟨references, before⟩ ++
            '\n' :: Citations.bibliographyText ⟨references, behind⟩) ∧
      ∀ references before behind entry, isBlankString entry = true →
        Citations.bibliographyText ⟨references, before ++ entry :: behind⟩ =
          Citations.bibliographyText ⟨references, before ++ behind⟩ := by
  intro file cites
  obtain ⟨sources, hsources, hwritten, hplace⟩ := sources_of_writeSources hw
  obtain ⟨inputDir, template, hinput, hpackage, htemplate, hrendered, -⟩ := rendered_of_sources hsources
  refine ⟨inputDir, sources, template, hinput, ?_⟩
  intro data
  have hown := hown inputDir sources.package hinput hpackage
  have hjob : (jobOf context options directory.path).bibliography = true ↔ cites := Citations.isSome_bibliographyFile
  have hdata : data.bibliography.isSome = true ↔ cites := Citations.isSome_bibliographyFile
  refine ⟨⟨hsources, hwritten, hpackage, htemplate, hrendered⟩,
    ⟨mem_fileNames_iff hsources hown, ?_, hdata, hjob, ?_⟩, ?_, ?_,
    fun _ _ _ => Citations.bibliographyText_append,
    fun _ before behind _ => Citations.bibliographyText_blank before behind⟩
  · rw [hplace, Option.isSome_map, isSome_bibliography]
  · intro typesetter made hmade
    rw [job_of_mem_runs hp hmade]
    exact hjob
  · intro c hc hcites
    refine ⟨Citations.bibliographyFile_eq_some_iff.2 ⟨⟨c, hc, hcites⟩, rfl⟩, ?_, c.bibliographyText_eq,
      fun final h => ?_⟩
    · rw [hplace, bibliography_eq_some_iff.2 ⟨c, hc, hcites, rfl⟩]
      rfl
    · exact read_of_cites hsources hown hc hcites h
  · intro hcites final h location hlocation
    exact find?_of_not_cites hsources hown hcites h hlocation

/-- A book, with a blank entry before it. -/
def citedBook : Citations where
  bibliography := [" ", "@book\x7bcat, title = \x7bCats & dogs\x7d\x7d\n"]

def citingContext : CompilationContext :=
  { letterContext with citations := some citedBook }

/-- The letter has its bibliography file, with the book alone in it. -/
theorem letter_bibliography :
    ∃ directory prepared written after, prepare citingContext letterOptions letterFiles = (.ok directory, prepared) ∧
      writeSources Template.engine default citingContext letterOptions directory.path prepared = (.ok written, after) ∧
      after.read (directory.path.child "letter.bib") =
        .ok (Utf8.encode "@book\x7bcat, title = \x7bCats \\& dogs\x7d\x7d\n".toList) := by
  have hresult :
      (run Template.engine default citingContext letterOptions letterCompilers letterFiles).result.toOption.isSome =
        true := by
    decide +kernel
  have hfree :
      let prepared := (prepare citingContext letterOptions letterFiles).2
      ((absoluteInputDir citingContext prepared).toOption.bind (fun inputDir =>
        ((libraryOf citingContext letterOptions).find prepared letterOptions.template inputDir).toOption)).all
        (fun package => !(package.auxiliaryFiles.map (·.2)).contains (citingContext.name ++ ".bib")) = true := by
    decide +kernel
  rcases run_cases Template.engine default citingContext letterOptions letterFiles with
    ⟨error, directory, after, herror⟩ | ⟨directory, prepared, written, after, hp, hw⟩
  · rw [herror] at hresult
    cases hresult
  · rw [hp] at hfree
    have hown : ∀ inputDir package, absoluteInputDir citingContext prepared = .ok inputDir →
        (libraryOf citingContext letterOptions).find prepared letterOptions.template inputDir = .ok package →
          citingContext.name ++ ".bib" ∉ package.auxiliaryFiles.map (·.2) := by
      intro inputDir package hinput hpackage hmem
      simp only [hinput, Except.toOption, Option.bind_some, hpackage, Option.all_some,
        List.contains_iff_mem.2 hmem] at hfree
      cases hfree
    obtain ⟨inputDir, sources, template, -, ⟨-, hwritten, -⟩, -, hread, -⟩ := bibliography_agrees hp hw hown
    have hfile := (hread citedBook rfl (Citations.hasBibliography_iff.1 (by decide +kernel))).2.2.2 after hwritten
    rw [show citingContext.name ++ ".bib" = "letter.bib" by decide +kernel,
      show citedBook.bibliographyText = "@book\x7bcat, title = \x7bCats \\& dogs\x7d\x7d\n".toList by
        decide +kernel] at hfile
    exact ⟨directory, prepared, written, after, hp, hw, hfile⟩

end Compilation

end Manuscript
