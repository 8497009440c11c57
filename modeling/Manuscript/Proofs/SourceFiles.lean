import Mathlib.Data.List.Nodup
import Manuscript.Proofs.LifeCycle
import Manuscript.Proofs.Overwriting

/-!
# The source files

The files that make up a document for LaTeX lie next to one another, each under a name of its own as long as the
names of the auxiliary files differ from one another and from those of the source and the bibliography
(`target_paths_distinct_iff`). Then each is what it would be if it were written alone, in whatever order they are
written (`read_of_writesTo`): one file is never the source of another, for an auxiliary file keeps the last name of
its path. An auxiliary file that is copied to its own place is still lost (`auxiliary_file_intact_iff`).
-/

namespace Manuscript

open FileSystem (Overwrites)

namespace Sources

variable {sources : Sources} {directory : Path} {files before after : FileSystem} {name : String}

/-! ## Names -/

/-- The names under which the sources are written, in the order of their parts. -/
def fileNames (sources : Sources) : List String :=
  (sources.name ++ ".tex") :: (sources.bibliography.toList.map (·.1) ++ sources.package.auxiliaryFiles.map (·.2))

/-- The paths under which the sources are written. -/
def targets (sources : Sources) (directory : Path) : List Path :=
  sources.fileNames.map directory.child

/-- The sources of a document: its name is the stem of a file, and its bibliography file is named after it. -/
structure Named (sources : Sources) : Prop where
  noSlash : '/' ∉ sources.name.toList
  bibliography : ∀ b ∈ sources.bibliography, b.1 = sources.name ++ ".bib"

/-- The sources of a document have file names. -/
theorem Named.isFileName (h : sources.Named) : ∀ name ∈ sources.fileNames, Path.IsFileName name := by
  intro name hname
  rw [fileNames, List.mem_cons, List.mem_append, List.mem_map, List.mem_map] at hname
  rcases hname with rfl | ⟨b, hb, rfl⟩ | ⟨a, ha, rfl⟩
  · exact Path.isFileName_append h.noSlash (by decide) (by decide)
  · rw [h.bibliography b (Option.mem_toList.1 hb)]
    exact Path.isFileName_append h.noSlash (by decide) (by decide)
  · exact Path.isFileName_of_fileName? (Package.mem_auxiliaryFiles ha)

/-- The two extensions differ. -/
theorem tex_ne_bib (name : String) : name ++ ".tex" ≠ name ++ ".bib" :=
  fun h => absurd ((String.append_right_inj _).1 h) (by decide)

/-- The bibliography is not called like the source. -/
theorem Named.source_ne_bibliography (h : sources.Named) {b : String × List Char} (hb : b ∈ sources.bibliography) :
    sources.name ++ ".tex" ≠ b.1 := by
  rw [h.bibliography b hb]
  exact tex_ne_bib sources.name

/-- The names are different when the auxiliary files have names of their own. -/
theorem Named.nodup_fileNames_iff (h : sources.Named) :
    sources.fileNames.Nodup ↔
      (sources.package.auxiliaryFiles.map (·.2)).Nodup ∧
        sources.name ++ ".tex" ∉ sources.package.auxiliaryFiles.map (·.2) ∧
        ∀ b ∈ sources.bibliography, b.1 ∉ sources.package.auxiliaryFiles.map (·.2) := by
  rw [fileNames, List.nodup_cons]
  cases hbibliography : sources.bibliography with
  | none => simp [and_comm]
  | some b =>
    have hne := h.source_ne_bibliography hbibliography
    simp only [Option.toList_some, List.map_cons, List.map_nil, List.singleton_append, List.nodup_cons, List.mem_cons,
      not_or, Option.mem_some_iff, forall_eq']
    exact ⟨fun ⟨⟨_, hsource⟩, hfile, hnodup⟩ => ⟨hnodup, hsource, hfile⟩,
      fun ⟨hnodup, hsource, hfile⟩ => ⟨⟨hne, hsource⟩, hfile, hnodup⟩⟩

/-- The paths are different exactly when the names are. -/
theorem pairwise_targets_iff (directory : Path) (hnames : ∀ name ∈ sources.fileNames, Path.IsFileName name) :
    (sources.targets directory).Pairwise (fun a b => a.sameAs b = false) ↔ sources.fileNames.Nodup := by
  rw [targets, List.pairwise_map, List.Nodup]
  refine List.Pairwise.iff_of_mem (fun {a b} ha hb => ?_)
  rw [← Bool.not_eq_true, Path.sameAs_child_iff (hnames a ha) (hnames b hb)]

/-! ## Parts -/

/-- A part that is the file under a name in a directory: writing it changes nothing else, and what it comes to does
not change when files under other names have been written there. -/
structure Part.Owns (part : Part) (directory : Path) (name : String) : Prop where
  lands : ∀ {files changed}, part.write files = .ok changed →
    Overwrites (files.ChildOf directory name) files changed ∧
      ∃ location bytes executable, files.ChildOf directory name location ∧
        changed.locate (directory.child name) = .ok (location, .file bytes executable)
  alike : ∀ {files other changed names}, name ∉ names → Overwrites (files.ChildrenOf directory names) files other →
    part.write other = .ok changed →
      ∃ alone, part.write files = .ok alone ∧ changed.read (directory.child name) = alone.read (directory.child name)

/-- A text that is written is the file under its name. -/
theorem owns_text {path : Path} {text : List Char} (hname : Path.IsFileName name) :
    Part.Owns { path, write := fun files => files.writeText (directory.child name) text } directory name where
  lands h := by
    obtain ⟨location, executable, htarget, hleads⟩ := FileSystem.locate_of_write h
    exact ⟨FileSystem.overwrites_write hname h, location, _, executable, FileSystem.targetOf_child hname htarget,
      hleads⟩
  alike {files other changed names} hother hfiles h := by
    obtain ⟨location, executable, htarget, hleads⟩ := FileSystem.locate_of_write h
    have hwrite : ∃ alone, files.writeText (directory.child name) text = .ok alone := by
      unfold FileSystem.writeText FileSystem.write
      rw [hfiles.symm.targetOf htarget]
      exact ⟨_, rfl⟩
    obtain ⟨alone, halone⟩ := hwrite
    obtain ⟨location', executable', -, hleads'⟩ := FileSystem.locate_of_write halone
    exact ⟨alone, halone, by rw [FileSystem.read_of_locate hleads, FileSystem.read_of_locate hleads']⟩

/-- The source of a copy that keeps its last name is none of the files under other names. -/
theorem owns_copy {path source : Path} (hsource : source.fileName? = some name) :
    Part.Owns { path, write := fun files => files.copy source (directory.child name) } directory name where
  lands h := by
    have hname := Path.isFileName_of_fileName? hsource
    obtain ⟨place, bytes, executable, location, -, htarget, -, hleads⟩ := FileSystem.locate_of_copy h
    exact ⟨FileSystem.overwrites_copy hname h, location, _, executable, FileSystem.targetOf_child hname htarget, hleads⟩
  alike {files other changed names} hother hfiles h := by
    obtain ⟨place, bytes, executable, location, hlocate, htarget, -, hleads⟩ := FileSystem.locate_of_copy h
    have hplace : ¬files.ChildrenOf directory names place := by
      obtain ⟨above, rfl⟩ := FileSystem.location_of_fileName? hlocate hsource
      exact fun hchildren => hother hchildren.last_mem
    have hlocate' := hfiles.symm.locate hlocate hplace
    have htarget' := hfiles.symm.targetOf htarget
    obtain ⟨alone, halone⟩ := FileSystem.exists_copy hlocate' htarget'
    obtain ⟨place', bytes', executable', location', hsource', htarget'', -, hleads'⟩ := FileSystem.locate_of_copy halone
    rw [hlocate'] at hsource'
    rw [htarget'] at htarget''
    cases hsource'
    cases htarget''
    exact ⟨alone, halone, by rw [FileSystem.read_of_locate hleads, FileSystem.read_of_locate hleads']⟩

/-! ## Writing all parts -/

/-- When all parts are written, so is the first, and the others are behind it. -/
theorem writeParts_cons_eq_ok {part : Part} {rest : List Part} (h : writeParts (part :: rest) files = (.ok (), after)) :
    ∃ changed, part.write files = .ok changed ∧ writeParts rest changed = (.ok (), after) := by
  unfold writeParts at h
  split at h
  · rename_i changed hwrite
    exact ⟨changed, hwrite, h⟩
  · cases h

/-- When all parts are written, so are the first of them, and the others are behind them. -/
theorem writeParts_append_eq_ok {parts rest : List Part} (h : writeParts (parts ++ rest) files = (.ok (), after)) :
    ∃ middle, writeParts parts files = (.ok (), middle) ∧ writeParts rest middle = (.ok (), after) := by
  induction parts generalizing files with
  | nil => exact ⟨files, rfl, h⟩
  | cons part parts ih =>
    obtain ⟨changed, hwrite, hrest⟩ := writeParts_cons_eq_ok h
    obtain ⟨middle, hparts, hrest⟩ := ih hrest
    refine ⟨middle, ?_, hrest⟩
    rw [writeParts, hwrite]
    exact hparts

/-- Whether or not all parts can be written, nothing changes but the files under their names. -/
theorem overwrites_writeParts {parts : List Part} {names : List String}
    (h : ∀ part ∈ parts, ∃ name ∈ names, part.Owns directory name) (files : FileSystem) :
    Overwrites (files.ChildrenOf directory names) files (writeParts parts files).2 := by
  induction parts generalizing files with
  | nil => exact Overwrites.refl _ files
  | cons part rest ih =>
    obtain ⟨name, hname, howns⟩ := h part List.mem_cons_self
    have hrest := fun files => ih (fun other hother => h other (List.mem_cons_of_mem part hother)) files
    unfold writeParts
    split
    · rename_i changed hwrite
      obtain ⟨hfirst, -⟩ := howns.lands hwrite
      refine (hfirst.mono (fun location hchild => ⟨name, hname, hchild⟩)).trans ((hrest changed).mono ?_)
      rintro location ⟨other, hother, hchild⟩
      exact ⟨other, hother, hfirst.symm.childOf hchild⟩
    · exact hrest files

/-- When all parts are written, in whatever order, the file of a part whose name no other part has is what it would
be if it were written alone. -/
theorem read_of_writeParts {part : Part} {others : List (String × Part)} {order : List Part}
    (hname : name ∉ others.map (·.1)) (howns : part.Owns directory name)
    (hothers : ∀ p ∈ others, p.2.Owns directory p.1) (horder : order.Perm (part :: others.map (·.2)))
    (h : writeParts order files = (.ok (), after)) :
    ∃ alone, part.write files = .ok alone ∧ after.read (directory.child name) = alone.read (directory.child name) := by
  obtain ⟨ahead, behind, rfl⟩ := List.append_of_mem (horder.mem_iff.2 List.mem_cons_self)
  have hperm : (ahead ++ behind).Perm (others.map (·.2)) := (List.perm_middle.symm.trans horder).cons_inv
  have hother : ∀ other ∈ ahead ++ behind, ∃ name ∈ others.map (·.1), other.Owns directory name := by
    intro other hmem
    obtain ⟨p, hp, rfl⟩ := List.mem_map.1 (hperm.mem_iff.1 hmem)
    exact ⟨p.1, List.mem_map.2 ⟨p, hp, rfl⟩, hothers p hp⟩
  obtain ⟨middle, hahead, hrest⟩ := writeParts_append_eq_ok h
  obtain ⟨changed, hwrite, hbehind⟩ := writeParts_cons_eq_ok hrest
  have hbefore := overwrites_writeParts (fun other hmem => hother other (List.mem_append_left _ hmem)) files
  rw [hahead] at hbefore
  obtain ⟨alone, halone, hread⟩ := howns.alike hname hbefore hwrite
  refine ⟨alone, halone, ?_⟩
  -- What comes later leaves the file as it is.
  have hafter := overwrites_writeParts (fun other hmem => hother other (List.mem_append_right _ hmem)) changed
  rw [hbehind] at hafter
  obtain ⟨hchanged, location, bytes, executable, hchild, hleads⟩ := howns.lands hwrite
  have hkept := hafter.locate hleads (hchild.not_childrenOf hname)
  rw [← hread, FileSystem.read_of_locate hleads, FileSystem.read_of_locate hkept]

/-- The parts with the names under which they are written. -/
def namedParts (sources : Sources) (directory : Path) : List (String × Part) :=
  sources.fileNames.zip (sources.parts directory)

/-- The parts with their names: the source, the bibliography, and the auxiliary files. -/
theorem namedParts_eq (sources : Sources) (directory : Path) :
    sources.namedParts directory =
      (sources.name ++ ".tex",
          { path := sources.sourcePath directory, write :=
            fun files => files.writeText (sources.sourcePath directory) sources.text }) ::
        (sources.bibliography.toList.map (fun b =>
            (b.1, { path := directory.child b.1, write := fun files => files.writeText (directory.child b.1) b.2 })) ++
          sources.package.auxiliaryFiles.map (fun a =>
            (a.2, { path := a.1, write := fun files => files.copy a.1 (directory.child a.2) }))) := by
  rw [namedParts, fileNames, parts, List.zip_cons_cons, List.zip_append (by simp), List.zip_map', List.zip_map']

/-- There is one name for each part. -/
theorem length_fileNames (sources : Sources) (directory : Path) :
    sources.fileNames.length = (sources.parts directory).length := by
  simp [fileNames, parts]

/-- The names of the parts are the file names. -/
theorem map_fst_namedParts (sources : Sources) (directory : Path) :
    (sources.namedParts directory).map (·.1) = sources.fileNames :=
  List.map_fst_zip (Nat.le_of_eq (sources.length_fileNames directory))

/-- The parts with names are the parts. -/
theorem map_snd_namedParts (sources : Sources) (directory : Path) :
    (sources.namedParts directory).map (·.2) = sources.parts directory :=
  List.map_snd_zip (Nat.le_of_eq (sources.length_fileNames directory).symm)

/-- Each part is the file under its name. -/
theorem Named.owns (h : sources.Named) : ∀ p ∈ sources.namedParts directory, p.2.Owns directory p.1 := by
  intro p hp
  have hname : Path.IsFileName p.1 := by
    refine h.isFileName p.1 ?_
    rw [← map_fst_namedParts sources directory]
    exact List.mem_map.2 ⟨p, hp, rfl⟩
  rw [namedParts_eq, List.mem_cons, List.mem_append, List.mem_map, List.mem_map] at hp
  rcases hp with rfl | ⟨b, -, rfl⟩ | ⟨a, ha, rfl⟩
  · exact owns_text hname
  · exact owns_text hname
  · exact owns_copy (Package.mem_auxiliaryFiles ha)

/-- The bibliography is said to be where it is written. -/
theorem bibliography_of_write {written : Written} (h : sources.write directory files = (.ok written, after)) :
    written.bibliography = sources.bibliographyPath directory := by
  unfold write at h
  simp only [Prod.mk.injEq] at h
  obtain ⟨hresult, -⟩ := h
  cases hok : (writeParts (sources.parts directory) files).1 with
  | error error =>
    rw [hok] at hresult
    cases hresult
  | ok u =>
    rw [hok] at hresult
    cases hresult
    rfl

/-- Each part is the file under one of the names. -/
theorem Named.exists_owns (h : sources.Named) :
    ∀ part ∈ sources.parts directory, ∃ name ∈ sources.fileNames, part.Owns directory name := by
  intro part hpart
  rw [← map_snd_namedParts] at hpart
  obtain ⟨p, hp, rfl⟩ := List.mem_map.1 hpart
  refine ⟨p.1, ?_, h.owns p hp⟩
  rw [← map_fst_namedParts sources directory]
  exact List.mem_map.2 ⟨p, hp, rfl⟩

/-- Writing the sources changes no files but those under their names, whether it succeeds or not. -/
theorem Named.overwrites_write (h : sources.Named) (directory : Path) (files : FileSystem) :
    Overwrites (files.ChildrenOf directory sources.fileNames) files (sources.write directory files).2 :=
  overwrites_writeParts h.exists_owns files

/-- All sources are written into a directory, one file after another in some order. -/
def WritesTo (sources : Sources) (directory : Path) (files after : FileSystem) : Prop :=
  ∃ order, order.Perm (sources.parts directory) ∧ writeParts order files = (.ok (), after)

/-- Writing the sources is to write all of them when it succeeds. -/
theorem writesTo_of_write (h : (sources.write directory files).1.isOk = true) :
    sources.WritesTo directory files (sources.write directory files).2 := by
  refine ⟨_, List.Perm.refl _, Prod.ext ?_ rfl⟩
  unfold write at h
  cases hresult : (writeParts (sources.parts directory) files).1 with
  | error error =>
    simp only [hresult] at h
    cases h
  | ok u => rfl

/-- In whatever order the sources are written, no files change but those under their names. -/
theorem Named.overwrites_writesTo (hnamed : sources.Named) (h : sources.WritesTo directory files after) :
    Overwrites (files.ChildrenOf directory sources.fileNames) files after := by
  obtain ⟨order, horder, h⟩ := h
  have hwritten := overwrites_writeParts (fun part hpart => hnamed.exists_owns part (horder.mem_iff.1 hpart)) files
  rwa [h] at hwritten

/-- A source whose name no other one has is what it would be if it were written alone. -/
theorem Named.read_of_split (hnamed : sources.Named) (h : sources.WritesTo directory files after) {part : Part}
    (front : List (String × Part)) {back : List (String × Part)}
    (hparts : sources.namedParts directory = front ++ (name, part) :: back) (hname : name ∉ (front ++ back).map (·.1)) :
    ∃ alone, part.write files = .ok alone ∧ after.read (directory.child name) = alone.read (directory.child name) := by
  obtain ⟨order, horder, h⟩ := h
  have howns : ∀ p ∈ (name, part) :: (front ++ back), p.2.Owns directory p.1 := by
    intro p hp
    refine hnamed.owns p ?_
    rw [hparts]
    exact List.perm_middle.mem_iff.2 hp
  have hperm : order.Perm (part :: (front ++ back).map (·.2)) := by
    rw [← map_snd_namedParts, hparts] at horder
    exact horder.trans (List.perm_middle.map Prod.snd)
  exact read_of_writeParts hname (howns _ List.mem_cons_self) (fun p hp => howns p (List.mem_cons_of_mem _ hp)) hperm h

/-- When the sources have different names, each file is what it would be if it were written alone. -/
theorem Named.read_of_writesTo (hnamed : sources.Named) (hnodup : sources.fileNames.Nodup)
    (h : sources.WritesTo directory files after) {part : Part} (hpart : (name, part) ∈ sources.namedParts directory) :
    ∃ alone, part.write files = .ok alone ∧ after.read (directory.child name) = alone.read (directory.child name) := by
  obtain ⟨front, back, hparts⟩ := List.append_of_mem hpart
  refine hnamed.read_of_split h front hparts ?_
  rw [← map_fst_namedParts sources directory, hparts, List.map_append, List.map_cons, List.nodup_middle,
    List.nodup_cons] at hnodup
  rw [List.map_append]
  exact hnodup.1

/-- A text that is written is read back. -/
theorem read_of_writeText {path : Path} {text : List Char} {alone : FileSystem}
    (h : files.writeText path text = .ok alone) : alone.read path = .ok (Utf8.encode text) := by
  obtain ⟨location, executable, -, hleads⟩ := FileSystem.locate_of_write h
  exact FileSystem.read_of_locate hleads

/-- A text among the sources is read back, in whatever order they are written. -/
theorem Named.read_text (hnamed : sources.Named) (hnodup : sources.fileNames.Nodup)
    (h : sources.WritesTo directory files after) {part : Part} {text : List Char}
    (hpart : (name, part) ∈ sources.namedParts directory)
    (hwrite : part.write = fun files => files.writeText (directory.child name) text) :
    after.read (directory.child name) = .ok (Utf8.encode text) := by
  obtain ⟨alone, halone, hread⟩ := hnamed.read_of_writesTo hnodup h hpart
  rw [hwrite] at halone
  rw [hread, read_of_writeText halone]

/-- The bibliography is kept when no auxiliary file has its name, whatever the auxiliary files are called otherwise. -/
theorem Named.read_bibliography (hnamed : sources.Named) (h : sources.WritesTo directory files after)
    {b : String × List Char} (hb : sources.bibliography = some b)
    (hown : b.1 ∉ sources.package.auxiliaryFiles.map (·.2)) :
    after.read (directory.child b.1) = .ok (Utf8.encode b.2) := by
  have hparts := sources.namedParts_eq directory
  rw [hb, Option.toList_some, List.map_singleton, List.singleton_append] at hparts
  have hname : b.1 ∉ (sources.name ++ ".tex") :: sources.package.auxiliaryFiles.map (·.2) :=
    List.not_mem_cons_of_ne_of_not_mem (hnamed.source_ne_bibliography hb).symm hown
  obtain ⟨alone, halone, hread⟩ := hnamed.read_of_split h [_] hparts (by simpa using hname)
  rw [hread, read_of_writeText halone]

/-- An auxiliary file has what a copy of it alone has, in whatever order the sources are written. -/
theorem Named.read_copy (hnamed : sources.Named) (hnodup : sources.fileNames.Nodup)
    (h : sources.WritesTo directory files after) {a : Path × String} (ha : a ∈ sources.package.auxiliaryFiles) :
    ∃ alone, files.copy a.1 (directory.child a.2) = .ok alone ∧
      after.read (directory.child a.2) = alone.read (directory.child a.2) := by
  have hpart : (a.2, { path := a.1, write := fun files => files.copy a.1 (directory.child a.2) }) ∈
      sources.namedParts directory := by
    rw [namedParts_eq]
    exact List.mem_cons_of_mem _ (List.mem_append_right _ (List.mem_map.2 ⟨a, ha, rfl⟩))
  exact hnamed.read_of_writesTo hnodup h hpart

/-! ## Main results -/

/-- The paths that the sources are written to are different exactly when the auxiliary files have names of their
own. And then nothing is lost, whatever the order: the source and the bibliography hold their texts, and each
auxiliary file what its copy alone would leave. -/
theorem target_paths_distinct_iff (hnamed : sources.Named) (directory : Path) :
    ((sources.targets directory).Pairwise (fun a b => a.sameAs b = false) ↔
        (sources.package.auxiliaryFiles.map (·.2)).Nodup ∧
          sources.name ++ ".tex" ∉ sources.package.auxiliaryFiles.map (·.2) ∧
          ∀ b ∈ sources.bibliography, b.1 ∉ sources.package.auxiliaryFiles.map (·.2)) ∧
      ((sources.targets directory).Pairwise (fun a b => a.sameAs b = false) →
        ∀ files after, sources.WritesTo directory files after →
          after.read (sources.sourcePath directory) = .ok (Utf8.encode sources.text) ∧
            (∀ b ∈ sources.bibliography, after.read (directory.child b.1) = .ok (Utf8.encode b.2)) ∧
              ∀ a ∈ sources.package.auxiliaryFiles, ∃ alone, files.copy a.1 (directory.child a.2) = .ok alone ∧
                after.read (directory.child a.2) = alone.read (directory.child a.2)) := by
  have hpaths := pairwise_targets_iff directory hnamed.isFileName
  refine ⟨hpaths.trans hnamed.nodup_fileNames_iff, fun hdistinct files after h => ?_⟩
  have hnodup := hpaths.1 hdistinct
  have hparts := namedParts_eq sources directory
  refine ⟨?_, fun b hb => ?_, fun a ha => hnamed.read_copy hnodup h ha⟩
  · have hsource := hparts ▸ List.mem_cons_self
    exact hnamed.read_text hnodup h hsource rfl
  · have hfile := hparts ▸ List.mem_cons_of_mem _
      (List.mem_append_left _ (List.mem_map.2 ⟨b, Option.mem_toList.2 hb, rfl⟩))
    exact hnamed.read_text hnodup h hfile rfl

/-- A paper in a package with auxiliary files. -/
def paper (auxiliary : List String) : Sources where
  name := "paper"
  text := "x".toList
  bibliography := some ("paper.bib", "@book".toList)
  package := { directory := ⟨"pkg"⟩, manifest := { template := "t.tex", files := auxiliary } }

/-- A package with two logos and a style, and a directory to write to. -/
def shelf : FileSystem where
  entries :=
    [(["home"], .directory), (["home", "out"], .directory), (["home", "pkg"], .directory),
      (["home", "pkg", "a"], .directory),
      (["home", "pkg", "b"], .directory), (["home", "pkg", "a", "logo.png"], .file [0x41] false),
      (["home", "pkg", "b", "logo.png"], .file [0x42] false), (["home", "pkg", "style.sty"], .file [0x25] false)]
  workingDirectory := ["home"]

/-- The paper has a file name, and its bibliography is named after it. -/
theorem named_paper (auxiliary : List String) : (paper auxiliary).Named where
  noSlash := (by decide : '/' ∉ "paper".toList)
  bibliography b hb := by
    cases hb
    exact (by decide : "paper.bib" = "paper" ++ ".bib")

/-- The files of the paper have paths of their own, and its bibliography is read back. -/
theorem paper_paths_distinct :
    ((paper ["a/logo.png", "./style.sty"]).targets ⟨"out"⟩).Pairwise (fun a b => a.sameAs b = false) ∧
      ((paper ["a/logo.png", "./style.sty"]).write ⟨"out"⟩ shelf).2.read ⟨"out/paper.bib"⟩ = .ok
        (Utf8.encode "@book".toList) := by
  obtain ⟨hiff, hkept⟩ := target_paths_distinct_iff (named_paper ["a/logo.png", "./style.sty"]) ⟨"out"⟩
  have hdistinct := hiff.2 (by decide +kernel)
  obtain ⟨-, hbibliography, -⟩ := hkept hdistinct shelf _ (writesTo_of_write (by decide +kernel))
  exact ⟨hdistinct, hbibliography ("paper.bib", "@book".toList) rfl⟩

/-- Files of one name in different directories of a package get one path, and it hangs on the order which of them is
left. -/
theorem logos_collide :
    ¬((paper ["a/logo.png", "b/logo.png"]).targets ⟨"out"⟩).Pairwise (fun a b => a.sameAs b = false) ∧
      (writeParts ((paper ["a/logo.png", "b/logo.png"]).parts ⟨"out"⟩) shelf).2.read ⟨"out/logo.png"⟩ = .ok [0x42] ∧
        (writeParts ((paper ["a/logo.png", "b/logo.png"]).parts ⟨"out"⟩).reverse shelf).2.read ⟨"out/logo.png"⟩ = .ok
          [0x41] := by
  decide +kernel

/-- When all sources are written to different paths, an auxiliary file arrives with the bytes that it had unless it
is copied to its own place and had any: the copy empties it first. -/
theorem auxiliary_file_intact_iff (hnamed : sources.Named)
    (hdistinct : (sources.targets directory).Pairwise (fun a b => a.sameAs b = false))
    (h : sources.WritesTo directory files after) {a : Path × String} (ha : a ∈ sources.package.auxiliaryFiles) :
    ∃ bytes, files.read a.1 = .ok bytes ∧
      (after.read (directory.child a.2) = .ok bytes ↔ (files.SamePlace (directory.child a.2) a.1 → bytes = [])) := by
  obtain ⟨alone, halone, hread⟩ :=
    hnamed.read_copy ((pairwise_targets_iff directory hnamed.isFileName).1 hdistinct) h ha
  obtain ⟨bytes, hbytes, hlost, hkept⟩ := FileSystem.read_of_copy halone
  refine ⟨bytes, hbytes, ?_⟩
  rw [hread]
  by_cases hplace : files.SamePlace (directory.child a.2) a.1
  · rw [hlost hplace]
    simp only [hplace, true_implies, Except.ok.injEq]
    exact eq_comm
  · simp [hkept hplace, hplace]

/-- A style that is copied to another place stays whole. -/
theorem style_intact : ((paper ["style.sty"]).write ⟨"out"⟩ shelf).2.read ⟨"out/style.sty"⟩ = .ok [0x25] := by
  have hwritten : (paper ["style.sty"]).WritesTo ⟨"out"⟩ shelf _ := writesTo_of_write (by decide +kernel)
  obtain ⟨bytes, hbytes, hiff⟩ := auxiliary_file_intact_iff (named_paper ["style.sty"]) (by decide +kernel) hwritten
    (a := (⟨"pkg/style.sty"⟩, "style.sty")) (by decide +kernel)
  have hstyle : shelf.read ⟨"pkg/style.sty"⟩ = .ok [0x25] := by decide +kernel
  rw [hstyle] at hbytes
  cases hbytes
  refine hiff.2 (fun ⟨found, htarget, _⟩ => ?_)
  have hnone : shelf.locate (Path.child ⟨"out"⟩ "style.sty") = .error .notFound := by decide +kernel
  rw [hnone] at htarget
  cases htarget

/-- In the directory of the package a copy has its own source for a target, and leaves nothing of it. -/
theorem style_emptied :
    ((paper ["style.sty"]).targets ⟨"pkg"⟩).Pairwise (fun a b => a.sameAs b = false) ∧
      ((paper ["style.sty"]).write ⟨"pkg"⟩ shelf).1.isOk = true ∧ shelf.read ⟨"pkg/style.sty"⟩ = .ok [0x25] ∧
        ((paper ["style.sty"]).write ⟨"pkg"⟩ shelf).2.read ⟨"pkg/style.sty"⟩ = .ok [] := by
  decide +kernel

end Sources

end Manuscript
