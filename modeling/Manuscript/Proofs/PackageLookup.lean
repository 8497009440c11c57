import Manuscript.Package.Library
import Manuscript.Proofs.Files

/-!
# Packages that a library holds

A package is loaded from its manifest, and loading ends in one of four ways (`load_cases`). When no package lies
next to the document, the library is asked, and its answer stands unless the failure says that something is not
there (`find_eq_load`, `find_of_isMissing`). The failure of a manifest without its template says so too: a package
that the library holds is passed over exactly when its template is missing, and whatever else is wrong with it is
reported (`held_package_iff`).
-/

namespace Manuscript

namespace FileSystem

variable {files : FileSystem} {path : Path}

/-- A file that is there may be no text, and nothing else keeps it from being read. -/
theorem readText_of_isFile (h : files.isFile path = true) :
    (∃ text, files.readText path = .ok text) ∨ files.readText path = .error .notText := by
  obtain ⟨location, bytes, executable, hlocate⟩ := isFile_iff.1 h
  have hread : files.read path = .ok bytes := by
    unfold read
    rw [hlocate]
    rfl
  unfold readText
  rw [hread]
  cases hdecode : Utf8.decode? bytes with
  | some text => exact Or.inl ⟨text, by simp [bind, Except.bind, hdecode]⟩
  | none => exact Or.inr (by simp [bind, Except.bind, hdecode])

end FileSystem

deriving instance DecidableEq for Package

namespace Package

variable {files : FileSystem} {directory : Path}

/-! ## Loading -/

/-- The manifest in a directory names a template that is no file there. -/
def LacksTemplate (files : FileSystem) (directory : Path) : Prop :=
  ∃ text manifest, files.readText (directory.child Manifest.fileName) = .ok text ∧
    Manifest.parse? text = some manifest ∧ files.isFile (directory.child manifest.template) = false

/-- What is said of the package in a directory: the package that was loaded from there, or a failure that names its
manifest or the template. -/
def AnswersFor (directory : Path) : Except CompilationError Package → Prop
  | .ok package => package.directory = directory ∧ package.ownTemplate = none
  | .error (.badManifest path) => path = directory.child Manifest.fileName
  | .error (.file path _) => ∃ name, path = directory.child name
  | .error _ => False

/-- Loading a package fails with a manifest that cannot be read, with a text that is no manifest, or without the
template. -/
theorem load_cases (files : FileSystem) (directory : Path) :
    (∃ error, files.readText (directory.child Manifest.fileName) = .error error ∧
        load files directory = .error (.file (directory.child Manifest.fileName) error)) ∨
      load files directory = .error (.badManifest (directory.child Manifest.fileName)) ∨
      (LacksTemplate files directory ∧
        ∃ template, load files directory = .error (.file (directory.child template) .noTemplateFile)) ∨
      ∃ manifest, load files directory = .ok { directory, manifest } := by
  cases htext : files.readText (directory.child Manifest.fileName) with
  | error error => exact Or.inl ⟨error, rfl, by simp [load, htext]⟩
  | ok text =>
    refine Or.inr ?_
    cases hmanifest : Manifest.parse? text with
    | none => exact Or.inl (by simp [load, htext, hmanifest])
    | some manifest =>
      refine Or.inr ?_
      cases htemplate : files.isFile (directory.child manifest.template) with
      | false =>
        refine Or.inl ⟨⟨text, manifest, htext, hmanifest, htemplate⟩, manifest.template, ?_⟩
        simp [load, htext, hmanifest, templatePath, htemplate]
      | true => exact Or.inr ⟨manifest, by simp [load, htext, hmanifest, templatePath, htemplate]⟩

/-- What loading answers is about the directory it was given. -/
theorem answersFor_load (files : FileSystem) (directory : Path) : AnswersFor directory (load files directory) := by
  rcases load_cases files directory with ⟨error, -, hload⟩ | hload | ⟨-, template, hload⟩ | ⟨manifest, hload⟩
  · rw [hload]
    exact ⟨Manifest.fileName, rfl⟩
  · rw [hload]
    rfl
  · rw [hload]
    exact ⟨template, rfl⟩
  · rw [hload]
    exact ⟨rfl, rfl⟩

/-- A manifest whose template is missing is reported as a missing file. -/
theorem load_of_lacksTemplate (h : LacksTemplate files directory) :
    ∃ template, load files directory = .error (.file (directory.child template) .noTemplateFile) := by
  obtain ⟨text, manifest, htext, hmanifest, htemplate⟩ := h
  exact ⟨manifest.template, by simp [load, htext, hmanifest, templatePath, htemplate]⟩

/-- The package that needs no files is no failure of a file, and neither is that there is none. -/
theorem builtIn?_getD_ne {id : String} {tried : List Path} {path : Path} {error : FileError} :
    (builtIn? id directory).getD (.error (.noPackage id tried)) ≠ .error (.file path error) := by
  unfold builtIn?
  split
  · split <;> exact nofun
  · exact nofun

end Package

namespace Library

variable {library : Library} {files : FileSystem} {id : String} {base : Path}

/-! ## Looking in the library -/

/-- The answer of the library stands unless it says that something is not there. -/
theorem find_eq_load (hnear : ∀ package, Package.load files (base.child id) ≠ .ok package)
    (hfound : ∀ path error, Package.load files (library.directory.child id) = .error (.file path error) →
      error.isMissing = false) :
    library.find files id base = Package.load files (library.directory.child id) := by
  unfold find
  dsimp only
  split
  · rename_i package hlocal
    exact absurd hlocal (hnear package)
  · split
    · rename_i hfar
      exact hfar.symm
    · rename_i path error hfar
      rw [hfound path error hfar, if_neg Bool.false_ne_true]
      exact hfar.symm
    · rename_i hfar
      exact hfar.symm

/-- What is not there is looked for among the packages that need no files. -/
theorem find_of_isMissing {path : Path} {error : FileError}
    (hnear : ∀ package, Package.load files (base.child id) ≠ .ok package)
    (hfar : Package.load files (library.directory.child id) = .error (.file path error))
    (hmissing : error.isMissing = true) :
    library.find files id base =
      (Package.builtIn? id (library.directory.child id)).getD
        (.error (.noPackage id [base.child id, library.directory.child id])) := by
  unfold find
  dsimp only
  split
  · rename_i package hlocal
    exact absurd hlocal (hnear package)
  · rw [hfar]
    dsimp only
    rw [if_pos hmissing]

/-! ## The list of names -/

/-- Sorting names brings in none. -/
theorem mem_of_mem_sortNames {name : String} {names : List String} (h : name ∈ sortNames names) : name ∈ names := by
  have hentries : ∀ (l : List (String × Unit)) (d : Dictionary Unit) (e : String × Unit),
      e ∈ (l.foldl (fun d e => d.insert e.1 e.2) d).entries → e ∈ d.entries ∨ e ∈ l := by
    intro l
    induction l with
    | nil => exact fun d e he => Or.inl he
    | cons first rest ih =>
      intro d e he
      rcases ih (d.insert first.1 first.2) e he with hinsert | hrest
      · rcases Dictionary.mem_insertEntry hinsert with rfl | hold
        · exact Or.inr List.mem_cons_self
        · exact Or.inl hold
      · exact Or.inr (List.mem_cons_of_mem first hrest)
  obtain ⟨e, he, rfl⟩ := List.mem_map.1 h
  rcases hentries _ ∅ e he with hnone | hname
  · cases hnone
  · obtain ⟨listed, hlisted, rfl⟩ := List.mem_map.1 hname
    exact hlisted

/-- The list names packages that the library holds, besides the one that needs no files. -/
theorem holds_of_mem_list {ids : List String} (hlist : library.list files = .ok ids) {name : String}
    (hname : name ∈ ids) : name = Package.articleId ∨ library.holds files name = true := by
  unfold list at hlist
  split at hlist
  · cases hlist
    rcases List.mem_cons.1 (mem_of_mem_sortNames hname) with rfl | hname
    · exact Or.inl rfl
    · exact Or.inr (List.mem_filter.1 hname).2
  · split at hlist
    · cases hlist
      exact Or.inl (List.mem_singleton.1 hname)
    · cases hlist

/-! ## Packages that are held -/

/-- A package that the library holds, when none lies next to the document: the answer is the package of the library
or what is wrong with it, unless its template is missing. Then the package that needs no files comes in its place,
or it counts as not found. The list names no other packages but those that are held and the one that needs no files.
-/
theorem held_package_iff (library : Library) (files : FileSystem) {id : String} {base : Path}
    (hnear : ∀ package, Package.load files (base.child id) ≠ .ok package) (hheld : library.holds files id = true) :
    (library.find files id base = Package.load files (library.directory.child id) ∧
          Package.AnswersFor (library.directory.child id) (library.find files id base) ↔
        ¬Package.LacksTemplate files (library.directory.child id)) ∧
      (Package.LacksTemplate files (library.directory.child id) → library.find files id base =
        (Package.builtIn? id (library.directory.child id)).getD
          (.error (.noPackage id [base.child id, library.directory.child id]))) ∧
      ∀ ids, library.list files = .ok ids → ∀ name ∈ ids, name = Package.articleId ∨
        library.holds files name = true := by
  have hpassed : Package.LacksTemplate files (library.directory.child id) → library.find files id base =
      (Package.builtIn? id (library.directory.child id)).getD
        (.error (.noPackage id [base.child id, library.directory.child id])) := by
    intro hlacks
    obtain ⟨template, hload⟩ := Package.load_of_lacksTemplate hlacks
    exact find_of_isMissing hnear hload rfl
  refine ⟨⟨?_, ?_⟩, hpassed, fun ids hlist name hname => holds_of_mem_list hlist hname⟩
  · rintro ⟨hfind, -⟩ hlacks
    obtain ⟨template, hload⟩ := Package.load_of_lacksTemplate hlacks
    rw [hpassed hlacks, hload] at hfind
    exact Package.builtIn?_getD_ne hfind
  · intro hcomplete
    have hfind : library.find files id base = Package.load files (library.directory.child id) := by
      refine find_eq_load hnear (fun path cause hload => ?_)
      rcases Package.load_cases files (library.directory.child id) with
        ⟨error, hread, hcase⟩ | hcase | ⟨hlacks, -⟩ | ⟨manifest, hcase⟩
      · -- The manifest is there, so that it cannot be read does not say that it is missing.
        rw [hcase] at hload
        cases hload
        rcases FileSystem.readText_of_isFile hheld with ⟨text, htext⟩ | hnotText
        · rw [htext] at hread
          cases hread
        · rw [hnotText] at hread
          cases hread
          rfl
      · rw [hcase] at hload
        cases hload
      · exact absurd hlacks hcomplete
      · rw [hcase] at hload
        cases hload
    exact ⟨hfind, hfind ▸ Package.answersFor_load files (library.directory.child id)⟩

/-- A library of two packages: one is complete, the other has a manifest only. -/
def shelf (id : String) : FileSystem where
  entries :=
    [(["lib"], .directory), (["lib", "letter"], .directory),
      (["lib", "letter", "template.toml"], .file (Utf8.encode "template = \"main.tex\"".toList) false),
      (["lib", "letter", "main.tex"], .file [] false), (["lib", id], .directory),
      (["lib", id, "template.toml"], .file (Utf8.encode "template = \"main.tex\"".toList) false)]
  workingDirectory := []

/-- A library with two packages and a loose file. -/
theorem letter_found :
    (⟨⟨"lib"⟩⟩ : Library).find (shelf "paper") "letter" ⟨"."⟩ = Package.load (shelf "paper")
    ((⟨"lib"⟩ : Path).child "letter") ∧
      (⟨⟨"lib"⟩⟩ : Library).find (shelf "paper") "letter" ⟨"."⟩ =
        .ok { directory := ⟨"lib/letter"⟩, manifest := { template := "main.tex" } } := by
  have hnear : Package.load (shelf "paper") ((⟨"."⟩ : Path).child "letter") =
      .error (.file ⟨"./letter/template.toml"⟩ .notFound) := by
    decide +kernel
  have hfar : Package.load (shelf "paper") ((⟨"lib"⟩ : Path).child "letter") =
      .ok { directory := ⟨"lib/letter"⟩, manifest := { template := "main.tex" } } := by
    decide +kernel
  have hcomplete : ¬Package.LacksTemplate (shelf "paper") ((⟨"lib"⟩ : Path).child "letter") := fun hlacks => by
    obtain ⟨template, hload⟩ := Package.load_of_lacksTemplate hlacks
    rw [hfar] at hload
    cases hload
  have hnot : ∀ package, Package.load (shelf "paper") ((⟨"."⟩ : Path).child "letter") ≠ .ok package := by
    rw [hnear]
    exact nofun
  obtain ⟨hanswer, -⟩ := held_package_iff ⟨⟨"lib"⟩⟩ (shelf "paper") hnot (by decide +kernel)
  have hfind := (hanswer.2 hcomplete).1
  exact ⟨hfind, hfind.trans hfar⟩

/-- A package of the library without its template is passed over: one is not found although the list names it, and
for the other comes the package that needs no files. -/
theorem lacking_template_passed_over :
    (Package.load (shelf "paper") ⟨"lib/paper"⟩ = .error (.file ⟨"lib/paper/main.tex"⟩ .noTemplateFile) ∧
        (⟨⟨"lib"⟩⟩ : Library).list (shelf "paper") = .ok ["article", "letter", "paper"] ∧
        (⟨⟨"lib"⟩⟩ : Library).find (shelf "paper") "paper" ⟨"."⟩ =
          .error (.noPackage "paper" [⟨"./paper"⟩, ⟨"lib/paper"⟩])) ∧
      Package.load (shelf "article") ⟨"./article"⟩ = .error (.file ⟨"./article/template.toml"⟩ .notFound) ∧
        Package.load (shelf "article") ⟨"lib/article"⟩ = .error (.file ⟨"lib/article/main.tex"⟩ .noTemplateFile) ∧
        ((⟨⟨"lib"⟩⟩ : Library).find (shelf "article") "article" ⟨"."⟩).map (·.ownTemplate.isSome) = .ok true := by
  decide +kernel

end Library

end Manuscript
