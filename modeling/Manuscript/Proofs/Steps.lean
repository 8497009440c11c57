import Manuscript.Compilation
import Manuscript.Proofs.Files

/-!
# The steps of a compilation

What each step does to the files, whether it succeeds or not. Writing sources keeps what stands, and what is
reported as written is there (`isFile_of_write`). Typesetting runs no compiler or the first one that can be run,
once (`typeset_cases`). A temporary directory lies where nothing stood before, and its path starts at the root
(`makeTemporary_eq_ok`).
-/

namespace Manuscript

open FileSystem (Keeps)

variable {files after : FileSystem}

/-! ## Sources -/

namespace Sources

variable {sources : Sources} {directory : Path}

/-- Writing a part makes a file at a path and keeps what stands. -/
def Part.Writes (part : Part) (target : Path) : Prop :=
  ∀ files changed, part.write files = .ok changed → Keeps files changed ∧ changed.isFile target = true

/-- The paths of the files that were written. -/
def Written.paths (written : Written) : List Path :=
  written.source :: (written.bibliography.toList ++ written.auxiliary)

/-- Parts that each write a file keep the directories there are. -/
theorem keeps_writeParts {parts : List Part} (h : ∀ part ∈ parts, ∃ target, part.Writes target) (files : FileSystem) :
    Keeps files (writeParts parts files).2 := by
  induction parts generalizing files with
  | nil => exact Keeps.refl files
  | cons part rest ih =>
    obtain ⟨target, hpart⟩ := h part List.mem_cons_self
    have hrest := ih (fun other hmem => h other (List.mem_cons_of_mem part hmem))
    unfold writeParts
    split
    · rename_i changed hw
      exact (hpart files changed hw).1.trans (hrest changed)
    · exact hrest files

/-- Once every part could be written, each is there: what is written later keeps it. -/
theorem isFile_of_writeParts {parts : List Part} (h : ∀ part ∈ parts, ∃ target, part.Writes target)
    (hok : (writeParts parts files).1 = .ok ()) {part : Part} (hmem : part ∈ parts) {target : Path}
    (hpart : part.Writes target) : (writeParts parts files).2.isFile target = true := by
  induction parts generalizing files with
  | nil => cases hmem
  | cons first rest ih =>
    have hrest : ∀ other ∈ rest, ∃ target, other.Writes target :=
      fun other hother => h other (List.mem_cons_of_mem first hother)
    unfold writeParts at hok ⊢
    split at hok
    · rename_i changed hw
      rcases List.mem_cons.1 hmem with rfl | hmem
      · exact (keeps_writeParts hrest changed).isFile (hpart files changed hw).2
      · exact ih hrest hok hmem
    · cases hok

/-- A part that writes a text writes its target. -/
theorem writes_text {path target : Path} {text : List Char} :
    Part.Writes { path, write := fun files => files.writeText target text } target := by
  intro files changed h
  exact ⟨FileSystem.keeps_write h, FileSystem.isFile_of_write h⟩

/-- A part that copies a file writes its target. -/
theorem writes_copy {path source target : Path} :
    Part.Writes { path, write := fun files => files.copy source target } target := by
  intro files changed h
  exact FileSystem.keeps_copy h

/-- Every part of the sources writes a file. -/
theorem exists_writes {part : Part} (h : part ∈ sources.parts directory) : ∃ target, part.Writes target := by
  rcases List.mem_cons.1 h with rfl | h
  · exact ⟨_, writes_text⟩
  · rcases List.mem_append.1 h with h | h
    · obtain ⟨b, -, rfl⟩ := List.mem_map.1 h
      exact ⟨_, writes_text⟩
    · obtain ⟨a, -, rfl⟩ := List.mem_map.1 h
      exact ⟨_, writes_copy⟩

/-- The sources keep the directories there are. -/
theorem keeps_write (sources : Sources) (directory : Path) (files : FileSystem) :
    Keeps files (sources.write directory files).2 :=
  keeps_writeParts (fun _ => exists_writes) files

/-- All that is reported as written is there. -/
theorem isFile_of_write {written : Written} (h : sources.write directory files = (.ok written, after)) :
    written.source = directory.child (sources.name ++ ".tex") ∧ ∀ path ∈ written.paths, after.isFile path = true := by
  unfold write at h
  simp only [Prod.mk.injEq] at h
  obtain ⟨hresult, rfl⟩ := h
  cases hok : (writeParts (sources.parts directory) files).1 with
  | error error =>
    rw [hok] at hresult
    cases hresult
  | ok u =>
    rw [hok] at hresult
    cases hresult
    have hpart : ∀ part ∈ sources.parts directory, ∀ target, part.Writes target →
        (writeParts (sources.parts directory) files).2.isFile target = true :=
      fun part hmem target hpart => isFile_of_writeParts (fun _ => exists_writes) hok hmem hpart
    refine ⟨rfl, fun path hpath => ?_⟩
    rcases List.mem_cons.1 hpath with rfl | hpath
    · exact hpart _ List.mem_cons_self _ writes_text
    · rcases List.mem_append.1 hpath with hbib | haux
      · obtain ⟨b, hb, rfl⟩ := Option.map_eq_some_iff.1 (Option.mem_toList.1 hbib)
        refine hpart _ (List.mem_cons_of_mem _ (List.mem_append_left _ (List.mem_map.2 ⟨b, ?_, rfl⟩))) _ writes_text
        exact Option.mem_toList.2 hb
      · obtain ⟨a, ha, rfl⟩ := List.mem_map.1 (List.mem_mergeSort.1 haux)
        exact hpart _ (List.mem_cons_of_mem _ (List.mem_append_right _ (List.mem_map.2 ⟨a, ha, rfl⟩))) _ writes_copy

end Sources

/-! ## Typesetting -/

namespace Typesetter

open Typeset

variable {typesetter : Typesetter} {job : Job} {directory : Path}

/-- The compiler at a position is the first that can be run. -/
def IsFirst (typesetter : Typesetter) (position : Nat) (compiler : Compiler) (files : FileSystem) : Prop :=
  typesetter.compilers[position]? = some compiler ∧ compiler.isAvailable files = true ∧
    ∀ earlier ∈ typesetter.compilers.take position, earlier.isAvailable files = false

/-- The compiler chosen is the first one that is there. -/
theorem isFirst_of_choose? {position : Nat} {compiler : Compiler}
    (h : typesetter.choose? files = some (position, compiler)) :
    typesetter.IsFirst position compiler files := by
  unfold choose? at h
  obtain ⟨found, hget, heq⟩ := Option.map_eq_some_iff.1 h
  cases heq
  obtain ⟨hlt, hfound⟩ := List.getElem?_eq_some_iff.1 hget
  refine ⟨hget, ?_, fun earlier hmem => ?_⟩
  · rw [← hfound]
    exact List.findIdx_getElem (p := fun compiler : Compiler => compiler.isAvailable files) (w := hlt)
  · obtain ⟨i, hi, rfl⟩ := List.getElem_of_mem hmem
    rw [List.getElem_take]
    rw [List.length_take] at hi
    exact Bool.eq_false_iff.2 (by simpa using List.not_of_lt_findIdx (lt_of_lt_of_le hi (Nat.min_le_left _ _)))

/-- Delivering keeps the directories there are. -/
theorem keeps_deliver (job : Job) (directory : Path) (files : FileSystem) :
    Keeps files (deliver job directory files).2 := by
  unfold deliver
  dsimp only
  split
  · exact Keeps.refl files
  · exact Keeps.refl files
  · split
    · exact Keeps.refl files
    · split
      · rename_i h
        exact (FileSystem.keeps_copy h).1
      · exact Keeps.refl files

/-- What is delivered is the PDF in the directory asked for. -/
theorem deliver_ok {pdf : Path} (h : (deliver job directory files).1 = .ok pdf) :
    pdf = directory.child (job.name ++ ".pdf") := by
  unfold deliver at h
  dsimp only at h
  split at h
  · cases h
  · cases h
  · split at h
    · cases h
      rfl
    · split at h
      · cases h
        rfl
      · cases h

/-- Without a compiler that can be run nothing is done. Else the first one is run, once, and the files after it are
kept, but for the PDF that may be brought into the directory. -/
theorem typeset_cases (typesetter : Typesetter) (job : Job) (directory : Path) (files : FileSystem) :
    (∃ error, typesetter.typeset job directory files = { result := .error error, runs := [], files }) ∨
      ∃ position compiler, typesetter.IsFirst position compiler files ∧
        (typesetter.typeset job directory files).runs = [{ position, job, before := files }] ∧
        Keeps (compiler.run job files).2 (typesetter.typeset job directory files).files := by
  cases hc : typesetter.choose? files with
  | none =>
    refine Or.inl ⟨.noCompiler typesetter.names, ?_⟩
    simp only [typeset, compile, hc]
  | some chosen =>
    obtain ⟨position, compiler⟩ := chosen
    refine Or.inr ⟨position, compiler, isFirst_of_choose? hc, ?_⟩
    cases hr : compiler.run job files with
    | mk result made =>
      cases result with
      | error error =>
        simp only [typeset, compile, hc, hr, Except.map]
        exact ⟨trivial, Keeps.refl made⟩
      | ok u =>
        simp only [typeset, compile, hc, hr, Except.map]
        exact ⟨trivial, keeps_deliver job directory made⟩

/-- A typesetting that succeeds ends with the PDF in the directory asked for. -/
theorem typeset_ok {pdf : Path} (h : (typesetter.typeset job directory files).result = .ok pdf) :
    pdf = directory.child (job.name ++ ".pdf") := by
  unfold typeset at h
  dsimp only at h
  split at h
  · cases h
  · exact deliver_ok h

end Typesetter

/-! ## Directories -/

/-- A path after one from the root starts at the root. -/
theorem Path.isAbsolute_join {base path : Path} (h : base.isAbsolute = true) : (base.join path).isAbsolute = true := by
  unfold join
  by_cases hpath : path.isAbsolute = true
  · rw [hpath, Bool.true_or, if_pos rfl]
    exact hpath
  · have hhead : base.text.toList.head? = some '/' := by simpa [isAbsolute] using h
    have hne : base.text ≠ "" := by
      intro hempty
      rw [hempty] at hhead
      cases hhead
    have hstart (rest : String) : (Path.mk (base.text ++ rest)).isAbsolute = true := by
      simp [isAbsolute, String.toList_append, List.head?_append, hhead]
    rw [Bool.not_eq_true] at hpath
    rw [hpath, Bool.false_or, if_neg (by simpa using hne)]
    split
    · exact hstart _
    · rw [String.append_assoc]
      exact hstart _

/-- The path of a location begins at the root. -/
theorem FileSystem.isAbsolute_pathOf (location : Location) : (pathOf location).isAbsolute = true := by
  simp [pathOf, Path.isAbsolute, String.toList_append]

namespace Compilation

variable {context : CompilationContext} {options : Options}

/-- Making directories keeps those there are. -/
theorem keeps_makeDirectories (path : Path) (files : FileSystem) : Keeps files (makeDirectories path files).2 :=
  FileSystem.keeps_makeDirectories files path

/-- A directory that is made is the child with the name. -/
theorem makeChild_eq_ok {parent path : Path} {name : String} (h : makeChild parent name files = (.ok path, after)) :
    path = parent.child name ∧ files.makeDirectory path = .ok after := by
  unfold makeChild at h
  split at h
  · rename_i made
    simp only [Prod.mk.injEq, Except.ok.injEq] at h
    obtain ⟨rfl, rfl⟩ := h
    exact ⟨rfl, made⟩
  · cases h

/-- A directory that cannot be made leaves the files as they are. -/
theorem makeChild_eq_error {parent : Path} {name : String} {error : FileError}
    (h : makeChild parent name files = (.error error, after)) : after = files := by
  unfold makeChild at h
  split at h
  · cases h
  · cases h
    rfl

/-- A fresh directory is one that could be made below its parent, under some name. -/
theorem makeFresh_eq_ok {attempts : Nat} {parent path : Path} {name : String}
    (h : makeFresh attempts parent name files = (.ok path, after)) :
    ∃ name, path = parent.child name ∧ files.makeDirectory path = .ok after := by
  induction attempts generalizing name with
  | zero => exact ⟨name, makeChild_eq_ok h⟩
  | succ attempts ih =>
    unfold makeFresh unlessTaken at h
    split at h
    · rename_i tried htried
      rw [makeChild_eq_error htried] at h
      exact ih h
    · exact ⟨name, makeChild_eq_ok h⟩

/-- A temporary directory is made where nothing stood, and its path, which starts at the root, leads to it. -/
theorem makeTemporary_eq_ok {directory : WorkingDirectory} (h : makeTemporary context files = (.ok directory, after)) :
    directory.isTemporary = true ∧ directory.path.isAbsolute = true ∧
      ∃ location, location ≠ [] ∧ files.find? location = none ∧
        after.locate directory.path = .ok (location, .directory) := by
  have keeps := keeps_makeDirectories context.tempDir files
  unfold makeTemporary at h
  split at h
  · cases h
  · rename_i made hparents
    rw [hparents] at keeps
    dsimp only at h
    split at h
    · rename_i path hfresh
      simp only [Prod.mk.injEq, Except.ok.injEq] at h
      obtain ⟨rfl, hafter⟩ := h
      obtain ⟨name, rfl, hmade⟩ := makeFresh_eq_ok (Prod.ext hfresh hafter)
      obtain ⟨location, hne, hfree, hleads⟩ := FileSystem.locate_of_makeDirectory hmade
      refine ⟨rfl, Path.isAbsolute_join (Path.isAbsolute_join (FileSystem.isAbsolute_pathOf _)), location, hne, ?_,
        hleads⟩
      exact keeps.find?_eq_none hfree
    · cases h

end Compilation

end Manuscript
