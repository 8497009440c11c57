import Manuscript.Proofs.Blank
import Manuscript.Proofs.Steps

/-!
# The PDF that is delivered

A PDF is copied into the output directory unless its path there has the same components as the path at which the
compiler left it. Paths that end in a name and have the same components lead to the same place (`locate_congr`), so
what is not copied is what the compiler left. The converse fails: two spellings of one directory may differ in their
components, and a copy of a file to its own place empties it. So the delivered file has the bytes that the compiler
left unless it is such a copy (`delivered_bytes_iff`).
-/

namespace Manuscript

namespace Text

/-- What stands without marks at the end of a text ends its last piece. -/
theorem getLast?_splitWhere_append (isMark : Char → Bool) (s : List Char) {t : List Char}
    (h : ∀ c ∈ t, isMark c = false) : ∃ w, (splitWhere isMark (s ++ t)).getLast? = some (w ++ t) := by
  obtain ⟨before, last, hs⟩ := exists_splitWhere_concat isMark s
  exact ⟨last, by rw [splitWhere_append hs (splitWhere_of_forall h), List.getLast?_concat]⟩

end Text

namespace Path

/-! ## What components say -/

/-- Whether a piece of a path leads anywhere: it is neither empty nor a single dot. -/
def isSolid (piece : List Char) : Bool :=
  !(piece.isEmpty || piece = ['.'])

/-- The piece that a component was read from, if it leads anywhere. -/
def Component.piece? : Component → Option (List Char)
  | .name text => some text
  | .parent => some ['.', '.']
  | .root | .current => none

/-- The components of pieces tell those pieces that lead anywhere. -/
theorem filterMap_pieceComponents (first : Bool) (pieces : List (List Char)) :
    (pieceComponents first pieces).filterMap Component.piece? = pieces.filter isSolid := by
  induction pieces generalizing first with
  | nil => rfl
  | cons piece rest ih =>
    rw [pieceComponents, List.filterMap_append, ih, List.filter_cons]
    by_cases hempty : piece = []
    · simp [pieceComponent?, isSolid, hempty]
    by_cases hdot : piece = ['.']
    · cases first <;> simp [pieceComponent?, isSolid, hdot, Component.piece?]
    by_cases hdots : piece = ['.', '.']
    · simp [pieceComponent?, isSolid, hdots, Component.piece?]
    · simp [pieceComponent?, isSolid, hempty, hdot, hdots, Component.piece?]

/-- The pieces that lead on are those of the components. -/
theorem filterMap_components (path : Path) :
    path.components.filterMap Component.piece? = path.pieces.filter isSolid := by
  rw [components]
  split
  · rw [List.filterMap_cons_none (by rfl), filterMap_pieceComponents]
  · exact filterMap_pieceComponents _ _

/-- The root is no piece. -/
theorem root_not_mem_pieceComponents (first : Bool) (pieces : List (List Char)) :
    .root ∉ pieceComponents first pieces := by
  induction pieces generalizing first with
  | nil => simp [pieceComponents]
  | cons piece rest ih =>
    rw [pieceComponents, List.mem_append, not_or]
    refine ⟨?_, ih false⟩
    unfold pieceComponent?
    split
    · simp
    · split
      · split <;> simp
      · split <;> simp

/-- The components of a path tell whether it starts at the root. -/
theorem isAbsolute_iff (path : Path) : path.isAbsolute = true ↔ .root ∈ path.components := by
  have hpieces := root_not_mem_pieceComponents
  rw [components]
  split
  · simp [*]
  · simp [*]

/-! ## Paths that end in a name -/

/-- Whether a path ends in a piece that leads anywhere. -/
def EndsSolid (path : Path) : Prop :=
  ∃ piece, path.pieces.getLast? = some piece ∧ isSolid piece = true

/-- A name put behind a path ends the text of the whole. -/
theorem exists_text_child (base : Path) (name : String) : ∃ before, (base.child name).text = before ++ name := by
  rw [child, join]
  split
  · exact ⟨"", by simp⟩
  · split
    · exact ⟨base.text, rfl⟩
    · exact ⟨base.text ++ "/", rfl⟩

/-- A path to a PDF ends in a name. -/
theorem endsSolid_child_pdf (base : Path) (name : String) : (base.child (name ++ ".pdf")).EndsSolid := by
  obtain ⟨before, htext⟩ := exists_text_child base (name ++ ".pdf")
  have hlist : (base.child (name ++ ".pdf")).text.toList = (before ++ name).toList ++ ".pdf".toList := by
    rw [htext, ← String.append_assoc, String.toList_append]
  obtain ⟨lead, hbody⟩ : ∃ lead, (base.child (name ++ ".pdf")).body = lead ++ ".pdf".toList := by
    unfold body
    split
    · rename_i habsolute
      rw [isAbsolute, hlist] at habsolute
      rw [hlist]
      cases hlead : (before ++ name).toList with
      | nil =>
        rw [hlead] at habsolute
        cases habsolute
      | cons c rest => exact ⟨rest, rfl⟩
    · exact ⟨_, hlist⟩
  obtain ⟨w, hw⟩ := Text.getLast?_splitWhere_append (· == '/') lead (t := ".pdf".toList) (by decide)
  refine ⟨w ++ ".pdf".toList, by rw [pieces, hbody, hw], ?_⟩
  have hlength : 2 ≤ (w ++ ".pdf".toList).length := by
    rw [List.length_append]
    exact Nat.le_trans (by decide) (Nat.le_add_left _ _)
  have hne : w ++ ".pdf".toList ≠ [] := fun hnil => by
    rw [hnil] at hlength
    cases hlength
  have hdot : w ++ ".pdf".toList ≠ ['.'] := fun hdot => by
    rw [hdot] at hlength
    cases hlength with | step hlength => cases hlength
  rw [isSolid, Bool.not_eq_true', Bool.or_eq_false_iff]
  exact ⟨by rw [List.isEmpty_eq_false_iff]; exact hne, decide_eq_false hdot⟩

end Path

namespace FileSystem

variable {files changed : FileSystem} {a b source target : Path}

/-- An empty piece or a single dot leads nowhere else. -/
theorem step_of_not_isSolid {location : Location} {piece : List Char} (h : Path.isSolid piece = false) :
    step location piece = .ok location := by
  rw [Path.isSolid, Bool.not_eq_false'] at h
  rw [step, if_pos h]

/-- Pieces that lead nowhere can be left out in front of others: what comes next asks for the same directory. -/
theorem walk_filter_isSolid {start : Location} {pieces : List (List Char)}
    (h : ∃ piece, pieces.getLast? = some piece ∧ Path.isSolid piece = true) :
    files.walk start (pieces.filter Path.isSolid) = files.walk start pieces := by
  induction pieces generalizing start with
  | nil => rfl
  | cons piece rest ih =>
    obtain ⟨last, hlast, hsolid⟩ := h
    cases rest with
    | nil =>
      simp only [List.getLast?_singleton, Option.some.injEq] at hlast
      rw [hlast, List.filter_cons_of_pos hsolid]
      rfl
    | cons next others =>
      have hrest : ∃ piece, (next :: others).getLast? = some piece ∧ Path.isSolid piece = true :=
        ⟨last, by rwa [List.getLast?_cons_cons] at hlast, hsolid⟩
      cases hp : Path.isSolid piece with
      | true =>
        rw [List.filter_cons_of_pos hp, walk, walk]
        simp only [ih hrest]
      | false =>
        rw [List.filter_cons_of_neg (by simp [hp]), ih hrest]
        cases hd : files.requireDirectory start <;> simp [walk, step_of_not_isSolid hp, hd, bind, Except.bind]

/-- Paths that end in a name lead to the same place when their components are the same. -/
theorem locate_congr (hsame : a.sameAs b = true) (ha : a.EndsSolid) (hb : b.EndsSolid)
    (hspelling : spellingError? a = none) (hspelling' : spellingError? b = none) :
    files.locate a = files.locate b := by
  have hcomponents : a.components = b.components := beq_iff_eq.1 hsame
  have hstart : files.startOf a = files.startOf b := by
    have habsolute : a.isAbsolute = b.isAbsolute := by
      rw [Bool.eq_iff_iff, Path.isAbsolute_iff, Path.isAbsolute_iff, hcomponents]
    unfold startOf
    rw [habsolute]
  have hwalk : files.walk (files.startOf a) a.pieces = files.walk (files.startOf b) b.pieces := by
    rw [← walk_filter_isSolid ha, ← walk_filter_isSolid hb, ← Path.filterMap_components, ← Path.filterMap_components,
      hcomponents, hstart]
  simp only [locate, hspelling, hspelling', hwalk]

/-! ## Copies -/

/-- Two paths lead to one thing. -/
def SamePlace (files : FileSystem) (a b : Path) : Prop :=
  ∃ found, files.locate a = .ok found ∧ files.locate b = .ok found

/-- A file that is found is read. -/
theorem read_of_locate {location : Location} {bytes : List UInt8} {executable : Bool} {path : Path}
    (h : files.locate path = .ok (location, .file bytes executable)) : files.read path = .ok bytes := by
  unfold read
  rw [h]
  rfl

/-- What is read depends on where the path leads only. -/
theorem read_congr (h : files.locate a = files.locate b) : files.read a = files.read b := by
  unfold read
  rw [h]

/-- After a copy the target has the bytes of the source, unless both paths led to one file: then it has none. -/
theorem read_of_copy (h : files.copy source target = .ok changed) :
    ∃ bytes, files.read source = .ok bytes ∧ (files.SamePlace target source → changed.read target = .ok []) ∧
      (¬files.SamePlace target source → changed.read target = .ok bytes) := by
  obtain ⟨place, bytes, executable, location, hsource, htarget, keeps, hchanged⟩ := locate_of_copy h
  obtain ⟨-, -, hleads⟩ := targetOf_eq_ok htarget
  have hsamePlace : files.SamePlace target source ↔ place = location := by
    constructor
    · rintro ⟨⟨location', entry⟩, hbefore, hsource'⟩
      rw [hsource] at hsource'
      cases hsource'
      -- Where the target leads does not change by the copy.
      obtain ⟨-, hwalk, -⟩ := locate_eq_ok.1 hbefore
      obtain ⟨-, hwalk', -⟩ := locate_eq_ok.1 hchanged
      rw [keeps.startOf] at hwalk'
      exact walk_unique hwalk hwalk'
    · rintro rfl
      exact ⟨_, hleads files bytes executable (Keeps.refl files) (locate_eq_ok.1 hsource).2.2, hsource⟩
  refine ⟨bytes, read_of_locate hsource, fun hsame => ?_, fun hother => ?_⟩
  · rw [read_of_locate hchanged, if_pos (hsamePlace.1 hsame)]
  · rw [read_of_locate hchanged, if_neg (fun heq => hother (hsamePlace.2 heq))]

/-- A path that is there leads somewhere. -/
theorem isThere_eq_ok_true {path : Path} (h : files.isThere path = .ok true) :
    ∃ found, files.locate path = .ok found := by
  unfold isThere at h
  split at h
  · rename_i found hfound
    exact ⟨found, hfound⟩
  · split at h <;> cases h

/-- A path that cannot be spelled so is read differently from one that leads to something. -/
theorem read_ne_of_spellingError? {error : FileError} (h : spellingError? a = some error) {found : Location × Entry}
    (hfound : files.locate b = .ok found) : files.read a ≠ files.read b := by
  have hread : files.read a = .error error := by
    simp [read, locate, h]
    rfl
  have herror : error ≠ .isADirectory := by
    rintro rfl
    unfold spellingError? at h
    dsimp only at h
    split at h
    · cases h
    · split at h
      · cases h
      · split at h <;> cases h
  obtain ⟨location, entry⟩ := found
  rw [hread]
  intro heq
  unfold read at heq
  rw [hfound] at heq
  cases entry with
  | file bytes executable => cases heq
  | directory =>
    cases heq
    exact herror rfl

end FileSystem

namespace Typesetter

open Typeset

variable {typesetter : Typesetter} {job : Job} {directory target : Path} {files : FileSystem}

/-- What is delivered has the bytes that were left for it: always when the comparison of the paths finds them the
same, if the target can be spelled as it is; and when it does not, only if they do not lead to one file all the
same. -/
theorem read_deliver_iff (h : (deliver job directory files).1 = .ok target) :
    (deliver job directory files).2.read target = files.read job.pdfPath ↔
      (target.sameAs job.pdfPath = true → FileSystem.spellingError? target = none) ∧
        (target.sameAs job.pdfPath = false → files.SamePlace target job.pdfPath → files.read job.pdfPath = .ok []) := by
  have htarget := deliver_ok h
  have hsolid : target.EndsSolid := htarget ▸ Path.endsSolid_child_pdf directory job.name
  have hproduced : job.pdfPath.EndsSolid := Path.endsSolid_child_pdf job.workDir job.name
  unfold deliver at h ⊢
  rw [← htarget] at h ⊢
  dsimp only at h ⊢
  cases hthere : files.isThere job.pdfPath with
  | error error =>
    rw [hthere] at h
    cases h
  | ok there =>
    cases there with
    | false =>
      rw [hthere] at h
      cases h
    | true =>
      obtain ⟨found, hfound⟩ := FileSystem.isThere_eq_ok_true hthere
      rw [hthere] at h
      simp only at h ⊢
      cases hsame : target.sameAs job.pdfPath with
      | true =>
        simp only [if_true, true_implies, Bool.true_eq_false, false_implies, and_true]
        constructor
        · intro hread
          cases hspelling : FileSystem.spellingError? target with
          | none => rfl
          | some error => exact absurd hread (FileSystem.read_ne_of_spellingError? hspelling hfound)
        · intro hspelling
          have hlocate : files.locate target = files.locate job.pdfPath :=
            FileSystem.locate_congr hsame hsolid hproduced hspelling (FileSystem.locate_eq_ok.1 hfound).1
          exact FileSystem.read_congr hlocate
      | false =>
        rw [hsame] at h
        simp only [Bool.false_eq_true, if_false, false_implies, true_implies, true_and] at h ⊢
        cases hcopy : files.copy job.pdfPath target with
        | error error =>
          rw [hcopy] at h
          cases h
        | ok copied =>
          obtain ⟨bytes, hbytes, hlost, hkept⟩ := FileSystem.read_of_copy hcopy
          rw [hbytes]
          by_cases hplace : files.SamePlace target job.pdfPath
          · rw [hlost hplace]
            simp only [hplace, true_implies]
            exact eq_comm
          · simp [hkept hplace, hplace]

/-- Typesetting that succeeds ends with the delivery of what the compiler left. -/
theorem typeset_eq_deliver (h : (typesetter.typeset job directory files).result = .ok target) :
    (deliver job directory (typesetter.compile job files).files).1 = .ok target ∧
      (typesetter.typeset job directory files).files =
        (deliver job directory (typesetter.compile job files).files).2 := by
  cases hresult : (typesetter.compile job files).result with
  | error error =>
    simp only [typeset, hresult] at h
    cases h
  | ok name =>
    simp only [typeset, hresult] at h ⊢
    exact ⟨h, trivial⟩

/-- The PDF that typesetting answers with has exactly the bytes that the compiler left, unless the comparison of
paths misses that source and target of the copy are one file, which is then empty, or the path of the answer is too
long to be followed. -/
theorem delivered_bytes_iff (typesetter : Typesetter) (job : Job) (directory : Path) (files : FileSystem)
    {target : Path} (h : (typesetter.typeset job directory files).result = .ok target) :
    (typesetter.typeset job directory files).files.read target = (typesetter.compile job files).files.read job.pdfPath ↔
      (target.sameAs job.pdfPath = true → FileSystem.spellingError? target = none) ∧
        (target.sameAs job.pdfPath = false → (typesetter.compile job files).files.SamePlace target job.pdfPath →
          (typesetter.compile job files).files.read job.pdfPath = .ok []) := by
  obtain ⟨hdeliver, hfiles⟩ := typeset_eq_deliver h
  rw [hfiles]
  exact read_deliver_iff hdeliver

/-- The start of every PDF. -/
def pdfBytes : List UInt8 := [0x25, 0x50, 0x44, 0x46]

/-- A compiler that writes the shortest of PDFs. -/
def quick : Typesetter where
  compilers :=
    [{ name := "quick"
       isAvailable := fun _ => true
       run := fun job files =>
        match files.write job.pdfPath pdfBytes with
        | .ok changed => (.ok (), changed)
        | .error error => (.error (.file error), files) }]

/-- A home with two directories. -/
def home : FileSystem where
  entries := [(["home"], .directory), (["home", "work"], .directory), (["home", "out"], .directory)]
  workingDirectory := ["home"]

/-- A compiler that writes the PDF, and a directory to deliver it to. -/
theorem quick_delivers :
    (quick.typeset { workDir := ⟨"work"⟩, name := "paper" } ⟨"/home/out"⟩ home).result = .ok ⟨"/home/out/paper.pdf"⟩ ∧
      (quick.typeset { workDir := ⟨"work"⟩, name := "paper" } ⟨"/home/out"⟩ home).files.read ⟨"/home/out/paper.pdf"⟩ =
        (quick.compile { workDir := ⟨"work"⟩, name := "paper" } home).files.read ⟨"work/paper.pdf"⟩ := by
  have hresult : (quick.typeset { workDir := ⟨"work"⟩, name := "paper" } ⟨"/home/out"⟩ home).result =
      .ok ⟨"/home/out/paper.pdf"⟩ := by
    decide +kernel
  refine ⟨hresult, (delivered_bytes_iff quick { workDir := ⟨"work"⟩, name := "paper" } ⟨"/home/out"⟩ home hresult).2 ?_⟩
  refine ⟨by decide +kernel, ?_⟩
  rintro - ⟨found, htarget, -⟩
  have hnone : (quick.compile { workDir := ⟨"work"⟩, name := "paper" } home).files.locate ⟨"/home/out/paper.pdf"⟩ =
      .error .notFound := by
    decide +kernel
  rw [hnone] at htarget
  cases htarget

/-- Two spellings of one directory: the PDF that the compiler left is emptied, and its path is the answer. -/
theorem delivered_empty :
    (quick.typeset { workDir := ⟨"out"⟩, name := "paper" } ⟨"./out"⟩ home).result = .ok ⟨"./out/paper.pdf"⟩ ∧
      (quick.compile { workDir := ⟨"out"⟩, name := "paper" } home).files.read ⟨"out/paper.pdf"⟩ = .ok pdfBytes ∧
      (quick.typeset { workDir := ⟨"out"⟩, name := "paper" } ⟨"./out"⟩ home).files.read ⟨"./out/paper.pdf"⟩ =
        .ok [] := by
  decide +kernel

end Typesetter

end Manuscript
