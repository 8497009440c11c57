import Manuscript.Proofs.Delivery

/-!
# Runs that leave no PDF

A compiler may be successful without writing a PDF. What is found afterwards is then what was found before, and only
its presence is asked for: a PDF of an earlier run is delivered as the result, and that there is no PDF is reported
exactly when there was none before (`missing_output_iff`).
-/

namespace Manuscript

namespace Typeset.Job

variable {job : Job} {before after : FileSystem}

/-- Nothing was written at the path of the PDF: what is found there was found there before. -/
def Unwritten (job : Job) (before after : FileSystem) : Prop :=
  ∀ found, after.locate job.pdfPath = .ok found → before.locate job.pdfPath = .ok found

/-- At the path of the PDF is what was there before. -/
def Outdated (job : Job) (before after : FileSystem) : Prop :=
  ∃ found, before.locate job.pdfPath = .ok found ∧ after.locate job.pdfPath = .ok found

/-- What is there after a run that wrote nothing was there before it. -/
theorem Unwritten.outdated_iff (h : job.Unwritten before after) :
    job.Outdated before after ↔ ∃ found, after.locate job.pdfPath = .ok found :=
  ⟨fun ⟨found, _, hafter⟩ => ⟨found, hafter⟩, fun ⟨found, hafter⟩ => ⟨found, h found hafter, hafter⟩⟩

end Typeset.Job

namespace Typesetter

open Typeset

variable {typesetter : Typesetter} {job : Job} {directory target : Path} {files after : FileSystem}

/-- After a successful run typesetting is the delivery of what the compiler left. -/
theorem typeset_of_run (directory : Path) {position : Nat} {compiler : Compiler}
    (hchosen : typesetter.choose? files = some (position, compiler)) (hrun : compiler.run job files = (.ok (), after)) :
    (typesetter.typeset job directory files).result = (deliver job directory after).1 ∧
      (typesetter.typeset job directory files).files = (deliver job directory after).2 := by
  simp only [typeset, compile, hchosen, hrun, Except.map, and_self]

/-- That there is no PDF is said when nothing is found at its path, and then nothing is changed. -/
theorem deliver_eq_noOutput_iff :
    deliver job directory files = (.error (.noOutput job.pdfPath), files) ↔
      files.locate job.pdfPath = .error .notFound := by
  unfold deliver FileSystem.isThere
  dsimp only
  cases hlocate : files.locate job.pdfPath with
  | error error => by_cases hnone : error = .notFound <;> simp [hnone]
  | ok found =>
    simp only [reduceCtorEq, iff_false]
    split
    · simp
    · split <;> simp

/-- What is delivered was found at the path of the PDF. -/
theorem exists_locate_of_deliver (h : (deliver job directory files).1 = .ok target) :
    ∃ found, files.locate job.pdfPath = .ok found := by
  unfold deliver at h
  dsimp only at h
  split at h
  · cases h
  · cases h
  · rename_i hthere
    exact FileSystem.isThere_eq_ok_true hthere

/-- A compiler is successful and writes no PDF: this is reported, with the files as the compiler left them, exactly
when there was no PDF before, provided that the path of the PDF can be followed. What is delivered in the other case
is the outdated PDF. -/
theorem missing_output_iff (typesetter : Typesetter) (job : Job) (directory : Path) {files after : FileSystem}
    {position : Nat} {compiler : Compiler} (hchosen : typesetter.choose? files = some (position, compiler))
    (hrun : compiler.run job files = (.ok (), after)) (hunwritten : job.Unwritten files after) :
    ((typesetter.typeset job directory files).result = .error (.noOutput job.pdfPath) ∧
          (typesetter.typeset job directory files).files = after ↔
        ¬job.Outdated files after ∧ ∀ error, after.locate job.pdfPath = .error error → error = .notFound) ∧
      ∀ target, (typesetter.typeset job directory files).result = .ok target → job.Outdated files after := by
  obtain ⟨hresult, hfiles⟩ := typeset_of_run directory hchosen hrun
  rw [hresult, hfiles, ← Prod.mk.injEq, Prod.eta, deliver_eq_noOutput_iff, hunwritten.outdated_iff]
  refine ⟨?_, fun target hdelivered => exists_locate_of_deliver hdelivered⟩
  cases after.locate job.pdfPath <;> simp

/-- A compiler that does nothing, successfully. -/
def quietCompiler : Compiler where
  name := "quiet"
  isAvailable _ := true
  run _ files := (.ok (), files)

def quiet : Typesetter :=
  ⟨[quietCompiler]⟩

/-- A compiler that writes nothing, in a directory without the PDF. -/
theorem quiet_reported :
    (quiet.typeset { workDir := ⟨"work"⟩, name := "paper" } ⟨"out"⟩ home).result = .error
      (.noOutput ⟨"work/paper.pdf"⟩) ∧
      (quiet.typeset { workDir := ⟨"work"⟩, name := "paper" } ⟨"out"⟩ home).files = home := by
  have hnone : home.locate (Job.pdfPath { workDir := ⟨"work"⟩, name := "paper" }) = .error .notFound := by
    decide +kernel
  have hchosen : quiet.choose? home = some (0, quietCompiler) := rfl
  have hreported :=
    missing_output_iff quiet { workDir := ⟨"work"⟩, name := "paper" } ⟨"out"⟩ hchosen rfl (fun found hfound => hfound)
  refine hreported.1.2 ⟨?_, fun error herror => ?_⟩
  · rintro ⟨found, hfound, -⟩
    rw [hnone] at hfound
    cases hfound
  · rw [hnone] at herror
    cases herror
    rfl

/-- A home with the PDF of an earlier run. -/
def usedHome : FileSystem where
  entries := (["home", "work", "paper.pdf"], .file pdfBytes false) :: home.entries
  workingDirectory := ["home"]

/-- A compiler that writes nothing, and yet a PDF is delivered: that of the earlier run. -/
theorem outdated_delivered :
    (quiet.compile { workDir := ⟨"work"⟩, name := "paper" } usedHome).result = .ok "quiet" ∧
      (quiet.compile { workDir := ⟨"work"⟩, name := "paper" } usedHome).files = usedHome ∧
      (quiet.typeset { workDir := ⟨"work"⟩, name := "paper" } ⟨"out"⟩ usedHome).result = .ok ⟨"out/paper.pdf"⟩ ∧
      (quiet.typeset { workDir := ⟨"work"⟩, name := "paper" } ⟨"out"⟩ usedHome).files.read ⟨"out/paper.pdf"⟩ =
        .ok pdfBytes :=
  ⟨by decide +kernel, rfl, by decide +kernel, by decide +kernel⟩

end Typesetter

end Manuscript
