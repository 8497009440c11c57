import Manuscript.Proofs.Delivery

/-!
# What a failure is reported with

A compiler starts programs in turn, and the first that fails is the last that is started (`exists_exits_of_runAll`,
`runAll_of_exits`). The report has the last lines of the log of the job. Whether the program that failed wrote that
log is not asked: the log of an earlier program, or of an earlier run, is taken for its own. So the report is made
of what the failing program wrote exactly when no such log is in the way (`failure_report_iff`).
-/

namespace Manuscript

/-- The last lines of a text are an ending of its lines, as long as it may be. -/
theorem Text.exists_suffix_lastLines (count : Nat) (s : List Char) :
    ∃ kept, kept <:+ lines s ∧ kept.length = min count (lines s).length ∧ lastLines count s = joinWith ['\n'] kept := by
  refine ⟨(lines s).drop ((lines s).length - count), List.drop_suffix _ _, ?_, rfl⟩
  rw [List.length_drop]
  omega

namespace Typeset

/-! ## Starts of programs -/

/-- A program with its arguments. -/
structure Command where
  program : String
  arguments : List String

namespace Command

/-- The start of a command for a job. -/
def invocation (command : Command) (job : Job) : Invocation :=
  { program := command.program, arguments := command.arguments, directory := job.workDir, timeout := job.timeout }

/-- A command run for a job. -/
def run (command : Command) (machine : Machine) (job : Job) (files : FileSystem) :
    FileSystem.Outcome TypesetError Unit :=
  runProgram machine command.program command.arguments job files

end Command

/-- A program that was started and ended by itself, with the files before and after it. -/
structure Exit where
  command : Command
  before : FileSystem
  status : ExitStatus
  stdout : List UInt8
  stderr : List UInt8
  after : FileSystem

namespace Exit

variable {machine : Machine} {job : Job} {e : Exit}

/-- The machine brings a program to this end. -/
def Of (e : Exit) (machine : Machine) (job : Job) : Prop :=
  machine.start (e.command.invocation job) e.before = (.ok (.exited e.status e.stdout e.stderr), e.after)

/-- The texts of both outputs of the program. -/
def outputs (e : Exit) : List Char :=
  Utf8.decodeLossy e.stdout ++ Utf8.decodeLossy e.stderr

/-- What the program wrote about its end: the log of the job, if it wrote it and wrote text, and else its outputs. -/
def ownText (e : Exit) (job : Job) (wroteLog : Bool) : List Char :=
  match wroteLog, e.after.readText job.logPath with
  | true, .ok log => log
  | _, _ => e.outputs

/-- A log that was there before the program and is there still. -/
def LeftLog (e : Exit) (job : Job) (log : List Char) : Prop :=
  e.before.readText job.logPath = .ok log ∧ e.after.readText job.logPath = .ok log

/-- A run of a command goes on after a success and is reported otherwise. -/
theorem Of.run_eq (h : e.Of machine job) :
    e.command.run machine job e.before =
      if e.status.isSuccess then (.ok (), e.after)
      else (.error (.failed e.command.program e.status (failureTail e.after job e.stdout e.stderr)), e.after) := by
  unfold Of Command.invocation at h
  unfold Command.run runProgram
  rw [h]

end Exit

section

variable {machine : Machine} {job : Job} {command : Command} {files after : FileSystem} {program : String}
  {status : ExitStatus} {tail : List Char}

/-- A command that succeeds was started and ended by itself. -/
theorem exists_exit_of_run_ok (h : command.run machine job files = (.ok (), after)) :
    ∃ e : Exit, e.Of machine job ∧ e.status.isSuccess = true ∧ e.command = command ∧ e.before = files ∧
      e.after = after := by
  unfold Command.run runProgram at h
  split at h
  · cases h
  · cases h
  · cases h
  · rename_i status stdout stderr left hstart
    split at h
    · rename_i hsuccess
      rw [Prod.mk.injEq] at h
      obtain ⟨-, rfl⟩ := h
      exact ⟨⟨command, files, status, stdout, stderr, left⟩, hstart, hsuccess, rfl, rfl, rfl⟩
    · cases h

/-- A command that is reported as failed was started and ended by itself. -/
theorem exists_exit_of_run_failed (h : command.run machine job files = (.error (.failed program status tail), after)) :
    ∃ e : Exit, e.Of machine job ∧ e.status.isSuccess = false ∧ e.command = command ∧ e.before = files ∧
      e.after = after ∧
      e.command.program = program ∧ e.status = status ∧ failureTail e.after job e.stdout e.stderr = tail := by
  unfold Command.run runProgram at h
  split at h
  · cases h
  · cases h
  · cases h
  · rename_i ended stdout stderr left hstart
    split at h
    · cases h
    · rename_i hfailure
      simp only [Prod.mk.injEq, Except.error.injEq, TypesetError.failed.injEq] at h
      obtain ⟨⟨rfl, rfl, rfl⟩, rfl⟩ := h
      exact ⟨⟨command, files, ended, stdout, stderr, left⟩, hstart, Bool.eq_false_iff.2 hfailure, rfl, rfl, rfl, rfl,
        rfl, rfl⟩

/-! ## Commands in turn -/

/-- Programs that all succeed one after another, each on the files that the one before it left. -/
inductive Machine.Succeeds (machine : Machine) (job : Job) : FileSystem → List Exit → FileSystem → Prop
  | nil (files : FileSystem) : Machine.Succeeds machine job files [] files
  | cons {e : Exit} {rest : List Exit} {after : FileSystem} : e.Of machine job → e.status.isSuccess = true →
      Machine.Succeeds machine job e.after rest after → Machine.Succeeds machine job e.before (e :: rest) after

theorem runInTurn_singleton (step : FileSystem → FileSystem.Outcome TypesetError Unit) (files : FileSystem) :
    runInTurn [step] files = step files := by
  rw [runInTurn]
  split
  · rename_i left hstep
    rw [runInTurn, hstep]
  · rfl

/-- The commands of a list run in turn. -/
def runAll (machine : Machine) (job : Job) (commands : List Command) :
    FileSystem → FileSystem.Outcome TypesetError Unit :=
  runInTurn (commands.map (fun command => command.run machine job))

/-- A failure in a list of commands: those before the failing one succeeded. -/
theorem exists_exits_of_runAll {commands : List Command}
    (h : runAll machine job commands files = (.error (.failed program status tail), after)) :
    ∃ (earlier : List Exit) (last : Exit) (later : List Command), commands = earlier.map
      (·.command) ++ last.command :: later ∧
      machine.Succeeds job files earlier last.before ∧ last.Of machine job ∧ last.status.isSuccess = false ∧
      last.after = after ∧
      last.command.program = program ∧ last.status = status ∧ failureTail after job last.stdout last.stderr = tail := by
  induction commands generalizing files with
  | nil =>
    unfold runAll at h
    cases h
  | cons command rest ih =>
    unfold runAll at h ih
    rw [List.map_cons, runInTurn] at h
    split at h
    · rename_i left hrun
      obtain ⟨e, he, hsuccess, rfl, rfl, rfl⟩ := exists_exit_of_run_ok hrun
      obtain ⟨earlier, last, later, hcommands, hearlier, hlast⟩ := ih h
      refine ⟨e :: earlier, last, later, ?_, .cons he hsuccess hearlier, hlast⟩
      rw [hcommands, List.map_cons, List.cons_append]
    · obtain ⟨last, hlast, hfailure, rfl, rfl, rfl, hreport⟩ := exists_exit_of_run_failed h
      exact ⟨[], last, rest, rfl, .nil _, hlast, hfailure, rfl, hreport⟩

/-- Once a command of a list fails, none of those behind it is started: the outcome is settled by the ends of those
before. -/
theorem runAll_of_exits {earlier : List Exit} {last : Exit} (later : List Command)
    (hearlier : machine.Succeeds job files earlier last.before) (hlast : last.Of machine job)
    (hfailure : last.status.isSuccess = false) :
    runAll machine job (earlier.map (·.command) ++ last.command :: later) files =
      (.error (.failed last.command.program last.status (failureTail last.after job last.stdout last.stderr)),
        last.after) := by
  unfold runAll
  generalize hfiles : last.before = before at hearlier
  induction hearlier with
  | nil files =>
    subst hfiles
    rw [List.map_nil, List.nil_append, List.map_cons, runInTurn, hlast.run_eq, hfailure]
    rfl
  | cons he hsuccess _ ih =>
    rw [List.map_cons, List.cons_append, List.map_cons, runInTurn, he.run_eq, if_pos hsuccess]
    exact ih hfiles

/-- Programs that succeed on one machine do so on every machine that brings them to the same ends. -/
theorem Machine.Succeeds.transfer {other : Machine} {earlier : List Exit} (h : machine.Succeeds job files earlier after)
    (hother : ∀ e ∈ earlier, e.Of other job) : other.Succeeds job files earlier after := by
  induction h with
  | nil files => exact .nil files
  | cons _ hsuccess _ ih =>
    refine .cons (hother _ List.mem_cons_self) hsuccess (ih ?_)
    intro e he
    exact hother e (List.mem_cons_of_mem _ he)

end

/-! ## The compilers -/

/-- The programs that make up a compiler. -/
inductive Toolchain where
  | latexmk (program : String)
  | pdflatex (program bibtex : String)

namespace Toolchain

/-- The compiler made up of the programs on a machine. -/
def compiler (machine : Machine) : Toolchain → Compiler
  | latexmk program => Compiler.latexmk machine program
  | pdflatex program bibtex => Compiler.pdflatex machine program bibtex

/-- What the compiler starts for a job, if nothing fails. -/
def commands (job : Job) : Toolchain → List Command
  | latexmk program =>
    [⟨program, "-pdf" :: Compiler.batchArguments ++ (if job.bibliography then ["-bibtex"] else []) ++ [job.sourceFile]⟩]
  | pdflatex program bibtex =>
    let pass : Command := ⟨program, Compiler.batchArguments ++ [job.sourceFile]⟩
    pass :: (if job.bibliography then [⟨bibtex, [job.name]⟩] else []) ++ [pass, pass]

/-- A compiler runs its commands in turn. -/
theorem run_eq (toolchain : Toolchain) (machine : Machine) (job : Job) (files : FileSystem) :
    (toolchain.compiler machine).run job files = runAll machine job (toolchain.commands job) files := by
  cases toolchain with
  | latexmk program => exact (runInTurn_singleton _ files).symm
  | pdflatex program bibtex =>
    obtain ⟨workDir, name, bibliography, timeout⟩ := job
    cases bibliography <;> rfl

end Toolchain

/-! ## The report -/

/-- The last lines of a text, as many as a report may have. -/
def EndOf (text tail : List Char) : Prop :=
  ∃ kept, kept <:+ Text.lines text ∧ kept.length = min tailLength (Text.lines text).length ∧
    tail = Text.joinWith ['\n'] kept

/-- The end of a text is its last lines. -/
theorem endOf_iff {text tail : List Char} : EndOf text tail ↔ tail = Text.lastLines tailLength text := by
  obtain ⟨last, hlast, hlength, htext⟩ := Text.exists_suffix_lastLines tailLength text
  unfold EndOf
  rw [htext]
  constructor
  · rintro ⟨kept, hkept, hcount, rfl⟩
    -- Endings of one list are told by their lengths.
    rw [List.suffix_iff_eq_drop.1 hkept, List.suffix_iff_eq_drop.1 hlast, hcount, hlength]
  · rintro rfl
    exact ⟨last, hlast, hlength, rfl⟩

variable {job : Job} {e : Exit}

/-- A log that was there before is reported, whoever wrote it. -/
theorem Exit.LeftLog.failureTail_eq {log : List Char} (h : e.LeftLog job log) :
    failureTail e.after job e.stdout e.stderr = Text.lastLines tailLength log := by
  unfold failureTail
  rw [h.2]

/-- The report has the last lines of what the program wrote, exactly when it wrote the log itself or there is no log
left from before with other last lines than its outputs have. -/
theorem failureTail_eq_own_iff {wroteLog : Bool}
    (hunwritten : wroteLog = false → ∀ log, e.after.readText job.logPath = .ok log →
      e.before.readText job.logPath = .ok log) :
    failureTail e.after job e.stdout e.stderr = Text.lastLines tailLength (e.ownText job wroteLog) ↔
      wroteLog = true ∨ ∀ log, e.LeftLog job log →
        Text.lastLines tailLength log = Text.lastLines tailLength e.outputs := by
  unfold failureTail Exit.ownText Exit.LeftLog
  cases hread : e.after.readText job.logPath with
  | error error =>
    cases wroteLog <;> simp [Exit.outputs]
  | ok log =>
    cases hwrote : wroteLog with
    | true => simp
    | false =>
      have hbefore := hunwritten hwrote log hread
      simp [hbefore]

/-- A run that ends with the report of a failure: the programs before the failing one succeeded, and no other is
started, since the outcome is the same on every machine that brings those programs to these ends. Say whether the
failing program wrote the log of the job; what it did not write was there before. Then the report has the last lines
of what the program wrote, exactly when it wrote the log itself or no log is left from before with other last lines
than the outputs of the program. A log that is left is reported in any case. -/
theorem failure_report_iff (toolchain : Toolchain) (machine : Machine) (job : Job) {files after : FileSystem}
    {program : String} {status : ExitStatus} {tail : List Char}
    (h : (toolchain.compiler machine).run job files = (.error (.failed program status tail), after)) :
    ∃ (earlier : List Exit) (last : Exit) (later : List Command),
      toolchain.commands job = earlier.map (·.command) ++ last.command :: later ∧
      machine.Succeeds job files earlier last.before ∧
      (last.Of machine job ∧ last.status.isSuccess = false ∧ last.after = after ∧ last.command.program = program ∧
        last.status = status) ∧
      (∀ other : Machine, (∀ e ∈ earlier ++ [last], e.Of other job) →
        (toolchain.compiler other).run job files = (.error (.failed program status tail), after)) ∧
      (∀ wroteLog : Bool,
        (wroteLog = false → ∀ log, last.after.readText job.logPath = .ok log →
          last.before.readText job.logPath = .ok log) →
        (EndOf (last.ownText job wroteLog) tail ↔
          wroteLog = true ∨ ∀ log, last.LeftLog job log →
            Text.lastLines tailLength log = Text.lastLines tailLength last.outputs)) ∧
      ∀ log, last.LeftLog job log → EndOf log tail := by
  rw [toolchain.run_eq] at h
  obtain ⟨earlier, last, later, hcommands, hearlier, hlast, hfailure, rfl, rfl, rfl, rfl⟩ := exists_exits_of_runAll h
  refine ⟨earlier, last, later, hcommands, hearlier, ⟨hlast, hfailure, rfl, rfl, rfl⟩, ?_, ?_, ?_⟩
  · intro other hother
    have hearlier' : other.Succeeds job files earlier last.before := by
      refine hearlier.transfer ?_
      intro e he
      exact hother e (List.mem_append_left _ he)
    have hlast' : last.Of other job := hother last (by simp)
    rw [toolchain.run_eq, hcommands]
    exact runAll_of_exits later hearlier' hlast' hfailure
  · intro wroteLog hunwritten
    rw [endOf_iff]
    exact failureTail_eq_own_iff hunwritten
  · intro log hleft
    rw [endOf_iff]
    exact hleft.failureTail_eq

/-! ## A style that is missing -/

deriving instance DecidableEq for FileSystem

/-- A machine on which the compiler succeeds and writes the log of a paper, and the bibliography program misses a
style. -/
def unstyled : Machine where
  isInstalled _ _ := true
  start invocation files :=
    if invocation.program = "pdflatex" then
      (.ok (.exited (.code 0) [] []), ((files.writeText ⟨"work/paper.log"⟩ "LaTeX log".toList).toOption).getD files)
    else (.ok (.exited (.code 2) [] (Utf8.encode "no style".toList)), files)

/-- The programs by the names that they usually have. -/
def usualPrograms : Toolchain :=
  .pdflatex "pdflatex" "bibtex"

/-- A job that cites something. -/
def citingJob (name : String) : Job :=
  { workDir := ⟨"work"⟩, name, bibliography := true }

/-- The home after the first pass of the compiler. -/
def loggedHome : FileSystem where
  entries := (["home", "work", "paper.log"], .file (Utf8.encode "LaTeX log".toList) false) :: Typesetter.home.entries
  workingDirectory := ["home"]

/-- A job with a name of its own has no log in the way, and the missing style is reported. -/
theorem missing_style_reported :
    (usualPrograms.compiler unstyled).run (citingJob "draft") Typesetter.home =
        (.error (.failed "bibtex" (.code 2) "no style".toList), loggedHome) ∧
      ∃ last : Exit, last.Of unstyled (citingJob "draft") ∧ last.command.program = "bibtex" ∧
        EndOf (last.ownText (citingJob "draft") false) "no style".toList := by
  have hrun : (usualPrograms.compiler unstyled).run (citingJob "draft") Typesetter.home =
      (.error (.failed "bibtex" (.code 2) "no style".toList), loggedHome) := by
    decide +kernel
  have hnone : loggedHome.readText (citingJob "draft").logPath = .error .notFound := by
    decide +kernel
  obtain ⟨earlier, last, later, -, -, ⟨hlast, -, hafter, hprogram, -⟩, -, hown, -⟩ :=
    failure_report_iff usualPrograms unstyled (citingJob "draft") hrun
  have hunread : ∀ log, last.after.readText (citingJob "draft").logPath ≠ .ok log := by
    intro log hlog
    rw [hafter, hnone] at hlog
    cases hlog
  refine ⟨hrun, last, hlast, hprogram, (hown false ?_).2 (Or.inr ?_)⟩
  · rintro - log hlog
    exact absurd hlog (hunread log)
  · rintro log ⟨-, hlog⟩
    exact absurd hlog (hunread log)

/-- The bibliography program fails after the first pass of the compiler: it left the log as it was and wrote that a
style is missing, and the log of the pass is reported. -/
theorem missing_style_hidden :
    ∃ last : Exit, last.Of unstyled (citingJob "paper") ∧ last.command = ⟨"bibtex", ["paper"]⟩ ∧
      last.after = last.before ∧ (usualPrograms.compiler unstyled).run (citingJob "paper") Typesetter.home =
        (.error (.failed "bibtex" (.code 2) "LaTeX log".toList), last.after) ∧
      last.ownText (citingJob "paper") false = "no style".toList ∧
      ¬EndOf (last.ownText (citingJob "paper") false) "LaTeX log".toList := by
  have hown : Exit.ownText ⟨⟨"bibtex", ["paper"]⟩, loggedHome, .code 2, [], Utf8.encode "no style".toList, loggedHome⟩
      (citingJob "paper") false = "no style".toList := by
    decide +kernel
  refine ⟨⟨⟨"bibtex", ["paper"]⟩, loggedHome, .code 2, [], Utf8.encode "no style".toList, loggedHome⟩, rfl, rfl, rfl,
    ?_, hown, ?_⟩
  · decide +kernel
  · rw [endOf_iff, hown]
    decide +kernel

end Typeset

end Manuscript
