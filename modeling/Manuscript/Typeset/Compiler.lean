import Manuscript.Typeset.Error
import Manuscript.Typeset.Job

/-!
# Compilers

A compiler turns the LaTeX source of a job into a PDF next to it. Two are known: one that works out by itself how
often to run, and one that is run a fixed number of times, with the bibliography program in between when the
document cites anything. A program that fails is reported with the last lines of the log of the job, or with those
of its output when there is no log that can be read.
-/

namespace Manuscript.Typeset

/-- A LaTeX compiler. -/
structure Compiler where
  /-- The name by which the options choose it. -/
  name : String
  isAvailable : FileSystem → Bool
  run : Job → FileSystem → FileSystem.Outcome TypesetError Unit

/-- How many lines of a log are kept. -/
def tailLength : Nat := 20

/-- The end of what was written about a failure: of the log of the job, or of both outputs of the program. -/
def failureTail (files : FileSystem) (job : Job) (stdout stderr : List UInt8) : List Char :=
  match files.readText job.logPath with
  | .ok log => Text.lastLines tailLength log
  | .error _ => Text.lastLines tailLength (Utf8.decodeLossy stdout ++ Utf8.decodeLossy stderr)

/-- One start of a program in the directory of a job. -/
def runProgram (machine : Machine) (program : String) (arguments : List String) (job : Job) (files : FileSystem) :
    FileSystem.Outcome TypesetError Unit :=
  match machine.start { program, arguments, directory := job.workDir, timeout := job.timeout } files with
  | (.error error, files) => (.error (.cannotStart program error), files)
  | (.ok .timedOut, files) => (.error (.timedOut program job.timeoutSeconds), files)
  | (.ok (.lost error), files) => (.error (.file error), files)
  | (.ok (.exited status stdout stderr), files) =>
    if status.isSuccess then (.ok (), files)
    else (.error (.failed program status (failureTail files job stdout stderr)), files)

/-- Steps one after another, up to the first that fails. -/
def runInTurn :
    List (FileSystem → FileSystem.Outcome TypesetError Unit) → FileSystem → FileSystem.Outcome TypesetError Unit
  | [], files => (.ok (), files)
  | step :: rest, files =>
    match step files with
    | (.ok (), files) => runInTurn rest files
    | failed => failed

namespace Compiler

/-- The arguments that keep a compiler from asking questions. -/
def batchArguments : List String :=
  ["-interaction=nonstopmode", "-halt-on-error"]

/-- The compiler that works out its passes by itself. -/
def latexmk (machine : Machine) (program : String := "latexmk") : Compiler where
  name := "latexmk"
  isAvailable := fun files => machine.isInstalled files program
  run := fun job =>
    runProgram machine program
      ("-pdf" :: batchArguments ++ (if job.bibliography then ["-bibtex"] else []) ++ [job.sourceFile]) job

/-- The compiler that is run once, then the bibliography program when it is wanted, then the compiler twice more. -/
def pdflatex (machine : Machine) (program : String := "pdflatex") (bibtex : String := "bibtex") : Compiler where
  name := "pdflatex"
  isAvailable := fun files => machine.isInstalled files program
  run := fun job =>
    let pass := runProgram machine program (batchArguments ++ [job.sourceFile]) job
    let bibliography := runProgram machine bibtex [job.name] job
    runInTurn (pass :: (if job.bibliography then [bibliography] else []) ++ [pass, pass])

/-- The compilers that options can name. -/
inductive Kind where
  | latexmk
  | pdflatex
  deriving DecidableEq, Inhabited

namespace Kind

/-- The name that chooses a compiler. -/
def name : Kind → String
  | latexmk => "latexmk"
  | pdflatex => "pdflatex"

/-- The compiler that a name chooses. -/
def ofName? (name : String) : Option Kind :=
  [latexmk, pdflatex].find? (fun kind => kind.name == name)

end Kind

/-- A compiler with its usual programs. -/
def ofKind (machine : Machine) : Kind → Compiler
  | .latexmk => latexmk machine
  | .pdflatex => pdflatex machine

end Compiler

end Manuscript.Typeset
