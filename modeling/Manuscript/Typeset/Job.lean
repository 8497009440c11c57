import Manuscript.Path

/-!
# Typesetting jobs

One run of a LaTeX compiler: the directory it works in, and the names of the files it reads and leaves there.
-/

namespace Manuscript.Typeset

/-- One run of a LaTeX compiler. -/
structure Job where
  /-- The directory that holds the LaTeX source. -/
  workDir : Path
  /-- The name of the document, which all of its files share. -/
  name : String
  /-- Whether the document cites anything. -/
  bibliography : Bool := false
  /-- The time that each program may take, in milliseconds. -/
  timeout : Nat := 120000
  deriving DecidableEq, Inhabited

namespace Job

/-- The name of the LaTeX source. -/
def sourceFile (job : Job) : String :=
  job.name ++ ".tex"

/-- The LaTeX source. -/
def sourcePath (job : Job) : Path :=
  job.workDir.child job.sourceFile

/-- The PDF that the compiler leaves. -/
def pdfPath (job : Job) : Path :=
  job.workDir.child (job.name ++ ".pdf")

/-- The log that the compiler leaves. -/
def logPath (job : Job) : Path :=
  job.workDir.child (job.name ++ ".log")

/-- The time in whole seconds. -/
def timeoutSeconds (job : Job) : Nat :=
  job.timeout / 1000

end Job

end Manuscript.Typeset
