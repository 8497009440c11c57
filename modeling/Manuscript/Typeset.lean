import Manuscript.Typeset.Compiler

/-!
# Typesetting

Compilers are tried in an order of preference. Those that are not installed are passed over; the first that is
installed runs, and what comes of it is final. Each run is recorded together with the files as they were before it.
-/

namespace Manuscript

open Typeset

/-- Compilers in the order in which they are to be tried. -/
structure Typesetter where
  compilers : List Compiler

/-- A run of a compiler. -/
structure Typeset.Run where
  /-- The place of the compiler among those of the typesetter. -/
  position : Nat
  job : Job
  /-- The files before the run. -/
  before : FileSystem
  deriving Inhabited

/-- What comes of typesetting. -/
structure Typeset.Report (α : Type) where
  result : Except TypesetError α
  /-- The runs that were made. -/
  runs : List Run
  files : FileSystem

namespace Typesetter

/-- The typesetter with the compilers that names choose. Names without a compiler are passed over. -/
def ofNames (machine : Machine) (names : List String) : Typesetter :=
  ⟨(names.filterMap Compiler.Kind.ofName?).map (Compiler.ofKind machine)⟩

/-- The typesetter that is used when nothing else is chosen. -/
def standard (machine : Machine) : Typesetter :=
  ofNames machine ["latexmk", "pdflatex"]

/-- The names of the compilers. -/
def names (typesetter : Typesetter) : List String :=
  typesetter.compilers.map (·.name)

/-- The first compiler that can be run, with its place. -/
def choose? (typesetter : Typesetter) (files : FileSystem) : Option (Nat × Compiler) :=
  let position := typesetter.compilers.findIdx (fun compiler => compiler.isAvailable files)
  typesetter.compilers[position]?.map (position, ·)

/-- The first compiler that can be run does the job; the result is its name. -/
def compile (typesetter : Typesetter) (job : Job) (files : FileSystem) : Report String :=
  match typesetter.choose? files with
  | none => { result := .error (.noCompiler typesetter.names), runs := [], files }
  | some (position, compiler) =>
    let (result, after) := compiler.run job files
    { result := result.map (fun _ => compiler.name), runs := [{ position, job, before := files }], files := after }

/-- The PDF of a job, once it is made, brought into a directory. -/
def deliver (job : Job) (directory : Path) (files : FileSystem) : FileSystem.Outcome TypesetError Path :=
  let produced := job.pdfPath
  let target := directory.child (job.name ++ ".pdf")
  match files.isThere produced with
  | .error error => (.error (.file error), files)
  | .ok false => (.error (.noOutput produced), files)
  | .ok true =>
    if target.sameAs produced then (.ok target, files)
    else
      match files.copy produced target with
      | .ok copied => (.ok target, copied)
      | .error error => (.error (.file error), files)

/-- The job done, and its PDF brought into a directory; the result is the path of the PDF there. -/
def typeset (typesetter : Typesetter) (job : Job) (directory : Path) (files : FileSystem) : Report Path :=
  let report := typesetter.compile job files
  match report.result with
  | .error error => { report with result := .error error }
  | .ok _ =>
    let (result, files) := deliver job directory report.files
    { result, runs := report.runs, files }

end Typesetter

end Manuscript
