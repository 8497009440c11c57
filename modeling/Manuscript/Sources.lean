import Manuscript.Package

/-!
# LaTeX sources

The files that make up a document for LaTeX: the source, the bibliography and the auxiliary files of the package.
They are written next to one another, each whether or not the others could be.
-/

namespace Manuscript

/-- The LaTeX sources of a document. -/
structure Sources where
  /-- The name of the document. -/
  name : String
  text : List Char
  /-- The name and the text of the bibliography file. -/
  bibliography : Option (String × List Char) := none
  package : Package
  deriving Inhabited

namespace Sources

/-- Where sources were written. -/
structure Written where
  source : Path
  bibliography : Option Path
  /-- The auxiliary files in the order of their paths. -/
  auxiliary : List Path
  deriving DecidableEq, Inhabited

/-- One file among the sources: what changes when it is written, and the path that a failure is about. -/
structure Part where
  path : Path
  write : FileSystem → Except FileError FileSystem

/-- The path of the source in a directory. -/
def sourcePath (sources : Sources) (directory : Path) : Path :=
  directory.child (sources.name ++ ".tex")

/-- The path of the bibliography file in a directory. -/
def bibliographyPath (sources : Sources) (directory : Path) : Option Path :=
  sources.bibliography.map (fun b => directory.child b.1)

/-- The files that are to be written into a directory. -/
def parts (sources : Sources) (directory : Path) : List Part :=
  let source := sources.sourcePath directory
  { path := source, write := fun files => files.writeText source sources.text } ::
    (sources.bibliography.toList.map (fun b =>
      { path := directory.child b.1, write := fun files => files.writeText (directory.child b.1) b.2 }) ++
    sources.package.auxiliaryFiles.map (fun a =>
      { path := a.1, write := fun files => files.copy a.1 (directory.child a.2) }))

/-- Every part written; the first failure is reported. -/
def writeParts : List Part → FileSystem → FileSystem.Outcome CompilationError Unit
  | [], files => (.ok (), files)
  | part :: rest, files =>
    match part.write files with
    | .ok changed => writeParts rest changed
    | .error error => (.error (.file part.path error), (writeParts rest files).2)

/-- The sources written into a directory. -/
def write (sources : Sources) (directory : Path) (files : FileSystem) : FileSystem.Outcome CompilationError Written :=
  let (result, files) := writeParts (sources.parts directory) files
  let copied := sources.package.auxiliaryFiles.map (fun a => directory.child a.2)
  (result.map (fun _ =>
    { source := sources.sourcePath directory
      bibliography := sources.bibliographyPath directory
      auxiliary := copied.mergeSort Path.le }), files)

end Sources

end Manuscript
