import Manuscript.Bibliography
import Manuscript.Compilation.Context
import Manuscript.Package.Library
import Manuscript.Sources
import Manuscript.Template.Engine
import Manuscript.TemplateData.Value
import Manuscript.Typeset

/-!
# Compiling a document

The directories are made, the document is formatted, the package is found, its template is rendered by the engine at
hand, the sources are written, and a compiler makes the PDF. Whatever fails before the sources are written is an
error. That there is no PDF in the end is not: the sources are kept, and the result is that there is none. Without a
directory of its own choice a compilation works in a temporary one, which goes when it is no longer of use.
-/

namespace Manuscript

/-- The directory that a compilation works in. -/
structure WorkingDirectory where
  path : Path
  /-- Whether it was made for this compilation only. -/
  isTemporary : Bool
  deriving DecidableEq, Inhabited

namespace WorkingDirectory

/-- The files without the directory, when it was made for the compilation only. -/
def discard (directory : WorkingDirectory) (files : FileSystem) : FileSystem :=
  if directory.isTemporary then files.removeTree directory.path else files

end WorkingDirectory

/-- What comes of a compilation. -/
structure CompilationReport where
  /-- The path of the PDF, or that of the directory with the sources when no PDF is wanted; nothing when there is no
  PDF although one is wanted. -/
  result : Except CompilationError (Option Path)
  /-- The directory that the sources were written into. -/
  directory : Option WorkingDirectory := none
  /-- The runs of compilers. -/
  runs : List Typeset.Run := []
  /-- Why there is no PDF. -/
  failure : Option TypesetError := none
  files : FileSystem

namespace Compilation

open FileSystem (Outcome)

/-! ## Directories -/

/-- A directory of the options, made where it is not there. -/
def makeDirectories (path : Path) (files : FileSystem) : Outcome CompilationError Unit :=
  let (result, files) := files.makeDirectories path
  (result.mapError (.file path), files)

/-- What the names of temporary directories start with. -/
def temporaryName : String := "scribe-"

/-- A directory made below another one; the result is its path. -/
def makeChild (parent : Path) (name : String) (files : FileSystem) : Outcome FileError Path :=
  match files.makeDirectory (parent.child name) with
  | .ok changed => (.ok (parent.child name), changed)
  | .error error => (.error error, files)

/-- What was made, or what is made instead when something stood in its place. -/
def unlessTaken (made : Outcome FileError Path) (instead : FileSystem → Outcome FileError Path) :
    Outcome FileError Path :=
  match made with
  | (.error .alreadyExists, files) => instead files
  | made => made

/-- A directory below another one under a name that is free: the wanted one, or that with as few strokes behind it
as needed. -/
def makeFresh : Nat → Path → String → FileSystem → Outcome FileError Path
  | 0, parent, name, files => makeChild parent name files
  | attempts + 1, parent, name, files =>
    unlessTaken (makeChild parent name files) (makeFresh attempts parent (name ++ "_"))

/-- A temporary directory. -/
def makeTemporary (context : CompilationContext) (files : FileSystem) : Outcome CompilationError WorkingDirectory :=
  match makeDirectories context.tempDir files with
  | (.error error, files) => (.error error, files)
  | (.ok (), files) =>
    let parent := (FileSystem.pathOf files.workingDirectory).join context.tempDir
    let (result, files) := makeFresh files.entries.length parent (temporaryName ++ context.tempSuffix) files
    (match result with
      | .ok path => .ok { path, isTemporary := true }
      | .error error => .error (.file context.tempDir error), files)

/-- The directory for the sources: that of the options, or else the output directory when no PDF is wanted, or else
a temporary one. -/
def prepareDirectory (context : CompilationContext) (options : Options) (files : FileSystem) :
    Outcome CompilationError WorkingDirectory :=
  match options.latexDir with
  | some directory =>
    let path := context.locate directory
    let (result, files) := makeDirectories path files
    (result.map (fun _ => { path, isTemporary := false }), files)
  | none =>
    if options.pdf then makeTemporary context files
      else (.ok { path := context.outputDir, isTemporary := false }, files)

/-- The output directory and the one for the sources. The second is made even when the first cannot be, but then it
is of no use. -/
def prepare (context : CompilationContext) (options : Options) (files : FileSystem) :
    Outcome CompilationError WorkingDirectory :=
  let (output, files) := makeDirectories context.outputDir files
  let (directory, files) := prepareDirectory context options files
  match output, directory with
  | .ok (), directory => (directory, files)
  | .error error, .ok directory => (.error error, directory.discard files)
  | .error error, .error _ => (.error error, files)

/-! ## Sources -/

/-- The directory of the input from the root. A relative one starts from the current directory, which may be gone. -/
def absoluteInputDir (context : CompilationContext) (files : FileSystem) : Except FileError Path :=
  if context.inputDir.isAbsolute then .ok (Path.absolute ⟨"/"⟩ context.inputDir)
  else do
    let here ← files.currentDirectory
    .ok (if context.inputDir.text.isEmpty then here else here.absolute context.inputDir)

/-- The library that the options choose. -/
def libraryOf (context : CompilationContext) (options : Options) : Library :=
  Library.ofDirectory (options.templateDir.map context.locate)

/-- The record that the template of a document sees. -/
def templateData (root : Node) (context : CompilationContext) (options : Options) (inputDir : Path) : TemplateData :=
  TemplateData.ofDocument context.metadata (Formatter.ofDocument root options context.citations)
    (Citations.bibliographyFile context.name context.citations) (some inputDir)

/-- The name and the text of the bibliography file, when there is something to cite. -/
def bibliography (context : CompilationContext) : Option (String × List Char) :=
  match Citations.bibliographyFile context.name context.citations, context.citations with
  | some file, some citations => some (file, citations.bibliographyText)
  | _, _ => none

/-- The template of a package, as the engine parses it between the tags of the options. -/
def readTemplate (engine : TemplateEngine) (options : Options) (package : Package) (files : FileSystem) :
    Except CompilationError engine.Parsed := do
  let text ← package.readTemplate files
  match engine.read? options.tags text with
  | some template => .ok template
  | none => .error .badTemplate

/-- The sources of a document. -/
def sources (engine : TemplateEngine) (root : Node) (context : CompilationContext) (options : Options)
    (files : FileSystem) : Except CompilationError Sources := do
  let inputDir ← (absoluteInputDir context files).mapError (.file context.inputDir)
  let package ← (libraryOf context options).find files options.template inputDir
  let template ← readTemplate engine options package files
  let data := templateData root context options inputDir
  let rendered ← (engine.render template data.toValue).mapError .cannotRender
  .ok { name := context.name, text := rendered, bibliography := bibliography context, package }

/-- The sources written into a directory. -/
def writeSources (engine : TemplateEngine) (root : Node) (context : CompilationContext) (options : Options)
    (directory : Path) (files : FileSystem) : Outcome CompilationError Sources.Written :=
  match sources engine root context options files with
  | .error error => (.error error, files)
  | .ok sources => sources.write directory files

/-! ## The whole -/

/-- The job of the compiler. -/
def jobOf (context : CompilationContext) (options : Options) (directory : Path) : Typeset.Job where
  workDir := directory
  name := context.name
  bibliography := (Citations.bibliographyFile context.name context.citations).isSome
  timeout := options.timeoutSecs.toNat * 1000

/-- A document made into a PDF, or into sources only. -/
def run (engine : TemplateEngine) (root : Node) (context : CompilationContext) (options : Options)
    (typesetter : Typesetter) (files : FileSystem) : CompilationReport :=
  match prepare context options files with
  | (.error error, files) => { result := .error error, files }
  | (.ok directory, files) =>
    match writeSources engine root context options directory.path files with
    | (.error error, files) => { result := .error error, directory, files := directory.discard files }
    | (.ok _, files) =>
      if options.pdf then
        let report := typesetter.typeset (jobOf context options directory.path) context.outputDir files
        match report.result with
        | .ok pdf =>
          { result := .ok (some pdf), directory, runs := report.runs, files := directory.discard report.files }
        | .error failure =>
          { result := .ok none, directory, runs := report.runs, failure := some failure, files := report.files }
      else { result := .ok (some directory.path), directory, files }

/-- A document compiled with the compilers that the options name. -/
def runDocument (engine : TemplateEngine) (document : Document) (context : CompilationContext) (options : Options)
    (machine : Typeset.Machine) (files : FileSystem) : CompilationReport :=
  run engine document.root (context.withDocument document) options (Typesetter.ofNames machine options.compilers) files

end Compilation

end Manuscript
