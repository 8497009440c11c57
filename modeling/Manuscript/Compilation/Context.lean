import Manuscript.Document
import Manuscript.Path

/-!
# The setting of a compilation

Where a document lies, where its PDF goes, and what is known about it besides its tree.
-/

namespace Manuscript

/-- What a compilation needs besides the tree and the options. -/
structure CompilationContext where
  metadata : Metadata := {}
  citations : Option Citations := none
  /-- The directory that packages and relative paths of the options are looked up from. -/
  inputDir : Path
  /-- The input document, which gives all files of the compilation their name. -/
  inputPath : Path
  /-- The directory for the PDF. -/
  outputDir : Path
  /-- The directory that holds temporary working directories. -/
  tempDir : Path
  /-- What is put behind the name of a temporary working directory to tell it from others. -/
  tempSuffix : String := ""
  deriving Inhabited

namespace CompilationContext

/-- The context of an input document, whose directory is the one to look up from. -/
def ofInput (inputPath outputDir tempDir : Path) (tempSuffix : String := "") : CompilationContext where
  inputDir := inputPath.parent?.getD ⟨""⟩
  inputPath := inputPath
  outputDir := outputDir
  tempDir := tempDir
  tempSuffix := tempSuffix

/-- The name of a document whose path has none. -/
def fallbackName : String := "document"

/-- The name of the document. -/
def name (context : CompilationContext) : String :=
  (context.inputPath.fileStem?.filter (fun stem => !stem.isEmpty)).getD fallbackName

/-- A path of the options, seen from the directory of the input. -/
def locate (context : CompilationContext) (path : Path) : Path :=
  context.inputDir.join path

/-- The context with the metadata and the citations of a document. -/
def withDocument (context : CompilationContext) (document : Document) : CompilationContext :=
  { context with metadata := document.metadata, citations := document.citations }

end CompilationContext

end Manuscript
