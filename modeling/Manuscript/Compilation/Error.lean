import Manuscript.FileSystem.Error
import Manuscript.Path
import Manuscript.Template.Error

/-!
# Why a document cannot be compiled

The failures that keep LaTeX sources from being written. That no PDF could be made of them is no such failure.
-/

namespace Manuscript

/-- Why a document cannot be compiled. -/
inductive CompilationError where
  /-- There is no package of a name in any of the directories. -/
  | noPackage (id : String) (tried : List Path)
  /-- A manifest that is no manifest. -/
  | badManifest (path : Path)
  /-- A template that does not parse. -/
  | badTemplate
  /-- A template that asks for what the document does not have. -/
  | cannotRender (error : Template.RenderError)
  /-- A file that cannot be used. -/
  | file (path : Path) (error : FileError)
  deriving DecidableEq, Inhabited

namespace CompilationError

/-- The wording of a failure that lies in the files. Failures that lie in the text of a file have none of their own. -/
def message? : CompilationError → Option String
  | noPackage id tried =>
    some ("Template not found: " ++ id ++ " (looked in " ++ ", ".intercalate (tried.map (·.text)) ++ ")")
  | file path error => some ("IO error on " ++ path.text ++ ": " ++ error.message)
  | _ => none

/-- What a failure comes from, the outermost first. -/
def causes : CompilationError → List String
  | badManifest path => ["Invalid template manifest " ++ path.text]
  | badTemplate => ["Template syntax error"]
  | cannotRender _ => ["Template rendering failed"]
  | file path error => ["IO error on " ++ path.text ++ ": " ++ error.message, error.message]
  | error => error.message?.toList

end CompilationError

end Manuscript
