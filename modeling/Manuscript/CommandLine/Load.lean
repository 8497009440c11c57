import Manuscript.CommandLine.Arguments
import Manuscript.Compilation.Error
import Manuscript.Document.Json
import Manuscript.FileSystem.Access
import Manuscript.Json.Parser
import Manuscript.Options.Toml

/-!
# Loading the document and the settings

The files that a command line names, and why they cannot be used.
-/

namespace Manuscript.CommandLine

/-- Why the input of a command cannot be used. -/
inductive LoadError where
  | noDocument (path : Path)
  | documentUnreadable (path : Path) (error : FileError)
  | badDocument (path : Path)
  | noSettings (path : Path)
  | settingsUnreadable (path : Path) (error : FileError)
  | badSettings (path : Path)
  deriving DecidableEq, Inhabited

/-- The wording of a failure. -/
def LoadError.message : LoadError → String
  | noDocument path => "Input file not found: " ++ path.text
  | documentUnreadable path _ => "Failed to read input file: " ++ path.text
  | badDocument path => "Failed to parse document JSON: " ++ path.text
  | noSettings path => "Config file not found: " ++ path.text
  | settingsUnreadable path _ => "Failed to load config: " ++ path.text
  | badSettings path => "Failed to load config: " ++ path.text

/-- What a failure comes from, the outermost first. -/
def LoadError.causes : LoadError → List String
  | documentUnreadable _ error => [error.message]
  | settingsUnreadable path error => (CompilationError.file path error).causes
  | badSettings path => ["Invalid configuration " ++ path.text]
  | _ => []

/-- The document in a file. -/
def loadDocument (files : FileSystem) (input : Path) : Except LoadError Document :=
  if files.exists? input then
    match files.readText input with
    | .error error => .error (.documentUnreadable input error)
    | .ok text =>
      match Document.parse? text with
      | some document => .ok document
      | none => .error (.badDocument input)
  else .error (.noDocument input)

/-- The name of the settings file next to a document. -/
def settingsName : String := "scribe.toml"

/-- The options in a settings file; a file that is not there leaves all as it is. -/
def loadSettings (files : FileSystem) (path : Path) : Except LoadError Options :=
  match files.readText path with
  | .ok text =>
    match Options.parseSettings? text with
    | some options => .ok options
    | none => .error (.badSettings path)
  | .error error => if error = .notFound then .ok {} else .error (.settingsUnreadable path error)

/-- The settings file of a command: the one that is named, or that next to the document. -/
def settingsPath (arguments : LatexArguments) : Path :=
  match arguments.config with
  | some path => path
  | none => (arguments.input.parent?.getD ⟨"."⟩).child settingsName

/-- Options with those of a command line in place of their own. -/
def override (arguments : LatexArguments) (options : Options) : Options :=
  { options with
    template := arguments.template.getD options.template
    pdf := options.pdf && !arguments.noPdf
    latexDir := arguments.latexDir.or options.latexDir }

/-- The options of a command: those of the settings file, which must be there when it is named, and those of the
command line. -/
def loadOptions (files : FileSystem) (arguments : LatexArguments) : Except LoadError Options :=
  let path := settingsPath arguments
  if arguments.config.isSome && !files.exists? path then .error (.noSettings path)
  else (loadSettings files path).map (override arguments)

end Manuscript.CommandLine
