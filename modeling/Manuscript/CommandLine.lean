import Manuscript.CommandLine.Load
import Manuscript.Compilation

/-!
# The command line

What a call of the program writes, which exit code it has, and what it does to the files.
-/

namespace Manuscript.CommandLine

/-- What a call of the program writes and leaves. -/
structure Transcript where
  code : Nat
  stdout : String := ""
  stderr : String := ""
  files : FileSystem
  deriving Inhabited

/-- What the program looks at besides its arguments and the files. -/
structure Surroundings where
  /-- The directory that holds temporary directories. -/
  tempDir : Path
  /-- What tells a temporary directory of this call from others. -/
  tempSuffix : String
  /-- What renders templates. -/
  engine : TemplateEngine
  machine : Typeset.Machine

/-- The version of the program. -/
def version : String := "0.1.0"

/-- Lines with an end of line after each. -/
def lines (items : List String) : String :=
  items.foldl (fun text item => text ++ item ++ "\n") ""

/-- The lines that name the causes of a failure, numbered when there are several. -/
def causeLines : List String → List String
  | [] => []
  | [cause] => ["", "Caused by:", "    " ++ cause]
  | causes => "" :: "Caused by:" :: causes.zipIdx.map (fun (cause, n) => "    " ++ toString n ++ ": " ++ cause)

/-- A call that failed after some lines of output. -/
def failed (output : List String) (message : String) (causes : List String) (files : FileSystem) : Transcript :=
  { code := 1, stdout := lines output, stderr := lines (("Error: " ++ message) :: causeLines causes), files }

/-- The call of `latex`. -/
def runLatex (surroundings : Surroundings) (arguments : LatexArguments) (files : FileSystem) : Transcript :=
  let input := arguments.input.text
  let started := ["scribe v" ++ version, "Compiling: " ++ input]
  match loadDocument files arguments.input with
  | .error error => failed started error.message error.causes files
  | .ok document =>
    match loadOptions files arguments with
    | .error error => failed started error.message error.causes files
    | .ok options =>
      let loaded := started ++ ["  Template: " ++ options.template]
      let context : CompilationContext :=
        .ofInput arguments.input arguments.output surroundings.tempDir surroundings.tempSuffix
      let report := Compilation.runDocument surroundings.engine document context options surroundings.machine files
      match report.result with
      | .error error => failed loaded ("Failed to compile " ++ input) error.causes report.files
      | .ok (some path) =>
        let line := if options.pdf then "  PDF: " ++ path.text else "  LaTeX sources: " ++ path.text
        { code := 0, stdout := lines (loaded ++ [line]), files := report.files }
      | .ok none =>
        { code := 0, stdout := lines loaded, files := report.files
          stderr := lines ["warning: no PDF produced for " ++ input ++ "; LaTeX sources were kept (see log above)"] }

/-- The call of `templates`. -/
def runTemplates (directory : Option Path) (files : FileSystem) : Transcript :=
  let library := Library.ofDirectory directory
  match library.list files with
  | .error error => failed [] ("Failed to list templates in " ++ library.directory.text) error.causes files
  | .ok ids =>
    { code := 0, files
      stdout := lines (if ids.isEmpty then ["No templates in " ++ library.directory.text] else ids) }

/-- How the program is called. -/
def usage : String :=
  lines ["Usage: scribe latex [OPTIONS] <INPUT>", "       scribe templates [--template-dir <TEMPLATE_DIR>]"]

/-- A call of the program. -/
def run (surroundings : Surroundings) (arguments : List String) (files : FileSystem) : Transcript :=
  match parse? arguments with
  | some (.latex arguments) => runLatex surroundings arguments files
  | some (.templates directory) => runTemplates directory files
  | some .version => { code := 0, stdout := lines ["scribe " ++ version], files }
  | some .help => { code := 0, stdout := usage, files }
  | none => { code := 2, stderr := usage, files }

end Manuscript.CommandLine
