import Manuscript.Compilation.Error
import Manuscript.FileSystem.Access
import Manuscript.Toml.Parser
import Manuscript.Toml.Record

/-!
# Template packages

A package is a directory with a manifest, the template that the manifest names, and auxiliary files such as classes
and logos, which go next to the LaTeX source. A package may also come with the library instead of from a file
system; it then has its template with it.
-/

namespace Manuscript

/-- What a package says about itself. -/
structure Manifest where
  /-- The template, seen from the directory of the package. -/
  template : String
  /-- The auxiliary files, seen from there. -/
  files : List String := []
  deriving DecidableEq, Inhabited

namespace Manifest

/-- The name of the file that holds a manifest. -/
def fileName : String := "template.toml"

/-- The manifest that a text is. -/
def parse? (s : List Char) : Option Manifest := do
  let entries ← Toml.parse? s
  let template ← Toml.field? entries "template" Toml.text?
  let files ← Toml.fieldOr entries "files" [] Toml.strings?
  pure { template, files }

end Manifest

/-- A template package. -/
structure Package where
  directory : Path
  manifest : Manifest
  /-- The template of a package that does not come from files. -/
  ownTemplate : Option (List Char) := none
  deriving Inhabited

namespace Package

/-- The path of the template. -/
def templatePath (package : Package) : Path :=
  package.directory.child package.manifest.template

/-- The package in a directory. Its manifest must be one, and its template must be a file. -/
def load (files : FileSystem) (directory : Path) : Except CompilationError Package :=
  let path := directory.child Manifest.fileName
  match files.readText path with
  | .error error => .error (.file path error)
  | .ok text =>
    match Manifest.parse? text with
    | none => .error (.badManifest path)
    | some manifest =>
      let package : Package := { directory, manifest }
      if files.isFile package.templatePath then .ok package else .error (.file package.templatePath .noTemplateFile)

/-- The text of the template. -/
def readTemplate (files : FileSystem) (package : Package) : Except CompilationError (List Char) :=
  match package.ownTemplate with
  | some text => .ok text
  | none => (files.readText package.templatePath).mapError (.file package.templatePath)

/-- The auxiliary files with the names that they get next to the source. What has no name, such as two dots, is
passed over. -/
def auxiliaryFiles (package : Package) : List (Path × String) :=
  package.manifest.files.filterMap (fun file =>
    let source := package.directory.child file
    source.fileName?.map (source, ·))

end Package

end Manuscript
