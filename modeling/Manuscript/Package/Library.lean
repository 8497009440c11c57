import Manuscript.Package.Article

/-!
# Finding packages

A package is looked for next to the document, then in a library of packages, and last among those that come with
this one. Only when the library has nothing of the name is the last place looked at: a package of the library that
is damaged is reported.
-/

namespace Manuscript

/-- A directory with packages. -/
structure Library where
  directory : Path
  deriving DecidableEq, Inhabited

namespace Library

/-- The library that is used when the options name none. -/
def standard : Library :=
  ⟨⟨"/usr/share/scribe/templates"⟩⟩

/-- The library in a directory, or the standard one. -/
def ofDirectory (directory : Option Path) : Library :=
  (directory.map Library.mk).getD standard

/-- The package with a name, looked for in a directory before the library. -/
def find (library : Library) (files : FileSystem) (id : String) (base : Path) : Except CompilationError Package :=
  let near := base.child id
  let far := library.directory.child id
  match Package.load files near with
  | .ok package => .ok package
  | .error _ =>
    match Package.load files far with
    | .ok package => .ok package
    | .error (.file path error) =>
      if error.isMissing then (Package.builtIn? id far).getD (.error (.noPackage id [near, far]))
        else .error (.file path error)
    | .error error => .error error

/-- Whether a package lies in a directory of the library under a name. -/
def holds (library : Library) (files : FileSystem) (name : String) : Bool :=
  files.isFile ((library.directory.child name).child Manifest.fileName)

/-- Names in increasing order without repetitions. -/
def sortNames (names : List String) : List String :=
  (Dictionary.ofList (names.map (fun name => (name, ())))).entries.map (·.1)

/-- The names of the packages of the library and of those that come with this one. A library that is not there has
none. -/
def list (library : Library) (files : FileSystem) : Except CompilationError (List String) :=
  match files.list library.directory with
  | .ok names => .ok (sortNames (Package.articleId :: names.filter (library.holds files)))
  | .error error =>
    if error = .notFound then .ok [Package.articleId] else .error (.file library.directory error)

end Library

end Manuscript
