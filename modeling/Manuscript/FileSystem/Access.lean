import Manuscript.FileSystem.Locate

/-!
# Reading and writing files

What can be done with files. An operation that fails changes nothing, but for `makeDirectories`, which may have made
some of them. A copy empties its target before it reads its source, so a file copied to its own place is lost.
-/

namespace Manuscript

namespace FileSystem

/-! ## Reading -/

/-- The bytes of a file. -/
def read (files : FileSystem) (path : Path) : Except FileError (List UInt8) := do
  let (_, entry) ← files.locate path
  match entry with
  | .file bytes _ => .ok bytes
  | .directory => .error .isADirectory

/-- The text of a file. -/
def readText (files : FileSystem) (path : Path) : Except FileError (List Char) := do
  let bytes ← files.read path
  match Utf8.decode? bytes with
  | some text => .ok text
  | none => .error .notText

/-- The names of what stands directly in a directory, in no particular order. -/
def list (files : FileSystem) (path : Path) : Except FileError (List String) := do
  let (location, entry) ← files.locate path
  match entry with
  | .file _ _ => .error .notADirectory
  | .directory => .ok (files.namesIn location)

/-- Whether a path leads to something; only the absence of something is no error. -/
def isThere (files : FileSystem) (path : Path) : Except FileError Bool :=
  match files.locate path with
  | .ok _ => .ok true
  | .error error => if error = .notFound then .ok false else .error error

/-! ## Writing -/

/-- The place of a file to be written. -/
def targetOf (files : FileSystem) (path : Path) : Except FileError Location := do
  let directory ← files.locateParent path
  let ending := endingOf path
  match ending.name? with
  | none => .error .isADirectory
  | some name =>
    if ending.slashes then .error .isADirectory
    else if isTooLong name then .error .nameTooLong
    else
      let location := directory ++ [String.ofList name]
      if files.find? location = some .directory then .error .isADirectory else .ok location

/-- The files with a file written, which can be run when it could be before. -/
def write (files : FileSystem) (path : Path) (bytes : List UInt8) : Except FileError FileSystem := do
  let location ← files.targetOf path
  let executable := (files.find? location).any (·.isProgram)
  .ok (files.put location (.file bytes executable))

/-- The files with a text written. -/
def writeText (files : FileSystem) (path : Path) (text : List Char) : Except FileError FileSystem :=
  files.write path (Utf8.encode text)

/-- The files with a file copied. The target is emptied before the source is read. -/
def copy (files : FileSystem) (source target : Path) : Except FileError FileSystem := do
  let (place, entry) ← files.locate source
  match entry with
  | .directory => .error .notAFile
  | .file _ executable => do
    let location ← files.targetOf target
    let emptied ← files.write target []
    let bytes := ((emptied.find? place).bind Entry.bytes?).getD []
    .ok (emptied.put location (.file bytes executable))

/-- The files with a directory made. -/
def makeDirectory (files : FileSystem) (path : Path) : Except FileError FileSystem := do
  let directory ← files.locateParent path
  match (endingOf path).name? with
  | none => .error .alreadyExists
  | some name =>
    if isTooLong name then .error .nameTooLong
    else
      let location := directory ++ [String.ofList name]
      if (files.find? location).isSome then .error .alreadyExists else .ok (files.put location .directory)

/-- The outcome of work on files that may be left half done, and the files after it. -/
abbrev Outcome (ε α : Type) := Except ε α × FileSystem

/-- A directory made. One that is there already counts as made. -/
def ensureDirectory (files : FileSystem) (path : Path) : Outcome FileError Unit :=
  match files.makeDirectory path with
  | .ok changed => (.ok (), changed)
  | .error error => (if error ≠ .notFound && files.isDirectory path then .ok () else .error error, files)

/-- A directory made after as many as `levels` directories above it that are not there. -/
def makeDirectoriesUpTo : Nat → FileSystem → Path → Outcome FileError Unit
  | levels, files, path =>
    match files.ensureDirectory path with
    | (.error .notFound, files) =>
      match levels, path.parent? with
      | levels + 1, some above =>
        if above.text.isEmpty then (.error .notFound, files)
        else
          match makeDirectoriesUpTo levels files above with
          | (.ok (), files) => files.ensureDirectory path
          | failed => failed
      | _, _ => (.error .notFound, files)
    | done => done

/-- A directory made together with those above it. The empty path needs none. -/
def makeDirectories (files : FileSystem) (path : Path) : Outcome FileError Unit :=
  if path.text.isEmpty then (.ok (), files) else makeDirectoriesUpTo path.pieces.length files path

/-- The files without a directory and all that it holds. -/
def removeTree (files : FileSystem) (path : Path) : FileSystem :=
  match files.locate path with
  | .ok (location, .directory) => files.eraseTree location
  | _ => files

end FileSystem

end Manuscript
