import Manuscript.FileSystem
import Manuscript.Text.Utf8

/-!
# Where paths lead

A path is followed piece by piece, and everything but its end must be a directory that is there. Two dots lead to
the directory above, an empty piece and a single dot lead nowhere else; so a slash at the end asks for a directory.
Two paths are spellings of one place when they lead to it.
-/

namespace Manuscript.FileSystem

/-- The number of bytes at which a path is too long. -/
def pathLimit : Nat := 4096

/-- The greatest number of bytes of a name. -/
def nameLimit : Nat := 255

/-- Whether a piece of a path is too long for a name. -/
def isTooLong (piece : List Char) : Bool :=
  nameLimit < (Utf8.encode piece).length

/-- What is wrong with the spelling of a path. -/
def spellingError? (path : Path) : Option FileError :=
  let text := path.text.toList
  if text.contains '\x00' then some .nulInName
  else if text.isEmpty then some .notFound
  else if pathLimit ≤ (Utf8.encode text).length then some .nameTooLong
  else none

/-- A place that must be a directory. -/
def requireDirectory (files : FileSystem) (location : Location) : Except FileError Unit :=
  match files.find? location with
  | some .directory => .ok ()
  | some _ => .error .notADirectory
  | none => .error .notFound

/-- The path of the directory that relative paths start from; it may be gone. -/
def currentDirectory (files : FileSystem) : Except FileError Path := do
  files.requireDirectory files.workingDirectory
  .ok (pathOf files.workingDirectory)

/-- Where a piece of a path leads from a directory. -/
def step (location : Location) (piece : List Char) : Except FileError Location :=
  if piece.isEmpty || piece = ['.'] then .ok location
  else if piece = ['.', '.'] then .ok location.dropLast
  else if isTooLong piece then .error .nameTooLong
  else .ok (location ++ [String.ofList piece])

/-- Where pieces of a path lead from a place. What stands at the end is not looked at. -/
def walk (files : FileSystem) : Location → List (List Char) → Except FileError Location
  | location, [] => .ok location
  | location, piece :: rest => do
    files.requireDirectory location
    let next ← step location piece
    walk files next rest

/-- Where a path starts. -/
def startOf (files : FileSystem) (path : Path) : Location :=
  if path.isAbsolute then [] else files.workingDirectory

/-- The place that a path leads to, and what stands there. -/
def locate (files : FileSystem) (path : Path) : Except FileError (Location × Entry) :=
  match spellingError? path with
  | some error => .error error
  | none => do
    let location ← files.walk (files.startOf path) path.pieces
    match files.find? location with
    | some entry => .ok (location, entry)
    | none => .error .notFound

/-- What a path leads to. -/
def at? (files : FileSystem) (path : Path) : Option Entry :=
  (files.locate path).toOption.map (·.2)

/-- Whether a path leads to something. -/
def exists? (files : FileSystem) (path : Path) : Bool :=
  (files.at? path).isSome

/-- Whether a path leads to a file. -/
def isFile (files : FileSystem) (path : Path) : Bool :=
  (files.at? path).any (·.isFile)

/-- Whether a path leads to a directory. -/
def isDirectory (files : FileSystem) (path : Path) : Bool :=
  files.at? path == some .directory

/-- The end of a path: the pieces before its last name, and that name. A path that ends in dots and the root have no
last name. -/
structure Ending where
  before : List (List Char)
  name? : Option (List Char)
  /-- Whether slashes follow the name. -/
  slashes : Bool
  deriving DecidableEq, Inhabited

/-- The end of a path. -/
def endingOf (path : Path) : Ending :=
  let reversed := path.pieces.reverse
  let slashes := !(reversed.takeWhile (·.isEmpty)).isEmpty
  match reversed.dropWhile (·.isEmpty) with
  | [] => ⟨[], none, slashes⟩
  | last :: before =>
    if last = ['.'] || last = ['.', '.'] then ⟨path.pieces, none, slashes⟩ else ⟨before.reverse, some last, slashes⟩

/-- The directory in which something new with the name at the end of a path would lie; it must be there. -/
def locateParent (files : FileSystem) (path : Path) : Except FileError Location :=
  match spellingError? path with
  | some error => .error error
  | none => do
    let directory ← files.walk (files.startOf path) (endingOf path).before
    files.requireDirectory directory
    .ok directory

end Manuscript.FileSystem
