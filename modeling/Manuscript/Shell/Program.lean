import Manuscript.Shell.Utility

/-!
# Looking for programs

Where the name of a program leads: a name with a slash is a path, and other names are looked for in the directories
of the search path. A file is a program if it may be run.
-/

namespace Manuscript.Shell

/-- What runs when a program is started. -/
inductive Program where
  | utility (name : String)
  /-- A file with its text. -/
  | script (text : List Char)
  deriving DecidableEq, Inhabited

/-- The program at a path. -/
def programAt (files : FileSystem) (path : List Char) : Except FileError Program :=
  match Utility.ofPath? path with
  | some name => .ok (.utility name)
  | none => do
    let (_, entry) ← files.locate (toPath path)
    match entry with
    | .file bytes true => .ok (.script (ofBytes bytes))
    | _ => .error .notPermitted

/-- The path of a program with a name below a directory; no directory is the working directory. -/
def pathBelow (directory name : List Char) : List Char :=
  if directory.isEmpty then name else directory ++ '/' :: name

/-- The path of the program that a name without a slash leads to. That a file is there but must not be run counts
for more than that none is there. -/
def findProgram (files : FileSystem) (directories : List (List Char)) (name : List Char) :
    Except FileError (List Char) :=
  go .notFound directories
where
  /-- The first of several directories with the program, or what is wrong with them. -/
  go (error : FileError) : List (List Char) → Except FileError (List Char)
    | [] => .error error
    | directory :: rest =>
      let path := pathBelow directory name
      match programAt files path with
      | .ok _ => .ok path
      | .error .notPermitted => go .notPermitted rest
      | .error _ => go error rest

/-- The directories in which programs are looked for when a script asks for the usual ones. -/
def usualPath : List (List Char) :=
  ["/usr/local/sbin", "/usr/local/bin", "/usr/sbin", "/usr/bin", "/sbin", "/bin"].map String.toList

/-- The wording of a program that cannot be run. -/
def programFailure (error : FileError) : String :=
  match error with
  | .notFound => "not found"
  | .notADirectory => "not found"
  | .nameTooLong => "File name too long"
  | _ => "Permission denied"

/-- The status of a program that cannot be run. -/
def programStatus (error : FileError) : Nat :=
  match error with
  | .notFound => 127
  | .notADirectory => 127
  | .nameTooLong => 127
  | _ => 126

/-- The program that a script names in its first line to be run with, and the argument for that. -/
def interpreter? (script : List Char) : Option (List Char × List (List Char)) :=
  match script with
  | '#' :: '!' :: rest =>
    let line := (rest.takeWhile (· ≠ '\n')).dropWhile isGap
    let (name, behind) := line.span (fun c => !isGap c)
    let argument := ((behind.dropWhile isGap).reverse.dropWhile isGap).reverse
    if name.isEmpty then none else some (name, if argument.isEmpty then [] else [argument])
  | _ => none

end Manuscript.Shell
