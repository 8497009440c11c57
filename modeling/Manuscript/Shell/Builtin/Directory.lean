import Manuscript.Shell.Option

/-!
# The working directory

Commands that change the working directory of a script and show it.
-/

namespace Manuscript.Shell.Builtin

open Script

/-- The path of the working directory. -/
def workingPath (state : State) : List Char :=
  ofString (FileSystem.pathOf state.files.workingDirectory).text

/-- The directory that a path leads to. -/
def directory? (state : State) (path : List Char) : Option Location :=
  match state.files.locate (toPath path) with
  | .ok (location, .directory) => some location
  | _ => none

/-- The working directory changed. -/
def enter (location : Location) : Script Unit := do
  let state ← get
  let old := workingPath state
  set { state with files := { state.files with workingDirectory := location } }
  setKnown "OLDPWD".toList (some old) true false
  setKnown "PWD".toList (some (workingPath (← get))) true false

/-- Whether a path is looked for from the working directory alone: it starts at the root or with one or two dots. -/
def isFixed (path : List Char) : Bool :=
  match path with
  | '/' :: _ => true
  | ['.'] => true
  | '.' :: '/' :: _ => true
  | ['.', '.'] => true
  | '.' :: '.' :: '/' :: _ => true
  | _ => false

/-- The directory for a path below one of the directories where such are looked for, and whether it is shown. -/
def findDirectory? (state : State) (path : List Char) : Option (Location × Bool) :=
  let places := match state.value? "CDPATH".toList with | some places => splitAll ':' places | none => []
  (places.findSome? (fun place =>
    if place.isEmpty then (directory? state path).map (fun location => (location, false))
    else (directory? state (place ++ '/' :: path)).map (fun location => (location, true)))).or
    ((directory? state path).map (fun location => (location, false)))

/-- The working directory changed to an argument, to the home directory or, for a hyphen, back to where it was. -/
def changeDirectory (arguments : List (List Char)) : Script Nat := do
  let (_, arguments) ← options [('L', false), ('P', false)] arguments
  let state ← get
  let (wanted, isShown) :=
    match arguments with
    | [] => ((state.value? "HOME".toList).getD [], false)
    | ['-'] :: _ => ((state.value? "OLDPWD".toList).getD [], true)
    | path :: _ => (path, false)
  let path := if wanted.isEmpty then ['.'] else wanted
  let found := if isFixed wanted then (directory? state path).map (fun location => (location, false))
    else findDirectory? state path
  match found with
  | none => failOf ("can't cd to ".toList ++ wanted) ""
  | some (location, foundElsewhere) =>
    enter location
    if isShown || foundElsewhere then print 1 (workingPath (← get) ++ ['\n'])
    return 0

/-- The working directory shown. -/
def showDirectory (arguments : List (List Char)) : Script Nat := do
  let _ ← options [('L', false), ('P', false)] arguments
  print 1 (workingPath (← get) ++ ['\n'])
  return 0

end Manuscript.Shell.Builtin
