import Manuscript.Shell.Format
import Manuscript.Shell.Script
import Manuscript.Shell.Standard

/-!
# Utilities

The programs that every machine has besides the shell, as far as scripts use them: they wait, or do simple work on
files. They lie in directories of their own, which need not be among those where a script looks for programs.
-/

namespace Manuscript.Shell.Utility

open Script

/-- A time in milliseconds: a decimal with an optional unit, or a word for a time that never ends. -/
def duration? (s : List Char) : Option Nat :=
  let (whole, rest) := s.span Char.isDigit
  let (fraction, unit) := match rest with | '.' :: rest => rest.span Char.isDigit | _ => ([], rest)
  let thousandths := decimalOf (whole ++ (fraction ++ ['0', '0', '0']).take 3)
  let factor? := [("", 1), ("s", 1), ("m", 60), ("h", 3600), ("d", 86400)].lookup (String.ofList unit)
  if ["inf", "infinity"].contains (String.ofList (s.map Char.toLower)) then some 1000000000000
  else if whole.isEmpty && fraction.isEmpty then none
  else factor?.map (fun factor => thousandths * factor)

/-- The arguments that are no options. -/
def operands (arguments : List (List Char)) : List (List Char) :=
  arguments.filter (fun a => a.head? != some '-' || a.length == 1)

/-- Whether an option with a letter is among the arguments. -/
def hasOption (letter : Char) (arguments : List (List Char)) : Bool :=
  arguments.any (fun a => a.head? == some '-' && a.contains letter)

/-- The wording of the system for why a file cannot be used. -/
def reason (error : FileError) : String :=
  match error with
  | .notFound => "No such file or directory"
  | .notADirectory => "Not a directory"
  | .isADirectory => "Is a directory"
  | .alreadyExists => "File exists"
  | .nameTooLong => "File name too long"
  | _ => "Permission denied"

/-- A complaint of a utility. -/
def complain (program : List Char) (message : List Char) : Script Unit :=
  print 2 (program ++ ": ".toList ++ message ++ ['\n'])

/-- Advice behind a complaint about the arguments. -/
def advise (program : List Char) : Script Unit :=
  print 2 ("Try '".toList ++ program ++ " --help' for more information.\n".toList)

/-- What a utility does with each of several paths; it fails if it fails for one of them. `blame` is put in front of
a path that it fails for, in quotes if it is not empty. -/
def onEach (program : List Char) (blame : String) (step : FileSystem → Path → Except FileError FileSystem)
    (arguments : List (List Char)) : Script Nat :=
  arguments.foldlM
    (fun status argument => do
      let state ← get
      match step state.files (toPath argument) with
      | .ok files =>
        set { state with files }
        return status
      | .error error =>
        let subject := if blame.isEmpty then argument else blame.toList ++ " '".toList ++ argument ++ ['\'']
        complain program (subject ++ ": ".toList ++ (reason error).toList)
        return 1)
    0

/-- A file or, if that is wanted, a directory without its place. -/
def remove (recursively force : Bool) (files : FileSystem) (path : Path) : Except FileError FileSystem :=
  match files.locate path with
  | .ok (location, entry) =>
    if entry.isFile || recursively then .ok (files.eraseTree location) else .error .isADirectory
  | .error error => if force && error = .notFound then .ok files else .error error

/-- An empty directory without its place. -/
def removeDirectory (files : FileSystem) (path : Path) : Except FileError FileSystem :=
  match files.locate path with
  | .ok (location, .directory) =>
    if (files.namesIn location).isEmpty then .ok (files.eraseTree location) else .error .alreadyExists
  | .ok _ => .error .notADirectory
  | .error error => .error error

/-- Files copied to a target, below it if it is a directory; whether they go away from their old place. -/
def transfer (program : List Char) (moving : Bool) (arguments : List (List Char)) : Script Nat := do
  match arguments.reverse with
  | target :: source :: others =>
    let step := fun (files : FileSystem) (source : Path) => do
      let place := toPath target
      let place := if files.isDirectory place then place.child (source.fileName?.getD "") else place
      let files ← files.copy source place
      if moving then remove false false files source else .ok files
    onEach program (if moving then "cannot move" else "cannot stat") step (others.reverse ++ [source])
  | _ =>
    complain program "missing file operand".toList
    return 1

/-- What is left of the standard input, which is used up. -/
def input : Script (List Char) := do
  let text := ((← get).unread? 0).getD []
  modify (fun state => state.advance 0 text.length)
  return text

/-- Files written one after another; a hyphen stands for the standard input. -/
def concatenate (program : List Char) (arguments : List (List Char)) : Script Nat :=
  (if arguments.isEmpty then [['-']] else arguments).foldlM
    (fun status argument => do
      if argument = ['-'] then
        print 1 (← input)
        return status
      match (← get).files.read (toPath argument) with
      | .ok bytes =>
        print 1 (ofBytes bytes)
        return status
      | .error error =>
        complain program (argument ++ ": ".toList ++ (reason error).toList)
        return 1)
    0

/-- Text written as a format says. -/
def format (complaint : List Char → Script Unit) (arguments : List (List Char)) : Script Nat := do
  match arguments with
  | [] =>
    complaint "usage: printf format [arg ...]".toList
    return 2
  | pattern :: rest =>
    let (text, complaints, ending) := Format.write pattern rest
    complaints.forM complaint
    match ending with
    | .failed message =>
      complaint message
      print 1 text
      return 2
    | _ =>
      print 1 text
      return if complaints.isEmpty then 0 else 1

/-- What a utility other than a shell does; its status as far as all could be written. -/
def perform (program : List Char) (name : String) (arguments : List (List Char)) : Script Nat := do
  let operands := operands arguments
  match name with
  | "sleep" =>
    if arguments.isEmpty then
      complain program "missing operand".toList
      advise program
      return 1
    let wrong := arguments.filter (fun a => (duration? a).isNone)
    wrong.forM (fun a => complain program ("invalid time interval '".toList ++ a ++ ['\'']))
    if !wrong.isEmpty then
      advise program
      return 1
    wait ((arguments.filterMap duration?).foldl (· + ·) 0)
    return 0
  | "false" => return 1
  | "echo" =>
    let (shown, ending) := match arguments with | ['-', 'n'] :: rest => (rest, []) | _ => (arguments, ['\n'])
    print 1 ([' '].intercalate shown ++ ending)
    return 0
  | "printf" => format (complain program) arguments
  | "cat" => concatenate program operands
  | "touch" =>
    onEach program "cannot touch" (fun files path => if files.exists? path then .ok files else files.write path [])
      operands
  | "cp" => transfer program false operands
  | "mv" => transfer program true operands
  | "rm" =>
    let recursively := hasOption 'r' arguments || hasOption 'R' arguments
    onEach program "cannot remove" (remove recursively (hasOption 'f' arguments)) operands
  | "rmdir" => onEach program "failed to remove" removeDirectory operands
  | "mkdir" =>
    let step := fun (files : FileSystem) (path : Path) =>
      if hasOption 'p' arguments then
        match files.makeDirectories path with
        | (.ok (), files) => .ok files
        | (.error error, _) => .error error
      else files.makeDirectory path
    onEach program "cannot create directory" step operands
  | "pwd" =>
    print 1 (ofString (FileSystem.pathOf (← get).files.workingDirectory).text ++ ['\n'])
    return 0
  | _ => return 0

/-- What a utility other than a shell does; its status. -/
def run (program : List Char) (name : String) (arguments : List (List Char)) : Script Nat := do
  let status ← perform program name arguments
  if ← takeUnwritten then
    complain program "write error: Bad file descriptor".toList
    return 1
  return status

end Manuscript.Shell.Utility
