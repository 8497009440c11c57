import Manuscript.Shell.Builtin.Directory
import Manuscript.Shell.Builtin.Input
import Manuscript.Shell.Builtin.Job
import Manuscript.Shell.Builtin.Lookup
import Manuscript.Shell.Builtin.Variable
import Manuscript.Shell.Condition

/-!
# Commands of the shell

The commands that the shell runs itself and that run no others. Each gives its status.
-/

namespace Manuscript.Shell.Builtin

open Script

/-! ## Text and conditions -/

/-- The status of a command with a given one when all that it wrote is checked. What could not be written is an
error. -/
def checkWritten (status : Nat) : Script Nat := do
  if ← takeUnwritten then
    complain (((← get).command.getD []) ++ ": I/O error".toList)
    return status ||| 1
  return status

/-- Text written as a format says. -/
def format (arguments : List (List Char)) : Script Nat := do
  let (_, arguments) ← options [] arguments
  match arguments with
  | [] => failOf [] "usage: printf format [arg ...]"
  | pattern :: rest =>
    let (text, complaints, ending) := Format.write pattern rest
    complaints.forM complain
    match ending with
    | .failed message =>
      complain message
      print 1 text
      let _ ← checkWritten 2
      setStatus 2
      throw .failed
    | _ =>
      print 1 text
      return if complaints.isEmpty then 0 else 1

/-- Whether a condition holds. In brackets the last word must close them. -/
def test (bracket : Bool) (arguments : List (List Char)) : Script Nat := do
  let words ←
    if !bracket then pure arguments
    else if arguments.getLast? == some [']'] then pure arguments.dropLast
    else fail (Condition.Error.message .bracketExpected)
  match Condition.eval (← get).files words with
  | .ok true => return 0
  | .ok false => return 1
  | .error error => fail error.message

/-! ## Going on elsewhere -/

/-- The end of the script. -/
def exit (arguments : List (List Char)) : Script Nat := do
  match arguments with
  | n :: _ =>
    let status ← numberOf n
    modify (fun state => { state with saved := some status })
  | [] => pure ()
  throw (.ended true)

/-- The end of a function or of the text that is running. -/
def leaveFunction (arguments : List (List Char)) : Script Nat := do
  match arguments with
  | n :: _ =>
    let status ← numberOf n
    modify (fun state => { state with skip := .function true })
    return status
  | [] =>
    let state ← get
    set { state with skip := .function false }
    return state.status

/-- The end of loops or of their rounds. -/
def leaveLoops (continuing : Bool) (arguments : List (List Char)) : Script Nat := do
  let levels ←
    match arguments with
    | n :: _ => do
      let levels ← numberOf n
      if levels = 0 then failOf ("Illegal number: ".toList ++ n) ""
      pure levels
    | [] => pure 1
  let state ← get
  let levels := min levels state.loops
  if levels ≠ 0 then set { state with skip := if continuing then .round levels else .loops levels }
  return 0

/-! ## Settings -/

/-- The permissions that new files do not get, set or shown. -/
def fileMask (arguments : List (List Char)) : Script Nat := do
  let (options, arguments) ← options [('S', false)] arguments
  match arguments with
  | [] =>
    let mask := (← get).mask
    let digits := Nat.toDigits 8 mask
    let plain := List.replicate (4 - digits.length) '0' ++ digits
    let letters := fun (bits : Nat) =>
      (if bits / 4 % 2 = 0 then ['r'] else []) ++ (if bits / 2 % 2 = 0 then ['w'] else []) ++
        (if bits % 2 = 0 then ['x'] else [])
    let symbolic :=
      "u=".toList ++ letters (mask / 64) ++ ",g=".toList ++ letters (mask / 8) ++ ",o=".toList ++ letters mask
    print 1 ((if options.isEmpty then plain else symbolic) ++ ['\n'])
  | n :: _ =>
    if n.all Output.isOctal then modify (fun state => { state with mask := digitsValue 8 n % 512 })
    else if n.all Char.isDigit then fail ("Illegal number: ".toList ++ n)
  return 0

/-- What a command of the shell that runs no others does. -/
def run (name : String) (arguments : List (List Char)) : Script Nat := do
  match name with
  | "echo" =>
    print 1 (Output.echo arguments)
    return 0
  | "printf" => format arguments
  | "test" => test false arguments
  | "[" => test true arguments
  | "false" => return 1
  | "read" => read arguments
  | "cd" => changeDirectory arguments
  | "pwd" => showDirectory arguments
  | "export" => mark name arguments
  | "readonly" => mark name arguments
  | "local" => makeLocal arguments
  | "unset" => unsetAll arguments
  | "set" => configure arguments
  | "shift" => shift arguments
  | "getopts" => getOptions arguments
  | "alias" => setAliases arguments
  | "unalias" => unalias arguments
  | "type" => describeAll arguments
  | "command" => lookUp arguments
  | "hash" => hash arguments
  | "exit" => exit arguments
  | "return" => leaveFunction arguments
  | "break" => leaveLoops false arguments
  | "continue" => leaveLoops true arguments
  | "trap" => trap arguments
  | "kill" => kill arguments
  | "wait" => waitFor arguments
  | "jobs" => showJobs arguments
  | "fg" => resume arguments
  | "bg" => resume arguments
  | "umask" => fileMask arguments
  | "ulimit" =>
    if arguments.length < 2 then print 1 "unlimited\n".toList
    return 0
  | "times" =>
    print 1 "0m0.000000s 0m0.000000s\n0m0.000000s 0m0.000000s\n".toList
    return 0
  | _ => return 0

end Manuscript.Shell.Builtin
