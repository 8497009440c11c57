import Manuscript.Shell.Command.Parser
import Manuscript.Shell.Option
import Manuscript.Shell.Program

/-!
# What names of commands lead to

A name may lead to a function, to a command of the shell or to a program. Commands of the shell show what it is.
-/

namespace Manuscript.Shell

/-- The names of the commands of the shell that may fail without ending a script. -/
def plainBuiltins : List String :=
  ["[", "alias", "bg", "cd", "command", "echo", "false", "fg", "getopts", "hash", "jobs", "kill", "printf", "pwd",
    "read", "test", "true", "type", "ulimit", "umask", "unalias", "wait"]

/-- What a name of a command leads to. -/
inductive Meaning where
  | function (body : Command)
  /-- A command of the shell; the special ones end a script when they fail. -/
  | builtin (name : String) (special : Bool)
  /-- A program at a path. -/
  | program (path : List Char)
  | missing (error : FileError)
  deriving Inhabited

/-- What a name leads to. Functions come first unless they are left out, then commands of the shell, then programs. -/
def State.meaning (state : State) (withFunctions : Bool) (directories : List (List Char)) (name : List Char) :
    Meaning :=
  let text := String.ofList name
  match if withFunctions then state.functions.lookup name else none with
  | some body => .function body
  | none =>
    if name.contains '/' then .program name
    else if specialNames.contains text then .builtin text true
    else if plainBuiltins.contains text then .builtin text false
    else
      match findProgram state.files directories name with
      | .ok path => .program path
      | .error error => .missing error

namespace Builtin

open Script

/-- A program remembered with its path. -/
def remember (name path : List Char) : Script Unit :=
  modify (fun state =>
    if name.contains '/' || (state.found.lookup name).isSome then state else { state with found :=
      state.found ++ [(name, path)] })

/-- What a name leads to, in words or as what would run it; the status. -/
def describe (verbose : Bool) (directories? : Option (List (List Char))) (name : List Char) : Script Nat := do
  let state ← get
  let answer (inWords : List Char) (plain : List Char) : Script Nat := do
    print 1 (if verbose then name ++ inWords ++ ['\n'] else plain ++ ['\n'])
    return 0
  if keywords.contains (String.ofList name) then return ← answer " is a shell keyword".toList name
  match state.aliases.lookup name with
  | some text => answer (" is an alias for ".toList ++ text) ("alias ".toList ++ name ++ '=' :: quoteText text)
  | none =>
    let absent : Script Nat := do
      if verbose then print 1 (name ++ ": not found\n".toList)
      return 127
    match state.meaning true (directories?.getD state.searchPath) name with
    | .function _ => answer " is a shell function".toList name
    | .builtin _ special =>
      answer (if special then " is a special shell builtin" else " is a shell builtin").toList name
    | .program path =>
      let isThere := !name.contains '/' || state.files.exists? (toPath path) || (Utility.ofPath? path).isSome
      let tracked := directories?.isNone && (state.found.lookup name).isSome
      if isThere then
        if directories?.isNone then remember name path
        answer ((if tracked then " is a tracked alias for " else " is ").toList ++ path) path else absent
    | .missing _ => absent

/-- What each of several names leads to. -/
def describeAll (names : List (List Char)) : Script Nat :=
  names.foldlM (fun status name => do return status ||| (← describe true none name)) 0

/-- What a name leads to, or nothing: the command that runs others, when it is to run none. -/
def lookUp (arguments : List (List Char)) : Script Nat := do
  let (options, names) ← options [('p', false), ('v', false), ('V', false)] arguments
  let has := fun (letter : Char) => options.any (fun o => o.1 == letter)
  match names with
  | name :: _ =>
    if has 'v' || has 'V' then describe (has 'V') (if has 'p' then some usualPath else none) name else return 0
  | [] => return 0

/-- The programs that have been run shown, forgotten, or further ones looked for. -/
def hash (arguments : List (List Char)) : Script Nat := do
  let (options, names) ← options [('r', false)] arguments
  if !options.isEmpty then
    modify (fun state => { state with found := [] })
    return 0
  if names.isEmpty then
    print 1 ((← get).found.flatMap (fun f => f.2 ++ ['\n']))
    return 0
  let mut status := 0
  for name in names do
    let state ← get
    match state.meaning true state.searchPath name with
    | .program path => remember name path
    | .missing error =>
      complain (name ++ ": ".toList ++ (programFailure error).toList)
      status := 1
    | _ => pure ()
  return status

end Builtin

end Manuscript.Shell
