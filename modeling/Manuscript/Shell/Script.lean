import Manuscript.Shell.Background

/-!
# Running scripts step by step

Commands work on the state of a script until they are done or something keeps the script from going on. What they
did to the state before that stays done.
-/

namespace Manuscript.Shell

/-- What keeps a script from going on. -/
inductive Abort where
  /-- An error, which a command may be allowed to survive. -/
  | failed
  /-- The script is at its end; whether its status was asked for by the script. -/
  | ended (asked : Bool)
  /-- Another program runs in place of the script. -/
  | replaced
  | killed (signal : Nat)
  /-- The time is over. -/
  | stopped
  deriving DecidableEq, Inhabited

/-- Work on the state of a script. -/
abbrev Script := ExceptT Abort (StateM State)

namespace Script

/-- The greatest number of commands that are run. A script that runs more does not end in any time. -/
def stepLimit : Nat := 400000

/-- A text written to a stream, if it can be. -/
def print (stream : Nat) (text : List Char) : Script Unit :=
  modify (fun state =>
    match state.write? stream text with
    | some written => written
    | none => { state with unwritten := state.unwritten || (stream == 1 && !text.isEmpty) })

/-- Whether something could not be written since this was asked last. -/
def takeUnwritten : Script Bool :=
  modifyGet (fun state => (state.unwritten, { state with unwritten := false }))

/-- A message of the shell, which names the script, the line and the command. -/
def complain (message : List Char) : Script Unit := do
  let state ← get
  let command := (state.command.map (· ++ [':', ' '])).getD []
  print 2 (state.name ++ ": ".toList ++ decimalText state.messageLine ++ ": ".toList ++ command ++ message ++ ['\n'])

/-- An error that ends the script, unless a command is allowed to survive it. -/
def fail {α : Type} (message : List Char) : Script α := do
  complain message
  modify (fun state => { state with status := 2 })
  throw .failed

/-- An error with a text in front of its message. -/
def failOf {α : Type} (subject : List Char) (message : String) : Script α :=
  fail (subject ++ message.toList)

/-- Work whose obstacle is a result. -/
def caught {α : Type} (work : Script α) : Script (Except Abort α) :=
  tryCatch (do return .ok (← work)) (fun abort => return .error abort)

/-- Work after which something is done however it ends. -/
def ensuring {α : Type} (work : Script α) (after : Script Unit) : Script α := do
  let result ← caught work
  after
  match result with
  | .ok value => return value
  | .error abort => throw abort

/-- A command is counted. Behind the end of the time nothing is run. -/
def count : Script Unit := do
  let state ← get
  if stepLimit ≤ state.steps || state.deadline ≤ state.elapsed then throw .stopped
  set { state with steps := state.steps + 1 }

/-- What was not waited for is done up to the present time. -/
def settle : Script Unit :=
  modify (fun state => state.settle state.elapsed)

/-- What is done before a command runs beside the script: what was to be done up to now, and the number for it is
taken. -/
def fork : Script Unit := do
  settle
  modify (fun state => state.reap.forget state.reap.nextNumber)

/-- Time passes. -/
def wait (milliseconds : Nat) : Script Unit := do
  modify (fun state => { state with elapsed := state.elapsed + milliseconds }.hold)
  settle
  let state ← get
  if state.deadline ≤ state.elapsed then throw .stopped

/-- Time passes until nothing keeps a channel open any more. -/
def waitForChannel (index : Nat) : Script Unit := do
  let state ← get
  wait (state.heldUntil index - state.elapsed)

/-- The status of the last command is set. -/
def setStatus (status : Nat) : Script Unit :=
  modify (fun state => { state with status })

/-! ## Variables -/

/-- The number that a text is, read as far as it goes. -/
def leadingDecimal (s : List Char) : Nat :=
  decimalOf (s.takeWhile Char.isDigit)

/-- A variable with a name that is known to be one set, or left without a value. -/
def setKnown (name : List Char) (value : Option (List Char)) (exported readOnly : Bool) : Script Unit := do
  let state ← get
  let old := (state.bindings.lookup name).getD {}
  if old.readOnly then failOf name ": is read only"
  let exported := old.exported || exported || state.hasOption 'a'
  set (state.put name (some { value, exported, readOnly }))
  if name = "OPTIND".toList then
    modify (fun state => { state with optionCount := leadingDecimal (value.getD []) - 1, optionPlace := none })
  if name = "PATH".toList then modify (fun state => { state with found := [] })

/-- A variable set. -/
def assign (name value : List Char) : Script Unit :=
  if isName name then setKnown name (some value) false false else failOf name ": bad variable name"

/-- A variable taken away. -/
def unset (name : List Char) : Script Unit := do
  if !isName name then failOf name ": bad variable name"
  let state ← get
  if ((state.bindings.lookup name).getD {}).readOnly then failOf name ": is read only"
  set (state.put name none)

/-- A variable kept for the end of the running function or command. -/
def hide (name : List Char) : Script Unit :=
  modify (fun state =>
    match state.hidden with
    | [] => state
    | innermost :: rest => { state with hidden := ((name, state.bindings.lookup name) :: innermost) :: rest })

end Script

end Manuscript.Shell
