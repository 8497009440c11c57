import Manuscript.Shell.Builtin
import Manuscript.Shell.Stream

/-!
# Texts, shells and programs that are run

Texts are read and run command by command. A shell inside of another one and a program that is started work on a
state of their own, of which the files, the channels and the time are left when they end. How single commands run is
left to a function.
-/

namespace Manuscript.Shell

/-- How a command runs. The flag says that its failure is looked at and ends nothing. -/
abbrev Runner := Command → Bool → Script Unit

/-- How a shell or a program ends. -/
inductive Ending where
  | status (status : Nat)
  | signal (signal : Nat)
  deriving DecidableEq, Inhabited

namespace Script

/-! ## Texts -/

/-- Work done again as long as it says so. What is done too often is stopped. -/
def again (work : Script Bool) : Script Unit :=
  go stepLimit
where
  /-- At most so many times. -/
  go : Nat → Script Unit
    | 0 => throw .stopped
    | n + 1 => do if ← work then go n

/-- The next commands of a text that is being read. A text that cannot be read is an error. -/
def nextCommands (reader : Reader) : Script (Option (Option Command) × Reader) := do
  match Parse.nextCommands { reader with aliases := (← get).aliases } with
  | .ok (.endOfInput, reader) => return (none, reader)
  | .ok (.commands body, reader) =>
    modify (fun state => { state with readLine := reader.line })
    return (some body, reader)
  | .error error =>
    modify (fun state => { state with messageLine := error.line, readLine := error.line })
    fail ("Syntax error: ".toList ++ error.message.toList)

/-- The commands of a text from a place on run one after another, until something is left out; the status of the
last one. -/
def runFrom (run : Runner) (tested : Bool) : Nat → Reader → Nat → Script Nat
  | 0, _, _ => throw .stopped
  | fuel + 1, reader, status => do
    match ← nextCommands reader with
    | (none, _) => return status
    | (some none, reader) => runFrom run tested fuel reader status
    | (some (some body), reader) =>
      run body tested
      let state ← get
      if state.skip ≠ .nothing then return state.status
      runFrom run tested fuel reader state.status

/-- The commands of a text run; the status of the last one, or nought if there is none. -/
def runText (run : Runner) (tested : Bool) (text : List Char) : Script Nat := do
  let line := (← get).readLine
  ensuring (runFrom run tested (text.length + 2) { rest := text } 0)
    (modify (fun state => { state with readLine := line }))

/-- The commands of a script run. Leaving a function where none is running leaves the script. -/
def runScript (run : Runner) (text : List Char) : Script Nat := do
  let status ← runText run false text
  modify (fun state => { state with skip := match state.skip with | .function _ => .nothing | skip => skip })
  return status

/-! ## Signals -/

/-- The texts run for the signals that have come. -/
def handleSignals (run : Runner) : Script Unit := do
  let state ← get
  if !state.inner && !state.received.isEmpty then
    set { state with received := [] }
    state.received.forM Builtin.receive
  let state ← get
  if !state.pending.isEmpty && state.skip = .nothing then
    let saved := state.saved
    let status := saved.getD state.status
    set { state with pending := [], saved := some status }
    for signal in state.pending do
      match (← get).traps.lookup signal with
      | none => pure ()
      | some action =>
        let _ ← runText run false action
        if (← get).skip ≠ .function true then setStatus status
    modify (fun state => { state with saved })

/-! ## Shells -/

/-- The status with which a shell ends after its last commands, once the text for its end has run. -/
def finish (run : Runner) (asked : Bool) : Script Ending := do
  let state ← get
  let status := if asked then state.saved.getD state.status else state.status
  let traps := state.traps.filter (fun t => t.1 != 0)
  set { state with status, traps, saved := some status, skip := .nothing, loops := 0 }
  match state.traps.lookup 0 with
  | none => return .status status
  | some action =>
    match ← caught (runText run false action) with
    | .ok _ => return .status status
    | .error (.ended true) => return .status ((← get).saved.getD status)
    | .error (.killed signal) => return .signal signal
    | .error .stopped => throw .stopped
    | .error _ => return .status (← get).status

/-- How a shell ends that does some work. -/
def conclude (run : Runner) (work : Script Unit) : Script Ending := do
  match ← caught work with
  | .ok () => finish run false
  | .error .failed => finish run false
  | .error (.ended asked) => finish run asked
  | .error .replaced => return .status (← get).status
  | .error (.killed signal) => return .signal signal
  | .error .stopped => throw .stopped

/-- Work done in a shell inside of this one. Of the texts for signals only the empty ones are kept there. -/
def inInner (run : Runner) (work : Script Unit) : Script Ending := do
  let outer ← get
  set { outer with inner := true, traps := outer.traps.filter (fun t => t.2.isEmpty), jobs := [] }
  let ending ← conclude run work
  modify outer.afterInner
  return ending

/-- The status of a shell or a program that has ended. What a signal has ended is said. -/
def statusOf (ending : Ending) : Script Nat := do
  match ending with
  | .status status => return status % 256
  | .signal signal =>
    match signalText? signal with
    | some text => print 2 (text.toList ++ ['\n'])
    | none => pure ()
    return 128 + signal

/-- What commands in a word write. -/
def capture (run : Runner) (body : Option Command) : Script (List Char) := do
  match body with
  | none => return []
  | some body =>
    fork
    let index ← newChannel (.kept [])
    let ending ← inInner run (do
      modify (fun state => state.lead 1 (some index))
      run body false)
    let status ← statusOf ending
    waitForChannel index
    let state ← get
    set { state.setChannel index .nothing with substituted := status }
    return state.keptText index

/-- Work that is not waited for. It is a job whose end can be waited for. -/
def inBackground (run : Runner) (work : Script Unit) : Script Unit := do
  let outer ← get
  let index ← newChannel .nothing
  modify (fun state => { state with effects := [], held := [], received := [] })
  let result ← caught (inInner run (do
    modify (fun state => state.lead 0 (some index))
    work))
  let (status, signal) :=
    match result with
    | .ok (.status status) => (status % 256, none)
    | .ok (.signal signal) => (128 + signal, some signal)
    | .error _ => (0, none)
  modify (fun inner => outer.afterBackground inner status signal)

/-! ## Programs -/

/-- The variables of a shell that starts with given ones. -/
def startVariables (given : List (List Char × List Char)) (files : FileSystem) : List (List Char × Variable) :=
  let own := fun (name : String) (value : List Char) => (name.toList, ({ value := some value } : Variable))
  let plain := [own "IFS" [' ', '\t', '\n'], own "OPTIND" ['1'], own "PPID" ['1'], own "PS1" ['$', ' '],
    own "PS2" ['>', ' '], own "PS4" ['+', ' ']]
  let directory := ofString (FileSystem.pathOf files.workingDirectory).text
  let kept := given.filter (fun v => isName v.1 && v.1 != "PWD".toList && !(plain.any (fun p => p.1 == v.1)))
  kept.map (fun v => (v.1, { value := some v.2, exported := true })) ++
    ("PWD".toList, { value := some directory, exported := true }) :: plain

/-- What a program starts with from a script that starts it. -/
def stateFor (outer : State) (name : List Char) (arguments : List (List Char)) : State where
  name := name
  files := outer.files
  bindings := startVariables outer.environment outer.files
  arguments := arguments
  streams := outer.streams.filter (fun s => s.1 < 10)
  channels := outer.channels
  mask := outer.mask
  traps := outer.traps.filter (fun t => t.2.isEmpty && t.1 ≠ 0)
  elapsed := outer.elapsed
  deadline := outer.deadline
  steps := outer.steps

/-- The options in front of the name of a script or of a text, set. -/
def takeOptions (arguments : List (List Char)) : Script (Bool × List (List Char)) := do
  match arguments with
  | ('-' :: letters) :: rest =>
    if letters.head?.any Char.isAlpha then
      (letters.filter (fun c => c ≠ 'c' && c ≠ 'l')).forM (fun letter => setLetter letter true)
      return (letters.contains 'c', rest)
    return (false, rest)
  | _ => return (false, arguments)

/-- A shell started with arguments: a text, a script, or what the standard input holds. -/
def runShell (run : Runner) (program : List Char) (arguments : List (List Char)) : Script Unit := do
  modify (fun state => { state with name := program, arguments := [] })
  let (isText, arguments) ← takeOptions arguments
  let start (name : List Char) (arguments : List (List Char)) (text : List Char) : Script Unit := do
    modify (fun state => { state with name, arguments })
    setStatus (← runScript run text)
  match isText, arguments with
  | true, text :: rest => start (rest.headD program) (rest.drop 1) text
  | true, [] => failOf [] "-c requires an argument"
  | false, path :: rest =>
    match (← get).files.read (toPath path) with
    | .ok bytes => start path rest (ofBytes bytes)
    | .error error =>
      print 2 (program ++ ": 0: cannot open ".toList ++ path ++ ": ".toList ++ (openFailure false error).toList ++
        ['\n'])
      setStatus 2
      throw (.ended false)
  | false, [] => start program [] (← Utility.input)

/-- A utility with its path and arguments. -/
structure Invocation where
  path : List Char
  utility : String
  arguments : List (List Char)
  deriving DecidableEq, Inhabited

/-- What runs when the program at a path is started. A script names another program in its first line, at most five
times over; without that it cannot be run by itself. -/
def invocation (files : FileSystem) : Nat → List Char → List (List Char) → Except FileError Invocation
  | 0, _, _ => .error .notPermitted
  | depth + 1, path, arguments => do
    match ← programAt files path with
    | .utility utility => return { path, utility, arguments }
    | .script text =>
      match interpreter? text with
      | some (interpreter, argument) => invocation files depth interpreter (argument ++ path :: arguments)
      | none => .error .badProgram

/-- What runs when a script starts the program at a path. A script that cannot be run by itself is one for the shell. -/
def invocationFrom (files : FileSystem) (path : List Char) (arguments : List (List Char)) :
    Except FileError Invocation :=
  match invocation files 5 path arguments with
  | .error .badProgram => .ok { path, utility := "sh", arguments := path :: arguments }
  | result => result

/-- What runs when a program is started that is named with or without a slash. -/
def invocationOf (state : State) (name : List Char) (arguments : List (List Char)) : Except FileError Invocation := do
  let path ← if name.contains '/' then .ok name else findProgram state.files state.searchPath name
  invocationFrom state.files path arguments

/-- A utility run. One runs another program in its place, and that may be the same one again so many times. -/
def runInvocation (run : Runner) : Nat → Invocation → Script Unit
  | 0, _ => throw .stopped
  | fuel + 1, { path, utility, arguments } => do
    if Utility.shells.contains utility then runShell run path arguments
    else if utility = "env" then
      let settings := arguments.takeWhile isAssignment
      settings.forM (fun s => setKnown (splitAssignment s).1 (splitAssignment s).2 true false)
      match arguments.drop settings.length with
      | [] => print 1 ((← get).environment.flatMap (fun v => v.1 ++ '=' :: v.2 ++ ['\n']))
      | name :: arguments =>
        match invocationOf (← get) name arguments with
        | .ok invocation => runInvocation run fuel invocation
        | .error error =>
          Utility.complain path ("'".toList ++ name ++ "': ".toList ++ (Utility.reason error).toList)
          setStatus (programStatus error)
    else setStatus (← Utility.run path utility arguments)

/-- A program started by a script: how it ends, or why it cannot be run. -/
def start (run : Runner) (path : List Char) (arguments : List (List Char)) : Script (Except FileError Ending) := do
  fork
  let outer ← get
  match invocationFrom outer.files path arguments with
  | .error error => return .error error
  | .ok invocation =>
    set (stateFor outer path arguments)
    let ending ← conclude run (runInvocation run (arguments.length + 2) invocation)
    modify outer.afterInner
    return .ok ending

end Script

end Manuscript.Shell
