import Manuscript.Shell.Process

/-!
# Running commands

What each kind of command does. The commands in a command are run by a function that is given; `run` closes the
circle with a bound on how deep commands stand in one another.
-/

namespace Manuscript.Shell

namespace Script

/-! ## Loops -/

/-- Whether a loop is left behind its body or its condition. What is left out up to the end of loops is counted. -/
def leavesLoop : Script Bool := do
  let state ← get
  match state.skip with
  | .nothing => return false
  | .loops levels =>
    set { state with skip := if levels ≤ 1 then .nothing else .loops (levels - 1) }
    return true
  | .round levels =>
    set { state with skip := if levels ≤ 1 then .nothing else .round (levels - 1) }
    return 1 < levels
  | .function _ => return true

/-- Work inside of one loop more. -/
def inLoop (work : Script Unit) : Script Unit := do
  modify (fun state => { state with loops := state.loops + 1 })
  ensuring work (modify (fun state => { state with loops := state.loops - 1 }))

/-- Rounds of a body while a condition holds, or until it does. The status is that of the last round. -/
def runLoop (run : Runner) (tested : Bool) (condition body : Command) (whileTrue : Bool) : Script Unit := do
  setStatus 0
  inLoop (again (do
    let last := (← get).status
    run condition true
    let found := (← get).status
    if (← get).skip ≠ .nothing then
      if (← get).skip matches .function _ then setStatus found else setStatus last
      return !(← leavesLoop)
    if (found == 0) ≠ whileTrue then
      setStatus last
      return false
    run body tested
    return !(← leavesLoop)))

/-- Rounds of a body with each of several values of a variable. -/
def runEach (run : Runner) (tested : Bool) (name : List Char) (values : List (List Char)) (body : Command) :
    Script Unit := do
  setStatus 0
  inLoop (go values)
where
  /-- The rounds that are left. -/
  go : List (List Char) → Script Unit
    | [] => return ()
    | value :: rest => do
      setKnown name (some value) false false
      run body tested
      if !(← leavesLoop) then go rest

/-! ## Choices and pipelines -/

/-- Whether one of several patterns stands for a text. Patterns behind that one are not expanded. -/
def matchesAny (capture : Capture) (text : List Char) : List Word → Script Bool
  | [] => return false
  | pattern :: rest => do
    if matchesPattern (← expandPattern capture pattern) text then return true
    matchesAny capture text rest

/-- The commands of the first case with a pattern that stands for a text. -/
def runCases (run : Runner) (tested : Bool) (text : List Char) : List (List Word × Option Command) → Script Unit
  | [] => setStatus 0
  | (patterns, body) :: rest => do
    if ← matchesAny (capture run) text patterns then
      match body with
      | some body => run body tested
      | none => setStatus 0
    else runCases run tested text rest

/-- Commands each of which reads what the one before it wrote; the status of the last one. `source` is the channel
that the first reads. -/
def runPipeline (run : Runner) (tested : Bool) : Option Nat → List Command → Script Nat
  | _, [] => return 0
  | source, [last] => do
    statusOf (← inInner run (do
      if source.isSome then modify (fun state => state.lead 0 source)
      run last tested))
  | source, command :: rest => do
    let index ← newChannel (.kept [])
    let ending ← inInner run (do
      if source.isSome then modify (fun state => state.lead 0 source)
      modify (fun state => state.lead 1 (some index))
      run command tested)
    match ending with
    | .signal _ => let _ ← statusOf ending
    | .status _ => pure ()
    waitForChannel index
    modify (fun state => state.setChannel index (.text (state.keptText index)))
    runPipeline run tested (some index) rest

/-! ## Simple commands -/

/-- The first words of a command expanded until there is a field; the fields, and the words that are left. -/
def firstFields (capture : Capture) : List Word → Script (List (List Char) × List Word)
  | [] => return ([], [])
  | word :: rest => do
    match ← expandFields capture word with
    | [] => firstFields capture rest
    | fields => return (fields, rest)

/-- What is to be run: the name and the arguments, and how the name is looked up. -/
structure Call where
  /-- All words as they are shown. -/
  shown : List (List Char) := []
  words : List (List Char) := []
  withFunctions : Bool := true
  directories : Option (List (List Char)) := none
  meaning : Option Meaning := none
  /-- Whether the first word is a command whose failure ends the script; nothing if it is no command of the shell. -/
  special : Option Bool := none
  deriving Inhabited

/-- The words behind the command that runs others, without its options, if they name a command to be run: those
words, the words that are yet to be expanded, and whether the usual directories are meant. -/
def commandWords (capture : Capture) :
    Nat → Bool → List (List Char) → List Word → Script (Option (List (List Char) × List Word × Bool))
  | 0, _, _, _ => return none
  | fuel + 1, usual, fields, rest => do
    let (fields, rest) ← match fields with | [] => firstFields capture rest | _ => pure (fields, rest)
    match fields with
    | [] => return none
    | ['-', '-'] :: fields => do
      let (fields, rest) ← match fields with | [] => firstFields capture rest | _ => pure (fields, rest)
      return if fields.isEmpty then none else some (fields, rest, usual)
    | ('-' :: c :: letters) :: fields =>
      if (c :: letters).all (· == 'p') then commandWords capture fuel true fields rest else return none
    | fields => return some (fields, rest, usual)

/-- The command that words call. A command that runs others is passed over as often as it stands there. -/
def callOf (run : Runner) : Nat → Call → List Word → Script (Call × List Word)
  | 0, call, rest => return (call, rest)
  | fuel + 1, call, rest => do
    match call.words with
    | [] => return (call, rest)
    | name :: fields => do
      let state ← get
      let meaning := state.meaning call.withFunctions (call.directories.getD state.searchPath) name
      let call := { call with meaning := some meaning }
      match meaning with
      | .builtin text special =>
        let call := { call with special := some (call.special.getD special) }
        if text ≠ "command" then return (call, rest)
        match ← commandWords (capture run) (fields.length + rest.length + 2) false fields rest with
        | none => return (call, rest)
        | some (words, left, usual) =>
          let further := words.drop (words.length - 1)
          let directories := if usual then some usualPath else call.directories
          let passed := { call with words, withFunctions := false, directories }
          let shown := if left.length < rest.length then call.shown ++ further else call.shown
          callOf run fuel { passed with shown } left
      | _ => return (call, rest)

/-- The fields of the words that are left. Where a command sets variables, words that set them are not split. -/
def remainingFields (capture : Capture) (assigning : Bool) (words : List Word) : Script (List (List Char)) := do
  let fields ← words.mapM (fun word => do
    match if assigning then word.assignment? else none with
    | some (name, value) => return [name ++ '=' :: (← expandText capture true value)]
    | none => expandFields capture word)
  return fields.flatten

/-- The running command shown, where the script wants that. -/
def trace (run : Runner) (stream : Option Nat) (assignments : List (List Char × List Char)) (words : List (List Char)) :
    Script Unit := do
  let state ← get
  if state.hasOption 'x' then
    let prompt := (state.value? "PS4".toList).getD []
    let mark ←
      match (Parse.wordParts (pure none) .word Parse.limit .document []).run { rest := prompt } with
      | .ok (word, _) => do
        modify (fun state => state.setOption 'x' false)
        let text ← expandText (capture run) false word
        modify (fun state => state.setOption 'x' true)
        pure text
      | .error _ => pure prompt
    let parts := assignments.map (fun a => a.1 ++ '=' :: a.2) ++ words
    match stream with
    | some index => modify (fun state => (state.writeTo? index (mark ++ [' '].intercalate parts ++ ['\n'])).getD state)
    | none => pure ()

/-- The arguments of a function in place of those of the script, and its body run. -/
def runFunction (run : Runner) (tested : Bool) (body : Command) (arguments : List (List Char)) : Script Unit := do
  let outer ← get
  if 1000 ≤ outer.functionDepth then fail "Maximum function recursion depth (1000) reached".toList
  set
    { outer with
      arguments, optionCount := 0, optionPlace := none, loops := 0, functionDepth := outer.functionDepth + 1 }
  ensuring (run body tested)
    (modify (fun state =>
      { state with
        arguments := outer.arguments, optionCount := outer.optionCount, optionPlace := outer.optionPlace,
        loops := outer.loops
        functionDepth := outer.functionDepth }))
  modify (fun state => { state with skip := match state.skip with | .function _ => .nothing | skip => skip })

/-- The path of a script that is to be run as part of this one. -/
def sourcePath (name : List Char) : Script (List Char) := do
  if name.contains '/' then return name
  let state ← get
  let paths := state.searchPath.map (fun directory => pathBelow directory name)
  match paths.find? (fun path => state.files.isFile (toPath path)) with
  | some path => return path
  | none => failOf name ": not found"

/-- A script run as part of this one. -/
def runSource (run : Runner) (arguments : List (List Char)) : Script Nat := do
  let (_, arguments) ← options [] arguments
  match arguments with
  | [] => return 0
  | name :: _ =>
    let path ← sourcePath name
    match (← get).files.read (toPath path) with
    | .error error => failOf ("cannot open ".toList ++ path ++ ": ".toList) (openFailure false error)
    | .ok bytes =>
      modify (fun state => { state with command := some path })
      runScript run (ofBytes bytes)

/-- A program run in place of the script. -/
def replace (run : Runner) (name : List Char) (arguments : List (List Char)) : Script Nat := do
  let state ← get
  let found := if name.contains '/' then .ok name else findProgram state.files state.searchPath name
  let result ← match found with | .ok path => start run path arguments | .error error => pure (.error error)
  match result with
  | .ok (.status status) =>
    setStatus (status % 256)
    throw .replaced
  | .ok (.signal signal) => throw (.killed signal)
  | .error error =>
    complain (name ++ ": ".toList ++ (programFailure error).toList)
    setStatus (programStatus error)
    throw (.ended false)

/-- A command of the shell run; messages name it. -/
def runBuiltin (run : Runner) (tested : Bool) (name : String) (words : List (List Char)) : Script Unit := do
  let outer := (← get).command
  let arguments := words.drop 1
  modify (fun state => { state with command := words.head? })
  let status ← ensuring
    (do
      let status ←
        match name, arguments with
        | "eval", _ => runText run tested ([' '].intercalate arguments)
        | ".", _ => runSource run arguments
        | "exec", program :: arguments => replace run program arguments
        | _, _ => Builtin.run name arguments
      Builtin.checkWritten status)
    (modify (fun state => { state with command := outer, unwritten := false }))
  setStatus status

/-- A program run; its status. -/
def runExternal (run : Runner) (name path : List Char) (arguments : List (List Char)) : Script Unit := do
  Builtin.remember name path
  match ← start run path arguments with
  | .ok ending => setStatus (← statusOf ending)
  | .error error =>
    complain (name ++ ": ".toList ++ (programFailure error).toList)
    setStatus (programStatus error)

/-- What a call runs. An error of a command of the shell ends the script only if the command is special. -/
def runCall (run : Runner) (tested : Bool) (call : Call) : Script Unit := do
  let arguments := call.words.drop 1
  let name := call.words.headD []
  let state ← get
  let meaning :=
    match call.meaning with
    | some (.program _) => some (state.meaning call.withFunctions (call.directories.getD state.searchPath) name)
    | some (.missing _) => some (state.meaning call.withFunctions (call.directories.getD state.searchPath) name)
    | meaning => meaning
  match meaning with
  | none => setStatus state.substituted
  | some (.function body) => runFunction run tested body arguments
  | some (.builtin text _) =>
    match ← caught (runBuiltin run tested text call.words) with
    | .ok () => return ()
    | .error .failed => if call.special = some true then throw .failed
    | .error abort => throw abort
  | some (.program path) => runExternal run name path arguments
  | some (.missing error) =>
    complain (name ++ ": ".toList ++ (programFailure error).toList)
    setStatus 127

/-- Variables set for a call: for good, or until it is over. -/
def assignAll (run : Runner) (hidden exported : Bool) (assignments : List Word) :
    Script (List (List Char × List Char)) :=
  assignments.mapM (fun word => do
    let (name, value) ← expandAssignment (capture run) word
    if hidden then hide name
    setKnown name (some value) (hidden || exported) false
    return (name, value))

/-- A simple command. -/
def runSimple (run : Runner) (tested : Bool) (line : Nat) (assignments words : List Word)
    (redirections : List Redirection) : Script Unit := do
  modify (fun state => { state with messageLine := line, substituted := 0 })
  let (fields, rest) ← firstFields (capture run) words
  let (call, rest) ← callOf run (words.length + 2) { shown := fields, words := fields } rest
  let assigning := match call.meaning with
    | some (.builtin text _) => ["export", "readonly", "local"].contains text
    | _ => false
  let more ← remainingFields (capture run) assigning rest
  let call := { call with words := call.words ++ more, shown := call.shown ++ more }
  let isExec := match call.meaning with | some (.builtin text _) => text == "exec" | _ => false
  let hidden := match call.meaning with | none => false | _ => call.special ≠ some true
  let outer ← get
  let depth := outer.hidden.length
  if hidden then modify (fun state => { state with hidden := [] :: state.hidden })
  let leads ← redirections.mapM (leadOf (capture run))
  let led ← followAll leads
  let restoreStreams : Script Unit := modify (fun state => { state with streams := outer.streams })
  let restoreVariables : Script Unit := modify (fun state => state.reveal depth)
  if !led then
    restoreStreams
    if call.special = some true then throw .failed
    restoreVariables
  else
    let keep := isExec && call.words.length ≤ 1
    let result ← caught (do
      let set ← assignAll run hidden (isExec && 1 < call.words.length) assignments
      trace run (outer.streams.lookup 2) set call.shown
      runCall run tested call)
    match result with
    | .ok () =>
      if !keep then restoreStreams
      restoreVariables
    | .error abort =>
      restoreStreams
      throw abort

/-! ## All commands -/

/-- What a command does, and whether its failure may end the script. -/
def evaluate (run : Runner) (command : Command) (tested : Bool) : Script Bool := do
  match command with
  | .simple line assignments words redirections =>
    runSimple run tested line assignments words redirections
    return true
  | .redirected line body redirections =>
    modify (fun state => { state with messageLine := line })
    let leads ← redirections.mapM (leadOf (capture run))
    let streams := (← get).streams
    let restore : Script Unit := modify (fun state => { state with streams })
    if ← followAll leads then
      ensuring (run body tested) restore
      return false
    restore
    return true
  | .subshell line body redirections background =>
    modify (fun state => { state with messageLine := line })
    let leads ← redirections.mapM (leadOf (capture run))
    let inside (tested : Bool) : Script Unit := do
      leads.forM follow
      run body tested
    if background then inBackground run (inside false)
    else
      fork
      setStatus (← statusOf (← inInner run (inside tested)))
    return true
  | .pipeline commands background =>
    if background then inBackground run (do setStatus (← runPipeline run tested none commands))
    else
      fork
      setStatus (← runPipeline run tested none commands)
    return true
  | .negation body =>
    run body true
    modify (fun state => if state.skip =
      .nothing then { state with status := if state.status = 0 then 1 else 0 } else state)
    return false
  | .sequence left right =>
    run left tested
    if (← get).skip = .nothing then run right tested
    return false
  | .both left right =>
    run left true
    let state ← get
    if state.skip = .nothing && state.status = 0 then run right tested
    return false
  | .either left right =>
    run left true
    let state ← get
    if state.skip = .nothing && state.status ≠ 0 then run right tested
    return false
  | .branch condition yes no =>
    run condition true
    let state ← get
    if state.skip = .nothing then
      if state.status = 0 then run yes tested
      else
        match no with
        | some no => run no tested
        | none => setStatus 0
    return false
  | .loop condition body whileTrue =>
    runLoop run tested condition body whileTrue
    return false
  | .forEach line name words body =>
    modify (fun state => { state with messageLine := line })
    let values ← expandAll (capture run) words
    runEach run tested name values body
    return false
  | .choose line subject cases =>
    modify (fun state => { state with messageLine := line })
    let text ← expandText (capture run) false subject
    runCases run tested text cases
    return false
  | .define _ name body =>
    modify (fun state =>
      { state with functions := (name, body) :: state.functions.filter (fun f => f.1 != name), status := 0 })
    return false

/-- The greatest depth of commands in commands that run. -/
def depthLimit : Nat := 40000

/-- A command run that stands at most so deep. -/
def runTo : Nat → Runner
  | 0, _, _ => throw .stopped
  | depth + 1, command, tested => do
    if !(← get).hasOption 'n' then
      count
      handleSignals (runTo depth)
      let mayEnd ← evaluate (runTo depth) command tested
      handleSignals (runTo depth)
      let state ← get
      if mayEnd && !tested && state.status ≠ 0 && state.hasOption 'e' then throw (.ended false)

/-- A command run. -/
def run : Runner :=
  runTo depthLimit

end Script

end Manuscript.Shell
