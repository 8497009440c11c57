import Manuscript.Shell.Builtin.Variable
import Manuscript.Shell.Signal

/-!
# Signals and jobs

The commands of the shell that have to do with signals and with commands that were not waited for.
-/

namespace Manuscript.Shell.Builtin

open Script

/-! ## Jobs -/

/-- The job that a text names: the last one, the one before that, or the one with a number. -/
def jobOf (name : List Char) : Script Job := do
  let state ← get
  let (job?, message) :=
    match name with
    | ['%'] => (state.jobs.head?, "No current job")
    | ['%', '%'] => (state.jobs.head?, "No current job")
    | ['%', '+'] => (state.jobs.head?, "No current job")
    | ['%', '-'] => (state.jobs[1]?, "No previous job")
    | '%' :: number =>
      (state.jobs.find? (fun job => isNumber number && job.number == decimalOf number),
        "No such job: " ++ String.ofList name)
    | _ => (none, "No such job: " ++ String.ofList name)
  match job? with
  | some job => return job
  | none => failOf [] message

/-- How a job has ended, or that it is running. -/
def Job.describe (job : Job) : List Char :=
  let text :=
    if !job.reaped then "Running"
    else
      match job.signal with
      | some signal => (signalText? signal).getD (signalName signal)
      | none => if job.status = 0 then "Done" else "Done(" ++ toString job.status ++ ")"
  text.toList

/-- Text with blanks behind it up to a column. -/
def padded (column : Nat) (text : List Char) : List Char :=
  text ++ List.replicate (column - text.length) ' '

/-- A job shown. One that has ended is forgotten then. -/
def showJob (options : List Char) (job : Job) : Script Unit := do
  let state ← get
  let process := decimalText (State.processNumber + job.process)
  let mark := fun (place : Nat) => state.jobs[place]?.any (fun other => other.number == job.number)
  if options.getLast? = some 'p' then print 1 (process ++ ['\n'])
  else
    let flag := if mark 0 then '+' else if mark 1 then '-' else ' '
    let start := '[' :: decimalText job.number ++ [']', ' ', flag, ' ']
    let start := if options.isEmpty then start else start ++ process ++ [' ']
    print 1 (padded 33 (start ++ Job.describe job) ++ ['\n'])
  if job.reaped then modify (fun state => state.forget job.number)

/-- Jobs shown: those that are named, or all. -/
def showJobs (arguments : List (List Char)) : Script Nat := do
  let (options, names) ← options [('l', false), ('p', false)] arguments
  let letters := options.map (·.1)
  if names.isEmpty then
    modify State.reapEarlier
    (← get).jobs.forM (showJob letters)
  else names.forM (fun name => do showJob letters (← jobOf name))
  return 0

/-- Jobs cannot be put in front or behind here. -/
def resume (arguments : List (List Char)) : Script Nat := do
  let (_, names) ← options [] arguments
  let _ ← jobOf (names.headD ['%'])
  failOf [] ("job " ++ ((names.head?.map String.ofList).getD "(null)") ++ " not created under job control")

/-- Whether a signal has come that the script does not ignore: that ends all waiting. -/
def interruption? (state : State) : Option Nat :=
  if state.inner then none else state.received.find? (fun signal => state.traps.lookup signal != some [])

/-- Time passes up to the end of a job, or until a signal comes; that signal. -/
def waitTo : Nat → Nat → Script (Option Nat)
  | 0, _ => return none
  | fuel + 1, ending => do
    let state ← get
    let signals : List Nat :=
      (state.effects.filter (fun effect => !effect.signals.isEmpty && effect.time < ending)).map (·.time)
    match signals.min? with
    | none =>
      wait (ending - state.elapsed)
      modify State.reap
      return interruption? (← get)
    | some time =>
      wait (time - state.elapsed)
      modify State.reap
      match interruption? (← get) with
      | some signal => return some signal
      | none => waitTo fuel ending

/-- All jobs waited for. -/
def waitForAll : Script Nat := do
  let state ← get
  match ← waitTo (state.effects.length + 1) ((state.jobs.map (·.ending)).foldl max state.elapsed) with
  | some signal => return 128 + signal
  | none =>
    modify (fun state => { state with jobs := state.jobs.map (fun job => { job with waited := true }) })
    return 0

/-- A job waited for; its status. -/
def waitForJob (job : Job) : Script Nat := do
  match ← waitTo ((← get).effects.length + 1) job.ending with
  | some signal => return 128 + signal
  | none =>
    modify (fun state => state.setWaited job.number)
    match if job.reaped then none else job.signal.bind signalText? with
    | some text => print 2 (text.toList ++ ['\n'])
    | none => pure ()
    return job.status

/-- Jobs waited for; the status of the last one. -/
def waitFor (arguments : List (List Char)) : Script Nat := do
  let (_, names) ← options [] arguments
  if names.isEmpty then return ← waitForAll
  names.foldlM
    (fun _ name => do
      if name.head? = some '%' then waitForJob (← jobOf name)
      else
        let process ← numberOf name
        match (← get).jobs.find? (fun job => State.processNumber + job.process == process) with
        | none => return 127
        | some job => waitForJob job)
    127

/-! ## Signals -/

/-- The texts that are run when signals come set or shown. -/
def trap (arguments : List (List Char)) : Script Nat := do
  let (_, arguments) ← options [] arguments
  let state ← get
  let isNumbered := fun (s : List Char) => isNumber s && (signal? s).isSome
  let (action?, names) :=
    match arguments with
    | first :: second :: rest => if isNumbered first then (none, arguments) else (some first, second :: rest)
    | _ => (none, arguments)
  if arguments.isEmpty then
    let ordered := state.traps.mergeSort (fun a b => a.1 ≤ b.1)
    print 1 (ordered.flatMap (fun t => "trap -- ".toList ++ quoteText t.2 ++ ' ' :: (signalName t.1).toList ++ ['\n']))
    return 0
  for name in names do
    match signal? name with
    | none =>
      print 2 ("trap: ".toList ++ name ++ ": bad trap\n".toList)
      return 1
    | some signal =>
      let kept := (action?.filter (· ≠ ['-'])).map (fun action => (signal, action))
      modify (fun state => { state with traps := kept.toList ++ state.traps.filter (fun t => t.1 != signal) })
  return 0

/-- A signal comes to the script itself. -/
def receive (signal : Nat) : Script Unit := do
  let state ← get
  if signal = 9 then throw (.killed 9)
  match state.traps.lookup signal with
  | some [] => return ()
  | some _ => set { state with pending := state.pending ++ [signal] }
  | none => if !isHarmless signal then throw (.killed signal)

/-- A signal sent to a number; whether there is something with it. -/
def send (signal : Nat) (process : Nat) : Script Bool := do
  let state ← get
  if process = State.processNumber then
    if signal = 0 then return true
    if state.inner then modify (fun state => { state with received := state.received ++ [signal] }) else receive signal
    return true
  match state.jobs.find? (fun job => State.processNumber + job.process == process && !job.reaped) with
  | none => return false
  | some job =>
    if state.elapsed < job.ending && signal ≠ 0 && !isHarmless signal then set (state.stopJob job signal)
    return true

/-- What is wrong with the arguments of the command that sends signals. -/
def killUsage : List Char :=
  "Usage: kill [-s sigspec | -signum | -sigspec] [pid | job]... or\nkill -l [exitstatus]".toList

/-- The names of signals shown. -/
def listSignals (arguments : List (List Char)) : Script Nat := do
  match arguments with
  | [] =>
    print 1 ("0\n".toList ++ (List.range (signalCount - 1)).flatMap (fun n => (signalName (n + 1)).toList ++ ['\n']))
  | n :: _ =>
    let number := decimalOf (n.takeWhile Char.isDigit)
    let signal := if 128 < number then number - 128 else number
    if !isNumber n then failOf "Illegal number: ".toList (String.ofList n)
    if 0 < signal && signal < signalCount then print 1 ((signalName signal).toList ++ ['\n'])
    else fail ("invalid signal number or exit status: ".toList ++ n)
  return 0

/-- Signals sent. A job is no group of processes, so none comes to one that is named as a job. -/
def kill (arguments : List (List Char)) : Script Nat := do
  let (signal?, listing, names) ←
    match arguments with
    | [] => fail killUsage
    | ('-' :: name) :: rest =>
      match signal? name with
      | some signal => pure (some signal, false, rest)
      | none => do
        let (options, names) ← options [('l', false), ('s', true)] arguments
        let signal? ←
          match (options.filter (fun o => o.1 == 's')).getLast? with
          | none => pure none
          | some (_, name) =>
            match signal? name with
            | some signal => pure (some signal)
            | none => fail ("invalid signal number or name: ".toList ++ name)
        pure (signal?, options.any (fun o => o.1 == 'l'), names)
    | _ => pure (none, false, arguments)
  if listing then
    if signal?.isSome then fail killUsage
    return ← listSignals names
  if names.isEmpty then fail killUsage
  let mut status := 0
  for name in names do
    let isSent ←
      if name.head? = some '%' then do
        let _ ← jobOf name
        pure false
      else send (signal?.getD 15) (← numberOf name)
    if !isSent then
      complain "No such process\n".toList
      status := 1
  return status

end Manuscript.Shell.Builtin
