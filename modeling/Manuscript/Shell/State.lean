import Manuscript.Shell.Syntax
import Manuscript.Shell.Text

/-!
# What a script works on

The files, variables, functions and streams of a running script. Streams lead to channels: texts that are read,
texts that are kept, and files with the place up to which they have been read or written. Time passes only where a
script waits.
-/

namespace Manuscript.Shell

/-- A variable. One without a value may still be handed on or be protected. -/
structure Variable where
  value : Option (List Char) := none
  /-- Whether programs are given the variable. -/
  exported : Bool := false
  readOnly : Bool := false
  deriving DecidableEq, Inhabited

/-- Where streams lead. -/
inductive Channel where
  /-- Nothing to read, and nothing kept of what is written. -/
  | nothing
  /-- The rest of a text that is read. -/
  | text (rest : List Char)
  /-- A text that is kept, in parts from the last to the first. -/
  | kept (parts : List (List Char))
  /-- A file, and the place in it. -/
  | file (location : Location) (position : Nat) (atEnd readable writable : Bool)
  deriving DecidableEq, Inhabited

/-- What is left out of the commands that follow. -/
inductive Skip where
  | nothing
  /-- All up to the end of so many loops. -/
  | loops (levels : Nat)
  /-- All up to the next round of the loop that is so many levels up. -/
  | round (levels : Nat)
  /-- All up to the end of the function; whether its status was given. -/
  | function (statusGiven : Bool)
  deriving DecidableEq, Inhabited

/-- A command that the script has not waited for. -/
structure Job where
  /-- The number by which the script knows the job; numbers are used again. -/
  number : Nat
  /-- How many jobs there were up to this one. -/
  process : Nat
  /-- The time at which it ends. -/
  ending : Nat
  status : Nat
  signal : Option Nat := none
  /-- Whether the script has learned of the end. -/
  reaped : Bool := false
  /-- Whether the script has asked for the status. -/
  waited : Bool := false
  deriving DecidableEq, Inhabited

/-- What a command does that the script has not waited for, up to the time at which it ends. -/
structure Effect where
  job : Nat
  time : Nat
  /-- The files that are written, and whether what is written follows what is there. -/
  changes : List (Location × Bool × Entry) := []
  removed : List Location := []
  /-- The texts written to channels, in parts from the last to the first. -/
  written : List (Nat × List (List Char)) := []
  /-- The channels that are kept open, and up to which times. -/
  held : List (Nat × Nat) := []
  /-- The signals that are sent to the script. -/
  signals : List Nat := []
  deriving DecidableEq, Inhabited

/-- What a script works on. -/
structure State where
  /-- The name by which the script was called. -/
  name : List Char
  files : FileSystem
  bindings : List (List Char × Variable) := []
  /-- What the variables of the functions that are running were before, the innermost first. -/
  hidden : List (List (List Char × Option Variable)) := []
  arguments : List (List Char) := []
  /-- How many arguments have been searched for options, and the place in the last of them. -/
  optionCount : Nat := 0
  optionPlace : Option Nat := none
  functions : List (List Char × Command) := []
  aliases : List (List Char × List Char) := []
  /-- The programs that have been run, and where they were found. -/
  found : List (List Char × List Char) := []
  /-- The texts to be run when a signal comes, by the numbers of the signals; nought stands for the end of the
  script. -/
  traps : List (Nat × List Char) := []
  /-- The signals that have come and whose texts are yet to be run. -/
  pending : List Nat := []
  /-- The signals that a shell inside of this one has sent to it. -/
  received : List Nat := []
  /-- The letters of the options that are set. -/
  options : List Char := []
  /-- The status of the last command. -/
  status : Nat := 0
  /-- The status of the last commands in a word. -/
  substituted : Nat := 0
  /-- The status from before a text of a trap is run. -/
  saved : Option Nat := none
  skip : Skip := .nothing
  /-- Whether something could not be written to the standard output. -/
  unwritten : Bool := false
  /-- The number of loops around the running command. -/
  loops : Nat := 0
  /-- The number of functions that are running. -/
  functionDepth : Nat := 0
  /-- The line that messages give. -/
  messageLine : Nat := 0
  /-- The line up to which the script has been read. -/
  readLine : Nat := 1
  /-- The command that messages name. -/
  command : Option (List Char) := none
  streams : List (Nat × Nat) := []
  channels : Array Channel := #[]
  /-- Where the messages about running commands are written. -/
  traceStream : Option Nat := none
  /-- The jobs, the last one first. -/
  jobs : List Job := []
  jobCount : Nat := 0
  /-- What the commands that were not waited for have yet to do. -/
  effects : List Effect := []
  /-- The times up to which the commands that are running have kept channels open. -/
  held : List (Nat × Nat) := []
  /-- The permissions that new files do not get. -/
  mask : Nat := 18
  /-- Whether this is a shell inside of another one. -/
  inner : Bool := false
  /-- The time that has passed, in milliseconds. -/
  elapsed : Nat := 0
  /-- The time at which the script is stopped. -/
  deadline : Nat := 0
  /-- The number of commands that were run. -/
  steps : Nat := 0
  deriving Inhabited

namespace State

/-! ## Streams -/

/-- Where a stream leads. -/
def channel? (state : State) (stream : Nat) : Option (Nat × Channel) := do
  let index ← state.streams.lookup stream
  let channel ← state.channels[index]?
  some (index, channel)

/-- The state with a stream that leads to a channel, or nowhere. -/
def lead (state : State) (stream : Nat) (index : Option Nat) : State :=
  let others := state.streams.filter (fun s => s.1 != stream)
  { state with streams := (index.map (fun i => (stream, i))).toList ++ others }

/-- The state with a further channel, and its number. -/
def addChannel (state : State) (channel : Channel) : Nat × State :=
  (state.channels.size, { state with channels := state.channels.push channel })

/-- The state with something in place of a channel. -/
def setChannel (state : State) (index : Nat) (channel : Channel) : State :=
  { state with channels := state.channels.setIfInBounds index channel }

/-- Bytes with others written at a place. -/
def overwrite (bytes : List UInt8) (position : Nat) (written : List UInt8) : List UInt8 :=
  let before := bytes.take position
  before ++ List.replicate (position - before.length) 0 ++ written ++ bytes.drop (position + written.length)

/-- The state with a text written to a channel, unless it cannot be written to. -/
def writeTo? (state : State) (index : Nat) (text : List Char) : Option State :=
  match state.channels[index]? with
  | some .nothing => some state
  | some (.kept parts) => some (state.setChannel index (.kept (text :: parts)))
  | some (.file location position atEnd readable true) =>
    match state.files.find? location with
    | some (.file bytes executable) =>
      let start := if atEnd then bytes.length else position
      let written := toBytes text
      let files := state.files.put location (.file (overwrite bytes start written) executable)
      some ({ state with files }.setChannel index (.file location (start + written.length) atEnd readable true))
    | _ => some state
  | _ => none

/-- The state with a text written to a stream, unless it cannot be written to. -/
def write? (state : State) (stream : Nat) (text : List Char) : Option State :=
  (state.streams.lookup stream).bind (fun index => state.writeTo? index text)

/-- What is left to be read from a stream, if it can be read from. -/
def unread? (state : State) (stream : Nat) : Option (List Char) :=
  match state.channel? stream with
  | some (_, .nothing) => some []
  | some (_, .text rest) => some rest
  | some (_, .file location position _ true _) =>
    match state.files.find? location with
    | some (.file bytes _) => some (ofBytes (bytes.drop position))
    | _ => some []
  | _ => none

/-- The state with so many characters of a stream read. -/
def advance (state : State) (stream count : Nat) : State :=
  match state.channel? stream with
  | some (index, .text rest) => state.setChannel index (.text (rest.drop count))
  | some (index, .file location position atEnd readable writable) =>
    state.setChannel index (.file location (position + count) atEnd readable writable)
  | _ => state

/-- The text that was kept by a channel. -/
def keptText (state : State) (index : Nat) : List Char :=
  match state.channels[index]? with
  | some (.kept parts) => parts.reverse.flatten
  | _ => []

/-! ## Variables -/

/-- The value of a variable. -/
def value? (state : State) (name : List Char) : Option (List Char) :=
  (state.bindings.lookup name).bind (·.value)

/-- The state with something in place of a variable, or without it. -/
def put (state : State) (name : List Char) (new? : Option Variable) : State :=
  let others := state.bindings.filter (fun v => v.1 != name)
  { state with bindings := (new?.map (fun v => (name, v))).toList ++ others }

/-- The state in which the variables are back that were hidden by the innermost functions and commands, but for so
many of these. -/
def reveal (state : State) (depth : Nat) : State :=
  let inner := state.hidden.take (state.hidden.length - depth)
  let shown := inner.flatten.foldl (fun state v => state.put v.1 v.2) state
  { shown with hidden := state.hidden.drop inner.length }

/-- Whether an option is set. -/
def hasOption (state : State) (letter : Char) : Bool :=
  state.options.contains letter

/-- The characters that separate fields. -/
def separators (state : State) : List Char :=
  (state.value? "IFS".toList).getD [' ', '\t', '\n']

/-- The number by which a running script is known. -/
def processNumber : Nat := 4217

/-- The letters of the options in the order in which they are shown. -/
def optionLetters : List Char :=
  "efIimnsxvVECabup".toList

/-- The value of a parameter that stands for one text. -/
def parameter? (state : State) (name : List Char) : Option (List Char) :=
  match name with
  | ['#'] => some (decimalText state.arguments.length)
  | ['?'] => some (decimalText state.status)
  | ['$'] => some (decimalText processNumber)
  | ['!'] => if state.jobCount = 0 then none else some (decimalText (processNumber + state.jobCount))
  | ['-'] => some (optionLetters.reverse.filter state.hasOption)
  | c :: _ =>
    if c.isDigit then
      match decimalOf name with
      | 0 => some state.name
      | n + 1 => state.arguments[n]?
    else state.value? name
  | [] => none

/-- The variables that programs are given. -/
def environment (state : State) : List (List Char × List Char) :=
  state.bindings.filterMap (fun v => if v.2.exported then v.2.value.map (fun value => (v.1, value)) else none)

/-- The directories in which programs are looked for. -/
def searchPath (state : State) : List (List Char) :=
  splitAll ':' ((state.value? "PATH".toList).getD [])

/-- The state after a shell inside of it has ended: of what that did, only the files, the channels and the time are
left. -/
def afterInner (outer inner : State) : State :=
  { outer with
    files := { inner.files with workingDirectory := outer.files.workingDirectory }
    channels := inner.channels
    received := inner.received
    effects := inner.effects
    held := inner.held
    elapsed := inner.elapsed
    steps := inner.steps }

end State

end Manuscript.Shell
