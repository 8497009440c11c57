import Manuscript.Shell.Run
import Manuscript.Typeset.Program

/-!
# A machine whose programs are scripts

A machine on which every program besides the shell and the utilities is a shell script in the file system. What a
start of a program does there can be computed, and so can a whole compilation with such programs as compilers.
-/

namespace Manuscript.Shell

open Typeset (ExitStatus Invocation Machine ProcessEnd)

/-- A machine with scripts as its programs. -/
structure Host where
  /-- The directories in which programs are looked for. -/
  searchPath : List Path
  /-- The variables that every program starts with. -/
  environment : List (String × String) := []
  deriving Inhabited

namespace Host

/-- The paths that a program may have. -/
def paths (host : Host) (program : String) : List Path :=
  if program.toList.contains '/' then [⟨program⟩] else host.searchPath.map (fun directory => directory.child program)

/-- Whether a program can be run. -/
def isInstalled (host : Host) (files : FileSystem) (program : String) : Bool :=
  (host.paths program).any (fun path => (programAt files (ofString path.text)).toOption.isSome)

/-- The path of the program that a name starts: the first that can be run; that one of them must not be run counts
for more than that none is there. -/
def find (host : Host) (files : FileSystem) (program : String) : Except FileError Path :=
  if program.isEmpty then .error .notFound
  else go .notFound (host.paths program)
where
  /-- The first of several paths with a program, or what is wrong with them. -/
  go (error : FileError) : List Path → Except FileError Path
    | [] => .error error
    | path :: rest =>
      match programAt files (ofString path.text) with
      | .ok _ => .ok path
      | .error .notPermitted => go .notPermitted rest
      | .error other => go (if program.toList.contains '/' then other else error) rest

/-- What a program starts from: nothing to read, and two texts that are kept. -/
def initialState (host : Host) (path : Path) (timeout : Nat) (files : FileSystem) : State where
  name := ofString path.text
  files := files
  bindings :=
    Script.startVariables
      (host.environment.map (fun v => (ofString v.1, ofString v.2)) ++
        [("PATH".toList, ofString (":".intercalate (host.searchPath.map (·.text))))])
      files
  streams := [(0, 0), (1, 1), (2, 2)]
  channels := #[.nothing, .kept [], .kept []]
  deadline := timeout

/-- The status that a program ends with. -/
def statusOf : Ending → ExitStatus
  | .status status => .code (status % 256)
  | .signal signal => .signal signal

/-- The time at which the end of a program is known that has worked on a state: nothing keeps its texts open any
more. -/
def endingTime (state : State) : Nat :=
  max state.elapsed (max (state.heldUntil 1) (state.heldUntil 2))

/-- How a program has ended, and what has become of the files when that is known or the time is over. -/
def endOf (timeout : Nat) (result : Except Abort Ending) (state : State) : ProcessEnd × FileSystem :=
  let settled := state.settle (min timeout (endingTime state))
  let howEnded :=
    match result with
    | .ok ending =>
      if timeout ≤ endingTime state then .timedOut
      else .exited (statusOf ending) (toBytes (settled.keptText 1)) (toBytes (settled.keptText 2))
    | .error _ => .timedOut
  (howEnded, settled.files)

/-- A start of a program in its directory. -/
def start (host : Host) (invocation : Invocation) (files : FileSystem) : FileSystem.Outcome FileError ProcessEnd :=
  match files.locate invocation.directory with
  | .error error => (.error error, files)
  | .ok (_, .file _ _) => (.error .notADirectory, files)
  | .ok (location, .directory) =>
    let inside := { files with workingDirectory := location }
    let arguments := invocation.arguments.map ofString
    match (host.find inside invocation.program).bind (fun path =>
      (Script.invocation inside 5 (ofString path.text) arguments).map (path, ·)) with
    | .error error => (.error error, files)
    | .ok (path, called) =>
      let work := Script.conclude Script.run (Script.runInvocation Script.run (arguments.length + 2) called)
      let (result, state) := StateT.run (ExceptT.run work) (host.initialState path invocation.timeout inside)
      let (howEnded, after) := endOf invocation.timeout result state
      (.ok howEnded, { after with workingDirectory := files.workingDirectory })

/-- The machine. -/
def machine (host : Host) : Machine where
  isInstalled := host.isInstalled
  start := host.start

end Host

end Manuscript.Shell
