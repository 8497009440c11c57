import Manuscript.FileSystem.Access

/-!
# Programs

What the machine offers for running other programs: whether one is installed, and what a start of one does to the
files and reports. The library knows nothing else of the machine, so everything it says of compilers holds whatever
the programs do.
-/

namespace Manuscript.Typeset

/-- How a program ended by itself or was ended by a signal. -/
inductive ExitStatus where
  | code (code : Nat)
  | signal (number : Nat)
  deriving DecidableEq, Inhabited

namespace ExitStatus

/-- Whether a program was successful. -/
def isSuccess (status : ExitStatus) : Bool :=
  status == .code 0

/-- The names of the signals by their numbers. -/
def signalNames : List (Nat × String) :=
  [(1, "SIGHUP"), (2, "SIGINT"), (3, "SIGQUIT"), (4, "SIGILL"), (5, "SIGTRAP"), (6, "SIGABRT"), (7, "SIGBUS"),
    (8, "SIGFPE"), (9, "SIGKILL"), (10, "SIGUSR1"), (11, "SIGSEGV"), (12, "SIGUSR2"), (13, "SIGPIPE"),
    (14, "SIGALRM"), (15, "SIGTERM"), (16, "SIGSTKFLT"), (17, "SIGCHLD"), (18, "SIGCONT"), (19, "SIGSTOP"),
    (20, "SIGTSTP"), (21, "SIGTTIN"), (22, "SIGTTOU"), (23, "SIGURG"), (24, "SIGXCPU"), (25, "SIGXFSZ"),
    (26, "SIGVTALRM"), (27, "SIGPROF"), (28, "SIGWINCH"), (29, "SIGIO"), (30, "SIGPWR"), (31, "SIGSYS")]

/-- The wording of a status. -/
def message : ExitStatus → String
  | code n => "exit status: " ++ toString n
  | signal n =>
    "signal: " ++ toString n ++
      match signalNames.lookup n with
      | some name => " (" ++ name ++ ")"
      | none => ""

end ExitStatus

/-- A start of a program. Its standard input is empty. -/
structure Invocation where
  program : String
  arguments : List String
  /-- The directory that it works in. -/
  directory : Path
  /-- The time after which it is stopped, in milliseconds. -/
  timeout : Nat
  deriving DecidableEq, Inhabited

/-- What comes of a program that could be started. -/
inductive ProcessEnd where
  | exited (status : ExitStatus) (stdout stderr : List UInt8)
  | timedOut
  /-- Its end could not be awaited, or its outputs could not be read. -/
  | lost (error : FileError)
  deriving DecidableEq, Inhabited

/-- What the machine offers for running programs. -/
structure Machine where
  isInstalled : FileSystem → String → Bool
  start : Invocation → FileSystem → FileSystem.Outcome FileError ProcessEnd

end Manuscript.Typeset
