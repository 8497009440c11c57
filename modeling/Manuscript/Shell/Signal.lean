import Manuscript.Shell.Number

/-!
# Signals

The signals by their numbers, their names, and what is said of a program that one has ended.
-/

namespace Manuscript.Shell

/-- The names of the signals from the first on. -/
def signalNames : List String :=
  ["HUP", "INT", "QUIT", "ILL", "TRAP", "ABRT", "BUS", "FPE", "KILL", "USR1", "SEGV", "USR2", "PIPE", "ALRM", "TERM",
    "STKFLT", "CHLD", "CONT", "STOP", "TSTP", "TTIN", "TTOU", "URG", "XCPU", "XFSZ", "VTALRM", "PROF", "WINCH", "IO",
    "PWR", "SYS"]

/-- The number of signals, the end of a script among them. -/
def signalCount : Nat := 65

/-- The name of a signal; nought stands for the end of a script. -/
def signalName (signal : Nat) : String :=
  if signal = 0 then "EXIT"
  else
    match signalNames[signal - 1]? with
    | some name => name
    | none =>
      if signal = 34 then "RTMIN"
      else if signal = 64 then "RTMAX"
      else if 34 < signal && signal ≤ 49 then "RTMIN+" ++ toString (signal - 34)
      else if 49 < signal && signal < 64 then "RTMAX-" ++ toString (64 - signal)
      else toString signal

/-- The signal that a text names by its number or its name. -/
def signal? (s : List Char) : Option Nat :=
  if isNumber s then (if decimalOf s < signalCount then some (decimalOf s) else none)
  else
    let upper := String.ofList (s.map Char.toUpper)
    (List.range signalCount).find? (fun n => signalName n == upper)

/-- What is said of a program that a signal has ended. -/
def signalText? (signal : Nat) : Option String :=
  [(1, "Hangup"), (3, "Quit"), (4, "Illegal instruction"), (5, "Trace/breakpoint trap"), (6, "Aborted"),
    (7, "Bus error"), (8, "Floating point exception"), (9, "Killed"), (10, "User defined signal 1"),
    (11, "Segmentation fault"), (12, "User defined signal 2"), (14, "Alarm clock"), (15, "Terminated"),
    (16, "Stack fault"), (24, "CPU time limit exceeded"), (25, "File size limit exceeded"),
    (26, "Virtual timer expired"), (27, "Profiling timer expired"), (29, "I/O possible"), (30, "Power failure"),
    (31, "Bad system call")].lookup signal

/-- The signals that do nothing to a program that does not ask for them, and those that only make it wait. -/
def isHarmless (signal : Nat) : Bool :=
  [17, 18, 23, 28].contains signal || [19, 20, 21, 22].contains signal

end Manuscript.Shell
