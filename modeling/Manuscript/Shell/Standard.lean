import Manuscript.Shell.Text

/-!
# What every machine has

The utilities and devices that need not be in a file system to be there.
-/

namespace Manuscript.Shell.Utility

/-- The directories that hold the utilities. -/
def directories : List String :=
  ["/bin/", "/usr/bin/"]

/-- The utilities that run scripts. -/
def shells : List String :=
  ["sh", "dash", "bash"]

/-- The names of the utilities. -/
def names : List String :=
  shells ++ ["env", "sleep", "true", "false", "cat", "touch", "cp", "mv", "rm", "rmdir", "mkdir", "echo",
    "printf", "pwd"]

/-- The utility that a path leads to. -/
def ofPath? (path : List Char) : Option String :=
  names.find? (fun name => directories.any (fun directory => path == (directory ++ name).toList))

/-- The devices that are read and written like files but keep nothing. -/
def devices : List String :=
  ["/dev/null", "/dev/full", "/dev/zero", "/dev/tty", "/dev/random", "/dev/urandom"]

/-- Whether a path leads to a device. -/
def isDevice (path : List Char) : Bool :=
  devices.any (fun device => path == device.toList)

/-- Whether a path leads to what a stream of the script leads to. -/
def isStream (path : List Char) : Bool :=
  ["/dev/stdin", "/dev/stdout", "/dev/stderr"].any (fun stream => path == stream.toList)

end Manuscript.Shell.Utility
