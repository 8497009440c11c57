import Manuscript.CommandLine
import Manuscript.FileSystem.Change
import Manuscript.Shell.Machine
import Manuscript.Template

/-!
# The program

The files that a call may look at are read into a file system, the call is made on that, and what it changed is
written back. These files are the trees of the working directory, of the directories that absolute paths among the
arguments name, and of the standard library of templates. Compilers are shell scripts in such a tree; a program of
any other kind counts as not installed.
-/

namespace Manuscript.Main

/-- The files with a file or a directory of the machine and all that it holds. What cannot be read is passed over,
and so is a second way to a directory. -/
partial def readTree (location : Location) (files : FileSystem) : IO FileSystem := do
  let path := (FileSystem.pathOf location).text
  let names ← (do
    let directory ← IO.FS.realPath path
    if directory.toString == path && (← directory.isDir) then
      let found ← directory.readDir
      pure (some (found.toList.map (·.fileName)))
    else pure none) <|> pure none
  match names with
  | some names =>
    let files := if location.isEmpty then files else files.put location .directory
    names.foldlM (fun files name => readTree (location ++ [name]) files) files
  | none =>
    (do
      let bytes ← IO.FS.readBinFile path
      let bytes := bytes.toList
      let executable := bytes.take 2 = ['#'.val.toUInt8, '!'.val.toUInt8]
      pure (files.put location (.file bytes executable))) <|> pure files

/-- The files with the directories above a place that is there. -/
def putAbove (location : Location) (files : FileSystem) : FileSystem :=
  (List.range location.length).foldl
    (fun files n => if n = 0 then files else files.put (location.take n) .directory)
    files

/-- The place that a path names on the machine. -/
def locationOf (path : String) : IO Location := do
  let resolved ← IO.FS.realPath path
  pure (resolved.components.filter (fun name => name != "" && name != "/"))

/-- The files of the directory that an absolute path names, or of the directory that it lies in. -/
def readAround (path : Path) (files : FileSystem) : IO FileSystem := do
  let isDirectory ← (do
    let resolved ← IO.FS.realPath path.text
    resolved.isDir) <|> pure false
  let directory := if isDirectory then path else path.parent?.getD ⟨"/"⟩
  if (directory.pieces.filter (fun piece => !piece.isEmpty)).isEmpty then pure files
  else
    (do
      let location ← locationOf directory.text
      readTree location (putAbove location files)) <|> pure files

/-- The files before a call with some arguments. -/
def snapshot (arguments : List String) (tempDir : Path) : IO FileSystem := do
  let here ← IO.currentDir
  let workingDirectory ← locationOf here.toString
  let files ← readTree workingDirectory (putAbove workingDirectory { entries := [], workingDirectory })
  let values := arguments.map (fun argument => argument.splitOn "=" |>.getLastD "")
  let paths := (Library.standard.directory :: values.map Path.mk).filter (·.isAbsolute)
  let files ← paths.foldlM (fun files path => readAround path files) files
  let temp ← (locationOf tempDir.text) <|> pure []
  pure (if temp.isEmpty then files else (putAbove temp files).put temp .directory)

/-- A change made on the machine. -/
def apply (change : Location × Entry) : IO Unit := do
  let path := (FileSystem.pathOf change.1).text
  match change.2 with
  | .directory => IO.FS.createDirAll path
  | .file bytes _ => IO.FS.writeBinFile path (ByteArray.mk bytes.toArray)

/-- A call of the program on this machine. -/
def call (arguments : List String) : IO UInt32 := do
  let tempDir : Path := ⟨(← IO.getEnv "TMPDIR").getD "/tmp"⟩
  let searchPath := ((← IO.getEnv "PATH").getD "").splitOn ":"
  let tempSuffix ← IO.rand 100000 999999
  let before ← snapshot arguments tempDir
  let host : Shell.Host := { searchPath := searchPath.map Path.mk, environment := [("TMPDIR", tempDir.text)] }
  let transcript :=
    CommandLine.run { tempDir, tempSuffix := toString tempSuffix, engine := Template.engine, machine := host.machine }
      arguments before
  let changes := (transcript.files.changesSince before).mergeSort (fun a b => a.1.length ≤ b.1.length)
  changes.forM apply
  IO.print transcript.stdout
  IO.eprint transcript.stderr
  pure transcript.code.toUInt32

end Manuscript.Main

/-- The program. -/
def main (arguments : List String) : IO UInt32 :=
  Manuscript.Main.call arguments
