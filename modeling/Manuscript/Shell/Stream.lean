import Manuscript.Shell.Expansion

/-!
# Redirections

Streams led to files, to texts of the script and to other streams. What a stream is led to is found out before any
stream is changed.
-/

namespace Manuscript.Shell

/-- A redirection whose target is known. -/
structure Lead where
  stream : Nat
  kind : RedirectionKind
  target : List Char
  deriving DecidableEq, Inhabited

namespace Script

/-- The wording of a file that cannot be opened. -/
def openFailure (creating : Bool) (error : FileError) : String :=
  let missing := if creating then "Directory nonexistent" else "No such file"
  match error with
  | .notFound => missing
  | .notADirectory => missing
  | .isADirectory => "Is a directory"
  | .alreadyExists => "File exists"
  | .nameTooLong => "File name too long"
  | _ => "Permission denied"

/-- A new channel, and its number. -/
def newChannel (channel : Channel) : Script Nat :=
  modifyGet (fun state => state.addChannel channel)

/-- The channels of the streams that have a path. -/
def streamPaths : List (String × Nat) :=
  [("/dev/stdin", 0), ("/dev/stdout", 1), ("/dev/stderr", 2), ("/dev/fd/0", 0), ("/dev/fd/1", 1), ("/dev/fd/2", 2)]

/-- A file opened: the number of the channel, or why it cannot be opened. -/
def openFile (kind : RedirectionKind) (target : List Char) : Script (Except FileError Nat) := do
  let state ← get
  let path := toPath target
  let create (atEnd readable emptied : Bool) : Script (Except FileError Nat) := do
    match state.files.targetOf path with
    | .error error => return .error error
    | .ok location =>
      match if emptied || !state.files.isFile path then state.files.write path [] else .ok state.files with
      | .error error => return .error error
      | .ok files =>
        set { state with files }
        return .ok (← newChannel (.file location 0 atEnd readable true))
  if target = "/dev/null".toList then return .ok (← newChannel .nothing)
  if target = "/dev/full".toList then return .ok (← newChannel (.text []))
  match (streamPaths.lookup (String.ofList target)).bind (fun stream => state.streams.lookup stream) with
  | some index => return .ok index
  | none =>
    match kind with
    | .write =>
      if state.hasOption 'C' && state.files.isFile path then return .error .alreadyExists
      create false false true
    | .overwrite => create false false true
    | .append => create true false false
    | .readWrite => create false true false
    | _ =>
      match state.files.locate path with
      | .ok (location, _) => return .ok (← newChannel (.file location 0 false true false))
      | .error error => return .error error

/-- A redirection with its target found out. -/
def leadOf (capture : Capture) : Redirection → Script Lead
  | .mk stream kind target => do
    let text ← expandText capture false target
    match kind with
    | .duplicate =>
      if text = ['-'] || (text.length == 1 && isNumber text) then return { stream, kind, target := text }
      modify (fun state => { state with messageLine := state.readLine })
      failOf [] "Syntax error: Bad fd number"
    | _ => return { stream, kind, target := text }

/-- A stream led to its target. -/
def follow (lead : Lead) : Script Unit := do
  let state ← get
  match lead.kind with
  | .duplicate =>
    if lead.target = ['-'] then set (state.lead lead.stream none)
    else
      let other := decimalOf lead.target
      if other ≠ lead.stream then
        match state.streams.lookup other with
        | some index => set (state.lead lead.stream (some index))
        | none => failOf lead.target ": Bad file descriptor"
  | .document _ =>
    let index ← newChannel (.text lead.target)
    modify (fun state => state.lead lead.stream (some index))
  | kind =>
    match ← openFile kind lead.target with
    | .ok index => modify (fun state => state.lead lead.stream (some index))
    | .error error =>
      let creating := kind ≠ .read
      failOf ((if creating then "cannot create " else "cannot open ").toList ++ lead.target ++ ": ".toList)
        (openFailure creating error)

/-- Streams led to their targets; whether they could be. -/
def followAll (leads : List Lead) : Script Bool := do
  match ← caught (leads.forM follow) with
  | .ok () => return true
  | .error .failed => return false
  | .error abort => throw abort

end Script

end Manuscript.Shell
