import Manuscript.Shell.Token

/-!
# Reading a script

A script is read character by character, with a count of its lines. A backslash at the end of a line is dropped
together with that end. The text of an alias is put in front of what is left to be read, and documents start where
the line ends that asks for them.
-/

namespace Manuscript.Shell

/-- A script that cannot be read, and the line where that was found. -/
structure SyntaxError where
  line : Nat
  message : String
  deriving DecidableEq, Inhabited

/-- The text of an alias that was put into a script. -/
structure Insertion where
  name : List Char
  /-- The number of characters that follow the text. -/
  behind : Nat
  /-- Whether the text ends with a blank, so that the word behind it may be an alias too. -/
  openEnded : Bool
  deriving DecidableEq, Inhabited

/-- A document that a redirection has asked for. -/
structure AwaitedDocument where
  number : Nat
  /-- The line that ends it. -/
  mark : List Char
  expanded : Bool
  withoutTabs : Bool
  deriving DecidableEq, Inhabited

/-- A script that is being read. -/
structure Reader where
  rest : List Char
  line : Nat := 1
  aliases : List (List Char × List Char) := []
  insertions : List Insertion := []
  /-- A token that was read and is to be read again. -/
  pushed : Option Token := none
  lastToken : Token := .newline
  lastWord : Word := []
  awaited : List AwaitedDocument := []
  /-- The documents that have been read, by their numbers. -/
  documents : List (Nat × Word) := []
  /-- How many documents were asked for. -/
  documentCount : Nat := 0
  deriving Inhabited

/-- Work on a script that is being read. -/
abbrev Parse := StateT Reader (Except SyntaxError)

namespace Reader

/-- Characters and their line behind backslashes at ends of lines. -/
def joinLines : Nat → List Char → Nat × List Char
  | line, '\\' :: '\n' :: rest => joinLines (line + 1) rest
  | line, rest => (line, rest)

/-- Characters and their line behind blanks and a comment. -/
def skipGap : Bool → Nat → List Char → Nat × List Char
  | _, line, [] => (line, [])
  | true, line, c :: rest => if c = '\n' then (line, c :: rest) else skipGap true line rest
  | false, line, '\\' :: '\n' :: rest => skipGap false (line + 1) rest
  | false, line, c :: rest =>
    if isGap c then skipGap false line rest else if c = '#' then skipGap true line rest else (line, c :: rest)

/-- The characters at the start that a test holds for, and the others with their line. -/
def span (test : Char → Bool) : Nat → List Char → List Char × Nat × List Char
  | line, [] => ([], line, [])
  | line, '\\' :: '\n' :: rest => span test (line + 1) rest
  | line, c :: rest =>
    if test c then
      let (taken, line, rest) := span test line rest
      (c :: taken, line, rest)
    else ([], line, c :: rest)

/-- Whether an alias is being replaced by its text. -/
def isInserted (reader : Reader) (name : List Char) : Bool :=
  !reader.insertions.isEmpty &&
    let left := reader.rest.length
    reader.insertions.any (fun i => i.name == name && i.behind ≤ left)

/-- Whether the word that was read last follows the text of an alias that ends with a blank. Texts of aliases that
are passed are forgotten. -/
def passInsertions (reader : Reader) : Bool × Reader :=
  if reader.insertions.isEmpty then (false, reader)
  else
    let left := reader.rest.length
    let (passed, kept) := reader.insertions.partition (fun i => left < i.behind)
    (passed.any (·.openEnded), { reader with insertions := kept })

end Reader

namespace Parse

/-- The script cannot be read. -/
def fail {α : Type} (message : String) : Parse α := do
  throw { line := (← get).line, message }

/-- The last token should not be where it is. -/
def unexpected {α : Type} (wanted : String := "") : Parse α := do
  let found := (← get).lastToken.describe ++ " unexpected"
  fail (if wanted.isEmpty then found else found ++ " (expecting " ++ wanted ++ ")")

/-- The next character, which may be a backslash at the end of a line. -/
def nextAsIs? : Parse (Option Char) := do
  let reader ← get
  match reader.rest with
  | [] => return none
  | c :: rest =>
    set { reader with rest }
    return some c

/-- The next character. -/
def next? : Parse (Option Char) := do
  modify (fun reader =>
    let (line, rest) := Reader.joinLines reader.line reader.rest
    { reader with line, rest })
  nextAsIs?

/-- A character is to be read again. -/
def unread (c : Option Char) : Parse Unit :=
  modify (fun reader => { reader with rest := c.toList ++ reader.rest })

/-- The next character is taken if it is the given one; whether it is. -/
def accept (wanted : Char) : Parse Bool := do
  let c ← next?
  if c == some wanted then return true
  unread c
  return false

/-- An end of line has been read. -/
def countLine : Parse Unit :=
  modify (fun reader => { reader with line := reader.line + 1 })

/-- The characters up to the first for which a test fails. -/
def takeWhile (test : Char → Bool) : Parse (List Char) := do
  let reader ← get
  let (taken, line, rest) := Reader.span test reader.line reader.rest
  set { reader with line, rest }
  return taken

/-- The last token is to be read again. -/
def pushBack : Parse Unit :=
  modify (fun reader => { reader with pushed := some reader.lastToken })

/-- What follows a step of work that is done again and again. -/
inductive Step (σ α : Type) where
  | again (state : σ)
  | done (result : α)

/-- The greatest number of times that something is done again, and the greatest depth of commands in commands. -/
def limit : Nat := 1000000

/-- A step done again until it has a result. -/
def iterate {σ α : Type} (step : σ → Parse (Step σ α)) (start : σ) : Parse α :=
  go limit start
where
  /-- At most so many steps. -/
  go : Nat → σ → Parse α
    | 0, _ => fail "too long"
    | n + 1, state => do
      match ← step state with
      | .again state => go n state
      | .done result => return result

end Parse

end Manuscript.Shell
