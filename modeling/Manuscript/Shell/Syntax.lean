import Manuscript.Shell.Character

/-!
# The language of shell scripts

Compilers may be shell scripts. A script is a list of commands: simple commands with assignments and redirections,
pipelines, the conditional connectives, groups, the compound commands and functions. Their words are quoted or
expanded when a command runs. Commands that may fail by themselves know their line, which messages name.
-/

namespace Manuscript.Shell

/-- What is done with the value of a parameter. -/
inductive Operation where
  | value
  | length
  /-- Another word in place of a missing value (`-`), assigned to it too (`=`), refused with a message (`?`), or in
  place of a value that is there (`+`). -/
  | substitute (mark : Char) (orEmpty : Bool)
  /-- The value without the shortest or longest part at its start (`#`) or end (`%`) that matches a pattern. -/
  | trim (mark : Char) (longest : Bool)
  /-- Nothing that the shell knows. -/
  | unknown
  deriving DecidableEq, Inhabited

/-- What a redirection does to a stream. -/
inductive RedirectionKind where
  | read
  | write
  /-- Writing even where files are protected from that. -/
  | overwrite
  | append
  | readWrite
  /-- Another stream in place of this one, or none. -/
  | duplicate
  /-- A text of the script itself, as it is written there or expanded. -/
  | document (expanded : Bool)
  deriving DecidableEq, Inhabited

mutual

/-- A part of a word. What comes of a part in double quotes is not split into fields. -/
inductive Segment where
  | text (text : List Char) (quoted : Bool)
  | parameter (name : List Char) (operation : Operation) (word : List Segment) (quoted : Bool)
  | arithmetic (word : List Segment) (quoted : Bool)
  /-- What commands write. -/
  | command (body : Option Command) (quoted : Bool)
  /-- The home directory, which is written as a tilde. -/
  | home

/-- A change of a stream for one command. -/
inductive Redirection where
  | mk (stream : Nat) (kind : RedirectionKind) (target : List Segment)

/-- A command. -/
inductive Command where
  | simple (line : Nat) (assignments words : List (List Segment)) (redirections : List Redirection)
  | redirected (line : Nat) (body : Command) (redirections : List Redirection)
  /-- A command in a shell of its own, which the script may not wait for. -/
  | subshell (line : Nat) (body : Command) (redirections : List Redirection) (background : Bool)
  | pipeline (commands : List Command) (background : Bool)
  | negation (body : Command)
  | sequence (left right : Command)
  | both (left right : Command)
  | either (left right : Command)
  | branch (condition yes : Command) (no : Option Command)
  /-- The body again and again while the condition succeeds, or until it does. -/
  | loop (condition body : Command) (whileTrue : Bool)
  | forEach (line : Nat) (name : List Char) (words : List (List Segment)) (body : Command)
  | choose (line : Nat) (subject : List Segment) (cases : List (List (List Segment) × Option Command))
  | define (line : Nat) (name : List Char) (body : Command)

end

/-- A word before its expansion. -/
abbrev Word := List Segment

instance : Inhabited Segment := ⟨.text [] false⟩
instance : Inhabited Redirection := ⟨.mk 0 .read []⟩
instance : Inhabited Command := ⟨.simple 0 [] [] []⟩

namespace Word

/-- Parts that are given from the last to the first, with characters that stand next to one another and are quoted
alike put together. -/
def ofReversed (parts : List Segment) : Word :=
  parts.foldl join []
where
  /-- A word with a part put in front. -/
  join (word : Word) (part : Segment) : Word :=
    match part, word with
    | .text s q, .text t r :: rest => if q == r then .text (s ++ t) q :: rest else part :: word
    | _, _ => part :: word

/-- The text of a word that has nothing quoted and nothing to be expanded. -/
def plain? : Word → Option (List Char)
  | [] => some []
  | [.text s false] => some s
  | _ => none

/-- Whether some part of a word is quoted. -/
def isQuoted (word : Word) : Bool :=
  word.any (fun
    | .text _ quoted => quoted
    | _ => false)

/-- The characters of a word as they are, without its quotes. -/
def literal (word : Word) : List Char :=
  word.flatMap (fun
    | .text s _ => s
    | _ => [])

/-- A text with home directories in place of its tildes. One counts at the start and, if that is wanted, behind each
colon; `closed` says that nothing follows the text in its word, `counts` that a tilde would count here, and `before`
holds the characters before. -/
def homeText (colons closed : Bool) : Bool → List Char → List Char → List Segment
  | _, before, [] => if before.isEmpty then [] else [.text before.reverse false]
  | counts, before, c :: rest =>
    let ends := match rest with | [] => closed | d :: _ => d = '/' || (colons && d = ':')
    if counts && c = '~' && ends then
      (if before.isEmpty then [] else [.text before.reverse false]) ++ .home :: homeText colons closed false [] rest
    else homeText colons closed (colons && c = ':') (c :: before) rest

/-- A word with home directories in place of its tildes. -/
def withHome (colons : Bool) (word : Word) : Word :=
  go true word
where
  /-- The rest of a word, at whose start a tilde counts or does not. -/
  go : Bool → Word → Word
    | _, [] => []
    | counts, .text s false :: rest =>
      homeText colons rest.isEmpty counts [] s ++ go (colons && s.getLast? == some ':') rest
    | _, segment :: rest => segment :: go false rest

/-- Whether a word assigns a value: it starts with a name and an equals sign that are not quoted. -/
def assigns : Word → Bool
  | .text s false :: _ => isAssignment s
  | _ => false

/-- The name that a word assigns to, and the word of the value. -/
def assignment? : Word → Option (List Char × Word)
  | .text s false :: rest =>
    if isAssignment s then
      let (name, value) := splitName s
      some (name, .text (value.drop 1) false :: rest)
    else none
  | _ => none

end Word

end Manuscript.Shell
