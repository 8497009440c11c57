import Manuscript.Shell.Word.Parser

/-!
# Reading commands

Commands are read line by line, so that what one line does to aliases holds for the next. Each function reads one
kind of command; commands in commands are read by a function that they are given, which is bounded in how deep they
may stand.
-/

namespace Manuscript.Shell

/-! ## Documents put in place -/

/-- A redirection with its document in place of the number of the document. -/
def Redirection.withDocuments (documents : List (Nat × Word)) : Redirection → Redirection
  | .mk stream (.document expanded) target =>
    .mk stream (.document expanded) ((documents.lookup (decimalOf (Word.literal target))).getD [])
  | redirection => redirection

namespace Command

mutual

/-- A command with its documents in place. -/
def withDocuments (documents : List (Nat × Word)) : Command → Command
  | .simple line assignments words redirections =>
    .simple line assignments words (redirections.map (Redirection.withDocuments documents))
  | .redirected line body redirections =>
    .redirected line (withDocuments documents body) (redirections.map (Redirection.withDocuments documents))
  | .subshell line body redirections background =>
    .subshell line (withDocuments documents body) (redirections.map (Redirection.withDocuments documents)) background
  | .pipeline commands background => .pipeline (allWithDocuments documents commands) background
  | .negation body => .negation (withDocuments documents body)
  | .sequence left right => .sequence (withDocuments documents left) (withDocuments documents right)
  | .both left right => .both (withDocuments documents left) (withDocuments documents right)
  | .either left right => .either (withDocuments documents left) (withDocuments documents right)
  | .branch condition yes no =>
    .branch (withDocuments documents condition) (withDocuments documents yes) (optionWithDocuments documents no)
  | .loop condition body whileTrue => .loop (withDocuments documents condition) (withDocuments documents body) whileTrue
  | .forEach line name words body => .forEach line name words (withDocuments documents body)
  | .choose line subject cases => .choose line subject (casesWithDocuments documents cases)
  | .define line name body => .define line name (withDocuments documents body)

/-- Commands with their documents in place. -/
def allWithDocuments (documents : List (Nat × Word)) : List Command → List Command
  | [] => []
  | command :: rest => withDocuments documents command :: allWithDocuments documents rest

/-- A command that may be missing with its documents in place. -/
def optionWithDocuments (documents : List (Nat × Word)) : Option Command → Option Command
  | none => none
  | some command => some (withDocuments documents command)

/-- Cases with the documents of their commands in place. -/
def casesWithDocuments (documents : List (Nat × Word)) :
    List (List (List Segment) × Option Command) → List (List (List Segment) × Option Command)
  | [] => []
  | (patterns, body) :: rest => (patterns, optionWithDocuments documents body) :: casesWithDocuments documents rest

end

end Command

/-! ## Tokens -/

/-- Which meanings the next token may have besides its own. -/
structure Expectation where
  /-- Whether ends of line in front of it are passed over. -/
  newlines : Bool := false
  keywords : Bool := false
  aliases : Bool := false
  /-- Whether it is the mark at the end of a document. -/
  mark : Bool := false
  deriving DecidableEq, Inhabited

namespace Expectation

/-- A token where a command can start behind ends of line. -/
def start : Expectation :=
  { newlines := true, keywords := true, aliases := true }

/-- A token where a command can start in a line. -/
def inLine : Expectation :=
  { keywords := true, aliases := true }

end Expectation

/-- The names of the commands that functions cannot have. -/
def specialNames : List String :=
  [".", ":", "break", "continue", "eval", "exec", "exit", "export", "local", "readonly", "return", "set", "shift",
    "times", "trap", "unset"]

namespace Parse

/-- What is read of commands in commands: lists of them, which must not be empty or, in cases and words, may be. -/
structure Lists where
  list : Parse Command
  anyList : Parse (Option Command)

/-- The rest of a redirection behind its first character. -/
def redirection (stream : Option Nat) (c : Char) : Parse Token := do
  if c = '>' then
    let stream := stream.getD 1
    if ← accept '>' then return .redirection stream .append false
    if ← accept '|' then return .redirection stream .overwrite false
    if ← accept '&' then return .redirection stream .duplicate false
    return .redirection stream .write false
  let stream := stream.getD 0
  if ← accept '<' then return .redirection stream (.document true) (← accept '-')
  if ← accept '&' then return .redirection stream .duplicate false
  if ← accept '>' then return .redirection stream .readWrite false
  return .redirection stream .read false

/-- A word, or a redirection, which may start with a digit. -/
def wordOrRedirection (lists : Lists) (isMark : Bool) : Parse Token := do
  let word ← word lists.anyList isMark
  let next ← next?
  let stream? : Option (Option Nat) :=
    match word with
    | [] => some none
    | [.text [c] false] => if c.isDigit then some (some (c.toNat - 48)) else none
    | _ => none
  match next, stream? with
  | some '<', some stream => redirection stream '<'
  | some '>', some stream => redirection stream '>'
  | _, _ =>
    unread next
    modify (fun reader => { reader with lastWord := word })
    return .word word

/-- A token as it stands there. -/
def plainToken (lists : Lists) (isMark : Bool) : Parse Token := do
  let reader ← get
  match reader.pushed with
  | some token =>
    set { reader with pushed := none }
    return token
  | none =>
    let (line, rest) := Reader.skipGap false reader.line reader.rest
    set { reader with line, rest }
    let twice := fun (c : Char) => do
      let text := String.singleton c
      return Token.operator (if ← accept c then text ++ text else text)
    match ← next? with
    | none => return .endOfInput
    | some '\n' =>
      countLine
      return .newline
    | some c =>
      if c = '&' || c = '|' || c = ';' then twice c
      else if c = '(' || c = ')' then return .operator (String.singleton c)
      else
        unread (some c)
        wordOrRedirection lists isMark

/-- The next token. A keyword or an alias is only one where it is expected, and only if nothing of it is quoted. -/
def token (lists : Lists) (expected : Expectation) : Parse Token := do
  let found ← iterate step expected.aliases
  modify (fun reader => { reader with lastToken := found })
  return found
where
  /-- A token, or an alias whose text is to be read in its place. -/
  step (aliases : Bool) : Parse (Step Bool Token) := do
    let found ← iterate
      (fun () => do
        let found ← plainToken lists expected.mark
        if expected.newlines && found.isNewline then
          awaitedDocuments lists.anyList
          return .again ()
        return .done found)
      ()
    let (openEnded, reader) := (← get).passInsertions
    set reader
    match found with
    | .word word =>
      match word.plain? with
      | none => return .done found
      | some name =>
        if expected.keywords && keywords.contains (String.ofList name) then return .done (.keyword (String.ofList name))
        else if (aliases || openEnded) && !reader.isInserted name then
          match reader.aliases.lookup name with
          | none => return .done found
          | some text =>
            let openEnded := text.getLast?.any isGap
            let insertion : Insertion := { name, behind := reader.rest.length, openEnded }
            set { reader with rest := text ++ reader.rest, insertions := insertion :: reader.insertions }
            return .again (aliases || openEnded)
        else return .done found
    | _ => return .done found

/-! ## Commands -/

/-- A given operator or keyword comes next. -/
def require (lists : Lists) (expected : Expectation) (wanted : Token) : Parse Unit := do
  let found ← token lists expected
  let fits :=
    match wanted with
    | .operator text => found.isOperator text
    | .keyword text => found.isKeyword text
    | _ => false
  unless fits do unexpected wanted.describe

/-- The target of a redirection. -/
def target (lists : Lists) (stream : Nat) (kind : RedirectionKind) (withoutTabs : Bool) : Parse Redirection := do
  let isDocument := match kind with | .document _ => true | _ => false
  match ← token lists { mark := isDocument } with
  | .word word =>
    if isDocument then
      let reader ← get
      let number := reader.documentCount
      let expanded := !word.isQuoted
      let awaited : AwaitedDocument := { number, mark := word.literal, expanded, withoutTabs }
      set { reader with documentCount := number + 1, awaited := reader.awaited ++ [awaited] }
      return .mk stream (.document expanded) [.text (decimalText number) false]
    return .mk stream kind word
  | _ => unexpected

/-- The redirections behind a command. -/
def redirections (lists : Lists) : Parse (List Redirection) :=
  iterate
    (fun (found : List Redirection) => do
      match ← token lists .inLine with
      | .redirection stream kind withoutTabs => return .again (found ++ [← target lists stream kind withoutTabs])
      | _ =>
        pushBack
        return .done found)
    []

/-- What has been read of a simple command. -/
structure SimpleParts where
  assignments : List Word := []
  words : List Word := []
  redirections : List Redirection := []
  deriving Inhabited

/-- Assignments, words and redirections, or the definition of a function. -/
def simpleCommand (lists : Lists) (command : Parse Command) : Parse Command := do
  let line := (← get).line
  iterate
    (fun (parts : SimpleParts) => do
      let first := parts.words.isEmpty
      let finish : Parse (Step SimpleParts Command) := do
        pushBack
        return .done (.simple line parts.assignments.reverse parts.words.reverse parts.redirections.reverse)
      match ← token lists { aliases := first } with
      | .word word =>
        if first && word.assigns then return .again { parts with assignments := word :: parts.assignments }
        return .again { parts with words := word :: parts.words }
      | .redirection stream kind withoutTabs =>
        let found ← target lists stream kind withoutTabs
        return .again { parts with redirections := found :: parts.redirections }
      | .operator "(" =>
        match parts with
        | { assignments := [], words := [name], redirections := [] } =>
          require lists {} (.operator ")")
          match name.plain? with
          | some name =>
            if !isName name || specialNames.contains (String.ofList name) then fail "Bad function name"
            else
              return .done (.define (← get).line name (← command))
          | none => fail "Bad function name"
        | _ => finish
      | _ => finish)
    {}

/-- The branches of a condition behind its first keyword, and the keyword that ends them. -/
def branches (lists : Lists) : Nat → Parse Command
  | 0 => fail "too long"
  | fuel + 1 => do
    let condition ← lists.list
    require lists {} (.keyword "then")
    let yes ← lists.list
    match ← token lists {} with
    | .keyword "elif" => return .branch condition yes (some (← branches lists fuel))
    | .keyword "else" =>
      let no ← lists.list
      require lists {} (.keyword "fi")
      return .branch condition yes (some no)
    | .keyword "fi" => return .branch condition yes none
    | _ => unexpected "\"fi\""

/-- The words of a loop. Without any it is over the arguments. -/
def loopWords (lists : Lists) : Parse (List Word) := do
  match ← token lists .start with
  | .keyword "in" =>
    iterate
      (fun (found : List Word) => do
        match ← token lists {} with
        | .word word => return .again (word :: found)
        | .newline => return .done found.reverse
        | .operator ";" => return .done found.reverse
        | _ => unexpected)
      []
  | found =>
    unless found.isOperator ";" do pushBack
    return [[.parameter ['@'] .value [] true]]

/-- The patterns of a case. What is no word counts as the last word that was read. -/
def patterns (lists : Lists) : Parse (List Word) := do
  let patterns ← iterate
    (fun (found : List Word) => do
      let found := (← get).lastWord :: found
      match ← token lists {} with
      | .operator "|" =>
        let _ ← token lists {}
        return .again found
      | _ => return .done found.reverse)
    []
  unless (← get).lastToken.isOperator ")" do unexpected "\")\""
  return patterns

/-- The cases of a choice. -/
def cases (lists : Lists) : Parse (List (List Word × Option Command)) :=
  iterate
    (fun (found : List (List Word × Option Command)) => do
      let first ← token lists { newlines := true, keywords := true }
      if first.isKeyword "esac" then return .done found.reverse
      if first.isOperator "(" then let _ ← token lists {}
      let patterns ← patterns lists
      let found := (patterns, ← lists.anyList) :: found
      match ← token lists { newlines := true, keywords := true } with
      | .keyword "esac" => return .done found.reverse
      | .operator ";;" => return .again found
      | _ => unexpected "\";;\"")
    []

/-- A command without what may surround it. -/
def command (lists : Lists) : Nat → Expectation → Parse Command
  | 0, _ => fail "too long"
  | fuel + 1, expected => do
    let line := (← get).line
    let body ←
      match ← token lists expected with
      | .keyword "if" => branches lists limit
      | .keyword "while" => do
        let condition ← lists.list
        require lists {} (.keyword "do")
        let body ← lists.list
        require lists {} (.keyword "done")
        pure (.loop condition body true)
      | .keyword "until" => do
        let condition ← lists.list
        require lists {} (.keyword "do")
        let body ← lists.list
        require lists {} (.keyword "done")
        pure (.loop condition body false)
      | .keyword "for" => do
        let name :=
          match ← token lists {} with
          | .word word => word.plain?.filter isName
          | _ => none
        match name with
        | none => fail "Bad for loop variable"
        | some name =>
          let words ← loopWords lists
          require lists .start (.keyword "do")
          let body ← lists.list
          require lists {} (.keyword "done")
          pure (.forEach line name words body)
      | .keyword "case" => do
        match ← token lists {} with
        | .word subject =>
          require lists .start (.keyword "in")
          pure (.choose line subject (← cases lists))
        | _ => unexpected "word"
      | .operator "(" => do
        let body ← lists.list
        require lists {} (.operator ")")
        pure (.subshell line body [] false)
      | .keyword "\x7b" => do
        let body ← lists.list
        require lists {} (.keyword "\x7d")
        pure body
      | .word _ => do
        pushBack
        return ← simpleCommand lists (command lists fuel .start)
      | .redirection _ _ _ => do
        pushBack
        return ← simpleCommand lists (command lists fuel .start)
      | _ => unexpected
    match ← redirections lists, body with
    | [], body => return body
    | redirections, .subshell line body _ background => return .subshell line body redirections background
    | redirections, body => return .redirected line body redirections

/-- Commands with pipes between them. -/
def pipeline (lists : Lists) (expected : Expectation) : Parse Command := do
  let negated := (← token lists expected).isKeyword "!"
  unless negated do pushBack
  let first ← command lists limit (if negated then .inLine else {})
  let commands ← iterate
    (fun (found : List Command) => do
      match ← token lists {} with
      | .operator "|" => return .again ((← command lists limit .start) :: found)
      | _ =>
        pushBack
        return .done found.reverse)
    [first]
  let body := match commands with | [one] => one | many => Command.pipeline many false
  return if negated then .negation body else body

/-- Pipelines with conditional connectives between them. -/
def conditional (lists : Lists) (expected : Expectation) : Parse Command := do
  let first ← pipeline lists expected
  iterate
    (fun (left : Command) => do
      match ← token lists {} with
      | .operator "&&" => return .again (.both left (← pipeline lists .start))
      | .operator "||" => return .again (.either left (← pipeline lists .start))
      | _ =>
        pushBack
        return .done left)
    first

/-- How a list of commands may end. -/
inductive Extent where
  /-- With the line. -/
  | line
  /-- Where the command ends that it is part of; it must not be empty. -/
  | part
  /-- In the same way; it may be empty. -/
  | anyPart
  deriving DecidableEq, Inhabited

/-- What a list of commands is. -/
inductive Found where
  | endOfInput
  | commands (body : Option Command)
  deriving Inhabited

/-- A command that the script does not wait for. -/
def inBackground (line : Nat) : Command → Command
  | .pipeline commands _ => .pipeline commands true
  | .redirected line body redirections => .subshell line body redirections true
  | body => .subshell line body [] true

/-- A list of commands. -/
def listOf (lists : Lists) (extent : Extent) : Parse Found :=
  iterate
    (fun (left : Option Command) => do
      let found ← token lists { newlines := extent ≠ .line, keywords := true, aliases := true }
      let mayEnd := extent = .anyPart || left.isSome
      if found.isNewline then
        awaitedDocuments lists.anyList
        return .done (.commands left)
      else
        match found with
        | .endOfInput =>
          awaitedDocuments lists.anyList
          modify (fun reader => { reader with lastToken := .endOfInput })
          pushBack
          return .done (if left.isNone && extent = .line then .endOfInput else .commands left)
        | _ =>
          pushBack
          if extent ≠ .line && mayEnd && found.endsList then return .done (.commands left)
          else
            let right ← conditional lists {}
            let behind ← token lists {}
            let right := if behind.isOperator "&" then inBackground 0 right else right
            let both := match left with | none => right | some left => .sequence left right
            match behind with
            | .operator "&" => return .again (some both)
            | .operator ";" => return .again (some both)
            | .newline =>
              pushBack
              return .again (some both)
            | .endOfInput =>
              pushBack
              return .again (some both)
            | _ =>
              if extent = .line then unexpected
              else
                pushBack
                return .done (.commands (some both)))
    none

/-- What is read of commands in commands that stand at most so deep. -/
def listsTo : Nat → Lists
  | 0 => { list := fail "too deep", anyList := fail "too deep" }
  | depth + 1 =>
    { list := fun reader => list (listsTo depth) reader
      anyList := fun reader => anyList (listsTo depth) reader }
where
  /-- A list that must not be empty. At the end of the script it is, but then what follows it is missing too. -/
  list (lists : Lists) : Parse Command := do
    match ← listOf lists .part with
    | .commands (some body) => return body
    | _ => return default
  /-- A list that may be empty, with its documents in place. -/
  anyList (lists : Lists) : Parse (Option Command) := do
    let found ← listOf lists .anyPart
    let documents := (← get).documents
    match found with
    | .commands body => return body.map (Command.withDocuments documents)
    | .endOfInput => return none

/-- The commands of the next line of a script, or nothing at its end. -/
def nextCommands : Parse Found := do
  modify (fun reader => { reader with pushed := none, awaited := [], documents := [], documentCount := 0 })
  match ← listOf (listsTo limit) .line with
  | .commands body =>
    let documents := (← get).documents
    return .commands (body.map (Command.withDocuments documents))
  | .endOfInput => return .endOfInput

end Parse

end Manuscript.Shell
