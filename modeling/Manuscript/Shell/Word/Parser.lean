import Manuscript.Shell.Reader

/-!
# Reading words

Words are read with what stands in them: quotes, parameters, arithmetic and commands. Which characters have a
meaning depends on the place: in double quotes blanks have none, in braces neither have operators. Commands in words
are read by whoever reads commands.
-/

namespace Manuscript.Shell

/-- Where a part of a word stands. -/
inductive Place where
  | bare
  | braces
  | quotes (inBraces : Bool)
  /-- Braces in double quotes or in a document; between further quotes in them a closing brace is a character. -/
  | quotedBraces (betweenQuotes inDocument : Bool)
  /-- Arithmetic in which so many parentheses are open. -/
  | arithmetic (parentheses : Nat)
  | document
  deriving DecidableEq, Inhabited

namespace Place

/-- Whether what stands in a place counts as quoted. -/
def isQuoted : Place → Bool
  | bare => false
  | braces => false
  | _ => true

/-- Whether a place is inside of braces. -/
def isInBraces : Place → Bool
  | braces => true
  | quotes inBraces => inBraces
  | quotedBraces _ _ => true
  | _ => false

/-- Where the word of a parameter in braces stands, when the parameter stands in some place. A pattern counts as
unquoted. -/
def ofWord (place : Place) (isPattern : Bool) : Place :=
  if isPattern || !place.isQuoted then braces
  else
    match place with
    | quotedBraces _ inDocument => quotedBraces false inDocument
    | document => quotedBraces false true
    | _ => quotedBraces false false

/-- What is wrong when the script ends in a place, if anything is. -/
def endError? : Place → Option String
  | bare => none
  | document => none
  | braces => some "Missing '\x7d'"
  | quotedBraces _ true => some "Missing '\x7d'"
  | arithmetic _ => some "Missing '))'"
  | _ => some "Unterminated quoted string"

/-- Whether a backslash in front of a character is kept in a quoted place. -/
def keepsBackslash (place : Place) (c : Char) : Bool :=
  c ≠ '\\' && c ≠ backQuote && c ≠ '$' && (c ≠ '"' || place == document) && (c ≠ '\x7d' || !place.isInBraces)

end Place

/-- What a word is read for. In the mark of a document nothing is expanded, and a document ends at its mark wherever
that stands. -/
inductive Purpose where
  | word
  | mark
  | document (awaited : AwaitedDocument)
  deriving DecidableEq, Inhabited

namespace Parse

/-- The script has ended in a place, or the document that is read has. -/
def failAtEnd (purpose : Purpose) (place : Place) : Parse Unit :=
  match place.endError? with
  | none => return ()
  | some message =>
    match purpose, place with
    | .document _, .arithmetic _ => fail message
    | .document _, _ => fail "Missing '\x7d'"
    | _, _ => fail message

/-- Whether a line starts with the mark that ends what is read. The mark is passed then, and so are tabs that do not
count. -/
def passMark : Purpose → Parse Bool
  | .document awaited => do
    unread (← next?)
    let reader ← get
    let rest := if awaited.withoutTabs then reader.rest.dropWhile (· == '\t') else reader.rest
    let behind := rest.drop awaited.mark.length
    if awaited.mark.isPrefixOf rest && (behind.isEmpty || behind.head? == some '\n') then
      set { reader with rest := behind.drop 1, line := reader.line + 1 }
      return true
    set { reader with rest }
    return false
  | _ => return false

/-- The characters up to an apostrophe. -/
def apostrophes (purpose : Purpose) : Parse (List Char) :=
  iterate
    (fun (taken : List Char) => do
      match ← nextAsIs? with
      | none =>
        failAtEnd purpose (.quotes false)
        return .done taken.reverse
      | some '\'' => return .done taken.reverse
      | some '\n' =>
        countLine
        if ← passMark purpose then failAtEnd purpose (.quotes false)
        return .again ('\n' :: taken)
      | some c => return .again (c :: taken))
    []

/-- The characters up to a back quote, the lines they take, and the rest. Backslashes in front of some characters
are dropped. -/
def backQuoted (quoted : Bool) : Nat → List Char → Option (List Char × Nat × List Char)
  | _, [] => none
  | lines, '\\' :: c :: rest =>
    if c = '\n' then backQuoted quoted (lines + 1) rest
    else
      let dropped := c = '\\' || c = backQuote || c = '$' || (quoted && c = '"')
      (backQuoted quoted lines rest).map (fun r => ((if dropped then [c] else ['\\', c]) ++ r.1, r.2))
  | lines, c :: rest =>
    if c = backQuote then some ([], lines, rest)
    else (backQuoted quoted (if c = '\n' then lines + 1 else lines) rest).map (fun r => (c :: r.1, r.2))

/-- Commands between back quotes, which are a script of their own. -/
def backQuotes (commands : Parse (Option Command)) (place : Place) : Parse Segment := do
  let reader ← get
  match backQuoted place.isQuoted 0 reader.rest with
  | none =>
    set { reader with line := reader.line + reader.rest.count '\n' }
    fail "EOF in backquote substitution"
  | some (text, lines, rest) =>
    set { reader with rest := text, line := 1, pushed := none, awaited := [], insertions := [] }
    let body ← commands
    modify (fun inner =>
      { inner with
        rest, line := reader.line + lines, pushed := none, awaited := reader.awaited, insertions := reader.insertions })
    return .command body place.isQuoted

/-- Commands up to a closing parenthesis. Documents that they still wait for are empty. -/
def parentheses (commands : Parse (Option Command)) (place : Place) : Parse Segment := do
  let awaited := (← get).awaited
  modify (fun reader => { reader with awaited := [], pushed := none })
  let body ← commands
  unless (← get).lastToken.isOperator ")" do unexpected "\")\""
  modify (fun reader =>
    { reader with
      pushed := none, awaited, documents :=
        reader.documents ++ reader.awaited.map (fun document => (document.number, [])) })
  return .command body place.isQuoted

/-- The end of a parameter in braces behind its name, which starts with a given character: what is done with the
value, and whether the braces end here. -/
def operation (c : Option Char) : Parse (Operation × Bool) := do
  let substitution := fun (c : Option Char) (orEmpty : Bool) =>
    match c with
    | some '\x7d' => (Operation.value, !orEmpty)
    | some mark => if ['-', '+', '?', '='].contains mark then (.substitute mark orEmpty, false) else (.unknown, false)
    | none => (.unknown, false)
  match c with
  | some ':' => return substitution (← next?) true
  | some mark =>
    if mark = '%' || mark = '#' then return (.trim mark (← accept mark), false)
    return substitution c false
  | none => return (.unknown, false)

/-- The name of a parameter in braces, and whether its length is meant. Nothing is a name of no parameter. -/
def bracedName : Parse (Option (List Char) × Bool) := do
  match ← next? with
  | none => return (none, false)
  | some c =>
    if startsName c then
      let more ← takeWhile isNameChar
      return (some (c :: more), false)
    if c.isDigit then
      let more ← takeWhile Char.isDigit
      return (some (c :: more), false)
    if c = '#' then
      let next ← next?
      match next with
      | some d =>
        if startsName d then
          let more ← takeWhile isNameChar
          return (some (d :: more), true)
        if d.isDigit then
          let more ← takeWhile Char.isDigit
          return (some (d :: more), true)
        let behind ← next?
        unread behind
        if d = '\x7d' || behind ≠ some '\x7d' then
          unread next
          return (some ['#'], false)
        return (if isSpecialParameter d then some [d] else none, true)
      | none => return (some ['#'], false)
    if isSpecialParameter c then return (some [c], false)
    if c = '\x7d' then unread (some c)
    return (none, false)

/-- A parameter in braces. -/
def bracedParameter (inner : Place → Parse Word) (place : Place) : Parse Segment := do
  match ← bracedName with
  | (none, _) => return .parameter [] .unknown (← inner (place.ofWord false)) place.isQuoted
  | (some name, true) =>
    if ← accept '\x7d' then return .parameter name .length [] place.isQuoted
    return .parameter name .unknown (← inner (place.ofWord false)) place.isQuoted
  | (some name, false) =>
    let (operation, ended) ← operation (← next?)
    if ended then return .parameter name operation [] place.isQuoted
    let isPattern := match operation with | .trim _ _ => true | _ => false
    let word ← inner (place.ofWord isPattern)
    return .parameter name operation (word.withHome false) place.isQuoted

/-- What a dollar sign starts. -/
def dollar (commands : Parse (Option Command)) (inner : Place → Parse Word) (place : Place) : Parse Segment := do
  let c ← next?
  match c with
  | some '(' =>
    if ← accept '(' then return .arithmetic (← inner (.arithmetic 0)) place.isQuoted
    parentheses commands place
  | some '\x7b' => bracedParameter inner place
  | some c =>
    if startsName c then
      let more ← takeWhile isNameChar
      return .parameter (c :: more) .value [] place.isQuoted
    if isSpecialParameter c then return .parameter [c] .value [] place.isQuoted
    unread (some c)
    return .text ['$'] place.isQuoted
  | none => return .text ['$'] place.isQuoted

/-- What stands between double quotes, marked as quoted even if it is empty. The arguments of the script alone may
be no field. -/
def quotedWord : Word → Word
  | [.parameter ['@'] .value [] true] => [.parameter ['@'] .value [] true]
  | word => .text [] true :: word

/-- The parts of a word, behind those that have been read already. -/
def wordParts (commands : Parse (Option Command)) (purpose : Purpose) : Nat → Place → List Segment → Parse Word
  | 0, _, _ => fail "too long"
  | fuel + 1, place, parts => do
    let again := wordParts commands purpose fuel
    let isMark := purpose = .mark
    let inner := fun (place : Place) => again place []
    let character := fun (c : Char) => again place (.text [c] place.isQuoted :: parts)
    match ← next? with
    | none =>
      failAtEnd purpose place
      return Word.ofReversed parts
    | some '\\' =>
      match ← nextAsIs? with
      | none => again place (.text ['\\'] true :: parts)
      | some c =>
        again place (.text (if place.isQuoted && place.keepsBackslash c then ['\\', c] else [c]) true :: parts)
    | some '\'' =>
      if place.isQuoted then character '\'' else again place (.text (← apostrophes purpose) true :: parts)
    | some '"' =>
      match place with
      | .quotes _ => return Word.ofReversed parts
      | .quotedBraces betweenQuotes inDocument => again (.quotedBraces (!betweenQuotes) inDocument) parts
      | .bare => again place ((quotedWord (← inner (.quotes false))).reverse ++ parts)
      | .braces => again place ((quotedWord (← inner (.quotes true))).reverse ++ parts)
      | _ => character '"'
    | some '$' => if isMark then character '$' else again place ((← dollar commands inner place) :: parts)
    | some '\x7d' =>
      match place with
      | .braces => return Word.ofReversed parts
      | .quotedBraces false _ => return Word.ofReversed parts
      | _ => character '\x7d'
    | some '\n' =>
      if place = .bare then
        unread (some '\n')
        return Word.ofReversed parts
      countLine
      let parts := .text ['\n'] place.isQuoted :: parts
      if ← passMark purpose then
        failAtEnd purpose place
        return Word.ofReversed parts
      again place parts
    | some c =>
      if c = backQuote && !isMark then again place ((← backQuotes commands place) :: parts)
      else
        match place with
        | .bare =>
          if endsWord c then
            unread (some c)
            return Word.ofReversed parts
          character c
        | .arithmetic parentheses =>
          if c = '(' then again (.arithmetic (parentheses + 1)) (.text [c] true :: parts)
          else if c = ')' then
            match parentheses with
            | n + 1 => again (.arithmetic n) (.text [c] true :: parts)
            | 0 => if ← accept ')' then return Word.ofReversed parts else character c
          else character c
        | _ => character c

/-- A word. -/
def word (commands : Parse (Option Command)) (isMark : Bool) : Parse Word :=
  wordParts commands (if isMark then .mark else .word) limit .bare []

/-! ## Documents -/

/-- The lines of a text, each with its end. -/
def linesOf (s : List Char) : List (List Char) :=
  s.foldr
    (fun c lines =>
      if c = '\n' then [c] :: lines
      else
        match lines with
        | [] => [[c]]
        | line :: rest => (c :: line) :: rest)
    []

/-- The text of a document as it stands there, the number of lines read, and the lines that follow it. -/
def plainDocument (document : AwaitedDocument) : List (List Char) → List Char × Nat × List (List Char)
  | [] => ([], 0, [])
  | line :: rest =>
    let line := if document.withoutTabs then line.dropWhile (· == '\t') else line
    let ended := if line.getLast? == some '\n' then 1 else 0
    if line.filter (· ≠ '\n') == document.mark then ([], ended, rest)
    else
      let (text, lines, behind) := plainDocument document rest
      (line ++ text, lines + ended, behind)

/-- A document that was asked for. -/
def document (commands : Parse (Option Command)) (document : AwaitedDocument) : Parse Unit := do
  let awaited := (← get).awaited
  let body ←
    if document.expanded then
      modify (fun reader => { reader with awaited := [] })
      if ← passMark (.document document) then pure [] else wordParts commands (.document document) limit .document []
    else
      let reader ← get
      let (text, lines, behind) := plainDocument document (linesOf reader.rest)
      set { reader with rest := behind.flatten, line := reader.line + lines }
      pure [.text text true]
  modify (fun reader =>
    { reader with pushed := none, awaited, documents := reader.documents ++ [(document.number, body)] })

/-- The documents that were asked for in the line that has ended. -/
def awaitedDocuments (commands : Parse (Option Command)) : Parse Unit := do
  let awaited := (← get).awaited
  modify (fun reader => { reader with awaited := [] })
  awaited.forM (document commands)

end Parse

end Manuscript.Shell
