import Manuscript.Template.Delimiters
import Manuscript.Template.Token.Literal
import Manuscript.Text.Blank

/-!
# Cutting a template into tokens

Values stand between delimiters of the user's choice, statements between `<%` and `%>`, comments between `<#` and
`#>`. A minus sign inside a delimiter takes out all blanks on that side of the tag. Without one, a statement or a
comment takes out one end of line behind it, and the blanks before it when nothing else is on its line; a plus sign
keeps them.
-/

namespace Manuscript.Template

namespace Scan

/-- The kinds of tags. -/
inductive Tag where
  | value
  | statement
  | comment
  deriving DecidableEq, Inhabited

/-- What happens to the blanks on one side of a tag. -/
inductive Blanks where
  | usual
  | keep
  | drop
  deriving DecidableEq, Inhabited

/-- The sign for blanks at the start of a text, and what follows it. -/
def takeBlanks : List Char → Blanks × List Char
  | '-' :: rest => (.drop, rest)
  | '+' :: rest => (.keep, rest)
  | rest => (.usual, rest)

/-! ## Text -/

/-- The text after a delimiter at its start. -/
def after? (delimiter s : List Char) : Option (List Char) :=
  if delimiter.isPrefixOf s then some (s.drop delimiter.length) else none

/-- The tag that starts at the start of a text, and what follows its delimiter. Of two delimiters that fit, the
longer one counts. -/
def tagAt? (d : Delimiters) (s : List Char) : Option (Tag × List Char) :=
  let other :=
    match after? Delimiters.openStatement s with
    | some rest => some (Tag.statement, rest)
    | none => (after? Delimiters.openComment s).map (Tag.comment, ·)
  match after? d.openValue s with
  | none => other
  | some rest => if other.isSome && d.openValue.length < 2 then other else some (.value, rest)

/-- The text before the next tag, and the tag with what follows its delimiter. -/
def findTag (d : Delimiters) : List Char → List Char × Option (Tag × List Char)
  | [] => ([], none)
  | c :: rest =>
    match tagAt? d (c :: rest) with
    | some found => ([], some found)
    | none =>
      let (lead, found) := findTag d rest
      (c :: lead, found)

/-- A character that ends a line. -/
def isLineEnd (c : Char) : Bool :=
  c == '\n' || c == '\r'

/-- Whether the line at the end of a text is blank, when the line that the text continues is or is not. -/
def endsInBlankLine (blank : Bool) (s : List Char) : Bool :=
  s.foldl (fun blank c => if isLineEnd c then true else blank && Text.isBlank c) blank

/-- The text without the blanks of its last line. -/
def dropIndent (s : List Char) : List Char :=
  (s.reverse.dropWhile (fun c => Text.isBlank c && !isLineEnd c)).reverse

/-- The text without the blanks of its last line, if the line is empty then. A line may end with either of two
characters, but the blanks after a lone `\r` stay. -/
def dropBlankLine (s : List Char) : List Char :=
  let kept := dropIndent s
  match kept.getLast? with
  | none => []
  | some c => if c = '\n' then kept else s

/-- The text before a tag as it is kept; `blank` says that nothing but blanks stands before the tag on its line. -/
def trimLead (tag : Tag) (blanks : Blanks) (blank : Bool) (lead : List Char) : List Char :=
  match blanks with
  | .drop => Text.trimEnd lead
  | .keep => lead
  | .usual => if blank && tag != .value then dropBlankLine lead else lead

/-- The text after one end of line. -/
def dropLineEnd (s : List Char) : List Char :=
  let s := if s.head? = some '\r' then s.drop 1 else s
  if s.head? = some '\n' then s.drop 1 else s

/-- The text after a tag, as its sign for blanks says. -/
def dropTail (blanks : Blanks) (s : List Char) : List Char :=
  match blanks with
  | .drop => Text.trimStart s
  | .keep => s
  | .usual => dropLineEnd s

/-- A text token, unless the text is empty. -/
def textToken (s : List Char) : List Token :=
  if s.isEmpty then [] else [.text s]

/-! ## Comments and raw text -/

/-- The text before a delimiter and the text after it. -/
def cutAt? (delimiter : List Char) : List Char → Option (List Char × List Char)
  | [] => none
  | c :: rest =>
    match after? delimiter (c :: rest) with
    | some rest => some ([], rest)
    | none => (cutAt? delimiter rest).map (fun r => (c :: r.1, r.2))

/-- The sign for blanks at the end of a comment's text. -/
def commentBlanks (text : List Char) : Blanks :=
  match text.getLast? with
  | some '-' => .drop
  | some '+' => .keep
  | _ => .usual

/-- A blank inside a tag. -/
def isGap (c : Char) : Bool :=
  c == ' ' || c == '\t' || c == '\n' || c == '\r' || c == '\x0c'

/-- The sign for blanks and what follows a statement that is one word, read after the delimiter that opens it. -/
def word? (word : String) (s : List Char) : Option (Blanks × List Char) :=
  match after? word.toList (s.dropWhile isGap) with
  | none => none
  | some rest =>
    let (blanks, rest) := takeBlanks (rest.dropWhile isGap)
    (after? Delimiters.closeStatement rest).map (blanks, ·)

/-- The text up to the statement that ends raw text, with the signs for blanks on both sides of it and what follows. -/
def rawText? : List Char → Option (List Char × Blanks × Blanks × List Char)
  | [] => none
  | c :: rest =>
    let found : Option (Blanks × Blanks × List Char) :=
      match after? Delimiters.openStatement (c :: rest) with
      | none => none
      | some inside =>
        let (before, inside) := takeBlanks inside
        (word? "endraw" inside).map (before, ·)
    match found with
    | some (before, behind, rest) => some ([], before, behind, rest)
    | none => (rawText? rest).map (fun r => (c :: r.1, r.2))

/-- Raw text as it is kept, by the signs for blanks at its start and its end. -/
def trimRaw (start finish : Blanks) (s : List Char) : List Char :=
  let s := dropTail start s
  match finish with
  | .drop => Text.trimEnd s
  | .keep => s
  | .usual => dropBlankLine s

/-! ## Inside tags -/

/-- The signs of two characters. -/
def longSymbols : List (List Char × Symbol) :=
  [(['/', '/'], .floorDivide), (['*', '*'], .power), (['=', '='], .equal), (['!', '='], .notEqual),
    (['>', '='], .greaterEqual), (['<', '='], .lessEqual)]

/-- The signs of one character. -/
def shortSymbols : List (Char × Symbol) :=
  [('+', .plus), ('-', .minus), ('*', .times), ('/', .divide), ('%', .remainder), ('.', .dot), (',', .comma),
    (':', .colon), ('~', .concat), ('|', .pipe), ('=', .assign), ('>', .greater), ('<', .less), ('(', .openParen),
    (')', .closeParen), ('[', .openBracket), (']', .closeBracket), ('{', .openBrace), ('}', .closeBrace)]

/-- How much deeper in brackets a token leads. -/
def depthChange : Token → Int
  | .symbol .openParen => 1
  | .symbol .openBracket => 1
  | .symbol .openBrace => 1
  | .symbol .closeParen => -1
  | .symbol .closeBracket => -1
  | .symbol .closeBrace => -1
  | _ => 0

/-- Whether a token is a point, behind which digits are a position. -/
def isDot : Token → Bool
  | .symbol .dot => true
  | _ => false

/-- The token at the start of a text that does not start with a blank, and what follows it; `behindDot` says that
the token before it is a point. -/
def token? (behindDot : Bool) (s : List Char) : Option (Token × List Char) :=
  match longSymbols.find? (fun e => e.1.isPrefixOf s) with
  | some (_, symbol) => some (.symbol symbol, s.drop 2)
  | none =>
    match s with
    | [] => none
    | c :: rest =>
      match shortSymbols.lookup c with
      | some symbol => some (.symbol symbol, rest)
      | none =>
        if c = '\'' ∨ c = '"' then Token.string? c rest
        else if Token.isDigit c then (if behindDot then Token.position? s else Token.number? s)
        else if Token.startsName c then
          some (.name (String.ofList (s.takeWhile Token.isNameChar)), s.dropWhile Token.isNameChar)
        else none

/-- The sign for blanks at the end of a tag, when the tag ends at the start of the text, and what follows. -/
def close? (delimiter s : List Char) : Option (Blanks × List Char) :=
  let (blanks, rest) := takeBlanks s
  match (if blanks = .usual then none else after? delimiter rest) with
  | some rest => some (blanks, rest)
  | none => (after? delimiter s).map (Blanks.usual, ·)

/-- The tokens inside a tag up to its end, the sign for blanks there, and what follows; or the tokens up to the end
of the text, when the tag does not end. Inside brackets a tag does not end. -/
def tagTokens? (close : List Char) : Nat → Int → Bool → List Char → Option (List Token × Option (Blanks × List Char))
  | 0, _, _, _ => none
  | fuel + 1, depth, behindDot, s =>
    let s := s.dropWhile isGap
    if s.isEmpty then some ([], none)
    else
      match (if depth = 0 then close? close s else none) with
      | some found => some ([], some found)
      | none =>
        match token? behindDot s with
        | none => none
        | some (token, rest) =>
          (tagTokens? close fuel (depth + depthChange token) (isDot token) rest).map (fun r => (token :: r.1, r.2))

/-! ## The whole template -/

/-- The tokens of a template; `blank` says that nothing but blanks stands on the line before the text. Every step
takes a tag, so as many steps as the text is long are enough. -/
def tokens? (d : Delimiters) : Nat → Bool → List Char → Option (List Token)
  | 0, _, s => if s.isEmpty then some [] else none
  | fuel + 1, blank, s =>
    let (lead, found) := findTag d s
    match found with
    | none => some (textToken lead)
    | some (tag, rest) =>
      let (before, inside) := takeBlanks rest
      let kept := textToken (trimLead tag before (endsInBlankLine blank lead) lead)
      let go := fun (tokens : List Token) (behind : Blanks) (rest : List Char) =>
        let left := dropTail behind rest
        let skipped := rest.take (rest.length - left.length)
        (tokens? d fuel (endsInBlankLine false skipped) left).map (fun r => kept ++ (tokens ++ r))
      match tag with
      | .comment =>
        match cutAt? Delimiters.closeComment inside with
        | some (text, rest) => go [] (commentBlanks text) rest
        | none => none
      | .value =>
        match tagTokens? d.closeValue (inside.length + 1) 0 false inside with
        | some (tokens, some (behind, rest)) =>
          -- Behind a value an end of line stays.
          go (.openValue :: (tokens ++ [.closeValue])) (if behind = .drop then .drop else .keep) rest
        | some (tokens, none) => some (kept ++ .openValue :: tokens)
        | none => none
      | .statement =>
        match word? "raw" inside with
        | some (start, rest) =>
          match rawText? rest with
          | some (text, finish, behind, rest) => go (textToken (trimRaw start finish text)) behind rest
          | none => none
        | none =>
          match tagTokens? Delimiters.closeStatement (inside.length + 1) 0 false inside with
          | some (tokens, some (behind, rest)) => go (.openStatement :: (tokens ++ [.closeStatement])) behind rest
          | some (tokens, none) => some (kept ++ .openStatement :: tokens)
          | none => none

end Scan

/-- The tokens of a template, or nothing when some tag is malformed. -/
def tokens? (d : Delimiters) (s : List Char) : Option (List Token) :=
  if d.isValid then Scan.tokens? d (s.length + 1) true s else none

end Manuscript.Template
