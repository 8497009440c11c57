import Manuscript.Template

/-!
# Forms of templates

A form is a template by its parts: text, values of the data, branches and loops. It is spelled in one way
(`Form.source`), has the tokens and the statements of that spelling (`Form.tokens`, `Form.statements`), and says for
itself what is written for data (`Form.write`): every text and every value as it stands, and the parts of a branch
or a loop without anything of their tags. A form is sound when nothing of its text can be taken for a tag or lost
next to one.
-/

namespace Manuscript.Template

/-- The delimiters that stand around values unless the options say otherwise. -/
def Delimiters.standard : Delimiters :=
  .ofTags {}

/-! ## References to data -/

/-- A value that a tag names: one of the data, or a member of one. -/
inductive Ref where
  | field (name : String)
  | member (object name : String)
  deriving DecidableEq, Inhabited

namespace Ref

/-- How a reference is spelled. -/
def source : Ref → List Char
  | field name => name.toList
  | member object name => object.toList ++ '.' :: name.toList

def tokens : Ref → List Token
  | field name => [.name name]
  | member object name => [.name object, .symbol .dot, .name name]

def expr : Ref → Expr
  | field name => .name name
  | member object name => .member (.name object) name

/-- What a reference stands for when names stand for the given values. -/
def value (values : String → Value) : Ref → Value
  | field name => values name
  | member object name => (values object).member name

/-- Whether a name is read as one word. -/
def isWord (name : String) : Bool :=
  name.toList.head?.any Token.startsName && name.toList.all Token.isNameChar

/-- Whether a name is one word that means nothing else in a tag. -/
def isFree (name : String) : Bool :=
  isWord name && !("not" :: "in" :: Parser.reservedNames).contains name

def isSound : Ref → Bool
  | field name => isFree name
  | member object name => isFree object && isFree name

end Ref

/-! ## Forms -/

/-- A template by its parts, each with what comes after it. The tags of branches and loops may stand on lines of
their own. -/
inductive Form where
  | done
  | text (text : List Char) (rest : Form)
  | comment (text : List Char) (rest : Form)
  | value (ref : Ref) (rest : Form)
  /-- The items of a list with a separator between them. -/
  | joined (items : Ref) (separator : List Char) (rest : Form)
  | branch (ownLines : Bool) (condition : Ref) (body rest : Form)
  | loop (ownLines : Bool) (item : String) (items : Ref) (body rest : Form)
  deriving DecidableEq, Inhabited

namespace Form

/-- The tag of a value in front of a text. -/
def valueTag (inside rest : List Char) : List Char :=
  Delimiters.standard.openValue ++ ' ' :: (inside ++ ' ' :: (Delimiters.standard.closeValue ++ rest))

/-- The tag of a statement in front of a text, on a line of its own or within one. -/
def statementTag (ownLine : Bool) (inside rest : List Char) : List Char :=
  Delimiters.openStatement ++ ' ' ::
    (inside ++ ' ' :: (Delimiters.closeStatement ++ ((if ownLine then ['\n'] else []) ++ rest)))

/-- A comment in front of a text. It takes the end of its line with it, and the blanks behind that. -/
def commentTag (inside rest : List Char) : List Char :=
  Delimiters.openComment ++ ' ' :: (inside ++ ' ' :: '-' :: (Delimiters.closeComment ++ '\n' :: rest))

/-- How a form is spelled. -/
def source : Form → List Char
  | done => []
  | text s rest => s ++ rest.source
  | comment s rest => commentTag s rest.source
  | value ref rest => valueTag ref.source rest.source
  | joined items separator rest =>
    valueTag (items.source ++ ' ' :: '|' :: ' ' :: ("join".toList ++ '(' :: '"' :: (separator ++ ['"', ')'])))
      rest.source
  | branch ownLines condition body rest =>
    statementTag ownLines ("if".toList ++ ' ' :: condition.source)
      (body.source ++ statementTag ownLines "endif".toList rest.source)
  | loop ownLines item items body rest =>
    statementTag ownLines ("for".toList ++ ' ' :: (item.toList ++ ' ' :: ("in".toList ++ ' ' :: items.source)))
      (body.source ++ statementTag ownLines "endfor".toList rest.source)

def tokens : Form → List Token
  | done => []
  | text s rest => .text s :: rest.tokens
  | comment _ rest => rest.tokens
  | value ref rest => .openValue :: (ref.tokens ++ .closeValue :: rest.tokens)
  | joined items separator rest =>
    .openValue ::
      (items.tokens ++
        .symbol .pipe :: .name "join" :: .symbol .openParen :: .string separator :: .symbol .closeParen ::
          .closeValue :: rest.tokens)
  | branch _ condition body rest =>
    .openStatement :: .name "if" ::
      (condition.tokens ++ .closeStatement ::
        (body.tokens ++ .openStatement :: .name "endif" :: .closeStatement :: rest.tokens))
  | loop _ item items body rest =>
    .openStatement :: .name "for" :: .name item :: .name "in" ::
      (items.tokens ++ .closeStatement ::
        (body.tokens ++ .openStatement :: .name "endfor" :: .closeStatement :: rest.tokens))

def statements : Form → List Statement
  | done => []
  | text s rest => .text s :: rest.statements
  | comment _ rest => rest.statements
  | value ref rest => .output ref.expr :: rest.statements
  | joined items separator rest =>
    .output (.filter "join" items.expr [(none, .constant (.string separator))]) :: rest.statements
  | branch _ condition body rest => .branch condition.expr body.statements [] :: rest.statements
  | loop _ item items body rest => .loop (.name item) items.expr none false body.statements [] :: rest.statements

/-- The values with another one for a name. -/
def withItem (values : String → Value) (name : String) (value : Value) : String → Value :=
  fun other => if other = name then value else values other

/-- What is written when names stand for the given values. -/
def write (values : String → Value) : Form → Except RenderError (List Char)
  | done => .ok []
  | text s rest => do
    let others ← rest.write values
    return s ++ others
  | comment _ rest => rest.write values
  | value ref rest => do
    let others ← rest.write values
    return (ref.value values).output ++ others
  | joined items separator rest => do
    let value ← Filter.apply "join" (items.value values) { positional := [.string separator] }
    let others ← rest.write values
    return value.output ++ others
  | branch _ condition body rest => do
    let written ← if (condition.value values).isTrue then body.write values else .ok []
    let others ← rest.write values
    return written ++ others
  | loop _ item items body rest =>
    match (items.value values).items? with
    | none => .error .noItems
    | some items => do
      let rounds ← items.mapM (fun value => body.write (withItem values item value))
      let others ← rest.write values
      return rounds.flatten ++ others

/-! ## Soundness -/

/-- How deep the branches and loops of a form are nested. -/
def nesting : Form → Nat
  | done => 0
  | text _ rest => rest.nesting
  | comment _ rest => rest.nesting
  | value _ rest => rest.nesting
  | joined _ _ rest => rest.nesting
  | branch _ _ body rest => max (body.nesting + 1) rest.nesting
  | loop _ _ _ body rest => max (body.nesting + 1) rest.nesting

/-- Whether a form starts with a text, and that with a character of a kind. -/
def leadsWith (kind : Char → Bool) : Form → Bool
  | text s _ => s.head?.any kind
  | _ => false

def startsWithText : Form → Bool
  | text .. => true
  | _ => false

def startsWithValue : Form → Bool
  | value .. => true
  | joined .. => true
  | _ => false

/-- Whether the tags of a form leave its text alone: no text has the start of a tag, two texts are not next to each
other, the blanks in front of a statement stay, and so do the ends of line behind one that is not on a line of its
own. -/
def isSound : Form → Bool
  | done => true
  | text s rest =>
    !s.isEmpty && !s.contains '<' && !rest.startsWithText && (rest.startsWithValue || Scan.dropBlankLine s == s) &&
      rest.isSound
  | comment s rest => !s.contains '#' && !rest.leadsWith Text.isBlank && rest.isSound
  | value ref rest => ref.isSound && rest.isSound
  | joined items separator rest => items.isSound && !separator.contains '"' && !separator.contains '\\' && rest.isSound
  | branch ownLines condition body rest =>
    condition.isSound && (ownLines || !body.leadsWith Scan.isLineEnd && !rest.leadsWith Scan.isLineEnd) &&
      body.isSound && rest.isSound
  | loop ownLines item items body rest =>
    Ref.isFree item && items.isSound &&
      (ownLines || !body.leadsWith Scan.isLineEnd && !rest.leadsWith Scan.isLineEnd) &&
      body.isSound && rest.isSound

end Form

end Manuscript.Template
