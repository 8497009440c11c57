/-!
# The tokens of templates

A template is text with tags in it. The tokens of a template are its texts, the ends of its tags, and what stands
inside them.
-/

namespace Manuscript.Template

/-- A sign inside a tag. -/
inductive Symbol where
  | plus
  | minus
  | times
  | divide
  | floorDivide
  | remainder
  | power
  | concat
  | dot
  | comma
  | colon
  | pipe
  | assign
  | equal
  | notEqual
  | less
  | lessEqual
  | greater
  | greaterEqual
  | openParen
  | closeParen
  | openBracket
  | closeBracket
  | openBrace
  | closeBrace
  deriving DecidableEq, Inhabited

/-- A token. -/
inductive Token where
  /-- Text outside tags. -/
  | text (text : List Char)
  | openValue
  | closeValue
  | openStatement
  | closeStatement
  | symbol (symbol : Symbol)
  | name (name : String)
  | string (text : List Char)
  | int (value : Nat)
  | float (value : Float)
  deriving Inhabited

end Manuscript.Template
