import Manuscript.Template.Value

/-!
# The expressions of templates

What may stand inside a tag where a value is wanted.
-/

namespace Manuscript.Template

/-- The operators with one operand. -/
inductive UnaryOperator where
  | not
  | negate
  deriving DecidableEq, Inhabited

/-- What a comparison asks of the values on its two sides. -/
inductive Relation where
  | equal
  | notEqual
  | less
  | lessEqual
  | greater
  | greaterEqual
  | isIn
  | isNotIn
  deriving DecidableEq, Inhabited

/-- The operators with two operands, comparisons apart. -/
inductive BinaryOperator where
  | or
  | and
  | add
  | subtract
  | concat
  | multiply
  | divide
  | floorDivide
  | remainder
  | power
  deriving DecidableEq, Inhabited

/-- An expression. An argument may have a keyword. -/
inductive Expr where
  | constant (value : Value)
  | name (name : String)
  | unary (operator : UnaryOperator) (operand : Expr)
  | binary (operator : BinaryOperator) (left right : Expr)
  /-- Comparisons of each value with the next one, all of which have to hold. -/
  | compare (first : Expr) (links : List (Relation × Expr))
  /-- The first value when the condition is true, and else the second. -/
  | choose (condition yes no : Expr)
  | member (object : Expr) (name : String)
  | item (object key : Expr)
  /-- A part of a list or a text; a bound that is none is left open. -/
  | slice (object start stop step : Expr)
  | list (items : List Expr)
  | map (entries : List (Expr × Expr))
  | filter (name : String) (operand : Expr) (arguments : List (Option String × Expr))
  | test (name : String) (operand : Expr) (arguments : List (Option String × Expr))
  | call (function : Expr) (arguments : List (Option String × Expr))
  deriving Inhabited

end Manuscript.Template
