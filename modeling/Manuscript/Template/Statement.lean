import Manuscript.Template.Expr

/-!
# The statements of templates

What a template is made of: text, values to be written, and statements around further parts of the template.
-/

namespace Manuscript.Template

/-- What a value is assigned to. -/
inductive Target where
  | name (name : String)
  /-- The items of a list, one after another. -/
  | items (targets : List Target)
  /-- A member of a value; no value lets its members be set. -/
  | member
  deriving Inhabited

/-- A filter with its arguments. -/
abbrev FilterCall := String × List (Option String × Expr)

/-- A part of a template. -/
inductive Statement where
  | text (text : List Char)
  | output (value : Expr)
  | branch (condition : Expr) (yes no : List Statement)
  /-- The body for each item for which the condition is true, or else the other part when there is none. A loop may
  be allowed to run again for further items inside its body. -/
  | loop (target : Target) (items : Expr) (condition : Option Expr) (again : Bool) (body otherwise : List Statement)
  | assign (target : Target) (value : Expr)
  /-- What the body writes, filtered and assigned. -/
  | capture (target : Target) (filters : List FilterCall) (body : List Statement)
  deriving Inhabited

end Manuscript.Template
