import Manuscript.Template.Expr

/-!
# Why a template cannot be rendered

A template that parses may still ask for what its values do not offer.
-/

namespace Manuscript.Template

/-- Why a template cannot be rendered. -/
inductive RenderError where
  /-- An operator does not apply to its operands. -/
  | wrongOperands (operator : BinaryOperator)
  /-- The question whether something without members holds a value. -/
  | noMembers
  /-- A minus sign before something that is no number. -/
  | notANumber
  | divisionByZero
  /-- An integer beyond 128 bits. -/
  | overflow
  /-- A text repeated too often. -/
  | tooLong
  | unknownFilter (name : String)
  | unknownTest (name : String)
  | unknownFunction (name : String)
  /-- A filter, test or function does not take its value or these arguments. -/
  | wrongArguments (name : String)
  /-- A loop that runs again too often inside itself. -/
  | tooDeep
  /-- A loop over something without items. -/
  | noItems
  /-- A slice of something without parts, or with bounds that are no integers. -/
  | wrongSlice
  /-- A value that is not a list of as many items as there are targets. -/
  | cannotUnpack
  /-- An assignment to a member. -/
  | cannotAssign
  /-- A cause that only the engine at hand knows, in its words. -/
  | other (message : String)
  deriving DecidableEq, Inhabited

end Manuscript.Template
