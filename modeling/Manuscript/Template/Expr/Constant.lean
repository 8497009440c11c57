import Manuscript.Template.Operator

/-!
# Expressions without names

The value of an expression of literals and operators does not depend on the data, so it is known when the template
is read. `and` makes a difference between such expressions and others: where both operands are known, a left one
that does not count as true makes the result `False`, and not the operand itself.
-/

namespace Manuscript.Template

namespace Expr

/-- The value of an expression of literals, lists, maps and operators, unless its computation fails. -/
def constant? : Expr → Option Value
  | .constant value => some value
  | .unary operator operand =>
    operand.constant?.bind (fun value =>
      match operator with
      | .not => some (.bool !value.isTrue)
      | .negate => value.negate.toOption)
  | .binary operator left right =>
    left.constant?.bind (fun a => right.constant?.bind (fun b => (Value.operate operator a b).toOption))
  | .compare first links => first.constant?.bind (fun value => (linksHold? value links).map .bool)
  | .list items => (constants? items).map .list
  | .map entries => (entries? entries).map Value.ofEntries
  | _ => none
where
  /-- Whether comparisons hold that start from a value. -/
  linksHold? (value : Value) : List (Relation × Expr) → Option Bool
    | [] => some true
    | (relation, next) :: rest =>
      next.constant?.bind (fun other =>
        (Value.relate relation value other).toOption.bind (fun holds => (linksHold? other rest).map (holds && ·)))
  /-- The values of expressions. -/
  constants? : List Expr → Option (List Value)
    | [] => some []
    | first :: rest => first.constant?.bind (fun value => (constants? rest).map (value :: ·))
  /-- The values of the keys and the values of a map. -/
  entries? : List (Expr × Expr) → Option (List (Value × Value))
    | [] => some []
    | (key, value) :: rest =>
      key.constant?.bind (fun k => value.constant?.bind (fun v => (entries? rest).map ((k, v) :: ·)))

/-- Two expressions joined by an operator. -/
def combine (operator : BinaryOperator) (left right : Expr) : Expr :=
  let joined := Expr.binary operator left right
  if operator = .and then
    match left.constant?, right.constant? with
    | some a, some b => .constant (if a.isTrue then b else .bool false)
    | _, _ => joined
  else joined

end Expr

end Manuscript.Template
