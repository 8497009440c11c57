import Manuscript.Shell.Number

/-!
# Arithmetic of the shell

Expressions over integers of 64 bits. A name stands for the number in the variable, and may be assigned to. What is
not needed for the value is read but not computed.
-/

namespace Manuscript.Shell.Arithmetic

/-- A token of an expression. -/
inductive Token where
  | number (value : Int)
  | name (name : List Char)
  | operator (text : String)
  /-- A character that can be no part of an expression. -/
  | unknown
  deriving DecidableEq, Inhabited

/-- Why an expression has no value. -/
inductive Error where
  | expectingPrimary
  | expectingParenthesis
  | expectingColon
  | expectingEnd
  | divisionByZero
  /-- A quotient that is no integer of 64 bits. -/
  | overflow
  /-- A variable that holds no number. -/
  | illegalNumber (text : List Char)
  deriving DecidableEq, Inhabited

/-- The wording of a fault of an expression. -/
def Error.reason : Error → String
  | expectingPrimary => "expecting primary"
  | expectingParenthesis => "expecting ')'"
  | expectingColon => "expecting ':'"
  | expectingEnd => "expecting EOF"
  | divisionByZero => "division by zero"
  | overflow => "overflow"
  | illegalNumber _ => "Illegal number"

/-- The variables that an expression has assigned, the last one first. -/
abbrev Assigned := List (List Char × Int)

/-- The computation of a value. -/
abbrev Compute := StateT Assigned (Except Error)

/-- The operators, those that start with others before these. -/
def operators : List String :=
  ["<<=", ">>=", "==", "!=", "<=", ">=", "&&", "||", "<<", ">>", "+=", "-=", "*=", "/=", "%=", "&=", "|=", "^=", "+",
    "-", "*", "/", "%", "<", ">", "&", "|", "^", "!", "~", "(", ")", "?", ":", "="]

/-- The tokens of an expression. -/
def tokens : Nat → List Char → List Token
  | 0, _ => []
  | _ + 1, [] => []
  | fuel + 1, c :: rest =>
    let s := c :: rest
    if c == ' ' || c == '\t' || c == '\n' then tokens fuel rest
    else if c.isDigit then
      match numeral? 0 s with
      | some n => .number n.value :: tokens fuel n.rest
      | none => [.unknown]
    else if startsName c then
      let (name, rest) := splitName s
      .name name :: tokens fuel rest
    else
      match operators.find? (fun o => o.toList.isPrefixOf s) with
      | some o => .operator o :: tokens fuel (s.drop o.length)
      | none => .unknown :: tokens fuel rest

/-- How loosely an operator between two operands binds, if it is one of those that are computed from both. -/
def looseness? (operator : String) : Option Nat :=
  [("*", 0), ("/", 0), ("%", 0), ("+", 1), ("-", 1), ("<<", 2), (">>", 2), ("<", 3), (">", 3), ("<=", 3), (">=", 3),
    ("==", 4), ("!=", 4), ("&", 5), ("^", 6), ("|", 7)].lookup operator

/-- The operator that a token is, and how loosely it binds. -/
def binaryOperator? (token : Option Token) : Option (String × Nat) :=
  match token with
  | some (.operator o) => (looseness? o).map (fun n => (o, n))
  | _ => none

/-- A truth value as a number. -/
def ofBool (b : Bool) : Int :=
  if b then 1 else 0

/-- The value of an operator between two operands. -/
def operate (operator : String) (a b : Int) : Compute Int :=
  let bits := fun (f : Nat → Nat → Nat) => wrap (f (a % Int.pow 2 64).toNat (b % Int.pow 2 64).toNat)
  match operator with
  | "|" => return bits (· ||| ·)
  | "^" => return bits (· ^^^ ·)
  | "&" => return bits (· &&& ·)
  | "==" => return ofBool (a == b)
  | "!=" => return ofBool (a != b)
  | "<" => return ofBool (a < b)
  | ">" => return ofBool (b < a)
  | "<=" => return ofBool (a ≤ b)
  | ">=" => return ofBool (b ≤ a)
  | "<<" => return wrap (a * Int.pow 2 (b % 64).toNat)
  | ">>" => return a / Int.pow 2 (b % 64).toNat
  | "+" => return wrap (a + b)
  | "-" => return wrap (a - b)
  | "*" => return wrap (a * b)
  | _ =>
    if b = 0 then throw .divisionByZero
    else if b = -1 && a = minInteger then throw .overflow
    else if operator = "/" then return a.tdiv b
    else return a.tmod b

/-- The operator that an assignment applies first, if it is an assignment. -/
def assignment? (operator : String) : Option (Option String) :=
  [("=", none), ("<<=", some "<<"), (">>=", some ">>"), ("+=", some "+"), ("-=", some "-"), ("*=", some "*"),
    ("/=", some "/"), ("%=", some "%"), ("&=", some "&"), ("|=", some "|"), ("^=", some "^")].lookup operator

/-- The number in a variable; `outside` gives the texts of those that were not assigned. -/
def valueOf (outside : List Char → Option (List Char)) (name : List Char) : Compute Int := do
  match (← get).lookup name with
  | some value => return value
  | none =>
    let text := (outside name).getD []
    match integer? 0 text with
    | some value => return value
    | none => throw (.illegalNumber text)

/-- Whether the first token is a given operator. -/
def startsWith (tokens : List Token) (operator : String) : Bool :=
  tokens.head? == some (.operator operator)

mutual

/-- A whole expression: an assignment, or a choice between two values, or a simpler one. -/
def expression (outside : List Char → Option (List Char)) : Nat → Bool → List Token → Compute (Int × List Token)
  | 0, _, _ => throw .expectingPrimary
  | fuel + 1, needed, tokens =>
    let assigned? :=
      match tokens with
      | .name name :: .operator o :: rest => (assignment? o).map (fun first => (name, first, rest))
      | _ => none
    match assigned? with
    | none => choice outside fuel needed tokens
    | some (name, first, rest) => do
      let (value, rest) ← expression outside fuel needed rest
      if !needed then return (value, rest)
      let value ←
        match first with
        | none => pure value
        | some o => do operate o (← valueOf outside name) value
      modify (fun assigned => (name, value) :: assigned.filter (fun v => v.1 != name))
      return (value, rest)

/-- A choice between two values, or a simpler expression. -/
def choice (outside : List Char → Option (List Char)) : Nat → Bool → List Token → Compute (Int × List Token)
  | 0, _, _ => throw .expectingPrimary
  | fuel + 1, needed, tokens => do
    let (condition, rest) ← disjunction outside fuel needed tokens
    if !startsWith rest "?" then return (condition, rest)
    let (yes, rest) ← expression outside fuel (needed && condition != 0) (rest.drop 1)
    if !startsWith rest ":" then throw .expectingColon
    let (no, rest) ← choice outside fuel (needed && condition == 0) (rest.drop 1)
    return (if condition = 0 then no else yes, rest)

/-- Conditions of which one is to hold, or a simpler expression. -/
def disjunction (outside : List Char → Option (List Char)) : Nat → Bool → List Token → Compute (Int × List Token)
  | 0, _, _ => throw .expectingPrimary
  | fuel + 1, needed, tokens => do
    let (left, rest) ← conjunction outside fuel needed tokens
    if !startsWith rest "||" then return (left, rest)
    let (right, rest) ← disjunction outside fuel (needed && left == 0) (rest.drop 1)
    return (ofBool (left != 0 || right != 0), rest)

/-- Conditions that are all to hold, or a simpler expression. -/
def conjunction (outside : List Char → Option (List Char)) : Nat → Bool → List Token → Compute (Int × List Token)
  | 0, _, _ => throw .expectingPrimary
  | fuel + 1, needed, tokens => do
    let (left, rest) ← operand outside fuel needed tokens
    let (left, rest) ← operands outside fuel needed 8 left rest
    if !startsWith rest "&&" then return (left, rest)
    let (right, rest) ← conjunction outside fuel (needed && left != 0) (rest.drop 1)
    return (ofBool (left != 0 && right != 0), rest)

/-- A value with what follows it of operators that bind less loosely than a bound, and their operands. -/
def operands (outside : List Char → Option (List Char)) :
    Nat → Bool → Nat → Int → List Token → Compute (Int × List Token)
  | 0, _, _, _, _ => throw .expectingPrimary
  | fuel + 1, needed, bound, left, tokens =>
    match binaryOperator? tokens.head? with
    | none => return (left, tokens)
    | some (o, looseness) =>
      if bound ≤ looseness then return (left, tokens)
      else do
        let (right, rest) ← operand outside fuel needed (tokens.drop 1)
        let (right, rest) ← operands outside fuel needed looseness right rest
        let value ← if needed then operate o left right else pure right
        operands outside fuel needed bound value rest

/-- An operand with signs in front. -/
def operand (outside : List Char → Option (List Char)) : Nat → Bool → List Token → Compute (Int × List Token)
  | 0, _, _ => throw .expectingPrimary
  | fuel + 1, needed, tokens =>
    match tokens with
    | .number n :: rest => return (n, rest)
    | .name name :: rest => do
      let value ← if needed then valueOf outside name else pure 0
      return (value, rest)
    | .operator "(" :: rest => do
      let (value, rest) ← expression outside fuel needed rest
      if !startsWith rest ")" then throw .expectingParenthesis
      return (value, rest.drop 1)
    | .operator "+" :: rest => operand outside fuel needed rest
    | .operator "-" :: rest => do
      let (value, rest) ← operand outside fuel needed rest
      return (wrap (-value), rest)
    | .operator "!" :: rest => do
      let (value, rest) ← operand outside fuel needed rest
      return (ofBool (value == 0), rest)
    | .operator "~" :: rest => do
      let (value, rest) ← operand outside fuel needed rest
      return (-value - 1, rest)
    | _ => throw .expectingPrimary

end

/-- The value of an expression and the variables that it assigned; `outside` gives the texts of the others. -/
def eval (outside : List Char → Option (List Char)) (s : List Char) : Except Error (Int × Assigned) :=
  let tokens := tokens (s.length + 1) s
  let whole : Compute Int := do
    let (value, rest) ← expression outside (10 * tokens.length + 10) true tokens
    if !rest.isEmpty then throw .expectingEnd
    return value
  whole.run []

end Manuscript.Shell.Arithmetic
