import Manuscript.Template.Expr.Constant
import Manuscript.Template.Token

/-!
# From tokens to expression

Operators bind in ten levels, from the choice with `if` and `else`, which binds least, over `or`, `and`, `not`,
comparisons, sums, `~`, products and powers to what stands behind a primary expression. All operators with two
operands group to the left, and comparisons that follow one another make one chain. A minus sign belongs to the
primary expression behind it, and members, filters and tests apply to both.

Expressions may be nested in one another only to a limited depth, which the parser counts down: an expression takes
one level, and so does the primary expression in it.
-/

namespace Manuscript.Template

namespace Parser

/-- What a parser answers: what it read and the tokens that are left. -/
abbrev Result (α : Type) := Option (α × List Token)

/-- The levels of operators between the choice and the primary expressions. -/
inductive Level where
  | or
  | and
  | not
  | compare
  | sum
  | concat
  | product
  | power
  | unary
  deriving DecidableEq, Inhabited

/-- The level that binds more. -/
def Level.next : Level → Level
  | .or => .and
  | .and => .not
  | .not => .compare
  | .compare => .sum
  | .sum => .concat
  | .concat => .product
  | .product => .power
  | .power => .unary
  | .unary => .unary

/-- The operator of a level that a token stands for. -/
def operatorAt? : Level → Token → Option BinaryOperator
  | .or, .name "or" => some .or
  | .and, .name "and" => some .and
  | .sum, .symbol .plus => some .add
  | .sum, .symbol .minus => some .subtract
  | .concat, .symbol .concat => some .concat
  | .product, .symbol .times => some .multiply
  | .product, .symbol .divide => some .divide
  | .product, .symbol .floorDivide => some .floorDivide
  | .product, .symbol .remainder => some .remainder
  | .power, .symbol .power => some .power
  | _, _ => none

/-- The relation at the start of the tokens, and what follows it. -/
def relation? : List Token → Result Relation
  | .symbol .equal :: rest => some (.equal, rest)
  | .symbol .notEqual :: rest => some (.notEqual, rest)
  | .symbol .less :: rest => some (.less, rest)
  | .symbol .lessEqual :: rest => some (.lessEqual, rest)
  | .symbol .greater :: rest => some (.greater, rest)
  | .symbol .greaterEqual :: rest => some (.greaterEqual, rest)
  | .name "in" :: rest => some (.isIn, rest)
  | .name "not" :: .name "in" :: rest => some (.isNotIn, rest)
  | _ => none

/-- Whether the tokens go on with `not`. -/
def startsNegation : List Token → Bool
  | .name "not" :: _ => true
  | _ => false

/-- The text of the strings at the start of the tokens, which are joined, and what follows them. -/
def takeStrings : List Token → List Char × List Token
  | .string text :: rest =>
    let (others, rest) := takeStrings rest
    (text ++ others, rest)
  | tokens => ([], tokens)

/-- Whether a token starts the argument of a test that is given without brackets. -/
def startsArgument : Token → Bool
  | .name name => name != "and" && name != "or" && name != "else" && name != "is"
  | .string _ => true
  | .int _ => true
  | .float _ => true
  | .symbol symbol =>
    symbol = .plus || symbol = .minus || symbol = .openBracket || symbol = .openBrace
  | _ => false

/-- Tokens after a symbol. -/
def skip? (symbol : Symbol) : List Token → Option (List Token)
  | .symbol s :: rest => if s = symbol then some rest else none
  | _ => none

/-- The tokens at which the next part of a sequence starts: the whole of them for the first part, and else what
follows a comma. -/
def nextPart? (first : Bool) (tokens : List Token) : Option (List Token) :=
  if first then some tokens else skip? .comma tokens

mutual

/-- An expression, which takes one of the levels of nesting. -/
def expr? : Nat → Nat → List Token → Result Expr
  | 0, _, _ => none
  | _ + 1, 0, _ => none
  | fuel + 1, depth + 1, tokens => choice? fuel depth tokens

/-- An expression without a level of its own. -/
def choice? : Nat → Nat → List Token → Result Expr
  | 0, _, _ => none
  | fuel + 1, depth, tokens =>
    match level? fuel depth .or tokens with
    | some (value, rest) => choiceTail? fuel depth value rest
    | none => none

/-- The conditions behind an expression. -/
def choiceTail? : Nat → Nat → Expr → List Token → Result Expr
  | 0, _, _, _ => none
  | fuel + 1, depth, value, tokens =>
    match tokens with
    | .name "if" :: rest =>
      match level? fuel depth .or rest with
      | some (condition, .name "else" :: rest) =>
        match choice? fuel depth rest with
        | some (other, rest) => choiceTail? fuel depth (.choose condition value other) rest
        | none => none
      | some (condition, rest) => choiceTail? fuel depth (.choose condition value (.constant .undefined)) rest
      | none => none
    | _ => some (value, tokens)

/-- An expression of a level. -/
def level? : Nat → Nat → Level → List Token → Result Expr
  | 0, _, _, _ => none
  | fuel + 1, depth, level, tokens =>
    match level, tokens with
    | .not, .name "not" :: rest => (level? fuel depth .not rest).map (fun r => (.unary .not r.1, r.2))
    | .not, _ => level? fuel depth .compare tokens
    | .compare, _ =>
      match level? fuel depth level.next tokens with
      | some (first, rest) =>
        (links? fuel depth rest).map (fun r => (if r.1.isEmpty then first else .compare first r.1, r.2))
      | none => none
    | .unary, _ =>
      match prefixed? fuel depth tokens with
      | some (value, rest) =>
        match postfix? fuel depth value rest with
        | some (value, rest) => filters? fuel depth value rest
        | none => none
      | none => none
    | _, _ =>
      match level? fuel depth level.next tokens with
      | some (left, rest) => levelTail? fuel depth level left rest
      | none => none

/-- The operators of a level behind an expression, with their right operands. -/
def levelTail? : Nat → Nat → Level → Expr → List Token → Result Expr
  | 0, _, _, _, _ => none
  | fuel + 1, depth, level, left, tokens =>
    match tokens with
    | [] => some (left, [])
    | token :: rest =>
      match operatorAt? level token with
      | none => some (left, token :: rest)
      | some operator =>
        match level? fuel depth level.next rest with
        | some (right, rest) => levelTail? fuel depth level (Expr.combine operator left right) rest
        | none => none

/-- The comparisons behind an expression. -/
def links? : Nat → Nat → List Token → Result (List (Relation × Expr))
  | 0, _, _ => none
  | fuel + 1, depth, tokens =>
    match relation? tokens with
    | some (relation, rest) =>
      match level? fuel depth Level.compare.next rest with
      | some (right, rest) => (links? fuel depth rest).map (fun r => ((relation, right) :: r.1, r.2))
      | none => none
    | none => if startsNegation tokens then none else some ([], tokens)

/-- A primary expression with the minus signs in front of it. -/
def prefixed? : Nat → Nat → List Token → Result Expr
  | 0, _, _ => none
  | fuel + 1, depth, tokens =>
    match tokens with
    | .symbol .minus :: rest => (prefixed? fuel depth rest).map (fun r => (.unary .negate r.1, r.2))
    | _ => primary? fuel depth tokens

/-- Members, items, slices and calls behind an expression. -/
def postfix? : Nat → Nat → Expr → List Token → Result Expr
  | 0, _, _, _ => none
  | fuel + 1, depth, value, tokens =>
    match tokens with
    | .symbol .dot :: rest =>
      match rest with
      | .name name :: rest => postfix? fuel depth (.member value name) rest
      | .int n :: rest => postfix? fuel depth (.item value (.constant (.int n))) rest
      | _ => none
    | .symbol .openBracket :: rest =>
      match subscript? fuel depth value rest with
      | some (value, rest) => postfix? fuel depth value rest
      | none => none
    | .symbol .openParen :: rest =>
      match arguments? fuel depth true false rest with
      | some (arguments, rest) => postfix? fuel depth (.call value arguments) rest
      | none => none
    | _ => some (value, tokens)

/-- A bound of a slice, which may be left out before a colon or the closing bracket. -/
def bound? : Nat → Nat → List Token → Result Expr
  | 0, _, _ => none
  | fuel + 1, depth, tokens =>
    match tokens with
    | .symbol .colon :: _ => some (.constant .none, tokens)
    | .symbol .closeBracket :: _ => some (.constant .none, tokens)
    | _ => expr? fuel depth tokens

/-- An item or a slice of a value, after the opening bracket. -/
def subscript? : Nat → Nat → Expr → List Token → Result Expr
  | 0, _, _, _ => none
  | fuel + 1, depth, value, tokens =>
    let start : Result (Option Expr) :=
      match tokens with
      | .symbol .colon :: _ => some (none, tokens)
      | _ => (expr? fuel depth tokens).map (fun r => (some r.1, r.2))
    match start with
    | none => none
    | some (start, .symbol .colon :: rest) =>
      match bound? fuel depth rest with
      | none => none
      | some (stop, rest) =>
        let step : Result Expr :=
          match rest with
          | .symbol .colon :: .symbol .closeBracket :: rest =>
            some (.constant .none, .symbol .closeBracket :: rest)
          | .symbol .colon :: rest => expr? fuel depth rest
          | _ => some (.constant .none, rest)
        match step with
        | some (step, .symbol .closeBracket :: rest) =>
          some (.slice value (start.getD (.constant .none)) stop step, rest)
        | _ => none
    | some (some key, .symbol .closeBracket :: rest) => some (.item value key, rest)
    | _ => none

/-- Filters and tests behind an expression. -/
def filters? : Nat → Nat → Expr → List Token → Result Expr
  | 0, _, _, _ => none
  | fuel + 1, depth, value, tokens =>
    match tokens with
    | .symbol .pipe :: rest =>
      match rest with
      | .name name :: .symbol .openParen :: rest =>
        match arguments? fuel depth true false rest with
        | some (arguments, rest) => filters? fuel depth (.filter name value arguments) rest
        | none => none
      | .name name :: rest => filters? fuel depth (.filter name value []) rest
      | _ => none
    | .name "is" :: rest =>
      let (negated, rest) :=
        match rest with
        | .name "not" :: rest => (true, rest)
        | _ => (false, rest)
      let finish := fun (arguments : List (Option String × Expr)) (name : String) (rest : List Token) =>
        let test := Expr.test name value arguments
        filters? fuel depth (if negated then .unary .not test else test) rest
      match rest with
      | .name name :: .symbol .openParen :: rest =>
        match arguments? fuel depth true false rest with
        | some (arguments, rest) => finish arguments name rest
        | none => none
      | .name name :: token :: rest =>
        if startsArgument token then
          match prefixed? fuel depth (token :: rest) with
          | some (argument, rest) =>
            match postfix? fuel depth argument rest with
            | some (argument, rest) => finish [(none, argument)] name rest
            | none => none
          | none => none
        else finish [] name (token :: rest)
      | [.name name] => finish [] name []
      | _ => none
    | _ => some (value, tokens)

/-- A literal, a name, a list, a map, or an expression in brackets, which takes one of the levels of nesting. -/
def primary? : Nat → Nat → List Token → Result Expr
  | 0, _, _ => none
  | _ + 1, 0, _ => none
  | fuel + 1, depth + 1, tokens =>
    match tokens with
    | .name name :: rest =>
      match name with
      | "true" | "True" => some (.constant (.bool true), rest)
      | "false" | "False" => some (.constant (.bool false), rest)
      | "none" | "None" => some (.constant .none, rest)
      | _ => some (.name name, rest)
    | .string _ :: _ =>
      let (text, rest) := takeStrings tokens
      some (.constant (.string text), rest)
    | .int n :: rest => some (.constant (.int n), rest)
    | .float x :: rest => some (.constant (.float x), rest)
    | .symbol .openBracket :: rest =>
      (items? fuel depth .closeBracket true rest).map (fun r => (.list r.1, r.2))
    | .symbol .openBrace :: rest => (entries? fuel depth true rest).map (fun r => (.map r.1, r.2))
    | .symbol .openParen :: .symbol .closeParen :: rest => some (.list [], rest)
    | .symbol .openParen :: rest =>
      match expr? fuel depth rest with
      | some (value, .symbol .closeParen :: rest) => some (value, rest)
      | some (value, .symbol .comma :: rest) =>
        (items? fuel depth .closeParen false (.symbol .comma :: rest)).map (fun r => (.list (value :: r.1), r.2))
      | _ => none
    | _ => none

/-- The items of a list through its closing bracket; a comma may stand behind the last. -/
def items? : Nat → Nat → Symbol → Bool → List Token → Result (List Expr)
  | 0, _, _, _, _ => none
  | fuel + 1, depth, close, first, tokens =>
    match skip? close tokens with
    | some rest => some ([], rest)
    | none =>
      match nextPart? first tokens with
      | none => none
      | some rest =>
        match skip? close rest with
        | some rest => some ([], rest)
        | none =>
          match expr? fuel depth rest with
          | some (item, rest) => (items? fuel depth close false rest).map (fun r => (item :: r.1, r.2))
          | none => none

/-- The entries of a map through its closing brace; a comma may stand behind the last. -/
def entries? : Nat → Nat → Bool → List Token → Result (List (Expr × Expr))
  | 0, _, _, _ => none
  | fuel + 1, depth, first, tokens =>
    match skip? .closeBrace tokens with
    | some rest => some ([], rest)
    | none =>
      match nextPart? first tokens with
      | none => none
      | some rest =>
        match skip? .closeBrace rest with
        | some rest => some ([], rest)
        | none =>
          match expr? fuel depth rest with
          | some (key, .symbol .colon :: rest) =>
            match expr? fuel depth rest with
            | some (value, rest) => (entries? fuel depth false rest).map (fun r => ((key, value) :: r.1, r.2))
            | none => none
          | _ => none

/-- The arguments of a call through its closing bracket. Behind an argument with a keyword all have one; a comma may
stand behind the last. -/
def arguments? : Nat → Nat → Bool → Bool → List Token → Result (List (Option String × Expr))
  | 0, _, _, _, _ => none
  | fuel + 1, depth, first, keywords, tokens =>
    match skip? .closeParen tokens with
    | some rest => some ([], rest)
    | none =>
      match nextPart? first tokens with
      | none => none
      | some rest =>
        match skip? .closeParen rest with
        | some rest => some ([], rest)
        | none =>
          match expr? fuel depth rest with
          | some (.name name, .symbol .assign :: rest) =>
            match expr? fuel depth rest with
            | some (value, rest) =>
              (arguments? fuel depth false true rest).map (fun r => ((some name, value) :: r.1, r.2))
            | none => none
          | some (value, rest) =>
            if keywords then none
            else (arguments? fuel depth false false rest).map (fun r => ((none, value) :: r.1, r.2))
          | none => none

end

/-- As many steps as reading an expression from the tokens can take. -/
def steps (tokens : List Token) : Nat :=
  16 * (tokens.length + 1)

end Parser

/-- The expression at the start of the tokens, nested at most `depth` levels deep, and what follows it. -/
def Expr.ofTokens? (depth : Nat) (tokens : List Token) : Option (Expr × List Token) :=
  Parser.expr? (Parser.steps tokens) depth tokens

/-- An expression at the start of the tokens that is no choice. -/
def Expr.operandOfTokens? : Nat → List Token → Option (Expr × List Token)
  | 0, _ => none
  | depth + 1, tokens => Parser.level? (Parser.steps tokens) depth .or tokens

/-- The arguments of a call, after its opening bracket, and what follows. -/
def Expr.argumentsOfTokens? (depth : Nat) (tokens : List Token) : Option (List (Option String × Expr) × List Token) :=
  Parser.arguments? (Parser.steps tokens) depth true false tokens

end Manuscript.Template
