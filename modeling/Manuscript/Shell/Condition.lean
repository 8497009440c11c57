import Manuscript.Shell.Number
import Manuscript.Shell.Standard

/-!
# Conditions

What the command `test` says of files, texts and numbers. Its words are read from the left; whether one is an
operator depends on those behind it.
-/

namespace Manuscript.Shell.Condition

/-- Why words are no condition. -/
inductive Error where
  | unexpectedOperator (word : List Char)
  | argumentExpected (operator : List Char)
  | parenthesisExpected
  | bracketExpected
  | illegalNumber (text : List Char)
  deriving DecidableEq, Inhabited

/-- The wording of a fault. -/
def Error.message : Error → List Char
  | unexpectedOperator word => (if word.isEmpty then [] else word ++ [':', ' ']) ++ "unexpected operator".toList
  | argumentExpected operator => operator ++ ": argument expected".toList
  | parenthesisExpected => "closing paren expected".toList
  | bracketExpected => "missing ]".toList
  | illegalNumber text => "Illegal number: ".toList ++ text

/-- What a word is in a condition. -/
inductive Role where
  | nothing
  | operand
  | unary (operator : String)
  | binary (operator : String)
  | negation
  | conjunction
  | disjunction
  | openParenthesis
  | closeParenthesis
  deriving DecidableEq, Inhabited

/-- The operators on one operand. -/
def unaryOperators : List String :=
  ["-r", "-w", "-x", "-e", "-f", "-d", "-c", "-b", "-p", "-u", "-g", "-k", "-s", "-t", "-z", "-n", "-h", "-O", "-G",
    "-L", "-S"]

/-- The operators between two operands. -/
def binaryOperators : List String :=
  ["=", "!=", "<", ">", "-eq", "-ne", "-ge", "-gt", "-le", "-lt", "-nt", "-ot", "-ef"]

/-- What a word is by itself. -/
def roleOf (word : List Char) : Role :=
  let text := String.ofList word
  if unaryOperators.contains text then .unary text
  else if binaryOperators.contains text then .binary text
  else
    match text with
    | "!" => .negation
    | "-a" => .conjunction
    | "-o" => .disjunction
    | "(" => .openParenthesis
    | ")" => .closeParenthesis
    | _ => .operand

/-- Whether a word is an operator between two operands. -/
def isBinary (word : List Char) : Bool :=
  match roleOf word with
  | .binary _ => true
  | _ => false

/-- What the first of several words is. -/
def role (words : List (List Char)) : Role :=
  match words with
  | [] => .nothing
  | word :: rest =>
    match roleOf word, rest with
    | .unary _, [] => .operand
    | .unary operator, [_] => .unary operator
    | .unary operator, next :: _ => if isBinary next then .operand else .unary operator
    | .openParenthesis, [] => .operand
    | found, _ => found

/-- The number that an operand is. -/
def numberOf (s : List Char) : Except Error Int :=
  match integer? 10 s with
  | some n => .ok n
  | none => .error (.illegalNumber s)

/-- A condition on one operand. -/
def unary (files : FileSystem) (operator : String) (operand : List Char) : Except Error Bool :=
  let path := toPath operand
  let isUtility := (Utility.ofPath? operand).isSome
  let isDevice := Utility.isDevice operand
  let isThere := files.exists? path || isUtility || isDevice || Utility.isStream operand
  match operator with
  | "-n" => .ok !operand.isEmpty
  | "-z" => .ok operand.isEmpty
  | "-t" => (numberOf operand).map (fun _ => false)
  | "-c" => .ok isDevice
  | "-f" => .ok (files.isFile path || isUtility)
  | "-d" => .ok (files.isDirectory path)
  | "-x" => .ok (isUtility || (files.at? path).any (fun entry => entry.isProgram || entry == .directory))
  | "-s" => .ok (isUtility || (files.at? path).any (fun entry => entry.bytes? != some []))
  | _ => .ok (["-e", "-r", "-w", "-O", "-G"].contains operator && isThere)

/-- A condition on two operands. All files are of one age. -/
def binary (files : FileSystem) (operator : String) (a b : List Char) : Except Error Bool :=
  let numbers := fun (compare : Int → Int → Bool) => do return compare (← numberOf a) (← numberOf b)
  match operator with
  | "=" => .ok (a == b)
  | "!=" => .ok (a != b)
  | "<" => .ok (String.ofList a < String.ofList b)
  | ">" => .ok (String.ofList b < String.ofList a)
  | "-eq" => numbers (· == ·)
  | "-ne" => numbers (· != ·)
  | "-lt" => numbers (· < ·)
  | "-le" => numbers (· ≤ ·)
  | "-gt" => numbers (fun m n => n < m)
  | "-ge" => numbers (fun m n => n ≤ m)
  | "-ef" =>
    .ok (match files.locate (toPath a), files.locate (toPath b) with
      | .ok found, .ok other => found.1 == other.1
      | _, _ => false)
  | _ => .ok false

/-- A truth value and the words from the last one that it was read from. -/
abbrev Found := Except Error (Bool × List (List Char))

mutual

/-- A condition: simpler ones of which one is to hold. The first word has a given role. -/
def anyOf (files : FileSystem) : Nat → Role → List (List Char) → Found
  | 0, _, words => .ok (false, words)
  | fuel + 1, first, words => do
    let (left, words) ← allOf files fuel first words
    if role (words.drop 1) = .disjunction then
      let (right, words) ← anyOf files fuel (role (words.drop 2)) (words.drop 2)
      return (left || right, words)
    return (left, words)

/-- Simpler conditions that are all to hold. -/
def allOf (files : FileSystem) : Nat → Role → List (List Char) → Found
  | 0, _, words => .ok (false, words)
  | fuel + 1, first, words => do
    let (left, words) ← negatable files fuel first words
    if role (words.drop 1) = .conjunction then
      let (right, words) ← allOf files fuel (role (words.drop 2)) (words.drop 2)
      return (left && right, words)
    return (left, words)

/-- A condition that may be negated. -/
def negatable (files : FileSystem) : Nat → Role → List (List Char) → Found
  | 0, _, words => .ok (false, words)
  | fuel + 1, first, words =>
    if first = .negation then do
      let next := role (words.drop 1)
      let (truth, words) ← negatable files fuel next (if next = .nothing then words else words.drop 1)
      return (!truth, words)
    else primary files fuel first words

/-- A condition in parentheses or on operands. -/
def primary (files : FileSystem) : Nat → Role → List (List Char) → Found
  | 0, _, words => .ok (false, words)
  | fuel + 1, first, words =>
    match first with
    | .nothing => .ok (false, words)
    | .openParenthesis =>
      let inside := words.drop 1
      if role inside = .closeParenthesis then .ok (false, inside)
      else do
        let (truth, words) ← anyOf files fuel (role inside) inside
        if role (words.drop 1) ≠ .closeParenthesis then throw .parenthesisExpected
        return (truth, words.drop 1)
    | .unary operator =>
      match words.drop 1 with
      | [] => .error (.argumentExpected operator.toList)
      | operand :: rest => do return (← unary files operator operand, operand :: rest)
    | _ =>
      match role (words.drop 1), words with
      | .binary operator, a :: _ :: rest =>
        match rest with
        | [] => .error (.argumentExpected operator.toList)
        | b :: rest => do return (← binary files operator a b, b :: rest)
      | _, a :: _ => .ok (!a.isEmpty, words)
      | _, [] => .ok (false, [])

end

/-- The value of a condition that is read from its first word. -/
def whole (files : FileSystem) (first : Role) (words : List (List Char)) : Except Error Bool := do
  let (truth, rest) ← anyOf files (4 * words.length + 8) first words
  match rest with
  | word :: _ :: _ => throw (.unexpectedOperator word)
  | _ => return truth

/-- Whether a condition comes out other than it is `negated` to. Three words with an operator between two operands
are a comparison in any case; three or four may have parentheses around them or an exclamation mark in front, of
which a second one changes nothing. -/
def evalFrom (files : FileSystem) (negated : Bool) (words : List (List Char)) : Except Error Bool :=
  match words with
  | [] => .ok negated
  | first :: rest =>
    let value := fun (role : Role) (words : List (List Char)) =>
      (whole files role words).map (fun truth => truth != negated)
    let isShort := rest.length == 2 || rest.length == 3
    let isComparison := match rest with | [operator, _] => isBinary operator | _ => false
    if isComparison then value .operand words
    else if isShort && first == ['('] && rest.getLast? == some [')'] then value (role rest.dropLast) rest.dropLast
    else if isShort && first == ['!'] then evalFrom files true rest
    else value (role words) words

/-- The value of a condition. -/
def eval (files : FileSystem) (words : List (List Char)) : Except Error Bool :=
  evalFrom files false words

end Manuscript.Shell.Condition
