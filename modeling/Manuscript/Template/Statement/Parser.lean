import Manuscript.Template.Expr.Parser
import Manuscript.Template.Statement

/-!
# From tokens to statements

A statement opens with its keyword and takes the parts of the template up to the keyword that ends it. Statements
and expressions may be nested in one another only to a limited depth.
-/

namespace Manuscript.Template

namespace Parser

/-- The names that stand for a value of their own, and can have no other. -/
def reservedNames : List String :=
  ["true", "True", "false", "False", "none", "None", "loop", "self"]

/-- A name that can be assigned to. -/
def targetName? : List Token → Result String
  | .name name :: rest => if reservedNames.contains name then none else some (name, rest)
  | _ => none

/-- Whether the tokens go on with the end of a list of targets. -/
def endsTargets : List Token → Bool
  | .symbol .closeParen :: _ => true
  | .closeValue :: _ => true
  | .closeStatement :: _ => true
  | .name "in" :: _ => true
  | _ => false

mutual

/-- One target, or several with commas between them. -/
def target? : Nat → List Token → Result Target
  | 0, _ => none
  | fuel + 1, tokens =>
    match targets? fuel true tokens with
    | some ([only], false, rest) => some (only, rest)
    | some (several, _, rest) => some (.items several, rest)
    | none => none

/-- Targets with commas between them, and whether there was a comma. -/
def targets? : Nat → Bool → List Token → Option (List Target × Bool × List Token)
  | 0, _, _ => none
  | fuel + 1, first, tokens =>
    match nextPart? first tokens with
    | none => none
    | some rest =>
      if endsTargets rest then some ([], !first, rest)
      else
        let found : Result Target :=
          match rest with
          | .symbol .openParen :: rest =>
            match target? fuel rest with
            | some (inner, .symbol .closeParen :: rest) => some (inner, rest)
            | _ => none
          | _ => (targetName? rest).map (fun r => (Target.name r.1, r.2))
        match found with
        | none => none
        | some (one, .symbol .comma :: rest) =>
          (targets? fuel false (.symbol .comma :: rest)).map (fun r => (one :: r.1, true, r.2.2))
        | some (one, rest) => some ([one], !first, rest)

end

/-- The members behind the name of a target. -/
def skipMembers? : Nat → List Token → Option (List Token)
  | 0, _ => none
  | fuel + 1, tokens =>
    match tokens with
    | .symbol .dot :: .name _ :: rest => skipMembers? fuel rest
    | .symbol .dot :: _ => none
    | _ => some tokens

/-- A name or a member of a value at the start of the tokens. -/
def assignedName? (tokens : List Token) : Result Target :=
  match targetName? tokens with
  | none => none
  | some (name, rest) =>
    match rest with
    | .symbol .dot :: _ => (skipMembers? (rest.length + 1) rest).map (Target.member, ·)
    | _ => some (.name name, rest)

/-- The targets of an assignment after the first, each behind a comma; a comma may stand behind the last. -/
def moreTargets? : Nat → List Token → Result (List Target)
  | 0, _ => none
  | fuel + 1, tokens =>
    match tokens with
    | .symbol .comma :: .symbol .assign :: rest => some ([], .symbol .assign :: rest)
    | .symbol .comma :: .symbol .openParen :: rest =>
      match target? (2 * tokens.length + 2) rest with
      | some (target, .symbol .closeParen :: rest) => (moreTargets? fuel rest).map (fun r => (target :: r.1, r.2))
      | _ => none
    | .symbol .comma :: rest =>
      match assignedName? rest with
      | some (target, rest) => (moreTargets? fuel rest).map (fun r => (target :: r.1, r.2))
      | none => none
    | _ => some ([], tokens)

/-- What is assigned to, and whether that is one name, which can also take what further parts of the template write. -/
def assigned? (tokens : List Token) : Option (Target × Bool × List Token) :=
  let first : Option (Target × Bool × List Token) :=
    match tokens with
    | .symbol .openParen :: rest =>
      match target? (2 * tokens.length + 2) rest with
      | some (target, .symbol .closeParen :: rest) => some (target, false, rest)
      | _ => none
    | _ => (assignedName? tokens).map (fun r => (r.1, true, r.2))
  match first with
  | some (target, _, .symbol .comma :: rest) =>
    (moreTargets? (rest.length + 1) (.symbol .comma :: rest)).map (fun r => (.items (target :: r.1), false, r.2))
  | _ => first

/-- Filters behind one another, each after a bar, and what follows. -/
def filterChain? : Nat → Nat → List Token → Result (List FilterCall)
  | 0, _, _ => none
  | fuel + 1, depth, tokens =>
    match tokens with
    | .symbol .pipe :: .name name :: .symbol .openParen :: rest =>
      match Expr.argumentsOfTokens? depth rest with
      | some (arguments, rest) => (filterChain? fuel depth rest).map (fun r => ((name, arguments) :: r.1, r.2))
      | none => none
    | .symbol .pipe :: .name name :: rest =>
      (filterChain? fuel depth rest).map (fun r => ((name, []) :: r.1, r.2))
    | .symbol .pipe :: _ => none
    | _ => some ([], tokens)

/-- What follows the end of a statement's tag. -/
def afterTag? : List Token → Option (List Token)
  | .closeStatement :: rest => some rest
  | _ => none

mutual

/-- The parts of a template up to a statement that opens with one of the given words, or up to the end, and the
tokens from that word on. -/
def body? : Nat → Nat → List String → List Token → Result (List Statement)
  | 0, _, _, _ => none
  | fuel + 1, depth, words, tokens =>
    match tokens with
    | [] => some ([], [])
    | .text text :: rest => (body? fuel depth words rest).map (fun r => (.text text :: r.1, r.2))
    | .openValue :: rest =>
      match Expr.ofTokens? depth rest with
      | some (value, .closeValue :: rest) =>
        (body? fuel depth words rest).map (fun r => (.output value :: r.1, r.2))
      | _ => none
    | .openStatement :: .name word :: rest =>
      if words.contains word then some ([], .name word :: rest)
      else
        match depth with
        | 0 => none
        | inner + 1 =>
          match statement? fuel inner word rest with
          | some (statement, .closeStatement :: rest) =>
            (body? fuel depth words rest).map (fun r => (statement :: r.1, r.2))
          | _ => none
    | _ => none

/-- A statement with the given keyword, up to the end of its last tag. -/
def statement? : Nat → Nat → String → List Token → Result Statement
  | 0, _, _, _ => none
  | fuel + 1, depth, word, tokens =>
    match word with
    | "if" => branch? fuel depth tokens
    | "for" => loop? fuel depth tokens
    | "set" => assignment? fuel depth tokens
    | _ => none

/-- A branch after its keyword. -/
def branch? : Nat → Nat → List Token → Result Statement
  | 0, _, _ => none
  | fuel + 1, depth, tokens =>
    match Expr.operandOfTokens? depth tokens with
    | some (condition, .closeStatement :: rest) =>
      match body? fuel depth ["endif", "else", "elif"] rest with
      | some (yes, .name "else" :: .closeStatement :: rest) =>
        (body? fuel depth ["endif"] rest).map (fun r => (.branch condition yes r.1, r.2.drop 1))
      | some (yes, .name "elif" :: rest) =>
        (branch? fuel depth rest).map (fun r => (.branch condition yes [r.1], r.2))
      | some (yes, .name "endif" :: rest) => some (.branch condition yes [], rest)
      | _ => none
    | _ => none

/-- A loop after its keyword. -/
def loop? : Nat → Nat → List Token → Result Statement
  | 0, _, _ => none
  | fuel + 1, depth, tokens =>
    match target? (2 * tokens.length + 2) tokens with
    | some (target, .name "in" :: rest) =>
      match Expr.operandOfTokens? depth rest with
      | none => none
      | some (items, rest) =>
        let condition : Result (Option Expr) :=
          match rest with
          | .name "if" :: rest => (Expr.ofTokens? depth rest).map (fun r => (some r.1, r.2))
          | _ => some (none, rest)
        match condition with
        | none => none
        | some (condition, rest) =>
          let (again, rest) :=
            match rest with
            | .name "recursive" :: rest => (true, rest)
            | _ => (false, rest)
          match afterTag? rest with
          | none => none
          | some rest =>
            match body? fuel depth ["endfor", "else"] rest with
            | some (body, .name "else" :: .closeStatement :: rest) =>
              (body? fuel depth ["endfor"] rest).map
                (fun r => (.loop target items condition again body r.1, r.2.drop 1))
            | some (body, .name "endfor" :: rest) => some (.loop target items condition again body [], rest)
            | _ => none
    | _ => none

/-- An assignment after its keyword: of a value, or of what the parts up to `endset` write. -/
def assignment? : Nat → Nat → List Token → Result Statement
  | 0, _, _ => none
  | fuel + 1, depth, tokens =>
    match assigned? tokens with
    | none => none
    | some (target, single, rest) =>
      match rest with
      | .symbol .assign :: rest =>
        (Expr.ofTokens? depth rest).map (fun r => (.assign target r.1, r.2))
      | _ =>
        if single then
          match filterChain? (rest.length + 1) depth rest with
          | some (filters, .closeStatement :: rest) =>
            (body? fuel depth ["endset"] rest).map (fun r => (.capture target filters r.1, r.2.drop 1))
          | _ => none
        else none

end

/-- How deep statements and expressions may be nested. -/
def maxDepth : Nat := 150

end Parser

/-- The parts of a template, from its tokens. -/
def Statement.ofTokens? (tokens : List Token) : Option (List Statement) :=
  match Parser.body? (4 * (tokens.length + 1)) Parser.maxDepth [] tokens with
  | some (statements, []) => some statements
  | _ => none

end Manuscript.Template
