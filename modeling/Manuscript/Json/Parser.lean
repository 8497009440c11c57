import Manuscript.Json.Token

/-!
# From text to JSON value

A value is read from the tokens of its text. Nesting is not limited here; a reader that wants values of a certain
shape limits the depth of what it looks at.
-/

namespace Manuscript.Json

namespace Parser

mutual

/-- The value at the start of the tokens, and what follows it. -/
def value? : Nat → List Token → Option (Json × List Token)
  | 0, _ => none
  | fuel + 1, tokens =>
    match tokens with
    | .null :: rest => some (.null, rest)
    | .bool b :: rest => some (.bool b, rest)
    | .number n :: rest => some (.number n, rest)
    | .string s :: rest => some (.string s, rest)
    | .openBracket :: .closeBracket :: rest => some (.array [], rest)
    | .openBracket :: rest =>
      match items? fuel rest with
      | some (items, rest) => some (.array items, rest)
      | none => none
    | .openBrace :: .closeBrace :: rest => some (.object [], rest)
    | .openBrace :: rest =>
      match members? fuel rest with
      | some (members, rest) => some (.object members, rest)
      | none => none
    | _ => none

/-- The items of an array that is not empty, through its closing bracket. -/
def items? : Nat → List Token → Option (List Json × List Token)
  | 0, _ => none
  | fuel + 1, tokens =>
    match value? fuel tokens with
    | some (item, .comma :: rest) =>
      match items? fuel rest with
      | some (items, rest) => some (item :: items, rest)
      | none => none
    | some (item, .closeBracket :: rest) => some ([item], rest)
    | _ => none

/-- The members of an object that is not empty, through its closing brace. -/
def members? : Nat → List Token → Option (List (Option String × Json) × List Token)
  | 0, _ => none
  | fuel + 1, tokens =>
    match tokens with
    | .string key :: .colon :: rest =>
      match value? fuel rest with
      | some (value, .comma :: rest) =>
        match members? fuel rest with
        | some (members, rest) => some ((key, value) :: members, rest)
        | none => none
      | some (value, .closeBrace :: rest) => some ([(key, value)], rest)
      | _ => none
    | _ => none

end

end Parser

/-- The value that a text is, with nothing but blanks around it. Two steps for each token are enough. -/
def parse? (s : List Char) : Option Json :=
  match tokens? s with
  | none => none
  | some tokens =>
    match Parser.value? (2 * tokens.length + 2) tokens with
    | some (value, []) => some value
    | _ => none

end Manuscript.Json
