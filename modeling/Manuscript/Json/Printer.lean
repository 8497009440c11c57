import Manuscript.Json

/-!
# From JSON value to text

The compact text of a value: no blanks, members in the order of the value, and strings with the least escapes that
JSON demands.
-/

namespace Manuscript.Json

namespace Printer

/-- The hexadecimal digit of a number below sixteen, in lower case. -/
def hexDigit (n : Nat) : Char :=
  if n < 10 then Char.ofNat ('0'.toNat + n) else Char.ofNat ('a'.toNat + (n - 10))

/-- A character as it stands in a string. -/
def escapeChar (c : Char) : List Char :=
  if c = '"' then ['\\', '"']
  else if c = '\\' then ['\\', '\\']
  else if c = '\x08' then ['\\', 'b']
  else if c = '\x0c' then ['\\', 'f']
  else if c = '\n' then ['\\', 'n']
  else if c = '\r' then ['\\', 'r']
  else if c = '\t' then ['\\', 't']
  else if c.toNat < 0x20 then ['\\', 'u', '0', '0', hexDigit (c.toNat / 16), hexDigit (c.toNat % 16)]
  else [c]

/-- A text in quotes. -/
def quoted (s : List Char) : List Char :=
  '"' :: (s.flatMap escapeChar ++ ['"'])

/-- The escape for a first half of a surrogate pair, in quotes: a string without text. -/
def quotedHalf : List Char :=
  "\"\\ud800\"".toList

/-- A string, with or without text. -/
def stringText : Option String → List Char
  | some text => quoted text.toList
  | none => quotedHalf

/-- The decimal digits of an integer with a minus sign in front where it is negative. -/
def integerText (n : Int) : List Char :=
  match n with
  | .ofNat n => Nat.toDigits 10 n
  | .negSucc n => '-' :: Nat.toDigits 10 (n + 1)

/-- A number. -/
def numberText : Number → List Char
  | .int n => integerText n
  | .decimal negative digits exponent =>
    (if negative then ['-'] else []) ++ Nat.toDigits 10 digits ++ 'e' :: integerText exponent

end Printer

open Printer

/-- The text of a value. -/
def print : Json → List Char
  | .null => "null".toList
  | .bool true => "true".toList
  | .bool false => "false".toList
  | .number n => numberText n
  | .string s => stringText s
  | .array [] => ['[', ']']
  | .array (item :: rest) => '[' :: (item.print ++ items rest)
  | .object [] => ['{', '}']
  | .object ((key, value) :: rest) => '{' :: (stringText key ++ ':' :: (value.print ++ members rest))
where
  /-- The items of an array after the first, through its closing bracket. -/
  items : List Json → List Char
    | [] => [']']
    | item :: rest => ',' :: (item.print ++ items rest)
  /-- The members of an object after the first, through its closing brace. -/
  members : List (Option String × Json) → List Char
    | [] => ['}']
    | (key, value) :: rest => ',' :: (stringText key ++ ':' :: (value.print ++ members rest))

end Manuscript.Json
