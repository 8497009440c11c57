import Manuscript.Decimal.Shortest
import Manuscript.Template.Value
import Manuscript.Text.Hidden

/-!
# The text of values

How a value is written into the output. Inside lists and maps, strings stand in quotes with escapes, and very great
and very small numbers have an exponent.
-/

namespace Manuscript.Template.Value

/-- The decimal digits of an integer, with a minus sign in front where it is negative. -/
def integerText (n : Int) : List Char :=
  (if n < 0 then ['-'] else []) ++ Nat.toDigits 10 n.natAbs

/-- A character inside quotes. One that cannot be seen is shown by its code point. -/
def quotedChar (c : Char) : List Char :=
  if c = '"' then ['\\', '"']
  else if c = '\\' then ['\\', '\\']
  else if c = '\n' then ['\\', 'n']
  else if c = '\r' then ['\\', 'r']
  else if c = '\t' then ['\\', 't']
  else if c.toNat = 0 then ['\\', '0']
  else if Text.isHidden c then ['\\', 'u', '{'] ++ Nat.toDigits 16 c.toNat ++ ['}']
  else [c]

/-- A text in quotes. -/
def quoted (s : List Char) : List Char :=
  '"' :: (s.flatMap quotedChar ++ ['"'])

/-- The text of a truth value. -/
def boolText (b : Bool) : List Char :=
  if b then "True".toList else "False".toList

/-- A value as it stands inside a list or a map. -/
def inner : Value → List Char
  | .undefined => "undefined".toList
  | .none => "None".toList
  | .bool b => boolText b
  | .int n => integerText n
  | .float x => Decimal.text true x
  | .string s => quoted s
  | .list [] => ['[', ']']
  | .list (item :: rest) => '[' :: (item.inner ++ (listRest rest ++ [']']))
  | .series [] => ['[', ']']
  | .series (item :: rest) => '[' :: (item.inner ++ (listRest rest ++ [']']))
  | .map [] => ['{', '}']
  | .map ((key, value) :: rest) => '{' :: (key.inner ++ (": ".toList ++ (value.inner ++ (mapRest rest ++ ['}']))))
  | .round _ _ index length _ _ => roundText index length
where
  /-- The items of a list after the first. -/
  listRest : List Value → List Char
    | [] => []
    | item :: rest => ", ".toList ++ (item.inner ++ listRest rest)
  /-- The entries of a map after the first. -/
  mapRest : List (Value × Value) → List Char
    | [] => []
    | (key, value) :: rest => ", ".toList ++ (key.inner ++ (": ".toList ++ (value.inner ++ mapRest rest)))

/-- The text of a value. -/
def text : Value → List Char
  | .undefined => []
  | .float x => Decimal.text false x
  | .string s => s
  | value => value.inner

/-- What a template writes for a value: nothing for none. -/
def output : Value → List Char
  | .none => []
  | value => value.text

end Manuscript.Template.Value
