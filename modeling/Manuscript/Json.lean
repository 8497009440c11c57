/-!
# JSON values

A JSON text as data, close enough to the text that a reader who wants a string, a number or a set of fields can
still refuse what the text offers: the members of an object stand in the order of the text with repetitions, a
number keeps its exact decimal value, and a string that names half of a surrogate pair is kept as a string without
text.
-/

namespace Manuscript

/-- A number of a JSON text: an integer, or a decimal with a fraction or an exponent. -/
inductive Json.Number where
  /-- Digits only, with an optional minus sign. -/
  | int (value : Int)
  /-- The value `± digits * 10 ^ exponent`. The text `-0` is also read as a decimal: it is not an integer. -/
  | decimal (negative : Bool) (digits : Nat) (exponent : Int)
  deriving DecidableEq, Inhabited

/-- A JSON value. -/
inductive Json where
  | null
  | bool (value : Bool)
  | number (value : Json.Number)
  /-- A string; `none` stands for one with an escape for half of a surrogate pair, which names no character. -/
  | string (text : Option String)
  | array (items : List Json)
  /-- The members in the order of the text. -/
  | object (members : List (Option String × Json))
  deriving Inhabited

namespace Json

/-- A string value. -/
def ofString (text : String) : Json :=
  .string (some text)

/-- A natural number as a value. -/
def ofNat (value : Nat) : Json :=
  .number (.int value)

/-- A string, or null for none. -/
def ofOption (text : Option String) : Json :=
  match text with
  | some text => ofString text
  | none => .null

/-- An object with the given members. -/
def ofMembers (members : List (String × Json)) : Json :=
  .object (members.map (fun m => (some m.1, m.2)))

/-- The text of a string value. -/
def string? : Json → Option String
  | .string text => text
  | _ => none

/-- How deep arrays and objects are nested. -/
def depth : Json → Nat
  | .array items => depths items + 1
  | .object members => memberDepths members + 1
  | _ => 0
where
  /-- The greatest depth in a list. -/
  depths : List Json → Nat
    | [] => 0
    | item :: rest => max item.depth (depths rest)
  /-- The greatest depth of a member's value. -/
  memberDepths : List (Option String × Json) → Nat
    | [] => 0
    | (_, value) :: rest => max value.depth (memberDepths rest)

end Json

end Manuscript
