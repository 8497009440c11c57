import Manuscript.Json
import Manuscript.Template.Value

/-!
# JSON as template values

Data for a template may come as JSON. Integers of up to 64 bits stay integers. A decimal becomes a double in two
steps, each of which rounds: its digits, as far as they fit into 64 bits, become a double, and that is multiplied or
divided by a power of ten. The result may differ in its last bits from the double nearest to the decimal.
-/

namespace Manuscript.Template

/-- Digits without those at the end that do not fit into 64 bits, with the exponent that makes up for them. -/
def fittingDigits (digits : Nat) (exponent : Int) : Nat × Int :=
  if digits < Nat.pow 2 64 then (digits, exponent) else fittingDigits (digits / 10) (exponent + 1)
termination_by digits
decreasing_by
  have : 0 < Nat.pow 2 64 := by decide
  omega

/-- A power of ten as a double. -/
def powerOfTen (exponent : Nat) : Float :=
  Decimal.toFloat false 1 exponent

/-- A double times a power of ten. Divisors beyond the range of doubles are split. -/
def scaleFloat (x : Float) (exponent : Int) : Float :=
  if 0 ≤ exponent then x * powerOfTen exponent.toNat
  else if -exponent ≤ 308 then x / powerOfTen (-exponent).toNat
  else if x == 0 then x
  else scaleFloat (x / powerOfTen 308) (exponent + 308)
termination_by exponent.natAbs
decreasing_by omega

/-- A decimal as a double. -/
def floatOfDecimal (negative : Bool) (digits : Nat) (exponent : Int) : Float :=
  let (fitting, exponent) := fittingDigits digits exponent
  let size := scaleFloat (Decimal.ofInt fitting) exponent
  if negative then -size else size

/-- A number of a JSON text. -/
def Value.ofNumber : Json.Number → Value
  | .int n =>
    if -Int.pow 2 63 ≤ n && n < Int.pow 2 64 then .int n else .float (floatOfDecimal (n < 0) n.natAbs 0)
  | .decimal negative digits exponent => .float (floatOfDecimal negative digits exponent)

/-- A JSON value as a template sees it; members stand in the order of their names. -/
def Value.ofJson : Json → Value
  | .null => .none
  | .bool b => .bool b
  | .number n => .ofNumber n
  | .string s => .ofString (s.getD "")
  | .array items => .list (ofItems items)
  | .object members => .ofEntries (ofMembers members)
where
  /-- The values of an array. -/
  ofItems : List Json → List Value
    | [] => []
    | item :: rest => ofJson item :: ofItems rest
  /-- The names and values of members. -/
  ofMembers : List (Option String × Json) → List (Value × Value)
    | [] => []
    | (name, value) :: rest => (.ofString (name.getD ""), ofJson value) :: ofMembers rest

end Manuscript.Template
