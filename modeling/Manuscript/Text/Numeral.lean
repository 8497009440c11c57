/-!
# Numerals

Natural numbers in decimal digits.
-/

namespace Manuscript.Text

/-- The value of a decimal digit. -/
def digit? (c : Char) : Option Nat :=
  if '0' ≤ c && c ≤ '9' then some (c.toNat - '0'.toNat) else none

/-- The value of digits read after `value`. -/
def digitsFrom? (value : Nat) : List Char → Option Nat
  | [] => some value
  | c :: rest => (digit? c).bind (fun d => digitsFrom? (value * 10 + d) rest)

/-- The value of a text of one or more digits. -/
def digits? (s : List Char) : Option Nat :=
  if s.isEmpty then none else digitsFrom? 0 s

/-- The value of a numeral below `bound`: one or more digits, which may follow a plus sign. -/
def unsigned? (bound : Nat) (s : List Char) : Option Nat :=
  let value :=
    match s with
    | '+' :: rest => digits? rest
    | _ => digits? s
  value.filter (· < bound)

/-- The decimal digits of a natural number. -/
def ofNat (n : Nat) : List Char :=
  Nat.toDigits 10 n

end Manuscript.Text
