import Manuscript.Decimal.Nearest

/-!
# Doubles taken apart

A finite double is a whole number times a power of two. Taken apart, doubles can be compared, divided with remainder
and turned into integers without rounding.
-/

namespace Manuscript.Decimal

/-- A finite double: `± significand * 2 ^ (exponent - 1074)`. -/
structure Binary where
  negative : Bool
  significand : Nat
  exponent : Nat
  deriving DecidableEq, Inhabited

namespace Binary

/-- The parts of a double, unless it is infinite or no number. -/
def ofFloat? (x : Float) : Option Binary :=
  let bits := x.toBits.toNat
  let field := bits / Nat.pow 2 52 % Nat.pow 2 11
  let fraction := bits % Nat.pow 2 52
  if field = 2047 then none
  else
    some
      { negative := Nat.pow 2 63 ≤ bits
        significand := if field = 0 then fraction else fraction + Nat.pow 2 52
        exponent := field - 1 }

/-- The size of a double in units of the least positive one. -/
def units (b : Binary) : Nat :=
  b.significand * Nat.pow 2 b.exponent

/-- The whole number that a double is. -/
def toInt? (b : Binary) : Option Int :=
  if b.units % Nat.pow 2 1074 = 0 then
    let size : Int := b.units / Nat.pow 2 1074
    some (if b.negative then -size else size)
  else none

end Binary

/-- The whole number that a double is. -/
def toInt? (x : Float) : Option Int :=
  (Binary.ofFloat? x).bind Binary.toInt?

/-- The double nearest to an integer. -/
def ofInt (n : Int) : Float :=
  toFloat (n < 0) n.natAbs 0

/-- The remainder of a division whose quotient is rounded toward nought; it has the sign of the dividend. -/
def remainder (x y : Float) : Float :=
  match Binary.ofFloat? x, Binary.ofFloat? y with
  | some a, some b =>
    if b.units = 0 then x / y - x / y
    else
      let size := magnitudeBits (a.units % b.units) (Nat.pow 2 1074)
      Float.ofBits (UInt64.ofNat (size + (if a.negative then Nat.pow 2 63 else 0)))
  | some _, none => if y.isNaN then y else x
  | none, _ => x - x

/-- The quotient rounded toward nought. -/
def truncate (x : Float) : Float :=
  if x < 0 then x.ceil else x.floor

/-- The quotient of the division whose remainder is not negative. -/
def floorQuotient (x y : Float) : Float :=
  let quotient := truncate (x / y)
  if remainder x y < 0 then (if 0 < y then quotient - 1 else quotient + 1) else quotient

/-- A number for each double such that a smaller double has a smaller one; nought with a minus sign comes before
nought, and no number comes last. -/
def orderKey (x : Float) : Int :=
  let bits := x.toBits.toNat
  if Nat.pow 2 63 ≤ bits then -((bits - Nat.pow 2 63 : Nat) : Int) - 1 else bits

end Manuscript.Decimal
