/-!
# The double nearest to a decimal

Reading a decimal numeral as a floating-point number: of the doubles, the one nearest to the value, and of two
equally near the one with the even significand. The work is done on natural numbers; only the last step makes a
`Float` from its bits.
-/

namespace Manuscript.Decimal

/-- The number of binary digits. -/
def bitLength (n : Nat) : Nat :=
  if n = 0 then 0 else n.log2 + 1

/-- The quotient rounded to the nearest natural number, a half going to the even neighbour. -/
def roundDiv (num den : Nat) : Nat :=
  let quotient := num / den
  let rest := num % den
  if den < 2 * rest || (2 * rest == den && quotient % 2 == 1) then quotient + 1 else quotient

/-- The fraction `num / den` over `2 ^ exponent`, as a fraction. -/
def scaleDown (num den : Nat) (exponent : Int) : Nat × Nat :=
  if 0 ≤ exponent then (num, den * Nat.pow 2 exponent.toNat) else (num * Nat.pow 2 (-exponent).toNat, den)

/-- The exponent of two that makes the significand of `num / den` have 53 binary digits, but no less than that of
the least double. -/
def unitExponent (num den : Nat) : Int :=
  let guess : Int := (bitLength num : Int) - bitLength den - 53
  let scaled := scaleDown num den guess
  let exponent := if Nat.pow 2 53 ≤ scaled.1 / scaled.2 then guess + 1 else guess
  max exponent (-1074)

/-- The bits of the double nearest to `num / den` without its sign; those of infinity when the value is too great. -/
def magnitudeBits (num den : Nat) : Nat :=
  if num = 0 then 0
  else
    let exponent := unitExponent num den
    let scaled := scaleDown num den exponent
    let significand := roundDiv scaled.1 scaled.2
    -- A significand of `2 ^ 53` carries into the exponent by itself.
    let bits := (exponent + 1074).toNat * Nat.pow 2 52 + significand
    min bits (2047 * Nat.pow 2 52)

/-- The bits of the double nearest to `digits * 10 ^ exponent`. Exponents that are out of reach of a double are not
computed with. -/
def nearestBits (digits : Nat) (exponent : Int) : Nat :=
  let size : Int := (bitLength digits : Int) * 3 / 10 + exponent
  if digits = 0 || size < -330 then 0
  else if 310 < size then 2047 * Nat.pow 2 52
  else if 0 ≤ exponent then magnitudeBits (digits * Nat.pow 10 exponent.toNat) 1
  else magnitudeBits digits (Nat.pow 10 (-exponent).toNat)

/-- The double nearest to `± digits * 10 ^ exponent`. -/
def toFloat (negative : Bool) (digits : Nat) (exponent : Int) : Float :=
  Float.ofBits (UInt64.ofNat (nearestBits digits exponent + (if negative then Nat.pow 2 63 else 0)))

/-- Whether a decimal is too great for a double. -/
def overflows (digits : Nat) (exponent : Int) : Bool :=
  nearestBits digits exponent == 2047 * Nat.pow 2 52

end Manuscript.Decimal
