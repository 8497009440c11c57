import Manuscript.Decimal.Nearest

/-!
# Shortest decimals

The text of a floating-point number: the fewest significant digits from which the same double is read back, and of
those the nearest to the value. A double is `m * 2 ^ q`; the decimals that are read as it lie between the midpoints
to its neighbours, and the midpoints themselves count when `m` is even.
-/

namespace Manuscript.Decimal

/-- The decimals that are read as one double: those from `low / den` to `high / den`, around `value / den`; `closed`
says whether the ends count. -/
structure Interval where
  low : Nat
  value : Nat
  high : Nat
  den : Nat
  closed : Bool

/-- The interval of the double with the given bits, which has no sign and is neither nought nor infinite nor no
number. -/
def Interval.ofBits (bits : Nat) : Interval :=
  let field := bits / Nat.pow 2 52
  let fraction := bits % Nat.pow 2 52
  let m := if field = 0 then fraction else fraction + Nat.pow 2 52
  -- The value is `m * 2 ^ q / 2 ^ 1074`, and the neighbour below a power of two is half as far away.
  let q := if field = 0 then 0 else field - 1
  let narrow := fraction == 0 && decide (1 < field)
  { low := (if narrow then 4 * m - 1 else 4 * m - 2) * Nat.pow 2 q
    value := 4 * m * Nat.pow 2 q
    high := (4 * m + 2) * Nat.pow 2 q
    den := 4 * Nat.pow 2 1074
    closed := m % 2 == 0 }

/-- Whether `n * unit / scale` lies in the interval. -/
def Interval.holds (i : Interval) (n unit scale : Nat) : Bool :=
  let x := n * unit * i.den
  if i.closed then i.low * scale ≤ x && x ≤ i.high * scale else i.low * scale < x && x < i.high * scale

/-- The multiple of `10 ^ exponent` in the interval that is nearest to the value, when there is one. -/
def Interval.multiple? (i : Interval) (exponent : Int) : Option Nat :=
  let unit := if 0 ≤ exponent then Nat.pow 10 exponent.toNat else 1
  let scale := if 0 ≤ exponent then 1 else Nat.pow 10 (-exponent).toNat
  let below := i.value * scale / (unit * i.den)
  let rest := i.value * scale % (unit * i.den)
  let first := if 2 * rest ≤ unit * i.den then below else below + 1
  let second := if 2 * rest ≤ unit * i.den then below + 1 else below
  if first ≠ 0 && i.holds first unit scale then some first
  else if second ≠ 0 && i.holds second unit scale then some second
  else none

/-- The first multiple found among the exponents from `exponent` downwards. -/
def Interval.search (i : Interval) : Nat → Int → Nat × Int
  | 0, exponent => (0, exponent)
  | fuel + 1, exponent =>
    match i.multiple? exponent with
    | some n => (n, exponent)
    | none => i.search fuel (exponent - 1)

/-- The shortest digits and the exponent of ten of a double given by its bits without a sign. The search starts
above the leading digit, and seventeen digits always suffice. -/
def shortest (bits : Nat) : Nat × Int :=
  let i := Interval.ofBits bits
  let magnitude : Int := ((bitLength i.value : Int) - bitLength i.den) * 3 / 10
  i.search 24 (magnitude + 2)

/-- Digits with the point behind the unit: there is always a fraction, and never an exponent. -/
def positional (digits : List Char) (exponent : Int) : List Char :=
  if 0 ≤ exponent then digits ++ List.replicate exponent.toNat '0' ++ ['.', '0']
  else
    let places := (-exponent).toNat
    if places < digits.length then digits.take (digits.length - places) ++ '.' :: digits.drop (digits.length - places)
    else '0' :: '.' :: (List.replicate (places - digits.length) '0' ++ digits)

/-- Digits with the point behind the first of them, and an exponent. -/
def scientific (digits : List Char) (exponent : Int) : List Char :=
  let leading := exponent + digits.length - 1
  let fraction := digits.drop 1
  digits.take 1 ++ ((if fraction.isEmpty then [] else '.' :: fraction) ++
    ('e' :: ((if leading < 0 then ['-'] else []) ++ Nat.toDigits 10 leading.natAbs)))

/-- Whether a number is written with an exponent where numbers are kept short: from `10 ^ 16` on, and below
`10 ^ -4`. -/
def isExtreme (digits : List Char) (exponent : Int) : Bool :=
  let leading := exponent + digits.length - 1
  16 ≤ leading || leading < -4

/-- The text of a double; `short` allows an exponent for numbers that are very great or very small. -/
def text (short : Bool) (x : Float) : List Char :=
  let bits := x.toBits.toNat
  let magnitude := bits % Nat.pow 2 63
  let sign := if Nat.pow 2 63 ≤ bits then ['-'] else []
  if 2047 * Nat.pow 2 52 < magnitude then "NaN".toList
  else if magnitude = 2047 * Nat.pow 2 52 then sign ++ "inf".toList
  else if magnitude = 0 then sign ++ "0.0".toList
  else
    let (n, exponent) := shortest magnitude
    let digits := Nat.toDigits 10 n
    sign ++ (if short && isExtreme digits exponent then scientific digits exponent else positional digits exponent)

end Manuscript.Decimal
