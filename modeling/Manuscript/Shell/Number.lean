import Manuscript.Shell.Character

/-!
# Numbers of the shell

Integers of 64 bits as scripts write them: decimal, octal behind a nought, or hexadecimal behind `0x`. A numeral is
read as far as it goes, and one that is too great is the greatest integer.
-/

namespace Manuscript.Shell

/-- The greatest integer. -/
def maxInteger : Int := 9223372036854775807

/-- The least integer. -/
def minInteger : Int := -9223372036854775808

/-- An integer of 64 bits that is the same but for multiples of two to the 64. -/
def wrap (n : Int) : Int :=
  n.bmod (Nat.pow 2 64)

/-- The value of a digit in some base. -/
def digit? (base : Nat) (c : Char) : Option Nat :=
  let value :=
    if c.isDigit then c.toNat - 48
    else if 'a' ≤ c && c ≤ 'z' then c.toNat - 87
    else if 'A' ≤ c && c ≤ 'Z' then c.toNat - 55
    else base
  if value < base then some value else none

/-- The number that digits are. -/
def digitsValue (base : Nat) (s : List Char) : Nat :=
  s.foldl (fun n c => base * n + (digit? base c).getD 0) 0

/-- A numeral at the start of a text. -/
structure Numeral where
  negative : Bool
  size : Nat
  /-- What follows the numeral. -/
  rest : List Char
  deriving DecidableEq, Inhabited

/-- The digits in some base at the start of a text, and the rest. -/
def spanDigits (base : Nat) (s : List Char) : List Char × List Char :=
  s.span (fun c => (digit? base c).isSome)

/-- A numeral without a sign at the start of a text. In base nought its first digits say which base it has. -/
def unsignedNumeral? (base : Nat) (s : List Char) : Option (Nat × List Char) :=
  let read := fun (base : Nat) (s : List Char) =>
    let (digits, rest) := spanDigits base s
    if digits.isEmpty then none else some (digitsValue base digits, rest)
  let hexadecimal := fun (digits : List Char) (rest : List Char) => (read 16 digits).or (some (0, rest))
  match base, s with
  | 0, '0' :: 'x' :: digits => hexadecimal digits ('x' :: digits)
  | 0, '0' :: 'X' :: digits => hexadecimal digits ('X' :: digits)
  | 0, '0' :: _ => read 8 s
  | 0, _ => read 10 s
  | base, _ => read base s

/-- A numeral with blanks and a sign in front at the start of a text. -/
def numeral? (base : Nat) (s : List Char) : Option Numeral :=
  let s := s.dropWhile isSpace
  match s with
  | '-' :: digits => (unsignedNumeral? base digits).map (fun n => ⟨true, n.1, n.2⟩)
  | '+' :: digits => (unsignedNumeral? base digits).map (fun n => ⟨false, n.1, n.2⟩)
  | _ => (unsignedNumeral? base s).map (fun n => ⟨false, n.1, n.2⟩)

namespace Numeral

/-- The integer with the sign of a numeral. -/
def exact (n : Numeral) : Int :=
  if n.negative then -n.size else n.size

/-- Whether a numeral is no integer of 64 bits. -/
def isOutOfRange (n : Numeral) : Bool :=
  n.exact < minInteger || maxInteger < n.exact

/-- The integer of a numeral. -/
def value (n : Numeral) : Int :=
  max minInteger (min maxInteger n.exact)

end Numeral

/-- The integer that a whole text is; blanks may stand around it. In base nought no text is nought. -/
def integer? (base : Nat) (s : List Char) : Option Int :=
  match numeral? base s with
  | some n => if n.isOutOfRange || !(n.rest.all isSpace) then none else some n.value
  | none => if base = 0 && s.all isSpace then some 0 else none

/-- An integer in decimal digits. -/
def integerText (n : Int) : List Char :=
  if n < 0 then '-' :: decimalText n.natAbs else decimalText n.natAbs

end Manuscript.Shell
