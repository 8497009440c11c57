import Manuscript.Decimal.Nearest
import Manuscript.Template.Token

/-!
# Names, numbers and strings inside tags

The tokens of more than two characters. Each reader answers with a token and with what is left of the text, or with
nothing when the text is malformed.
-/

namespace Manuscript.Template.Token

/-- A letter of the ASCII alphabet. -/
def isLetter (c : Char) : Bool :=
  ('a' ≤ c && c ≤ 'z') || ('A' ≤ c && c ≤ 'Z')

/-- A decimal digit. -/
def isDigit (c : Char) : Bool :=
  '0' ≤ c && c ≤ '9'

/-- A character that a name may start with. -/
def startsName (c : Char) : Bool :=
  isLetter c || c == '_'

/-- A character of a name. -/
def isNameChar (c : Char) : Bool :=
  startsName c || isDigit c

/-- The value of a digit in a base of up to sixteen. -/
def digitIn? (base : Nat) (c : Char) : Option Nat :=
  let value :=
    if '0' ≤ c && c ≤ '9' then c.toNat - '0'.toNat
    else if 'a' ≤ c && c ≤ 'f' then c.toNat - 'a'.toNat + 10
    else if 'A' ≤ c && c ≤ 'F' then c.toNat - 'A'.toNat + 10
    else 16
  if value < base then some value else none

/-- The value of digits after `value`. -/
def digitsFrom? (base value : Nat) : List Char → Option Nat
  | [] => some value
  | c :: rest => (digitIn? base c).bind (fun d => digitsFrom? base (value * base + d) rest)

/-- The value of one or more digits. -/
def digits? (base : Nat) (s : List Char) : Option Nat :=
  if s.isEmpty then none else digitsFrom? base 0 s

/-! ## Numbers -/

/-- How far a number has been read. -/
inductive NumberPart where
  | integer
  | fraction
  | exponent
  | signed
  deriving DecidableEq, Inhabited

/-- How far a decimal number has been read after one character more, if that belongs to it. -/
def NumberPart.next? (part : NumberPart) (c : Char) : Option NumberPart :=
  if isDigit c then some (if part = .signed then .exponent else part)
  else if c = '_' then some part
  else if c = '.' ∧ part = .integer then some .fraction
  else if (c = 'e' ∨ c = 'E') ∧ (part = .integer ∨ part = .fraction) then some .exponent
  else if (c = '+' ∨ c = '-') ∧ part = .exponent then some .signed
  else none

/-- Whether a text starts with an exponent: its letter and a digit, which may have a sign. -/
def startsExponent : List Char → Bool
  | c :: '+' :: d :: _ => (c == 'e' || c == 'E') && isDigit d
  | c :: '-' :: d :: _ => (c == 'e' || c == 'E') && isDigit d
  | c :: d :: _ => (c == 'e' || c == 'E') && isDigit d
  | _ => false

/-- Whether a text starts with a point and a name, which is a member and no fraction. -/
def startsMember : List Char → Bool
  | '.' :: c :: rest => startsName c && !startsExponent (c :: rest)
  | _ => false

/-- The characters of a decimal number, how far they go, and the rest. A sign is taken wherever it stands in an
exponent; only as the first character does it make a number. -/
def takeNumber (part : NumberPart) : List Char → List Char × NumberPart × List Char
  | [] => ([], part, [])
  | c :: rest =>
    match (if part = .integer ∧ startsMember (c :: rest) then none else part.next? c) with
    | some next =>
      let (taken, last, rest) := takeNumber next rest
      (c :: taken, last, rest)
    | none => ([], part, c :: rest)

/-- The exponent that a text after the letter for it gives. -/
def exponent? : List Char → Option Int
  | '-' :: rest => (digits? 10 rest).map (fun n => -(n : Int))
  | '+' :: rest => (digits? 10 rest).map (fun n => (n : Int))
  | rest => (digits? 10 rest).map (fun n => (n : Int))

/-- The floating-point number that a text without underscores is. The fraction may be missing after the point. -/
def decimal? (s : List Char) : Option Float :=
  let isExponent := fun c => c == 'e' || c == 'E'
  let mantissa := s.takeWhile (fun c => !isExponent c)
  let tail := s.dropWhile (fun c => !isExponent c)
  let whole := mantissa.takeWhile (· ≠ '.')
  let fraction := mantissa.drop (whole.length + 1)
  match digits? 10 (whole ++ fraction), (if tail.isEmpty then some 0 else exponent? (tail.drop 1)) with
  | some n, some exponent => some (Decimal.toFloat false n (exponent - fraction.length))
  | _, _ => none

/-- Integers must be below this bound, which is that of 128 bits. -/
def integerBound : Nat := Nat.pow 2 128

/-- The integer of digits in a base. -/
def integer? (base : Nat) (s : List Char) : Option Token :=
  ((digits? base s).filter (· < integerBound)).map .int

/-- Digits without their underscores, which may not stand at the end. -/
def dropUnderscores? (s : List Char) : Option (List Char) :=
  if s.getLast? = some '_' then none else some (s.filter (· ≠ '_'))

/-- The base that a text names at its start, with the characters that may follow. -/
def base? : List Char → Option (Nat × (Char → Bool))
  | '0' :: c :: _ =>
    if c = 'b' ∨ c = 'B' then some (2, isDigit)
    else if c = 'o' ∨ c = 'O' then some (8, isDigit)
    else if c = 'x' ∨ c = 'X' then some (16, fun c => (digitIn? 16 c).isSome)
    else none
  | _ => none

/-- A number at the start of a text that starts with a digit. -/
def number? (s : List Char) : Option (Token × List Char) :=
  match base? s with
  | some (base, isPart) =>
    let digits := (s.drop 2).takeWhile (fun c => isPart c || c == '_')
    match (dropUnderscores? ('0' :: digits)).bind (fun kept => integer? base (kept.drop 1)) with
    | some token => some (token, s.drop (digits.length + 2))
    | none => none
  | none =>
    let (taken, part, rest) := takeNumber .integer s
    match dropUnderscores? taken with
    | some digits =>
      if part = .integer then (integer? 10 digits).map (·, rest)
      else (decimal? digits).map (fun x => (.float x, rest))
    | none => none

/-- A position behind a point: digits alone, whatever follows them. -/
def position? (s : List Char) : Option (Token × List Char) :=
  (integer? 10 (s.takeWhile isDigit)).map (·, s.dropWhile isDigit)

/-! ## Strings -/

/-- The number that so many hexadecimal digits at the start of a text give; a plus sign may stand for the first. -/
def hexadecimal? (count : Nat) (s : List Char) : Option Nat :=
  if s.length < count then none
  else
    match s.take count with
    | '+' :: rest => digits? 16 rest
    | digits => digits? 16 digits

/-- An octal digit. -/
def isOctal (c : Char) : Bool :=
  '0' ≤ c && c ≤ '7'

/-- The one to three octal digits that an escape has. -/
def octalDigits (s : List Char) : List Char :=
  (s.take 3).takeWhile isOctal

/-- A character in front of a text. -/
def consChar (c : Char) (text : Option (List Char)) : Option (List Char) :=
  text.map (c :: ·)

/-- What a letter after a backslash stands for. -/
def escapedChar? (c : Char) : Option Char :=
  match c with
  | '"' => some '"'
  | '\\' => some '\\'
  | '/' => some '/'
  | '\'' => some '\''
  | 'b' => some '\x08'
  | 'f' => some '\x0c'
  | 'n' => some '\n'
  | 'r' => some '\r'
  | 't' => some '\t'
  | _ => none

/-- The text of a string with its escapes replaced; `half` is the first half of a surrogate pair whose second half
has to follow. A backslash in front of a character that makes no escape with it stays. -/
def unescape? : Nat → Option Nat → List Char → Option (List Char)
  | 0, _, _ => none
  | _ + 1, none, [] => some []
  | fuel + 1, some half, '\\' :: 'u' :: rest =>
    match hexadecimal? 4 rest with
    | some low =>
      if half ≤ 0xDBFF && 0xDC00 ≤ low && low ≤ 0xDFFF then
        consChar (Char.ofNat (0x10000 + (half - 0xD800) * 0x400 + (low - 0xDC00))) (unescape? fuel none (rest.drop 4))
      else none
    | none => none
  | _ + 1, some _, _ => none
  | fuel + 1, none, '\\' :: c :: rest =>
    if c = 'u' then
      match hexadecimal? 4 rest with
      | some unit =>
        if 0xD800 ≤ unit && unit ≤ 0xDFFF then unescape? fuel (some unit) (rest.drop 4)
        else consChar (Char.ofNat unit) (unescape? fuel none (rest.drop 4))
      | none => none
    else if c = 'x' then
      match hexadecimal? 2 rest with
      | some code => consChar (Char.ofNat code) (unescape? fuel none (rest.drop 2))
      | none => none
    else if isOctal c then
      let digits := octalDigits (c :: rest)
      match digits? 8 digits with
      | some code =>
        if code < 256 then consChar (Char.ofNat code) (unescape? fuel none (rest.drop (digits.length - 1))) else none
      | none => none
    else
      match escapedChar? c with
      | some char => consChar char (unescape? fuel none rest)
      | none => consChar '\\' (consChar c (unescape? fuel none rest))
  | fuel + 1, none, c :: rest => if c = '\\' then none else consChar c (unescape? fuel none rest)

/-- The characters of a string up to its closing quote, and what follows the quote; a quote after a backslash does
not close. -/
def stringBody? (quote : Char) (escaped : Bool) : List Char → Option (List Char × List Char)
  | [] => none
  | c :: rest =>
    if c = quote ∧ ¬escaped then some ([], rest)
    else (stringBody? quote (c = '\\' ∧ ¬escaped) rest).map (fun r => (c :: r.1, r.2))

/-- A string after its opening quote. -/
def string? (quote : Char) (s : List Char) : Option (Token × List Char) :=
  match stringBody? quote false s with
  | some (body, rest) => (unescape? (body.length + 1) none body).map (fun text => (.string text, rest))
  | none => none

end Manuscript.Template.Token
