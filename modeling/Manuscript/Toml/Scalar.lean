import Manuscript.Decimal.Nearest
import Manuscript.Toml

/-!
# Numbers, dates and truth values of TOML

A value that is no string, array or table is written without blanks, except for the one that may part a date from a
time.
-/

namespace Manuscript.Toml

/-- A character of a number, a date or a word. -/
def isScalarChar (c : Char) : Bool :=
  c.isAlphanum || c == '_' || c == '-' || c == '+' || c == '.' || c == ':'

/-- The value of a digit in a base of at most sixteen. -/
def digitIn? (base : Nat) (c : Char) : Option Nat :=
  let value :=
    if '0' ≤ c && c ≤ '9' then c.toNat - '0'.toNat
    else if 'a' ≤ c && c ≤ 'f' then c.toNat - 'a'.toNat + 10
    else if 'A' ≤ c && c ≤ 'F' then c.toNat - 'A'.toNat + 10
    else 16
  if value < base then some value else none

/-- The value of digits that go on from `value`; single underscores may stand between digits. -/
def moreDigits? (base value : Nat) : List Char → Option Nat
  | [] => some value
  | '_' :: c :: rest => (digitIn? base c).bind (fun d => moreDigits? base (value * base + d) rest)
  | c :: rest => (digitIn? base c).bind (fun d => moreDigits? base (value * base + d) rest)

/-- The value of one or more digits. -/
def digits? (base : Nat) : List Char → Option Nat
  | [] => none
  | c :: rest => (digitIn? base c).bind (fun d => moreDigits? base d rest)

/-- The number of digits, underscores left out. -/
def digitCount (s : List Char) : Nat :=
  s.countP (· ≠ '_')

/-- Whether a text starts with a nought that something follows. -/
def hasLeadingZero : List Char → Bool
  | '0' :: _ :: _ => true
  | _ => false

/-- A text without its sign, and whether that is a minus. -/
def splitSign : List Char → Bool × List Char
  | '-' :: rest => (true, rest)
  | '+' :: rest => (false, rest)
  | rest => (false, rest)

/-- Integers that a TOML text can give: those of 64 bits with a sign. -/
def inRange (n : Int) : Bool :=
  -Int.pow 2 63 ≤ n && n < Int.pow 2 63

/-- An integer in decimal digits, or, without a sign, in hexadecimal, octal or binary ones. -/
def integer? (s : List Char) : Option Int :=
  let value : Option Int :=
    match s with
    | '0' :: 'x' :: rest => (digits? 16 rest).map Int.ofNat
    | '0' :: 'o' :: rest => (digits? 8 rest).map Int.ofNat
    | '0' :: 'b' :: rest => (digits? 2 rest).map Int.ofNat
    | _ =>
      let (negative, magnitude) := splitSign s
      if hasLeadingZero magnitude then none
      else (digits? 10 magnitude).map (fun n => if negative then -(n : Int) else n)
  value.filter inRange

/-- The digits of a fraction as a number that goes on from `value`, and how many they are; nought without a point. -/
def fraction? (value : Nat) : List Char → Option (Nat × Nat)
  | [] => some (value, 0)
  | '.' :: rest =>
    (digits? 10 rest).map (fun f => (value * Nat.pow 10 (digitCount rest) + f, digitCount rest))
  | _ => none

/-- An exponent after its letter; nought without one. -/
def exponent? : List Char → Option Int
  | [] => some 0
  | _ :: rest =>
    let (negative, magnitude) := splitSign rest
    (digits? 10 magnitude).map (fun n => if negative then -(n : Int) else n)

/-- Whether a text is a number with a fraction or an exponent that a double can hold, or one of the words for
infinity and for no number. A negative number may be too great. -/
def isDecimal (s : List Char) : Bool :=
  let (negative, magnitude) := splitSign s
  if magnitude = "inf".toList || magnitude = "nan".toList then true
  else
    let isExponent := fun c => c == 'e' || c == 'E'
    let mantissa := magnitude.takeWhile (fun c => !isExponent c)
    let whole := mantissa.takeWhile (· ≠ '.')
    let scaled := do
      let n ← digits? 10 whole
      let (n, places) ← fraction? n (mantissa.dropWhile (· ≠ '.'))
      let exponent ← exponent? (magnitude.dropWhile (fun c => !isExponent c))
      some (n, exponent - places)
    match scaled with
    | some (n, exponent) =>
      whole.length < magnitude.length && !hasLeadingZero whole && (negative || !Decimal.overflows n exponent)
    | none => false

/-! ## Dates and times -/

/-- A number of exactly `count` digits within bounds. -/
def numeral? (count low high : Nat) (s : List Char) : Option Nat :=
  if s.length = count && s.all Char.isDigit then (digits? 10 s).filter (fun n => low ≤ n && n ≤ high) else none

/-- The number of days of a month. -/
def daysIn (year month : Nat) : Nat :=
  if month = 2 then (if year % 4 = 0 && (year % 100 ≠ 0 || year % 400 = 0) then 29 else 28)
  else if month = 4 || month = 6 || month = 9 || month = 11 then 30
  else 31

/-- Whether a text is a date of the calendar. -/
def isDate (s : List Char) : Bool :=
  match numeral? 4 0 9999 (s.take 4), numeral? 2 1 12 ((s.drop 5).take 2), numeral? 2 1 31 (s.drop 8) with
  | some year, some month, some day => s[4]? == some '-' && s[7]? == some '-' && day ≤ daysIn year month
  | _, _, _ => false

/-- Whether a text is a time of day with seconds and perhaps a fraction of one. -/
def isTime (s : List Char) : Bool :=
  let fraction := s.drop 8
  (numeral? 2 0 23 (s.take 2)).isSome && s[2]? == some ':' && (numeral? 2 0 59 ((s.drop 3).take 2)).isSome &&
    s[5]? == some ':' && (numeral? 2 0 60 ((s.drop 6).take 2)).isSome &&
    (fraction.isEmpty || (fraction.head? == some '.' && 1 < fraction.length && (fraction.drop 1).all Char.isDigit))

/-- Whether a text is a time of day, perhaps with its offset from universal time. -/
def isOffsetTime (s : List Char) : Bool :=
  let time := s.takeWhile (fun c => c.isDigit || c == ':' || c == '.')
  let offset := s.drop time.length
  isTime time &&
    (offset.isEmpty || offset = ['Z'] || offset = ['z'] ||
      ((offset.head? == some '+' || offset.head? == some '-') && offset[3]? == some ':' &&
        (numeral? 2 0 23 ((offset.drop 1).take 2)).isSome && (numeral? 2 0 59 (offset.drop 4)).isSome))

/-- The fraction of a second in its standard form: at most nine digits, without noughts at the end, and with its
point. -/
def fractionText (digits : List Char) : List Char :=
  match ((digits.take 9).reverse.dropWhile (· == '0')).reverse with
  | [] => []
  | kept => '.' :: kept

/-- An offset from universal time in its standard form; there is no negative nought. -/
def offsetText (offset : List Char) : List Char :=
  if offset = ['z'] then ['Z']
  else if offset = "-00:00".toList then "+00:00".toList
  else offset

/-- The standard form of a time of day, perhaps with an offset. -/
def timeText (s : List Char) : List Char :=
  let fraction := if s[8]? == some '.' then (s.drop 9).takeWhile Char.isDigit else []
  s.take 8 ++ fractionText fraction ++ offsetText (s.dropWhile (fun c => c.isDigit || c == ':' || c == '.'))

/-- The standard form of a date and a time. -/
def dateTimeText (date time : List Char) : String :=
  String.ofList (date ++ 'T' :: timeText time)

/-- The date, the time, or the date and the time with a `T` between them that a text is, in its standard form. -/
def dateTime? (s : List Char) : Option String :=
  if isDate s then some (String.ofList s)
  else if isTime s then some (String.ofList (timeText s))
  else if isDate (s.take 10) && (s[10]? == some 'T' || s[10]? == some 't') && isOffsetTime (s.drop 11) then
    some (dateTimeText (s.take 10) (s.drop 11))
  else none

/-- The value that a text without blanks is. -/
def scalarOf? (s : List Char) : Option Toml :=
  if s = "true".toList then some (.bool true)
  else if s = "false".toList then some (.bool false)
  else
    match integer? s with
    | some n => some (.integer n)
    | none => if isDecimal s then some .decimal else (dateTime? s).map .dateTime

/-- A value that is no string, array or table. A time may follow a date after a blank. -/
def scalar? (s : List Char) : Option (Toml × List Char) :=
  let word := s.takeWhile isScalarChar
  let rest := s.dropWhile isScalarChar
  match rest with
  | ' ' :: c :: after =>
    if isDate word && c.isDigit then
      let time := (c :: after).takeWhile isScalarChar
      if isOffsetTime time then some (.dateTime (dateTimeText word time), (c :: after).dropWhile isScalarChar) else none
    else (scalarOf? word).map (·, rest)
  | _ => (scalarOf? word).map (·, rest)

end Manuscript.Toml
