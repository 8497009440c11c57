import Manuscript.Json

/-!
# The tokens of a JSON text

Cutting a JSON text into tokens: punctuation, the three words, numbers and strings. Blanks between tokens are the
four that JSON allows. The text is strict: no comments, no leading zeros, no raw control characters in strings.
-/

namespace Manuscript.Json

/-- A token of a JSON text. -/
inductive Token where
  | openBracket
  | closeBracket
  | openBrace
  | closeBrace
  | comma
  | colon
  | null
  | bool (value : Bool)
  | number (value : Number)
  | string (text : Option String)
  deriving DecidableEq, Inhabited

namespace Token

/-- The blanks that may stand between tokens. -/
def isGap (c : Char) : Bool :=
  c == ' ' || c == '\t' || c == '\n' || c == '\r'

/-- The value of a decimal digit. -/
def digit? (c : Char) : Option Nat :=
  if '0' ≤ c && c ≤ '9' then some (c.toNat - '0'.toNat) else none

/-- The value of a hexadecimal digit in either case. -/
def hexDigit? (c : Char) : Option Nat :=
  if '0' ≤ c && c ≤ '9' then some (c.toNat - '0'.toNat)
  else if 'a' ≤ c && c ≤ 'f' then some (c.toNat - 'a'.toNat + 10)
  else if 'A' ≤ c && c ≤ 'F' then some (c.toNat - 'A'.toNat + 10)
  else none

/-- Digits read on from a number, how many there were, and what follows them. -/
def digits (value count : Nat) : List Char → Nat × Nat × List Char
  | [] => (value, count, [])
  | c :: rest =>
    match digit? c with
    | some d => digits (value * 10 + d) (count + 1) rest
    | none => (value, count, c :: rest)

/-- The fraction after an integer part: the digits of both as one number, how many of them are fraction, and the
rest. -/
def fraction? (value : Nat) : List Char → Option (Nat × Nat × List Char)
  | '.' :: rest =>
    match digits value 0 rest with
    | (_, 0, _) => none
    | found => some found
  | rest => some (value, 0, rest)

/-- The digits of an exponent with its sign in front. -/
def signedExponent? : List Char → Option (Int × List Char)
  | '-' :: rest =>
    match digits 0 0 rest with
    | (_, 0, _) => none
    | (value, _, rest) => some (-(value : Int), rest)
  | '+' :: rest =>
    match digits 0 0 rest with
    | (_, 0, _) => none
    | (value, _, rest) => some ((value : Int), rest)
  | rest =>
    match digits 0 0 rest with
    | (_, 0, _) => none
    | (value, _, rest) => some ((value : Int), rest)

/-- The exponent of a number and what follows it. -/
def exponent? : List Char → Option (Int × List Char)
  | 'e' :: rest => signedExponent? rest
  | 'E' :: rest => signedExponent? rest
  | rest => some (0, rest)

/-- Whether a number goes on with a fraction or an exponent. -/
def isDecimal : List Char → Bool
  | '.' :: _ => true
  | 'e' :: _ => true
  | 'E' :: _ => true
  | _ => false

/-- The integer part of a number: a nought, or digits that do not start with one. -/
def integerPart? : List Char → Option (Nat × List Char)
  | '0' :: rest =>
    match digits 0 0 rest with
    | (_, 0, _) => some (0, rest)
    | _ => none
  | rest =>
    match digits 0 0 rest with
    | (_, 0, _) => none
    | (value, _, rest) => some (value, rest)

/-- A number without its sign, and what follows it. -/
def number? (negative : Bool) (s : List Char) : Option (Number × List Char) :=
  match integerPart? s with
  | none => none
  | some (value, rest) =>
    if isDecimal rest then
      match fraction? value rest with
      | none => none
      | some (value, places, rest) =>
        match exponent? rest with
        | none => none
        | some (exponent, rest) => some (.decimal negative value (exponent - places), rest)
    else if negative then
      some (if value = 0 then .decimal true 0 0 else .int (-(value : Int)), rest)
    else some (.int value, rest)

/-- Four hexadecimal digits and what follows them. -/
def hex4? : List Char → Option (Nat × List Char)
  | a :: b :: c :: d :: rest =>
    match hexDigit? a, hexDigit? b, hexDigit? c, hexDigit? d with
    | some a, some b, some c, some d => some (((a * 16 + b) * 16 + c) * 16 + d, rest)
    | _, _, _, _ => none
  | _ => none

/-- Whether a code unit is the first half of a surrogate pair. -/
def isHighSurrogate (unit : Nat) : Bool :=
  0xD800 ≤ unit && unit ≤ 0xDBFF

/-- Whether a code unit is the second half of a surrogate pair. -/
def isLowSurrogate (unit : Nat) : Bool :=
  0xDC00 ≤ unit && unit ≤ 0xDFFF

/-- A character in front of the text of a string. -/
def cons (c : Char) (text : Option (List Char)) : Option (List Char) :=
  text.map (c :: ·)

/-- The characters of a string up to its closing quote, and what follows the quote. Each step reads one character or
one escape, so `fuel` steps are enough for a text of that length. -/
def stringBody? : Nat → List Char → Option (Option (List Char) × List Char)
  | 0, _ => none
  | _ + 1, [] => none
  | _ + 1, '"' :: rest => some (some [], rest)
  | fuel + 1, '\\' :: c :: rest =>
    match c with
    | '"' => (stringBody? fuel rest).map (fun r => (cons '"' r.1, r.2))
    | '\\' => (stringBody? fuel rest).map (fun r => (cons '\\' r.1, r.2))
    | '/' => (stringBody? fuel rest).map (fun r => (cons '/' r.1, r.2))
    | 'b' => (stringBody? fuel rest).map (fun r => (cons '\x08' r.1, r.2))
    | 'f' => (stringBody? fuel rest).map (fun r => (cons '\x0c' r.1, r.2))
    | 'n' => (stringBody? fuel rest).map (fun r => (cons '\n' r.1, r.2))
    | 'r' => (stringBody? fuel rest).map (fun r => (cons '\r' r.1, r.2))
    | 't' => (stringBody? fuel rest).map (fun r => (cons '\t' r.1, r.2))
    | 'u' =>
      match hex4? rest with
      | none => none
      | some (unit, rest) =>
        if isHighSurrogate unit then
          match rest with
          | '\\' :: 'u' :: after =>
            match hex4? after with
            | none => none
            | some (low, after) =>
              if isLowSurrogate low then
                let code := 0x10000 + (unit - 0xD800) * 0x400 + (low - 0xDC00)
                (stringBody? fuel after).map (fun r => (cons (Char.ofNat code) r.1, r.2))
              else (stringBody? fuel rest).map (fun r => (none, r.2))
          | _ => (stringBody? fuel rest).map (fun r => (none, r.2))
        else if isLowSurrogate unit then (stringBody? fuel rest).map (fun r => (none, r.2))
        else (stringBody? fuel rest).map (fun r => (cons (Char.ofNat unit) r.1, r.2))
    | _ => none
  | fuel + 1, c :: rest =>
    if c.toNat < 0x20 then none else (stringBody? fuel rest).map (fun r => (cons c r.1, r.2))

/-- The token at the start of a text that does not start with a blank, and what follows it; `fuel` is at least the
length of the text. -/
def next? (fuel : Nat) : List Char → Option (Token × List Char)
  | '[' :: rest => some (.openBracket, rest)
  | ']' :: rest => some (.closeBracket, rest)
  | '{' :: rest => some (.openBrace, rest)
  | '}' :: rest => some (.closeBrace, rest)
  | ',' :: rest => some (.comma, rest)
  | ':' :: rest => some (.colon, rest)
  | 'n' :: 'u' :: 'l' :: 'l' :: rest => some (.null, rest)
  | 't' :: 'r' :: 'u' :: 'e' :: rest => some (.bool true, rest)
  | 'f' :: 'a' :: 'l' :: 's' :: 'e' :: rest => some (.bool false, rest)
  | '"' :: rest => (stringBody? fuel rest).map (fun r => (.string (r.1.map String.ofList), r.2))
  | '-' :: rest => (number? true rest).map (fun r => (.number r.1, r.2))
  | rest => (number? false rest).map (fun r => (.number r.1, r.2))

/-- The tokens of a text. Each step takes a blank or a token, so `fuel` steps are enough for a text of that length. -/
def all? : Nat → List Char → Option (List Token)
  | _, [] => some []
  | 0, _ => none
  | fuel + 1, c :: rest =>
    if isGap c then all? fuel rest
    else
      match next? (fuel + 1) (c :: rest) with
      | none => none
      | some (token, rest) => (all? fuel rest).map (token :: ·)

end Token

/-- The tokens of a JSON text, or none when some part of it is no token. -/
def tokens? (s : List Char) : Option (List Token) :=
  Token.all? s.length s

end Manuscript.Json
