import Manuscript.Decimal.Binary
import Manuscript.Shell.Output

/-!
# Formats

What `printf` writes: a format whose conversions are filled with arguments, again and again as long as some are
left. An argument that is no number counts as far as it is one, and is complained about.
-/

namespace Manuscript.Shell.Format

/-! ## Numbers with a fraction -/

/-- A number with a fraction that an argument is. -/
inductive Real where
  /-- A number of units of 2 to the -1074. -/
  | finite (negative : Bool) (units : Nat)
  | infinite (negative : Bool)
  | noNumber (negative : Bool)
  deriving DecidableEq, Inhabited

/-- The unit of finite numbers is one by this. -/
def unitsPerOne : Nat := Nat.pow 2 1074

/-- The number with the given bits of its size. -/
def Real.ofBits (negative : Bool) (bits : Nat) : Real :=
  match Decimal.Binary.ofFloat? (Float.ofBits (UInt64.ofNat bits)) with
  | some b => .finite negative b.units
  | none => .infinite negative

/-- The exponent at the start of a text behind a letter; nought if there is none. -/
def exponentOf (letter : Char) (s : List Char) : Int × List Char :=
  match s with
  | c :: rest =>
    if c.toLower = letter then
      let (negative, digits) := match rest with | '-' :: d => (true, d) | '+' :: d => (false, d) | d => (false, d)
      let (digits, behind) := digits.span Char.isDigit
      if digits.isEmpty then (0, s)
      else
        let size : Int := decimalOf (digits.take 6)
        (if negative then -size else size, behind)
    else (0, s)
  | [] => (0, [])

/-- Digits with a point among them at the start of a text: all of them, how many stand behind the point, and the
rest. -/
def mantissa? (base : Nat) (s : List Char) : Option (Nat × Nat × List Char) :=
  let (whole, rest) := spanDigits base s
  let (fraction, behind) := match rest with | '.' :: more => spanDigits base more | _ => ([], rest)
  if whole.isEmpty && fraction.isEmpty then none
    else some (digitsValue base (whole ++ fraction), fraction.length, behind)

/-- Whether a text starts with a word in small or large letters, and the rest. -/
def dropWord? (word : String) (s : List Char) : Option (List Char) :=
  if (s.take word.length).map Char.toLower == word.toList then some (s.drop word.length) else none

/-- A number with a fraction at the start of a text, the rest, and whether it is too great. -/
def real? (s : List Char) : Option (Real × List Char × Bool) :=
  let s := s.dropWhile isSpace
  let (negative, s) := match s with | '-' :: d => (true, d) | '+' :: d => (false, d) | d => (false, d)
  let hexadecimal? : Option (Real × List Char × Bool) :=
    match s with
    | '0' :: x :: digits =>
      if x.toLower = 'x' then
        (mantissa? 16 digits).map (fun (size, places, rest) =>
          let (exponent, rest) := exponentOf 'p' rest
          let (num, den) := Decimal.scaleDown size 1 (4 * places - exponent)
          (.ofBits negative (Decimal.magnitudeBits num den), rest, false))
      else none
    | _ => none
  let decimal? := (mantissa? 10 s).map (fun (digits, places, rest) =>
    let (exponent, rest) := exponentOf 'e' rest
    let bits := Decimal.nearestBits digits (exponent - places)
    (Real.ofBits negative bits, rest, Decimal.overflows digits (exponent - places)))
  let words? :=
    ((dropWord? "infinity" s).or (dropWord? "inf" s)).map (fun rest => (Real.infinite negative, rest, false))
  let noNumber? := (dropWord? "nan" s).map (fun rest => (Real.noNumber negative, rest, false))
  (hexadecimal?.or decimal?).or (words?.or noNumber?)

/-- Whether a number has a minus sign. -/
def Real.isNegative : Real → Bool
  | finite negative _ => negative
  | infinite negative => negative
  | noNumber negative => negative

/-- Decimal digits with noughts in front up to a length. -/
def paddedDigits (length n : Nat) : List Char :=
  let digits := decimalText n
  List.replicate (length - digits.length) '0' ++ digits

/-- A number with so many places behind the point. -/
def fixedText (places : Nat) (pointAlways : Bool) (units : Nat) : List Char :=
  let digits := paddedDigits (places + 1) (Decimal.roundDiv (units * Nat.pow 10 places) unitsPerOne)
  let whole := digits.take (digits.length - places)
  let point := if places = 0 && !pointAlways then [] else ['.']
  whole ++ point ++ digits.drop (digits.length - places)

/-- The greatest exponent of ten whose power is not greater than a number. -/
def exponentOfTen (units : Nat) : Int :=
  if units = 0 then 0
  else if unitsPerOne ≤ units then ((decimalText (units / unitsPerOne)).length : Int) - 1
  else
    let guess := (decimalText (unitsPerOne / units)).length
    if unitsPerOne ≤ units * Nat.pow 10 (guess - 1) then 1 - (guess : Int) else -(guess : Int)

/-- The digits of a number with one of them before the point and so many behind it, and the exponent. -/
def scientific (places : Nat) (units : Nat) : List Char × Int :=
  let exponent := exponentOfTen units
  let shift := (places : Int) - exponent
  let rounded :=
    if 0 ≤ shift then Decimal.roundDiv (units * Nat.pow 10 shift.toNat) unitsPerOne
    else Decimal.roundDiv units (unitsPerOne * Nat.pow 10 (-shift).toNat)
  let digits := paddedDigits (places + 1) rounded
  if places + 1 < digits.length then (digits.dropLast, exponent + 1) else (digits, exponent)

/-- A number with an exponent. -/
def scientificText (places : Nat) (pointAlways : Bool) (digits : List Char) (exponent : Int) : List Char :=
  let point := if places = 0 && !pointAlways then [] else ['.']
  let sign := if exponent < 0 then '-' else '+'
  digits.take 1 ++ point ++ digits.drop 1 ++ 'e' :: sign :: paddedDigits 2 exponent.natAbs

/-- A text without the noughts behind its point, and without the point if nothing is left behind it. -/
def withoutNoughts (s : List Char) : List Char :=
  if s.contains '.' then
    match s.reverse.dropWhile (· == '0') with
    | '.' :: rest => rest.reverse
    | rest => rest.reverse
  else s

/-- A number with so many digits, with an exponent only if it is great or small. -/
def generalText (precision : Nat) (pointAlways : Bool) (units : Nat) : List Char :=
  let precision := max precision 1
  let (digits, exponent) := scientific (precision - 1) units
  if -4 ≤ exponent && exponent < precision then
    let text := fixedText ((precision : Int) - 1 - exponent).toNat pointAlways units
    if pointAlways then text else withoutNoughts text
  else if pointAlways then scientificText (precision - 1) true digits exponent
  else
    let digits := digits.take 1 ++ ((digits.drop 1).reverse.dropWhile (· == '0')).reverse
    scientificText (digits.length - 1) false digits exponent

/-! ## Conversions -/

/-- A conversion of a format. -/
structure Conversion where
  flags : List Char
  width : Nat
  precision : Option Nat
  letter : Char
  deriving DecidableEq, Inhabited

namespace Conversion

/-- Whether a conversion has a flag. -/
def has (conversion : Conversion) (flag : Char) : Bool :=
  conversion.flags.contains flag

/-- A text brought to the width of a conversion. -/
def pad (conversion : Conversion) (s : List Char) : List Char :=
  let blanks := List.replicate (conversion.width - s.length) ' '
  if conversion.has '-' then s ++ blanks else blanks ++ s

/-- A number brought to the width of a conversion, with noughts behind its sign if they are wanted and allowed. -/
def padNumber (conversion : Conversion) (noughts : Bool) (sign digits : List Char) : List Char :=
  if conversion.has '0' && noughts && !conversion.has '-' then
    sign ++ List.replicate (conversion.width - sign.length - digits.length) '0' ++ digits
  else conversion.pad (sign ++ digits)

/-- The sign in front of a number. -/
def sign (conversion : Conversion) (negative : Bool) : List Char :=
  if negative then ['-'] else if conversion.has '+' then ['+'] else if conversion.has ' ' then [' '] else []

/-- A text, of which the precision says how much is shown. -/
def showText (conversion : Conversion) (s : List Char) : List Char :=
  conversion.pad (match conversion.precision with | some n => s.take n | none => s)

/-- An integer, of which the precision says how many digits are shown at least. -/
def showInteger (conversion : Conversion) (n : Int) : List Char :=
  let unsigned := (n % Int.pow 2 64).toNat
  let size :=
    match conversion.letter with
    | 'u' => decimalText unsigned
    | 'o' => Nat.toDigits 8 unsigned
    | 'x' => Nat.toDigits 16 unsigned
    | 'X' => (Nat.toDigits 16 unsigned).map Char.toUpper
    | _ => decimalText n.natAbs
  let digits :=
    match conversion.precision with
    | some 0 => if n = 0 then [] else size
    | some precision => List.replicate (precision - size.length) '0' ++ size
    | none => size
  let isSigned := conversion.letter == 'd' || conversion.letter == 'i'
  let (front, digits) :=
    if isSigned then (conversion.sign (n < 0), digits)
    else if conversion.has '#' && conversion.letter == 'o' && digits.head? != some '0' then ([], '0' :: digits)
    else if conversion.has '#' && (conversion.letter == 'x' || conversion.letter == 'X') && n != 0 then
      (['0', conversion.letter], digits)
    else ([], digits)
  conversion.padNumber conversion.precision.isNone front digits

/-- A number with a fraction. -/
def showReal (conversion : Conversion) (number : Real) : List Char :=
  let precision := conversion.precision.getD 6
  let upper := fun (s : List Char) => if conversion.letter.isUpper then s.map Char.toUpper else s
  let sign := conversion.sign number.isNegative
  match number with
  | .infinite _ => conversion.padNumber false sign (upper "inf".toList)
  | .noNumber _ => conversion.padNumber false sign (upper "nan".toList)
  | .finite _ units =>
    let digits :=
      match conversion.letter.toLower with
      | 'e' =>
        let (digits, exponent) := scientific precision units
        scientificText precision (conversion.has '#') digits exponent
      | 'g' => generalText precision (conversion.has '#') units
      | _ => fixedText precision (conversion.has '#') units
    conversion.padNumber true sign (upper digits)

end Conversion

/-! ## Writing -/

/-- What has been written, what is left of the arguments, and the complaints. The last parts come first. -/
structure Progress where
  written : List (List Char) := []
  arguments : List (List Char)
  complaints : List (List Char) := []
  deriving Inhabited

/-- How a pass over a format ends. -/
inductive Ending where
  | complete
  /-- All output is ended. -/
  | stopped
  /-- The format is none. -/
  | failed (message : List Char)
  deriving DecidableEq, Inhabited

/-- Writing that goes through the arguments. -/
abbrev Writing := StateM Progress

/-- A text written. -/
def put (text : List Char) : Writing Unit :=
  modify (fun progress => { progress with written := text :: progress.written })

/-- The next argument. -/
def next? : Writing (Option (List Char)) := do
  let progress ← get
  match progress.arguments with
  | [] => return none
  | argument :: rest =>
    set { progress with arguments := rest }
    return some argument

/-- A complaint about an argument of which something is left over or which is out of range. -/
def check (argument rest : List Char) (isRead outOfRange : Bool) : Writing Unit := do
  let problem? :=
    if !rest.isEmpty then some (if isRead then "not completely converted" else "expected numeric value")
    else if outOfRange then some "Numerical result out of range"
    else none
  match problem? with
  | some problem =>
    modify (fun progress =>
      { progress with complaints := (argument ++ [':', ' '] ++ problem.toList) :: progress.complaints })
  | none => return ()

/-- The next argument as an integer, which may be one without a sign. Behind a quote it is the number of a character. -/
def nextInteger (signed : Bool) : Writing Int := do
  match ← next? with
  | none => return 0
  | some ('"' :: rest) => return ((rest.head?.map Char.toNat).getD 0 : Nat)
  | some ('\'' :: rest) => return ((rest.head?.map Char.toNat).getD 0 : Nat)
  | some argument =>
    match numeral? 0 argument with
    | none =>
      check argument argument false false
      return 0
    | some n =>
      let tooGreat := if signed then n.isOutOfRange else Nat.pow 2 64 ≤ n.size
      check argument n.rest true tooGreat
      return if signed then n.value else if tooGreat then Int.pow 2 64 - 1 else n.exact

/-- The next argument as a number with a fraction. -/
def nextReal : Writing Real := do
  let whole := fun (n : Nat) => Real.finite false (n * unitsPerOne)
  match ← next? with
  | none => return whole 0
  | some ('"' :: rest) => return whole ((rest.head?.map Char.toNat).getD 0)
  | some ('\'' :: rest) => return whole ((rest.head?.map Char.toNat).getD 0)
  | some argument =>
    match real? argument with
    | none =>
      check argument argument false false
      return whole 0
    | some (number, rest, tooGreat) =>
      check argument rest true tooGreat
      return number

/-- A width or precision at the start of a text: a numeral or, behind a star, an argument. -/
def measure (s : List Char) : Writing (Option Int × List Char) := do
  match s with
  | '*' :: rest => return (some (← nextInteger true), rest)
  | _ =>
    let (digits, rest) := s.span Char.isDigit
    return (if digits.isEmpty then none else some (decimalOf digits : Nat), rest)

/-- A conversion behind its percent sign written; what follows it, or how writing ends with it. -/
def convert (s : List Char) : Writing (Except Ending (List Char)) := do
  let isFlag := fun (c : Char) => ['#', '-', '+', ' ', '0'].contains c
  let (flags, rest) := s.span isFlag
  let (width, rest) ← measure rest
  let (precision, rest) ←
    match rest with
    | '.' :: rest => do
      let (precision, rest) ← measure rest
      pure (some (precision.getD 0), rest)
    | _ => pure (none, rest)
  match rest with
  | [] => return .error (.failed "missing format character".toList)
  | letter :: rest =>
    let conversion : Conversion :=
      { flags := if width.any (· < 0) then '-' :: flags else flags
        width := (width.getD 0).natAbs
        precision := (precision.filter (0 ≤ ·)).map Int.toNat
        letter }
    if letter = 's' then
      put (conversion.showText ((← next?).getD []))
      return .ok rest
    else if letter = 'c' then
      put (conversion.pad [(((← next?).getD []).head?).getD '\x00'])
      return .ok rest
    else if letter = 'b' then
      let argument := (← next?).getD []
      let (text, stop) := Output.unescape (argument.length + 1) argument
      put (conversion.showText text)
      return if stop then .error .stopped else .ok rest
    else if ['d', 'i', 'o', 'u', 'x', 'X'].contains letter then
      put (conversion.showInteger (← nextInteger (letter == 'd' || letter == 'i')))
      return .ok rest
    else if ['e', 'E', 'f', 'F', 'g', 'G'].contains letter then
      put (conversion.showReal (← nextReal))
      return .ok rest
    else
      let text := '%' :: s.take (s.length - rest.length)
      return .error (.failed (text ++ ": invalid directive".toList))

/-- One pass over a format. -/
def pass : Nat → List Char → Writing Ending
  | 0, _ => return .complete
  | _ + 1, [] => return .complete
  | fuel + 1, '\\' :: rest => do
    let (c, length) := Output.escape rest
    put [c]
    pass fuel (rest.drop length)
  | fuel + 1, '%' :: '%' :: rest => do
    put ['%']
    pass fuel rest
  | fuel + 1, '%' :: rest => do
    match ← convert rest with
    | .ok rest => pass fuel rest
    | .error ending => return ending
  | fuel + 1, c :: rest => do
    put [c]
    pass fuel rest

/-- Passes over a format as long as each takes arguments and some are left. -/
def passes (format : List Char) : Nat → Writing Ending
  | 0 => return .complete
  | fuel + 1 => do
    let before := (← get).arguments.length
    let ending ← pass (format.length + 1) format
    let left := (← get).arguments.length
    if ending = .complete && 0 < left && left < before then passes format fuel else return ending

/-- What a format with arguments writes, the complaints, and how it ends. -/
def write (format : List Char) (arguments : List (List Char)) : List Char × List (List Char) × Ending :=
  let (ending, progress) := (passes format (arguments.length + 1)).run { arguments }
  (progress.written.reverse.flatten, progress.complaints.reverse, ending)

end Manuscript.Shell.Format
