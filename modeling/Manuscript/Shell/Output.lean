import Manuscript.Shell.Number

/-!
# Escapes and echo

Backslashes in texts that are written stand with the characters behind them for other characters, and one of them
ends all output.
-/

namespace Manuscript.Shell.Output

/-- The characters that letters behind a backslash stand for. -/
def letters : List (Char × Char) :=
  [('\\', '\\'), ('a', '\x07'), ('b', '\x08'), ('e', '\x1b'), ('f', '\x0c'), ('n', '\n'), ('r', '\r'), ('t', '\t'),
    ('v', '\x0b')]

/-- Whether a character is an octal digit. -/
def isOctal (c : Char) : Bool :=
  '0' ≤ c && c ≤ '7'

/-- The byte that octal digits name, as a character. -/
def octalChar (digits : List Char) : Char :=
  Char.ofNat (digitsValue 8 digits % 256)

/-- The character that a backslash and what is behind it stand for, and how much of that belongs to it. -/
def escape (behind : List Char) : Char × Nat :=
  let digits := (behind.take 3).takeWhile isOctal
  if !digits.isEmpty then (octalChar digits, digits.length)
  else
    match behind.head?.bind (fun c => letters.lookup c) with
    | some c => (c, 1)
    | none => ('\\', 0)

/-- A text with its escapes replaced, and whether one of them ends all output. Octal numbers may have a nought more
in front. -/
def unescape : Nat → List Char → List Char × Bool
  | 0, s => (s, false)
  | _ + 1, [] => ([], false)
  | _ + 1, '\\' :: 'c' :: _ => ([], true)
  | fuel + 1, '\\' :: rest =>
    let rest :=
      match rest with
      | '0' :: d :: more => if isOctal d then d :: more else rest
      | _ => rest
    let (c, length) := escape rest
    let (text, stop) := unescape fuel (rest.drop length)
    (c :: text, stop)
  | fuel + 1, c :: rest =>
    let (text, stop) := unescape fuel rest
    (c :: text, stop)

/-- What echo writes: its arguments with blanks between them, and an end of line unless the first argument is `-n`. -/
def echo (arguments : List (List Char)) : List Char :=
  match arguments with
  | ['-', 'n'] :: shown => write shown []
  | shown => write shown ['\n']
where
  /-- Arguments with blanks between them and something behind the last. -/
  write (arguments : List (List Char)) (ending : List Char) : List Char :=
    let joined := [' '].intercalate arguments
    let (text, stop) := unescape (joined.length + 1) joined
    if stop then text else text ++ ending

end Manuscript.Shell.Output
