/-!
# Characters of the shell

What characters mean to the shell: which of them part words, make names and name parameters. A text of the shell is
a list of bytes, each shown as the character with its number.
-/

namespace Manuscript.Shell

/-- The back quote. -/
def backQuote : Char := '\x60'

/-- Whether a character is a blank between words of one line. -/
def isGap (c : Char) : Bool :=
  c == ' ' || c == '\t'

/-- Whether a character ends a word. -/
def endsWord (c : Char) : Bool :=
  isGap c || ['\n', ';', '&', '|', '<', '>', '(', ')'].contains c

/-- Whether a character can start a name. -/
def startsName (c : Char) : Bool :=
  ('a' ≤ c && c ≤ 'z') || ('A' ≤ c && c ≤ 'Z') || c == '_'

/-- Whether a character can stand in a name. -/
def isNameChar (c : Char) : Bool :=
  startsName c || c.isDigit

/-- Whether a character is the name of a parameter that the shell keeps itself. -/
def isSpecialParameter (c : Char) : Bool :=
  ['@', '*', '#', '?', '-', '$', '!'].contains c || c.isDigit

/-- The name at the start of a text, and the rest. -/
def splitName (s : List Char) : List Char × List Char :=
  match s with
  | c :: _ => if startsName c then (s.takeWhile isNameChar, s.dropWhile isNameChar) else ([], s)
  | [] => ([], [])

/-- Whether a text is a name. -/
def isName (s : List Char) : Bool :=
  !s.isEmpty && (splitName s).2.isEmpty

/-- Whether a text is a name with an equals sign behind it and perhaps more. -/
def isAssignment (s : List Char) : Bool :=
  let (name, rest) := splitName s
  !name.isEmpty && rest.head? == some '='

/-- The name of an assignment, and its value if there is one. -/
def splitAssignment (s : List Char) : List Char × Option (List Char) :=
  match s.dropWhile (· ≠ '=') with
  | _ :: value => (s.takeWhile (· ≠ '='), some value)
  | [] => (s, none)

/-- Whether a character is white space. -/
def isSpace (c : Char) : Bool :=
  c == ' ' || (9 ≤ c.toNat && c.toNat ≤ 13)

/-- Whether a text is made of one or more digits. -/
def isNumber (s : List Char) : Bool :=
  !s.isEmpty && s.all Char.isDigit

/-- The number that decimal digits make. -/
def decimalOf (s : List Char) : Nat :=
  s.foldl (fun n d => 10 * n + (d.toNat - 48)) 0

/-- A number in decimal digits. -/
def decimalText (n : Nat) : List Char :=
  Nat.toDigits 10 n

end Manuscript.Shell
