import Manuscript.Toml

/-!
# Blanks, keys and strings of TOML

The pieces of a TOML text that are read character by character. Each reader takes the text and answers with what it
read and what is left of the text, or with nothing when the text does not start as it should.
-/

namespace Manuscript.Toml

/-- A blank inside a line. -/
def isGap (c : Char) : Bool :=
  c == ' ' || c == '\t'

/-- The text after the blanks at its start. -/
def skipGaps (s : List Char) : List Char :=
  s.dropWhile isGap

/-- What follows an end of line. -/
def afterNewline? : List Char → Option (List Char)
  | '\n' :: rest => some rest
  | '\r' :: '\n' :: rest => some rest
  | _ => none

/-- Whether a character is a control character other than the tab. -/
def isControl (c : Char) : Bool :=
  (c.toNat < 0x20 && c != '\t') || c.toNat == 0x7F

/-- The text after a comment, if it starts with one. -/
def skipComment : List Char → List Char
  | '#' :: rest => rest.dropWhile (fun c => !isControl c)
  | s => s

/-- What follows the end of a line: blanks, a comment, and an end of line unless the text ends. -/
def afterLine? (s : List Char) : Option (List Char) :=
  match skipComment (skipGaps s) with
  | [] => some []
  | rest => afterNewline? rest

/-- The text after blanks, comments and ends of line, each comment with its end of line. -/
def skipLines : Nat → List Char → Option (List Char)
  | 0, s => some s
  | fuel + 1, s =>
    match skipGaps s with
    | '#' :: rest => (afterNewline? (skipComment ('#' :: rest))).bind (skipLines fuel)
    | '\n' :: rest => skipLines fuel rest
    | '\r' :: rest => (afterNewline? ('\r' :: rest)).bind (skipLines fuel)
    | rest => some rest

/-! ## Strings -/

/-- The value of a hexadecimal digit in either case. -/
def hexDigit? (c : Char) : Option Nat :=
  if '0' ≤ c && c ≤ '9' then some (c.toNat - '0'.toNat)
  else if 'a' ≤ c && c ≤ 'f' then some (c.toNat - 'a'.toNat + 10)
  else if 'A' ≤ c && c ≤ 'F' then some (c.toNat - 'A'.toNat + 10)
  else none

/-- The value of hexadecimal digits. -/
def hexDigits? (s : List Char) : Option Nat :=
  s.foldl (fun value c => value.bind (fun v => (hexDigit? c).map (fun d => v * 16 + d))) (some 0)

/-- The character whose code point the first `count` characters give in hexadecimal digits, and what follows them. -/
def codePoint? (count : Nat) (s : List Char) : Option (Char × List Char) :=
  let digits := s.take count
  if digits.length < count then none
  else
    match hexDigits? digits with
    | some code => if h : code.isValidChar then some (Char.ofNatAux code h, s.drop count) else none
    | none => none

/-- The character that an escape stands for, read after the backslash, and what follows. -/
def escape? : List Char → Option (Char × List Char)
  | 'b' :: rest => some ('\x08', rest)
  | 't' :: rest => some ('\t', rest)
  | 'n' :: rest => some ('\n', rest)
  | 'f' :: rest => some ('\x0c', rest)
  | 'r' :: rest => some ('\r', rest)
  | '"' :: rest => some ('"', rest)
  | '\\' :: rest => some ('\\', rest)
  | 'u' :: rest => codePoint? 4 rest
  | 'U' :: rest => codePoint? 8 rest
  | _ => none

/-- Characters in front of what a reader reads. -/
def prepend (front : List Char) (result : Option (List Char × List Char)) : Option (List Char × List Char) :=
  result.map (fun r => (front ++ r.1, r.2))

/-- A string between double quotes, after the first of them. -/
def basic? : Nat → List Char → Option (List Char × List Char)
  | 0, _ => none
  | _ + 1, [] => none
  | fuel + 1, c :: rest =>
    if c = '"' then some ([], rest)
    else if c = '\\' then
      match escape? rest with
      | some (d, rest) => prepend [d] (basic? fuel rest)
      | none => none
    else if isControl c then none
    else prepend [c] (basic? fuel rest)

/-- A string between single quotes, after the first of them. -/
def literal? : List Char → Option (List Char × List Char)
  | [] => none
  | c :: rest =>
    if c = '\'' then some ([], rest)
    else if isControl c then none
    else prepend [c] (literal? rest)

/-- Three or more quotes inside a string of several lines: three of them close it, and up to two before them belong
to it. -/
def closing (quote : Char) (s : List Char) : List Char × List Char :=
  let extra := min ((s.takeWhile (· = quote)).length - 3) 2
  (List.replicate extra quote, s.drop (extra + 3))

/-- The text after an end of line at its start, if there is one. -/
def dropNewline (s : List Char) : List Char :=
  (afterNewline? s).getD s

/-- The text after blanks and ends of line. -/
def skipBlankLines : Nat → List Char → List Char
  | 0, s => s
  | fuel + 1, s =>
    match afterNewline? (skipGaps s) with
    | some rest => skipBlankLines fuel rest
    | none => skipGaps s

/-- A string of several lines between triple quotes, after the opening ones. Every end of line in it becomes a line
feed. Between double quotes a backslash starts an escape, or takes out the end of the line that it ends and all
blanks after it. -/
def multiline? (quote : Char) : Nat → List Char → Option (List Char × List Char)
  | 0, _ => none
  | _ + 1, [] => none
  | fuel + 1, c :: rest =>
    if c = quote then
      if (List.replicate 2 quote).isPrefixOf rest then some (closing quote (c :: rest))
      else prepend [c] (multiline? quote fuel rest)
    else
      match afterNewline? (c :: rest) with
      | some rest => prepend ['\n'] (multiline? quote fuel rest)
      | none =>
        if c = '\\' ∧ quote = '"' then
          match escape? rest with
          | some (d, rest) => prepend [d] (multiline? quote fuel rest)
          | none =>
            match afterNewline? (skipGaps rest) with
            | some rest => multiline? quote fuel (skipBlankLines fuel rest)
            | none => none
        else if isControl c then none
        else prepend [c] (multiline? quote fuel rest)

/-- A string of any form. -/
def string? (s : List Char) : Option (List Char × List Char) :=
  match s with
  | '"' :: '"' :: '"' :: rest => multiline? '"' s.length (dropNewline rest)
  | '\'' :: '\'' :: '\'' :: rest => multiline? '\'' s.length (dropNewline rest)
  | '"' :: rest => basic? s.length rest
  | '\'' :: rest => literal? rest
  | _ => none

/-! ## Keys -/

/-- A character of a bare key. -/
def isBare (c : Char) : Bool :=
  c.isAlphanum || c == '_' || c == '-'

/-- A part of a key: bare, or a string on one line. -/
def simpleKey? (s : List Char) : Option (String × List Char) :=
  match s with
  | '"' :: rest => (basic? s.length rest).map (fun r => (String.ofList r.1, r.2))
  | '\'' :: rest => (literal? rest).map (fun r => (String.ofList r.1, r.2))
  | _ =>
    let bare := s.takeWhile isBare
    if bare.isEmpty then none else some (String.ofList bare, s.dropWhile isBare)

/-- The parts of a key, which dots separate, with blanks around each. -/
def key? : Nat → List Char → Option (List String × List Char)
  | 0, _ => none
  | fuel + 1, s =>
    match simpleKey? (skipGaps s) with
    | none => none
    | some (part, rest) =>
      match skipGaps rest with
      | '.' :: rest => (key? fuel rest).map (fun r => (part :: r.1, r.2))
      | rest => some ([part], rest)

end Manuscript.Toml
