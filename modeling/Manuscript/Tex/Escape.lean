/-!
# Escaping for LaTeX text

Ten characters have a meaning of their own in LaTeX text. Escaping replaces each of them by a sequence that prints
it, in one pass over the text, so that the sequence for one character is never escaped again. Unescaping reads the
ten sequences back and copies everything else.
-/

namespace Manuscript.Tex

/-- The characters with a meaning in LaTeX text and the sequences that print them. -/
def escapes : List (Char × List Char) :=
  [('\\', "\\textbackslash\x7b\x7d".toList),
    ('{', "\\\x7b".toList),
    ('}', "\\\x7d".toList),
    ('$', "\\$".toList),
    ('&', "\\&".toList),
    ('#', "\\#".toList),
    ('_', "\\_".toList),
    ('%', "\\%".toList),
    ('~', "\\textasciitilde\x7b\x7d".toList),
    ('^', "\\textasciicircum\x7b\x7d".toList)]

/-- Whether a character has a meaning in LaTeX text. -/
def isSpecial (c : Char) : Bool :=
  (escapes.lookup c).isSome

/-- What is written for a character. -/
def escapeChar (c : Char) : List Char :=
  (escapes.lookup c).getD [c]

/-- The text with its special characters replaced by the sequences that print them. -/
def escape (s : List Char) : List Char :=
  s.flatMap escapeChar

/-- The entry of the table whose sequence a text starts with. -/
def sequenceAt? (s : List Char) : Option (Char × List Char) :=
  escapes.find? (fun e => e.2.isPrefixOf s)

/-- The text after `skip` characters with the sequences of the table read back. -/
def unescapeFrom : Nat → List Char → List Char
  | _, [] => []
  | skip + 1, _ :: rest => unescapeFrom skip rest
  | 0, c :: rest =>
    match sequenceAt? (c :: rest) with
    | some (special, sequence) => special :: unescapeFrom (sequence.length - 1) rest
    | none => c :: unescapeFrom 0 rest

/-- The text with the sequences of the table read back and everything else as it is. -/
def unescape (s : List Char) : List Char :=
  unescapeFrom 0 s

end Manuscript.Tex
