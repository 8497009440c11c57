import Manuscript.FileSystem.Access
import Manuscript.Shell.Character

/-!
# Texts of the shell

A text of the shell is a list of bytes, each shown as the character with its number. Paths and strings are turned
into such texts and back.
-/

namespace Manuscript.Shell

/-- The bytes of a text of the shell. -/
def toBytes (s : List Char) : List UInt8 :=
  s.map (fun c => UInt8.ofNat c.toNat)

/-- A text of the shell from bytes. -/
def ofBytes (bytes : List UInt8) : List Char :=
  bytes.map (fun b => Char.ofNat b.toNat)

/-- A text of the shell from a string. -/
def ofString (s : String) : List Char :=
  ofBytes (Utf8.encode s.toList)

/-- The path that a text of the shell spells. -/
def toPath (s : List Char) : Path :=
  ⟨String.ofList (Utf8.decodeLossy (toBytes s))⟩

/-- The parts of a text between a separator. -/
def splitAll (separator : Char) : List Char → List (List Char)
  | [] => [[]]
  | c :: rest =>
    if c = separator then [] :: splitAll separator rest
    else
      match splitAll separator rest with
      | [] => [[c]]
      | part :: parts => (c :: part) :: parts

/-- A text in apostrophes, with the apostrophes in it in double quotes. -/
def quoteText (s : List Char) : List Char :=
  quotePart [] s
where
  /-- The rest of a text behind characters that are yet to be put in apostrophes. -/
  quotePart (plain : List Char) : List Char → List Char
    | [] => '\'' :: plain.reverse ++ ['\'']
    | '\'' :: rest => '\'' :: plain.reverse ++ ['\'', '"', '\''] ++ apostrophes rest
    | c :: rest => quotePart (c :: plain) rest
  /-- The rest of a text behind an apostrophe in double quotes. -/
  apostrophes : List Char → List Char
    | [] => ['"']
    | '\'' :: rest => '\'' :: apostrophes rest
    | c :: rest => '"' :: quotePart [c] rest

end Manuscript.Shell
