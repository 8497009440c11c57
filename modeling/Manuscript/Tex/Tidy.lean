import Manuscript.Text.Blank
import Manuscript.Text.Lines

/-!
# Tidying generated text

The last step of formatting: at most one blank line in a row, no blanks before an end of line, and no blanks at
either end of the text. Parts that have to stay as they are travel in the same text between two markers, private-use
characters, which the last step takes out.
-/

namespace Manuscript.Tex

/-- The marker in front of a part that stays as it is. -/
def verbatimOpen : Char := '\uE000'

/-- The marker behind a part that stays as it is. -/
def verbatimClose : Char := '\uE001'

/-- A part that stays as it is, between its markers. -/
def verbatim (s : List Char) : List Char :=
  verbatimOpen :: (s ++ [verbatimClose])

/-- As many line feeds as ends of line were met, but no more than two. -/
def breaks (newlines : Nat) : List Char :=
  List.replicate (min newlines 2) '\n'

/-- Lines joined again, when `newlines` ends of line still have to be written. Every line but the last loses the
blanks at its end, and a line that is then empty adds to the ends of line to be written. -/
def collapseLines : Nat → List (List Char) → List Char
  | newlines, [] => breaks newlines
  | newlines, [last] => if last.isEmpty then breaks newlines else breaks newlines ++ last
  | newlines, line :: rest =>
    let kept := Text.trimEnd line
    if kept.isEmpty then collapseLines (newlines + 1) rest else breaks newlines ++ (kept ++ collapseLines 1 rest)

/-- The text with at most one blank line in a row and no blanks before an end of line. -/
def collapseBlankLines (s : List Char) : List Char :=
  collapseLines 0 (Text.splitWhere (· == '\n') s)

/-- The parts of a text between markers: ordinary text and text that stays as it is, in turn. Inside the latter only
the closing marker counts, and outside it only the opening one. -/
def segments (inside : Bool) : List Char → List (List Char)
  | [] => [[]]
  | c :: rest =>
    if c = (if inside then verbatimClose else verbatimOpen) then [] :: segments (!inside) rest
    else
      match segments inside rest with
      | [] => [[c]]
      | part :: parts => (c :: part) :: parts

/-- The parts after the first, beginning with one that stays as it is. The last ordinary part loses the blanks at
its end. -/
def tidyRest : List (List Char) → List Char
  | [] => []
  | [kept] => kept
  | [kept, last] => kept ++ Text.trimEnd (collapseBlankLines last)
  | kept :: plain :: rest => kept ++ (collapseBlankLines plain ++ tidyRest rest)

/-- The finished text: blank lines collapsed, blanks at the ends removed, and the marked parts as they are without
their markers. -/
def tidy (s : List Char) : List Char :=
  match segments false s with
  | [] => []
  | [only] => Text.trim (collapseBlankLines only)
  | first :: rest => Text.trimStart (collapseBlankLines first) ++ tidyRest rest

end Manuscript.Tex
