import Manuscript.Bibtex.Escape
import Manuscript.Citations
import Manuscript.Text.Lines

/-!
# The bibliography file

The text of the file with the BibTeX entries that a document cites from: every entry that is not blank, trimmed and
escaped on its own.
-/

namespace Manuscript.Citations

/-- The entries that are not blank, without the blanks around them. -/
def entries (citations : Citations) : List (List Char) :=
  (citations.bibliography.map (fun entry => Text.trim entry.toList)).filter (fun entry => !entry.isEmpty)

/-- The text of the bibliography file: the entries with a blank line between them, and an end of line. -/
def bibliographyText (citations : Citations) : List Char :=
  Text.joinWith ['\n', '\n'] (citations.entries.map Bibtex.escape) ++ ['\n']

end Manuscript.Citations
