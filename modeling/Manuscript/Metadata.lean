import Manuscript.Text.Blank

/-!
# Metadata

What is known about an article besides its text. Every field may be missing; what stands in for a missing one is
decided here, by one function for each field.
-/

namespace Manuscript

/-- One author. -/
structure Author where
  name : String
  affiliation : Option String := none
  deriving DecidableEq, Inhabited

/-- The record of an article. -/
structure Metadata where
  title : Option String := none
  /-- The title for running heads. -/
  shortTitle : Option String := none
  authors : List Author := []
  /-- The date of publication, in any wording. -/
  date : Option String := none
  keywords : List String := []
  deriving DecidableEq, Inhabited

/-- Whether a string has no character that is not blank. -/
def isBlankString (s : String) : Bool :=
  Text.allBlank s.toList

namespace Metadata

/-- The title of an article without one. -/
def untitled : String := "Untitled"

/-- The author of an article without one. -/
def unknownAuthor : Author := { name := "Unknown Author" }

/-- The date of an article without one; LaTeX puts in the day on which it runs. -/
def today : String := "\\today"

/-- The title, unless it is missing or blank. -/
def titleOrDefault (title : Option String) : String :=
  (title.filter (fun t => !isBlankString t)).getD untitled

/-- The date, unless it is missing or blank. -/
def dateOrDefault (date : Option String) : String :=
  (date.filter (fun d => !isBlankString d)).getD today

/-- The authors, or the unknown one. -/
def authorsOrDefault (authors : List Author) : List Author :=
  if authors.isEmpty then [unknownAuthor] else authors

/-- The authors in a running head: one, two joined by "and", or the first of more. -/
def shortAuthor : List Author → Option String
  | [] => none
  | [only] => some only.name
  | [first, second] => some (first.name ++ " and " ++ second.name)
  | first :: _ => some (first.name ++ " et al.")

/-- The record with one more author. -/
def addAuthor (metadata : Metadata) (author : Author) : Metadata :=
  { metadata with authors := metadata.authors ++ [author] }

theorem authorsOrDefault_ne_nil (authors : List Author) : authorsOrDefault authors ≠ [] := by
  unfold authorsOrDefault
  split
  · simp
  · simp_all

end Metadata

end Manuscript
