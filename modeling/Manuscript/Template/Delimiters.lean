import Manuscript.Options

/-!
# The delimiters of templates

Values stand between delimiters of the user's choice, statements and comments between fixed ones.
-/

namespace Manuscript.Template

/-- The delimiters of a template. -/
structure Delimiters where
  openValue : List Char
  closeValue : List Char
  deriving DecidableEq, Inhabited

namespace Delimiters

/-- What a statement starts with. -/
def openStatement : List Char := ['<', '%']

/-- What a statement ends with. -/
def closeStatement : List Char := ['%', '>']

/-- What a comment starts with. -/
def openComment : List Char := ['<', '#']

/-- What a comment ends with. -/
def closeComment : List Char := ['#', '>']

/-- Whether the delimiters of values are not empty and can be told from the others. -/
def isValid (d : Delimiters) : Bool :=
  !d.openValue.isEmpty && !d.closeValue.isEmpty && d.openValue != openStatement && d.openValue != openComment

/-- The delimiters that tags stand for. -/
def ofTags (tags : Tags) : Delimiters where
  openValue := tags.opening.toList
  closeValue := tags.closing.toList

end Delimiters

end Manuscript.Template
