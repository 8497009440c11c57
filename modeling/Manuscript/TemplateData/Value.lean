import Manuscript.Template.Value
import Manuscript.TemplateData

/-!
# The record of a document as a template value

The names under which a template finds the fields of its record.
-/

namespace Manuscript

open Template (Value)

/-- A map from names to values. -/
def Template.Value.ofMembers (members : List (String × Value)) : Value :=
  .map (members.map (fun m => (.ofString m.1, m.2)))

/-- A list of strings. -/
def Template.Value.ofStrings (items : List String) : Value :=
  .list (items.map .ofString)

/-- An author as a template sees it. -/
def Author.toValue (author : Author) : Value :=
  .ofMembers [("name", .ofString author.name), ("affiliation", .ofOption author.affiliation)]

/-- The record as a template sees it. -/
def TemplateData.toValue (data : TemplateData) : Value :=
  .ofMembers
    [("date", .ofString data.date),
      ("title", .ofString data.title),
      ("short_title", .ofOption data.shortTitle),
      ("authors", .list (data.authors.map Author.toValue)),
      ("first_author", data.firstAuthor.toValue),
      ("other_authors", .list (data.otherAuthors.map Author.toValue)),
      ("short_author", .ofOption data.shortAuthor),
      ("bibliography", .ofOption data.bibliography),
      ("keywords", .ofStrings data.keywords),
      ("graphics_path", .ofOption data.graphicsPath),
      ("content", .ofString data.content),
      ("abstract", .ofOption data.abstract),
      ("acknowledgments", .ofOption data.acknowledgments),
      ("teaser", .ofOption data.teaser),
      ("preamble", .ofOption data.preamble)]

end Manuscript
