import Manuscript.Formatter.Content
import Manuscript.Metadata
import Manuscript.Tex.Escape

/-!
# What a template sees

The record of values that a template can name. Each is LaTeX already, escaped or made by the formatter, so a
template puts it in as it is.
-/

namespace Manuscript

/-- The record of values that a template can name. -/
structure TemplateData where
  date : String
  title : String
  shortTitle : Option String
  authors : List Author
  firstAuthor : Author
  otherAuthors : List Author
  shortAuthor : Option String
  /-- The name of the bibliography file, when there is something to cite. -/
  bibliography : Option String
  keywords : List String
  /-- The directory of the images. -/
  graphicsPath : Option String
  content : String
  abstract : Option String
  acknowledgments : Option String
  teaser : Option String
  preamble : Option String
  deriving DecidableEq, Inhabited

namespace TemplateData

/-- A string escaped for LaTeX. -/
def escaped (s : String) : String :=
  String.ofList (Tex.escape s.toList)

/-- An author with name and affiliation escaped. -/
def escapedAuthor (author : Author) : Author :=
  { name := escaped author.name, affiliation := author.affiliation.map escaped }

/-- The date, escaped unless it is the day on which LaTeX runs. -/
def dateText (date : Option String) : String :=
  match date.filter (fun d => !isBlankString d) with
  | some date => escaped date
  | none => Metadata.today

/-- A directory for LaTeX to search: slashes only, and one at the end. -/
def directoryText (path : Path) : String :=
  let slashes := path.text.toList.map (fun c => if c = '\\' then '/' else c)
  String.ofList (if slashes.getLast? = some '/' then slashes else slashes ++ ['/'])

/-- The record for a document: its metadata, its formatted parts, the name of the bibliography file and the
directory of its images. -/
def ofDocument (metadata : Metadata) (f : Formatter) (bibliography : Option String) (graphicsPath : Option Path) :
    TemplateData :=
  let authors := (Metadata.authorsOrDefault metadata.authors).map escapedAuthor
  let block := fun name => (f.blocks.text? name).map String.ofList
  { date := dateText metadata.date
    title := escaped (Metadata.titleOrDefault metadata.title)
    shortTitle := metadata.shortTitle.map escaped
    authors
    firstAuthor := authors.headD Metadata.unknownAuthor
    otherAuthors := authors.tail
    shortAuthor := (Metadata.shortAuthor metadata.authors).map escaped
    bibliography
    keywords := metadata.keywords.map escaped
    graphicsPath := (graphicsPath.filter (fun path => !path.text.isEmpty)).map directoryText
    content := String.ofList f.content
    abstract := block .abstract
    acknowledgments := block .acknowledgments
    teaser := block .teaser
    preamble := block .preamble }

end TemplateData

end Manuscript
