import Manuscript.Package

/-!
# The article package

The package for a one-column article that comes with the library, so that a document compiles without any package in
the file system.
-/

namespace Manuscript.Package

/-- The name of the package. -/
def articleId : String := "article"

/-- Lines with an end of line after each. -/
def ofLines (lines : List String) : List Char :=
  lines.flatMap (fun line => line.toList ++ ['\n'])

/-- The text of the manifest. -/
def articleManifest : List Char :=
  ofLines
    ["# Built-in single-column article",
    "template = \"template.tex\"",
    "files = []"]

/-- The text of the template. -/
def articleTemplate : List Char :=
  ofLines
    ["<# Built-in article template. Values arrive already escaped. -#>",
    "\\documentclass[11pt]\x7barticle\x7d",
    "",
    "\\usepackage[utf8]\x7binputenc\x7d",
    "\\usepackage[T1]\x7bfontenc\x7d",
    "\\usepackage\x7bamsmath\x7d",
    "\\usepackage\x7bgraphicx\x7d",
    "\\usepackage[hidelinks]\x7bhyperref\x7d",
    "<% if graphics_path %>",
    "\\graphicspath\x7b\x7b<< graphics_path >>\x7d\x7d",
    "<% endif %>",
    "<% if preamble %>",
    "<< preamble >>",
    "<% endif %>",
    "",
    "\\title\x7b<< title >>\x7d",
    "\\author\x7b<< first_author.name >><% if first_author.affiliation %>\\\\ \\small << first_author.affiliation >><% endif %><% for author in other_authors %> \\and << author.name >><% if author.affiliation %>\\\\ \\small << author.affiliation >><% endif %><% endfor %>\x7d",
    "\\date\x7b<< date >>\x7d",
    "",
    "\\hypersetup\x7bpdftitle=\x7b<< title >>\x7d<% if short_author %>, pdfauthor=\x7b<< short_author >>\x7d<% endif %>\x7d",
    "",
    "\\begin\x7bdocument\x7d",
    "",
    "\\maketitle",
    "",
    "<% if teaser %>",
    "\\begin\x7bfigure\x7d[h]",
    "\\centering",
    "<< teaser >>",
    "\\end\x7bfigure\x7d",
    "<% endif %>",
    "<% if abstract %>",
    "\\begin\x7babstract\x7d",
    "<< abstract >>",
    "\\end\x7babstract\x7d",
    "<% endif %>",
    "<% if keywords %>",
    "\\noindent\\textbf\x7bKeywords:\x7d << keywords | join(\", \") >>",
    "",
    "<% endif %>",
    "<< content >>",
    "",
    "<% if acknowledgments %>",
    "\\section*\x7bAcknowledgments\x7d",
    "<< acknowledgments >>",
    "<% endif %>",
    "<% if bibliography %>",
    "\\bibliographystyle\x7bplain\x7d",
    "\\bibliography\x7b<< bibliography >>\x7d",
    "<% endif %>",
    "",
    "\\end\x7bdocument\x7d"]

/-- The package that comes with the library under a name, as if it lay in a directory. -/
def builtIn? (id : String) (directory : Path) : Option (Except CompilationError Package) :=
  if id = articleId then
    match Manifest.parse? articleManifest with
    | some manifest => some (.ok { directory, manifest, ownTemplate := some articleTemplate })
    | none => some (.error (.badManifest (directory.child Manifest.fileName)))
  else none

end Manuscript.Package
