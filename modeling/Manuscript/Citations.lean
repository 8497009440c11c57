import Manuscript.Metadata
import Manuscript.ReferenceKind

/-!
# Citations

The targets of cross-references that are known from outside the tree, and the entries of the bibliography in BibTeX.
-/

namespace Manuscript

/-- A target of cross-references and its kind. -/
structure Reference where
  id : String
  kind : ReferenceKind
  deriving DecidableEq, Inhabited

/-- The citations that go with a document. -/
structure Citations where
  references : List Reference := []
  /-- BibTeX entries. -/
  bibliography : List String := []
  deriving DecidableEq, Inhabited

namespace Citations

/-- Whether some entry of the bibliography is not blank. -/
def hasBibliography (citations : Citations) : Bool :=
  citations.bibliography.any (fun entry => !isBlankString entry)

/-- The kind of the first reference with the given id. -/
def kindOf (citations : Citations) (id : String) : Option ReferenceKind :=
  (citations.references.find? (fun reference => reference.id == id)).map (·.kind)

/-- The name of the bibliography file of a document, when there is something to cite. -/
def bibliographyFile (name : String) (citations : Option Citations) : Option String :=
  (citations.filter hasBibliography).map (fun _ => name ++ ".bib")

end Citations

end Manuscript
