import Manuscript.Document
import Manuscript.Node.Json

/-!
# Documents in JSON

The JSON form of metadata, citations and whole documents.
-/

namespace Manuscript

namespace Author

/-- An author from a JSON value. -/
def ofJson? : Nat → Json → Option Author
  | 0, _ => none
  | _ + 1, json => do
    let fields ← Json.record? ["name", "affiliation"] json
    let name ← Json.field? fields "name" Json.string?
    let affiliation ← Json.fieldOr fields "affiliation" none (Json.nullable? Json.string?)
    pure { name, affiliation }

/-- An author as a JSON value; an affiliation that is not known is left out. -/
def toJson (author : Author) : Json :=
  .ofMembers (("name", .ofString author.name) ::
    match author.affiliation with
    | some affiliation => [("affiliation", .ofString affiliation)]
    | none => [])

end Author

namespace Metadata

/-- The fields of the metadata in their order. -/
def fieldNames : List String :=
  ["title", "shortTitle", "authors", "date", "keywords"]

/-- Metadata from a JSON value. -/
def ofJson? : Nat → Json → Option Metadata
  | 0, _ => none
  | levels + 1, json => do
    let fields ← Json.record? fieldNames json
    let title ← Json.fieldOr fields "title" none (Json.nullable? Json.string?)
    let shortTitle ← Json.fieldOr fields "shortTitle" none (Json.nullable? Json.string?)
    let authors ← Json.fieldOr fields "authors" [] (Json.list? Author.ofJson? levels)
    let date ← Json.fieldOr fields "date" none (Json.nullable? Json.string?)
    let keywords ← Json.fieldOr fields "keywords" [] (Json.strings? levels)
    pure { title, shortTitle, authors, date, keywords }

/-- Metadata as a JSON value, with null for what is not known. -/
def toJson (metadata : Metadata) : Json :=
  .ofMembers
    [("title", .ofOption metadata.title),
      ("shortTitle", .ofOption metadata.shortTitle),
      ("authors", .array (metadata.authors.map Author.toJson)),
      ("date", .ofOption metadata.date),
      ("keywords", .ofStrings metadata.keywords)]

/-- The metadata that a text is. -/
def parse? (s : List Char) : Option Metadata :=
  (Json.parse? s).bind (ofJson? Json.maxLevels)

end Metadata

namespace ReferenceKind

/-- A kind from its name, or from an object with the name as its one member and null as the value of that. -/
def ofJson? : Nat → Json → Option ReferenceKind
  | _ + 1, .object [(some name, .null)] => ofName? name
  | _, json => (Json.string? json).bind ofName?

end ReferenceKind

namespace Reference

/-- A reference from a JSON value. -/
def ofJson? : Nat → Json → Option Reference
  | 0, _ => none
  | levels + 1, json => do
    let fields ← Json.record? ["id", "kind"] json
    let id ← Json.field? fields "id" Json.string?
    let kind ← Json.field? fields "kind" (ReferenceKind.ofJson? levels)
    pure { id, kind }

/-- A reference as a JSON value. -/
def toJson (reference : Reference) : Json :=
  .ofMembers [("id", .ofString reference.id), ("kind", .ofString reference.kind.name)]

end Reference

namespace Citations

/-- Citations from a JSON value. -/
def ofJson? : Nat → Json → Option Citations
  | 0, _ => none
  | levels + 1, json => do
    let fields ← Json.record? ["references", "bibliography"] json
    let references ← Json.fieldOr fields "references" [] (Json.list? Reference.ofJson? levels)
    let bibliography ← Json.fieldOr fields "bibliography" [] (Json.strings? levels)
    pure { references, bibliography }

/-- Citations as a JSON value. -/
def toJson (citations : Citations) : Json :=
  .ofMembers
    [("references", .array (citations.references.map Reference.toJson)),
      ("bibliography", .ofStrings citations.bibliography)]

/-- The citations that a text is. -/
def parse? (s : List Char) : Option Citations :=
  (Json.parse? s).bind (ofJson? Json.maxLevels)

end Citations

namespace Document

/-- A document from a JSON value. -/
def ofJson? : Nat → Json → Option Document
  | 0, _ => none
  | levels + 1, json => do
    let fields ← Json.record? ["root", "metadata", "citations"] json
    let root ← Json.field? fields "root" (Node.ofJson? levels)
    let metadata ← Json.fieldOr fields "metadata" {} (Metadata.ofJson? levels)
    let citations ← Json.fieldOr fields "citations" none (Json.nullable? (Citations.ofJson? levels))
    pure { root, metadata, citations }

/-- A document as a JSON value; citations that are not there are left out. -/
def toJson (document : Document) : Json :=
  .ofMembers (("root", document.root.toJson) :: ("metadata", document.metadata.toJson) ::
    match document.citations with
    | some citations => [("citations", citations.toJson)]
    | none => [])

/-- The text of a document. -/
def print (document : Document) : List Char :=
  document.toJson.print

/-- The document that a text is. -/
def parse? (s : List Char) : Option Document :=
  (Json.parse? s).bind (ofJson? Json.maxLevels)

end Document

end Manuscript
