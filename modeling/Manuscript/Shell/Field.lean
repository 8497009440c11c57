import Manuscript.Shell.Pattern
import Manuscript.Shell.Text

/-!
# Fields

What comes of a word when its expansions are put in: some parts are kept together, others are split at separators,
and the arguments of the script may stand for several fields. A field that is a pattern stands for the paths that it
matches.
-/

namespace Manuscript.Shell

/-- A part of an expanded word. -/
inductive Piece where
  /-- A text that is not split. A quoted one makes a field even if it is empty. -/
  | fixed (text : List Char) (quoted : Bool)
  /-- A text that is split at separators. -/
  | loose (text : List Char)
  /-- A text that is split between the given parts and at separators. -/
  | looseParts (parts : List (List Char))
  /-- Fields of their own. -/
  | several (fields : List (List Char))
  deriving DecidableEq, Inhabited

/-- Whether a separator is white space, which counts once however often it stands. -/
def isBlankSeparator (c : Char) : Bool :=
  c == ' ' || c == '\t' || c == '\n'

/-- A field whose characters may still be those of a pattern. -/
abbrev Field := List PatternChar

/-- Finished fields, the last one first, and the one that more may be put behind. -/
structure Fields where
  finished : List Field := []
  /-- The characters of the started field, the last one first. -/
  started : Field := []
  /-- Whether something quoted belongs to the started field, so that it is one even if it is empty. -/
  marked : Bool := false
  /-- Whether white space has just finished a field, so that one separator behind it finishes no other. -/
  afterBlank : Bool := false
  /-- Whether the last part was fields of their own. White space in the next part that is split is like other
  separators then. -/
  afterSeveral : Bool := false
  deriving DecidableEq, Inhabited

namespace Fields

/-- The fields with a text behind the last one. -/
def extend (fields : Fields) (text : List Char) (quoted : Bool) : Fields :=
  { fields with started := (text.map (·, quoted)).reverse ++ fields.started, marked := fields.marked || quoted }

/-- The fields with the last one finished. -/
def finish (fields : Fields) : Fields :=
  { fields with finished := fields.started.reverse :: fields.finished, started := [], marked := false }

/-- Whether nothing is in the started field. -/
def isFresh (fields : Fields) : Bool :=
  fields.started.isEmpty && !fields.marked

/-- The fields behind white space between fields. -/
def separateBlank (fields : Fields) : Fields :=
  if fields.afterBlank || fields.isFresh then fields else { fields.finish with afterBlank := true }

/-- The fields behind a separator that is no white space. -/
def separate (fields : Fields) : Fields :=
  if fields.afterBlank then { fields with afterBlank := false } else fields.finish

/-- The fields with a text that is split at separators. -/
def addLoose (separators : List Char) (fields : Fields) (text : List Char) : Fields :=
  text.foldl
    (fun fields c =>
      if separators.contains c then (if isBlankSeparator c &&
        !fields.afterSeveral then fields.separateBlank else fields.separate)
      else { fields with started := (c, false) :: fields.started, afterBlank := false })
    fields

/-- The fields with parts that are split between them and at separators. -/
def addLooseParts (separators : List Char) (fields : Fields) : List (List Char) → Fields
  | [] => fields
  | [last] => fields.addLoose separators last
  | part :: rest => addLooseParts separators (fields.addLoose separators part).separateBlank rest

/-- The fields with further ones, the first of which continues the last. -/
def addSeveral (fields : Fields) : List (List Char) → Fields
  | [] => fields
  | [last] => fields.extend last true
  | first :: rest => addSeveral (fields.extend first true).finish rest

/-- The fields with a part of a word. -/
def add (separators : List Char) (fields : Fields) (piece : Piece) : Fields :=
  let fields := { fields with afterBlank := false }
  match piece with
  | .fixed text quoted => fields.extend text quoted
  | .loose text => { fields.addLoose separators text with afterSeveral := false }
  | .looseParts parts => { fields.addLooseParts separators parts with afterSeveral := false }
  | .several items => { fields.addSeveral items with afterSeveral := fields.afterSeveral || !items.isEmpty }

end Fields

/-- The fields of an expanded word. -/
def fieldsOf (separators : List Char) (pieces : List Piece) : List Field :=
  let fields := pieces.foldl (Fields.add separators) {}
  (if fields.isFresh then fields else fields.finish).finished.reverse

/-- The text of an expanded word that is not split. -/
def textOf (pieces : List Piece) : List Char :=
  pieces.flatMap (fun
    | .fixed text _ => text
    | .loose text => text
    | .looseParts parts => [' '].intercalate parts
    | .several items => [' '].intercalate items)

/-- The pattern that an expanded word is. -/
def patternOf (pieces : List Piece) : List PatternChar :=
  pieces.flatMap (fun
    | .fixed text quoted => text.map (·, quoted)
    | .loose text => text.map (·, false)
    | .looseParts parts => ([' '].intercalate parts).map (·, false)
    | .several items => ([' '].intercalate items).map (·, true))

/-! ## Names of files -/

/-- Whether a field has a character with a meaning in patterns. -/
def isPattern (field : Field) : Bool :=
  field.any (fun c => !c.2 && ['*', '?', '['].contains c.1)

/-- The parts of a field between slashes. -/
def pathParts : Field → List Field
  | [] => [[]]
  | c :: rest =>
    if c.1 = '/' then [] :: pathParts rest
    else
      match pathParts rest with
      | [] => [[c]]
      | part :: parts => (c :: part) :: parts

/-- The names in a directory that a pattern stands for. A dot at the start must be given. -/
def matchingNames (files : FileSystem) (directory : List Char) (pattern : Field) : List (List Char) :=
  let path := if directory.isEmpty then ⟨"."⟩ else toPath directory
  match files.list path with
  | .error _ => []
  | .ok names =>
    let dotted := (pattern.head?.map (·.1)) == some '.'
    (['.'] :: ['.', '.'] :: names.map ofString).filter (fun name =>
      matchesPattern pattern name && (name.head? != some '.' || dotted))

/-- The paths that the parts of a pattern stand for behind a directory. -/
def matchingPaths (files : FileSystem) : List Char → List Field → List (List Char)
  | _, [] => []
  | directory, [last] =>
    if isPattern last then (matchingNames files directory last).map (directory ++ ·)
    else
      let path := directory ++ last.map (·.1)
      if files.exists? (toPath path) then [path] else []
  | directory, part :: rest =>
    if isPattern part then
      (matchingNames files directory part).flatMap (fun name => matchingPaths files (directory ++ name ++ ['/']) rest)
    else matchingPaths files (directory ++ part.map (·.1) ++ ['/']) rest

/-- The texts that a field stands for: the paths that it is a pattern of, in order, or itself. -/
def textsOfField (files : FileSystem) (field : Field) : List (List Char) :=
  let plain := field.map (·.1)
  if isPattern field then
    match matchingPaths files [] (pathParts field) with
    | [] => [plain]
    | paths => paths.mergeSort (fun a b => decide (String.ofList a ≤ String.ofList b))
  else [plain]

end Manuscript.Shell
