import Manuscript.ReferenceKind
import Manuscript.Text.Lines

/-!
# LaTeX markup

The shapes of LaTeX that a formatter puts text into: commands, environments, labels, and the commands for styles and
headings.
-/

namespace Manuscript.Tex

/-- A command with one argument. -/
def command (name : String) (argument : List Char) : List Char :=
  '\\' :: (name.toList ++ '{' :: (argument ++ ['}']))

/-- A block of text and the blank line after it; nothing for no text. -/
def block (body : List Char) : List Char :=
  if body.isEmpty then [] else body ++ "\n\n".toList

/-- A placement in brackets, where there is one. -/
def placementText : Option String → List Char
  | some placement => '[' :: (placement.toList ++ [']'])
  | none => []

/-- An environment, its body on lines of its own, and the blank line after it. -/
def environment (name : String) (placement : Option String) (body : List Char) : List Char :=
  command "begin" name.toList ++
    (placementText placement ++ '\n' :: (body ++ '\n' :: (command "end" name.toList ++ "\n\n".toList)))

/-- The name of a label: the namespace of its kind and the id. -/
def labelName (kind : ReferenceKind) (id : String) : List Char :=
  kind.labelPrefix.toList ++ ':' :: id.toList

/-- A label. -/
def label (kind : ReferenceKind) (id : String) : List Char :=
  command "label" (labelName kind id)

/-- The style classes and the commands that set text in them. The classes `strong` and `demi` mean bold: the
standard fonts have no weight of their own for them. -/
def styleCommands : List (String × String) :=
  [("italic", "emph"),
    ("emphasis", "emph"),
    ("bold", "textbf"),
    ("strong", "textbf"),
    ("demi", "textbf"),
    ("underline", "underline"),
    ("smallcaps", "textsc"),
    ("monospace", "texttt")]

/-- The command of a style class, if it has one. -/
def styleCommand? (style : String) : Option String :=
  styleCommands.lookup style

/-- Text in the commands of the given style classes, the first of them innermost. -/
def styled (classes : List String) (content : List Char) : List Char :=
  (classes.filterMap styleCommand?).foldl (fun inner name => command name inner) content

/-- The command of a heading by its level; levels below one count as one and levels above five as five. -/
def sectionCommand (level : Nat) : String :=
  match level with
  | 0 | 1 => "section"
  | 2 => "subsection"
  | 3 => "subsubsection"
  | 4 => "paragraph"
  | _ => "subparagraph"

/-- A link target with `%` and `#` made harmless. -/
def escapeUrl (url : List Char) : List Char :=
  url.flatMap (fun c => if c = '%' then ['\\', '%'] else if c = '#' then ['\\', '#'] else [c])

end Manuscript.Tex
