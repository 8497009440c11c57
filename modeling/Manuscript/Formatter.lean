import Manuscript.Bibtex.Escape
import Manuscript.Citations
import Manuscript.Node.Role
import Manuscript.Options
import Manuscript.Place
import Manuscript.Tex.Escape
import Manuscript.Tex.Markup
import Manuscript.Tex.Tidy
import Manuscript.Text.Numeral

/-!
# Formatting

Turning a document tree into LaTeX. A formatter is made once for a document and then only read. Each role has a rule
that says what a node becomes, given a way to render nodes further down; `render` closes the rules with a bound on
how deep they may go, which placed figures make necessary: a directive is rendered by rendering a figure that stands
elsewhere in the tree.
-/

namespace Manuscript

/-- What the rules look at besides the node: the tree, its places, the kinds of its ids, and the chosen words and
spacing. -/
structure Formatter where
  root : Node
  places : Places
  /-- The kind of each id that is declared in the tree or in the citations. -/
  targets : Dictionary ReferenceKind
  /-- The word in front of references of a kind. -/
  prefixOf : ReferenceKind → String
  /-- Spacing commands by the name of a node. -/
  vspace : Dictionary String

namespace Formatter

/-- The kinds of the ids that the tree declares; the first node with an id decides. -/
def treeTargets (root : Node) : Dictionary ReferenceKind :=
  root.walk.foldl
    (fun targets node =>
      match node.id, ReferenceKind.ofRole? node.name with
      | some id, some kind => targets.insertNew id kind
      | _, _ => targets)
    ∅

/-- The kinds of ids once the references of the citations are added, which overrule the tree and earlier references. -/
def withReferences (targets : Dictionary ReferenceKind) (references : List Reference) : Dictionary ReferenceKind :=
  references.foldl (fun targets reference => targets.insert reference.id reference.kind) targets

/-- The formatter of a document. -/
def ofDocument (root : Node) (options : Options) (citations : Option Citations) : Formatter where
  root := root
  places := Places.ofTree root
  targets := withReferences (treeTargets root) ((citations.map (·.references)).getD [])
  prefixOf := options.prefixOf
  vspace := options.vspace

/-- The kind of the target of a reference: a figure when a directive has placed one with this id, else what the hint
says, else what is known of the id. -/
def referenceKind? (f : Formatter) (target : String) (hint : Option String) : Option ReferenceKind :=
  if (f.places.get? target).isSome then some .figure
  else (hint.bind ReferenceKind.parse?).or (f.targets.get? target)

/-- The spacing command for a node. -/
def vspace? (f : Formatter) (node : Node) : Option String :=
  f.vspace.get? node.name

/-- The label of a node, when it has an id. -/
def label? (node : Node) (kind : ReferenceKind) : Option (List Char) :=
  node.id.map (Tex.label kind)

/-- The level that a heading gives for itself: a numeral that fits a machine word. -/
def headingLevel? (node : Node) : Option Nat :=
  (node.property "level").bind (fun level => Text.unsigned? (Nat.pow 2 64) level.toList)

/-! ## Rules -/

/-- A way to render a node, given the number of sections around it. -/
abbrev Renderer := Nat → Located → List Char

/-- The spacing command of a node on a line of its own in front of its text, unless the text is empty. -/
def spaced (f : Formatter) (node : Node) (body : List Char) : List Char :=
  match f.vspace? node with
  | some command => if body.isEmpty then body else command.toList ++ '\n' :: body
  | none => body

/-- The children of a node, one after another. -/
def renderChildren (render : Renderer) (depth : Nat) (place : Located) : List Char :=
  place.children.flatMap (render depth)

/-- A text node: its literal text escaped, or its children. -/
def renderText (render : Renderer) (depth : Nat) (place : Located) : List Char :=
  match place.node.value with
  | some value => Tex.escape value.toList
  | none => renderChildren render depth place

/-- A line with the label of a node at the end of a text, when the node has an id. -/
def withLabel (node : Node) (kind : ReferenceKind) (body : List Char) : List Char :=
  match label? node kind with
  | some label => body ++ '\n' :: label
  | none => body

/-- A figure, wherever it is set. -/
def renderFigure (render : Renderer) (depth : Nat) (place : Located) : List Char :=
  let body := "\\centering\n".toList ++ Text.trim (renderChildren render depth place)
  Tex.environment (if place.node.hasClass "wide" then "figure*" else "figure")
    (some ((place.node.property "placement").getD "htbp")) (withLabel place.node .figure body)

/-- A raw node: nothing in a foreign format, the placed figure for a directive, and else the text as it is. A
directive without a figure leaves nothing. -/
def renderRaw (f : Formatter) (render : Renderer) (place : Located) : List Char :=
  if place.node.isRawTex then
    let value := place.node.value.getD ""
    match Directive.parse? value with
    | some id =>
      match f.places.get? id with
      | some figure => renderFigure render 0 figure
      | none => []
    | none => Tex.verbatim value.toList ++ ['\n']
  else []

/-- A heading at a level, with its label, or else that of the section it stands in. -/
def renderHeading (render : Renderer) (level : Nat) (sectionId : Option String) (place : Located) : List Char :=
  let star := if place.node.hasClass "unnumbered" then "*" else ""
  let title := Text.trim (renderChildren render 0 place)
  let label := (label? place.node .sectioning).or (sectionId.map (Tex.label .sectioning))
  Tex.command (Tex.sectionCommand level ++ star) title ++
    '\n' :: ((match label with | some label => label ++ ['\n'] | none => []) ++ ['\n'])

/-- A child of a section. A heading without a level of its own takes that of the section; its label may come from
the section. -/
def renderSectionChild (f : Formatter) (render : Renderer) (depth : Nat) (sectionId : Option String) (child : Located) :
    List Char :=
  if child.node.name == "heading" then
    let heading := renderHeading render ((headingLevel? child.node).getD depth) sectionId child
    match f.vspace? child.node with
    | some command => command.toList ++ '\n' :: heading
    | none => heading
  else render depth child

/-- A section: its children, one level further down. -/
def renderSection (f : Formatter) (render : Renderer) (depth : Nat) (place : Located) : List Char :=
  place.children.flatMap (f.renderSectionChild render (depth + 1) place.node.id)

/-- A link with its text, or with its target as text when there is none to be seen. -/
def renderLink (render : Renderer) (depth : Nat) (place : Located) : List Char :=
  let text := renderChildren render depth place
  match place.node.property "href" with
  | some href =>
    let url := Tex.escapeUrl href.toList
    if Text.allBlank text then Tex.command "url" url else Tex.command "href" url ++ '{' :: (text ++ ['}'])
  | none => text

/-- A cross-reference, with the word for the kind of its target in front when that is known. -/
def renderReference (f : Formatter) (node : Node) : List Char :=
  match (node.property "target").filter (fun t => !t.isEmpty) with
  | none => []
  | some target =>
    match f.referenceKind? target (node.property "kind") with
    | some kind => (f.prefixOf kind).toList ++ '~' :: Tex.command "ref" (Tex.labelName kind target)
    | none => Tex.command "ref" target.toList

/-- A citation of one or more keys, which commas or blanks separate. -/
def renderCitation (node : Node) : List Char :=
  let source := ((node.property "keys").or (node.property "target")).getD ""
  let keys := Text.words (fun c => c == ',' || Text.isBlank c) source.toList
  if keys.isEmpty then [] else Tex.command "cite" (Text.joinWith [','] keys)

/-- An image, as wide as the line unless it says otherwise. -/
def renderImage (node : Node) : List Char :=
  match (node.property "src").or (node.property "href") with
  | none => []
  | some source =>
    "\\includegraphics[width=".toList ++
      (((node.property "width").getD "\\linewidth").toList ++ "]\x7b".toList ++ (source.toList ++ "\x7d\n".toList))

/-- One row of a table: its cells between ampersands, and a rule below a header. -/
def renderRow (render : Renderer) (depth : Nat) (row : Located) : List Char :=
  let cells := row.children.map (fun cell => Text.trim (renderChildren render depth cell))
  let isHeader := row.node.hasClass "header" || row.node.children.any (fun cell => cell.name == "th")
  Text.joinWith " & ".toList cells ++
    (" \\\\\n".toList ++ (if isHeader then "\\hline\n".toList else []))

/-- The rows of a table, with as many columns as the longest of them has cells. -/
def renderTabular (render : Renderer) (depth : Nat) (rows : List Located) : List Char :=
  let columns := (rows.map (fun row => row.node.children.length)).foldl max 0
  "\\begin\x7btabular\x7d\x7b".toList ++
    (List.replicate columns 'l' ++
      ("\x7d\n\\hline\n".toList ++
        (rows.flatMap (renderRow render depth) ++ "\\hline\n\\end\x7btabular\x7d\n".toList)))

/-- A table: what is no row first, then the rows. -/
def renderTable (render : Renderer) (depth : Nat) (place : Located) : List Char :=
  let rows := place.children.filter (fun child => child.node.isRow)
  let others := place.children.filter (fun child => !child.node.isRow)
  let tabular := if rows.isEmpty then [] else renderTabular render depth rows
  let body := "\\centering\n".toList ++ (others.flatMap (render depth) ++ tabular)
  Tex.environment "table" (some ((place.node.property "placement").getD "htbp"))
    (withLabel place.node .table (Text.trimEnd body))

/-- A displayed equation, numbered when it has an id. -/
def renderEquation (node : Node) : List Char :=
  let body := Text.trim node.textContent
  match label? node .equation with
  | some label => Tex.environment "equation" none (body ++ '\n' :: label)
  | none => Tex.environment "equation*" none body

/-- A list, numbered when its name, a class or a property says so. -/
def renderList (render : Renderer) (depth : Nat) (place : Located) : List Char :=
  let node := place.node
  let ordered := node.name == "ol" || node.hasClass "ordered" || node.property "ordered" == some "true"
  Tex.environment (if ordered then "enumerate" else "itemize") none (Text.trimEnd (renderChildren render depth place))

/-- Program text, without the ends of line at its end. -/
def renderListing (node : Node) : List Char :=
  let text := (node.textContent.reverse.dropWhile (· == '\n')).reverse
  Tex.environment "verbatim" none (Tex.verbatim text)

/-- What a node becomes, given a way to render the nodes below it. -/
def renderNode (f : Formatter) (render : Renderer) (depth : Nat) (place : Located) : List Char :=
  let node := place.node
  match node.role with
  | .text => Tex.styled node.classes (renderText render depth place)
  | .raw => f.renderRaw render place
  | .sectioning => f.renderSection render depth place
  | .heading => renderHeading render ((headingLevel? node).getD (max depth 1)) none place
  | .paragraph => Tex.block (Text.trim (renderChildren render depth place))
  | .span => Tex.styled node.classes (renderChildren render depth place)
  | .emphasis => Tex.styled node.classes (Tex.command "emph" (renderChildren render depth place))
  | .strong => Tex.styled node.classes (Tex.command "textbf" (renderChildren render depth place))
  | .code => Tex.styled node.classes (Tex.command "texttt" (Tex.escape node.textContent))
  | .link => Tex.styled node.classes (renderLink render depth place)
  | .reference => Tex.styled node.classes (f.renderReference node)
  | .citation => renderCitation node
  | .figure => if f.places.isClaimed place then [] else renderFigure render depth place
  | .image => renderImage node
  | .caption => Tex.command "caption" (Text.trim (renderChildren render depth place)) ++ ['\n']
  | .table => renderTable render depth place
  | .math => '$' :: (Text.trim node.textContent ++ ['$'])
  | .equation => renderEquation node
  | .list => renderList render depth place
  | .item => "\\item ".toList ++ (Text.trim (renderChildren render depth place) ++ ['\n'])
  | .quote => Tex.environment "quote" none (Text.trim (renderChildren render depth place))
  | .listing => renderListing node
  | .lineBreak => "\\newline\n".toList
  | .container => renderChildren render depth place

/-! ## Rendering -/

/-- A node by the rules, no more than `fuel` nodes deep. -/
def render (f : Formatter) : Nat → Renderer
  | 0 => fun _ _ => []
  | fuel + 1 => fun depth place => f.spaced place.node (f.renderNode (f.render fuel) depth place)

/-- A depth that no rendering exceeds, unless a figure is placed inside itself: at most one way down the tree for
each placed figure, and one more. -/
def fuel (f : Formatter) : Nat :=
  (f.places.boundCount + 1) * (f.root.height + 1)

/-- The LaTeX of a node. -/
def tex (f : Formatter) (place : Located) : List Char :=
  Tex.tidy (f.render f.fuel 0 place)

/-- The LaTeX of what a node holds. -/
def fragment (f : Formatter) (place : Located) : List Char :=
  Tex.tidy (renderChildren (f.render f.fuel) 0 place)

end Formatter

end Manuscript
