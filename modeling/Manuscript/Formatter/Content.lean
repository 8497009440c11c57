import Manuscript.Block
import Manuscript.Formatter

/-!
# The main text and the blocks

The children of the root are divided: those that belong to a block make up the blocks, and the others, in their
order, the main text.
-/

namespace Manuscript.Formatter

/-- The root at its place. -/
def rootPlace (f : Formatter) : Located :=
  ⟨[], f.root⟩

/-- The children of the root that the main text holds. -/
def mainChildren (f : Formatter) : List Located :=
  f.rootPlace.children.filter (fun child => !child.node.isExtracted)

/-- The main text: the children of the root that belong to no block. -/
def content (f : Formatter) : List Char :=
  Tex.tidy (f.mainChildren.flatMap (f.render f.fuel 0))

/-- What a child of the root adds to its block: raw LaTeX for the preamble as it is; anything else as the spacing
command of the node, what the node holds, and its label as a figure. -/
def blockText (f : Formatter) (block : Block) (child : Located) : List Char :=
  match block with
  | .preamble => (child.node.value.getD "").toList
  | _ =>
    (match f.vspace? child.node with
      | some command => command.toList ++ ['\n']
      | none => []) ++
      withLabel child.node .figure (Text.trim (f.fragment child))

/-- The blocks with what a child of the root adds to them. -/
def addChild (f : Formatter) (blocks : Blocks) (child : Located) : Blocks :=
  match child.node.block? with
  | some block => blocks.append block (f.blockText block child)
  | none => blocks

/-- The blocks of the document. -/
def blocks (f : Formatter) : Blocks :=
  f.rootPlace.children.foldl f.addChild ∅

end Manuscript.Formatter
