import Manuscript.Place

/-!
# Blocks

Parts of an article that a template sets at a place of its own: the abstract, the acknowledgments, a teaser figure,
and raw LaTeX for the preamble. A block is given by direct children of the root, which the main text then leaves
out.
-/

namespace Manuscript

/-- A part of an article that a template places. -/
inductive Block where
  | abstract
  | acknowledgments
  | teaser
  | preamble
  deriving DecidableEq, Inhabited

/-- All blocks, in their order. -/
def Block.all : List Block :=
  [.abstract, .acknowledgments, .teaser, .preamble]

/-- The name of a block. -/
def Block.name : Block → String
  | .abstract => "abstract"
  | .acknowledgments => "acknowledgments"
  | .teaser => "teaser"
  | .preamble => "preamble"

/-- The block that a child of the root belongs to. -/
def Node.block? (node : Node) : Option Block :=
  match node.name with
  | "abstract" => some .abstract
  | "acknowledgments" => some .acknowledgments
  | "figure" => if node.hasClass "teaser" then some .teaser else none
  | "raw" => if node.isRawTex && node.hasClass "preamble" then some .preamble else none
  | _ => none

/-- Whether a child of the root is left out of the main text. -/
def Node.isExtracted (node : Node) : Bool :=
  node.block?.isSome

/-- The texts of the blocks that are there. -/
structure Blocks where
  text? : Block → Option (List Char)

namespace Blocks

/-- No blocks. -/
def empty : Blocks := ⟨fun _ => none⟩

instance : EmptyCollection Blocks := ⟨empty⟩

instance : Inhabited Blocks := ⟨empty⟩

/-- The blocks with the text of one of them set or taken away. -/
def set (blocks : Blocks) (block : Block) (text : Option (List Char)) : Blocks :=
  ⟨fun other => if other = block then text else blocks.text? other⟩

/-- The blocks with more text for one of them, on a new line after what it has. -/
def append (blocks : Blocks) (block : Block) (text : List Char) : Blocks :=
  blocks.set block (some (match blocks.text? block with
    | some before => before ++ '\n' :: text
    | none => text))

/-- The blocks without one of them. -/
def erase (blocks : Blocks) (block : Block) : Blocks :=
  blocks.set block none

/-- The number of blocks that are there. -/
def size (blocks : Blocks) : Nat :=
  Block.all.countP (fun block => (blocks.text? block).isSome)

/-- Whether no block is there. -/
def isEmpty (blocks : Blocks) : Bool :=
  blocks.size == 0

theorem text?_set (blocks : Blocks) (block : Block) (text : Option (List Char)) (other : Block) :
    (blocks.set block text).text? other = if other = block then text else blocks.text? other := rfl

end Blocks

end Manuscript
