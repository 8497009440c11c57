import Manuscript.Node

/-!
# Roles

What the name of a node says about how it is set. A name without a role of its own is a plain container.
-/

namespace Manuscript

/-- The roles that are set in a way of their own. -/
inductive Role where
  | text
  | raw
  | sectioning
  | heading
  | paragraph
  | span
  | emphasis
  | strong
  | code
  | link
  | reference
  | citation
  | figure
  | image
  | caption
  | table
  | math
  | equation
  | list
  | item
  | quote
  | listing
  | lineBreak
  | container
  deriving DecidableEq, Inhabited

/-- The role that a name stands for. -/
def Role.ofName (name : String) : Role :=
  match name with
  | "text" => .text
  | "raw" => .raw
  | "section" => .sectioning
  | "heading" => .heading
  | "p" | "paragraph" => .paragraph
  | "span" => .span
  | "em" => .emphasis
  | "strong" | "b" => .strong
  | "code" => .code
  | "link" | "a" => .link
  | "ref" => .reference
  | "cite" => .citation
  | "figure" => .figure
  | "image" | "img" => .image
  | "caption" => .caption
  | "table" => .table
  | "math" => .math
  | "equation" => .equation
  | "list" | "ul" | "ol" => .list
  | "item" | "li" => .item
  | "quote" | "blockquote" => .quote
  | "pre" | "codeblock" => .listing
  | "break" | "br" => .lineBreak
  | _ => .container

/-- The role of a node. -/
def Node.role (node : Node) : Role :=
  Role.ofName node.name

/-- Whether a node is a row of a table. -/
def Node.isRow (node : Node) : Bool :=
  node.name == "row" || node.name == "tr"

end Manuscript
