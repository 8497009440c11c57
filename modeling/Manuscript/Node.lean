import Manuscript.Dictionary

/-!
# Nodes

The tree that a document is: a node has the name of its role, properties, style classes, and either children in
order or one literal text.
-/

namespace Manuscript

/-- What a node holds: further nodes in order, or one literal text. -/
inductive Content (α : Type) where
  | children (nodes : List α)
  | value (text : String)

/-- A node of the document tree. -/
structure Node where
  /-- The role of the node, such as `figure` or `text`. -/
  name : String
  /-- Named values, such as `id`, `format` or `href`. -/
  properties : Dictionary String := ∅
  /-- Style classes in the order in which they were given. -/
  classes : List String := []
  /-- Children or a literal text. -/
  content : Content Node := .children []

namespace Node

instance : Inhabited Node := ⟨{ name := "" }⟩

/-! ## Reading a node -/

/-- The value of a property. -/
def property (node : Node) (key : String) : Option String :=
  node.properties.get? key

/-- The property `id`, unless it is empty. -/
def id (node : Node) : Option String :=
  (node.property "id").filter (fun id => !id.isEmpty)

/-- Whether the node carries a style class. -/
def hasClass (node : Node) (style : String) : Bool :=
  node.classes.contains style

/-- The children; a node with a literal text has none. -/
def children (node : Node) : List Node :=
  match node.content with
  | .children nodes => nodes
  | .value _ => []

/-- The literal text, if the node holds one. -/
def value (node : Node) : Option String :=
  match node.content with
  | .children _ => none
  | .value text => some text

/-- Whether the node holds a literal text. -/
def isLeaf (node : Node) : Bool :=
  node.value.isSome

/-! ## Building a node -/

/-- A node with a literal text in the role `text`. -/
def text (value : String) : Node :=
  { name := "text", content := .value value }

/-- A node with markup in a foreign format. -/
def raw (format value : String) : Node :=
  { name := "raw", properties := Dictionary.insert ∅ "format" format, content := .value value }

/-- The node with a property set. -/
def withProperty (node : Node) (key value : String) : Node :=
  { node with properties := node.properties.insert key value }

/-- The node with its `id` set. -/
def withId (node : Node) (id : String) : Node :=
  node.withProperty "id" id

/-- The node with one more style class, unless it has that class already. -/
def withClass (node : Node) (style : String) : Node :=
  if node.hasClass style then node else { node with classes := node.classes ++ [style] }

/-- The node with the given children in place of what it held. -/
def withChildren (node : Node) (children : List Node) : Node :=
  { node with content := .children children }

/-- The node with a literal text in place of what it held. -/
def withValue (node : Node) (value : String) : Node :=
  { node with content := .value value }

/-- The node with one more child at the end; a literal text gives way to it. -/
def push (node : Node) (child : Node) : Node :=
  { node with content := .children (node.children ++ [child]) }

/-! ## Size and height -/

/-- The number of nodes in the tree below and with a node. -/
def size : Node → Nat
  | ⟨_, _, _, .value _⟩ => 1
  | ⟨_, _, _, .children nodes⟩ => sizes nodes + 1
where
  /-- The number of nodes in the trees of a list. -/
  sizes : List Node → Nat
    | [] => 0
    | node :: rest => node.size + sizes rest

/-- The number of edges on the longest way down from a node. -/
def height : Node → Nat
  | ⟨_, _, _, .value _⟩ => 0
  | ⟨_, _, _, .children nodes⟩ => heights nodes
where
  /-- One more than the greatest height in a list, and nought for the empty list. -/
  heights : List Node → Nat
    | [] => 0
    | node :: rest => max (node.height + 1) (heights rest)

theorem size_eq (node : Node) : node.size = size.sizes node.children + 1 := by
  obtain ⟨_, _, _, _ | _⟩ := node <;> rfl

theorem height_eq (node : Node) : node.height = height.heights node.children := by
  obtain ⟨_, _, _, _ | _⟩ := node <;> rfl

end Node

end Manuscript
