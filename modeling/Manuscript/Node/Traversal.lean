import Manuscript.Node

/-!
# Traversals of the tree

Two ways through a tree in document order, a node before its children and the children from first to last: `walk`
keeps the nodes still to be visited on a stack, `visit` goes down the tree and says at which path it met each node.
A path is the list of child indices from the root, and the root has the empty path.
-/

namespace Manuscript

/-- The way from the root to a node: the index of the child to take at each step. -/
abbrev NodePath := List Nat

/-- A node together with the path at which it stands. -/
structure Located where
  path : NodePath
  node : Node

namespace Located

instance : Inhabited Located := ⟨[], default⟩

/-- Nodes with the paths they have as children of the node at `path`, the first of them at index `index`. -/
def siblings (path : NodePath) (index : Nat) : List Node → List Located
  | [] => []
  | node :: rest => ⟨path ++ [index], node⟩ :: siblings path (index + 1) rest

/-- The children of a node, each with its path. -/
def children (at_ : Located) : List Located :=
  siblings at_.path 0 at_.node.children

end Located

namespace Node

/-- The first `fuel` nodes of the walk that still has to visit the trees of `pending`. The node on top of the stack
comes next and leaves its children in its place. -/
def walkFrom : Nat → List Node → List Node
  | 0, _ => []
  | _, [] => []
  | fuel + 1, node :: pending => node :: walkFrom fuel (node.children ++ pending)

/-- The nodes of a tree in document order, found with a stack. -/
def walk (node : Node) : List Node :=
  walkFrom node.size [node]

/-- The nodes of a tree in document order, each with its path, when the tree stands at `path`. -/
def visitFrom (path : NodePath) : Node → List Located
  | ⟨name, properties, classes, .value text⟩ => [⟨path, ⟨name, properties, classes, .value text⟩⟩]
  | ⟨name, properties, classes, .children nodes⟩ =>
    ⟨path, ⟨name, properties, classes, .children nodes⟩⟩ :: visitAll path 0 nodes
where
  /-- The nodes of the trees that are the children of `path` from `index` on. -/
  visitAll (path : NodePath) (index : Nat) : List Node → List Located
    | [] => []
    | node :: rest => visitFrom (path ++ [index]) node ++ visitAll path (index + 1) rest

/-- The nodes of a tree in document order, each with its path. -/
def visit (node : Node) : List Located :=
  visitFrom [] node

/-- The literal texts of a tree, one after another in document order. -/
def textContent (node : Node) : List Char :=
  node.walk.flatMap (fun n => (n.value.getD "").toList)

/-- The first node in document order with the given id. -/
def findById (node : Node) (id : String) : Option Node :=
  node.walk.find? (fun n => n.id == some id)

/-- The node at a path. -/
def atPath : Node → NodePath → Option Node
  | node, [] => some node
  | node, index :: rest =>
    match node.children[index]? with
    | some child => child.atPath rest
    | none => none

/-- The node at a path, together with the path. -/
def locate (node : Node) (path : NodePath) : Option Located :=
  (node.atPath path).map (⟨path, ·⟩)

theorem visitFrom_eq (path : NodePath) (node : Node) :
    node.visitFrom path = ⟨path, node⟩ :: visitFrom.visitAll path 0 node.children := by
  obtain ⟨_, _, _, _ | _⟩ := node <;> rfl

end Node

end Manuscript
