import Mathlib.Data.List.Forall2
import Manuscript.Formatter
import Manuscript.Proofs.Places
import Manuscript.Proofs.Traversals

/-!
# Trees that differ in one node

A tree with another node in the place of the one at a path (`replaceAt`). What is read off the walk node by node,
without a look at the children, stays the same when it is the same for the two nodes (`map_walk_replaceAt`). So a
document without directives keeps its places and the kinds of its ids, and its formatter renders as before
(`ofDocument_replaceAt`, `render_withRoot`).
-/

namespace Manuscript

theorem Located.siblings_append (path : NodePath) (index : Nat) (l r : List Node) :
    siblings path index (l ++ r) = siblings path index l ++ siblings path (index + l.length) r := by
  induction l generalizing index with
  | nil => rfl
  | cons node rest ih =>
    rw [List.cons_append, siblings, siblings, ih, List.length_cons, List.cons_append]
    congr 3
    omega

namespace Node

/-- The tree with another node in the place of the one at a path. -/
def replaceAt : Node → NodePath → Node → Node
  | _, [], other => other
  | node, i :: rest, other =>
    match node.children[i]? with
    | some child => node.withChildren (node.children.set i (child.replaceAt rest other))
    | none => node

/-- The node with other properties. -/
def withProperties (node : Node) (properties : Dictionary String) : Node :=
  { node with properties }

/-- The nodes above the end of a path, from the first on. -/
def above : Node → NodePath → List Node
  | _, [] => []
  | node, i :: rest => node :: ((node.children[i]?).map (fun child => child.above rest)).getD []

variable {root node other child : Node} {path : NodePath} {i : Nat}

/-- A node with its own properties. -/
theorem withProperties_self (node : Node) : node.withProperties node.properties = node := by
  cases node
  rfl

theorem children_withChildren (node : Node) (nodes : List Node) : (node.withChildren nodes).children = nodes := rfl

/-- A node that has a child holds children. -/
theorem content_eq_of_getElem? (h : node.children[i]? = some child) : node.content = .children node.children := by
  unfold children at h ⊢
  cases hcontent : node.content with
  | children nodes => rfl
  | value text =>
    rw [hcontent] at h
    cases h

/-- A child that is replaced stands between the children that are not. -/
theorem replaceAt_cons (h : node.children[i]? = some child) (path : NodePath) (other : Node) :
    node.replaceAt (i :: path) other =
      node.withChildren (node.children.take i ++ child.replaceAt path other :: node.children.drop (i + 1)) := by
  obtain ⟨hi, -⟩ := List.getElem?_eq_some_iff.1 h
  rw [replaceAt, h]
  simp only
  rw [List.set_eq_take_append_cons_drop, if_pos hi]

/-- The children around one of them. -/
theorem children_eq_of_getElem? (h : node.children[i]? = some child) :
    node.children = node.children.take i ++ child :: node.children.drop (i + 1) := by
  obtain ⟨hi, rfl⟩ := List.getElem?_eq_some_iff.1 h
  rw [← List.drop_eq_getElem_cons hi, List.take_append_drop]

theorem above_cons (h : node.children[i]? = some child) (path : NodePath) :
    node.above (i :: path) = node :: child.above path := by
  rw [above, h]
  rfl

/-- The way down goes through a child. -/
theorem exists_child_of_atPath_cons (h : root.atPath (i :: path) = some node) :
    ∃ child, root.children[i]? = some child ∧ child.atPath path = some node := by
  rw [atPath_cons] at h
  exact Option.bind_eq_some_iff.1 h

/-- A node in its own place leaves the tree as it is. -/
theorem replaceAt_self (h : root.atPath path = some node) : root.replaceAt path node = root := by
  induction path generalizing root with
  | nil =>
    rw [atPath_nil, Option.some.injEq] at h
    rw [replaceAt, h]
  | cons i path ih =>
    obtain ⟨child, hchild, hpath⟩ := exists_child_of_atPath_cons h
    rw [replaceAt_cons hchild, ih hpath, ← children_eq_of_getElem? hchild, withChildren,
      ← content_eq_of_getElem? hchild]
    cases root
    rfl

/-- A way down is no longer than the tree is high. -/
theorem length_le_height (h : root.atPath path = some node) : path.length ≤ root.height := by
  induction path generalizing root with
  | nil => exact Nat.zero_le _
  | cons i path ih =>
    obtain ⟨child, hchild, hpath⟩ := exists_child_of_atPath_cons h
    have hheight := height_lt_of_getElem? hchild
    have hlength := ih hpath
    rw [List.length_cons]
    omega

/-! ## What stays the same -/

/-- The name at the top stays when the replacement has the name of what it replaces. -/
theorem name_replaceAt (h : root.atPath path = some node) (hname : other.name = node.name) :
    (root.replaceAt path other).name = root.name := by
  cases path with
  | nil =>
    rw [atPath_nil, Option.some.injEq] at h
    rw [replaceAt, hname, h]
  | cons i path =>
    obtain ⟨child, hchild, -⟩ := exists_child_of_atPath_cons h
    rw [replaceAt_cons hchild]
    rfl

/-- What holds of a node whatever its children holds of the tree with another node in it, if it holds of that node
and of the first one above it. -/
theorem replaceAt_of_head {P : Node → Prop}
    (hchildren : ∀ (a : Node) (nodes : List Node), P a → P (a.withChildren nodes)) (h : root.atPath path = some node)
    (hother : P other) (hhead : ∀ a ∈ (root.above path).head?, P a) : P (root.replaceAt path other) := by
  cases path with
  | nil => exact hother
  | cons i path =>
    obtain ⟨child, hchild, -⟩ := exists_child_of_atPath_cons h
    rw [above_cons hchild] at hhead
    rw [replaceAt_cons hchild]
    exact hchildren root _ (hhead root rfl)

theorem heights_append (l r : List Node) : height.heights (l ++ r) = max (height.heights l) (height.heights r) := by
  induction l with
  | nil => simp [height.heights]
  | cons node rest ih => rw [List.cons_append, height.heights, height.heights, ih, Nat.max_assoc]

/-- A node of the same height leaves the height of the tree as it is. -/
theorem height_replaceAt (h : root.atPath path = some node) (hheight : other.height = node.height) :
    (root.replaceAt path other).height = root.height := by
  induction path generalizing root with
  | nil =>
    rw [atPath_nil, Option.some.injEq] at h
    rw [replaceAt, hheight, h]
  | cons i path ih =>
    obtain ⟨child, hchild, hpath⟩ := exists_child_of_atPath_cons h
    rw [replaceAt_cons hchild, height_eq, children_withChildren, heights_append, height.heights, ih hpath,
      height_eq root]
    conv_rhs => rw [children_eq_of_getElem? hchild, heights_append, height.heights]

/-- What is read off the nodes of a walk, without a look at their children, stays as it is when a node is replaced
by one in whose tree the same is read. -/
theorem map_walk_replaceAt {α : Type} {key : Node → α}
    (hkey : ∀ (a : Node) (nodes : List Node), a.isLeaf = false → key (a.withChildren nodes) = key a)
    (h : root.atPath path = some node) (hother : other.walk.map key = node.walk.map key) :
    (root.replaceAt path other).walk.map key = root.walk.map key := by
  induction path generalizing root with
  | nil =>
    rw [atPath_nil, Option.some.injEq] at h
    rw [replaceAt, hother, h]
  | cons i path ih =>
    obtain ⟨child, hchild, hpath⟩ := exists_child_of_atPath_cons h
    have hleaf : root.isLeaf = false := by
      rw [isLeaf, value, content_eq_of_getElem? hchild]
      rfl
    rw [replaceAt_cons hchild, walk_eq_cons, children_withChildren, walk_eq_cons root]
    conv_rhs => rw [children_eq_of_getElem? hchild]
    rw [List.map_cons, List.map_cons, hkey root _ hleaf]
    simp only [List.flatMap_append, List.flatMap_cons, List.map_append, ih hpath]

/-- A node with other properties has the same tree below it. -/
theorem map_walk_of_children {α : Type} {key : Node → α} (hchildren : other.children = node.children)
    (hkey : key other = key node) : other.walk.map key = node.walk.map key := by
  rw [walk_eq_cons, walk_eq_cons node, hchildren, List.map_cons, List.map_cons, hkey]

/-- A tree without directives has none when a node of another role takes on other properties. -/
theorem directive?_replaceAt (hplain : ∀ y ∈ root.visit, y.node.directive? = none) (h : root.atPath path = some node)
    (hchildren : other.children = node.children) (hother : other.directive? = none) :
    ∀ y ∈ (root.replaceAt path other).visit, y.node.directive? = none := by
  have hnode : node.directive? = none := hplain ⟨path, node⟩ (mem_visit.2 h)
  have hwalk : (root.replaceAt path other).walk.map directive? = root.walk.map directive? := by
    refine map_walk_replaceAt ?_ h (map_walk_of_children hchildren (hother.trans hnode.symm))
    intro a nodes hleaf
    rw [isLeaf, Option.isSome_eq_false_iff, Option.isNone_iff_eq_none] at hleaf
    unfold directive?
    rw [hleaf]
    rfl
  intro y hy
  have hmem : y.node.directive? ∈ (root.replaceAt path other).walk.map directive? := by
    rw [walk_eq, List.map_map]
    exact List.mem_map_of_mem hy
  rw [hwalk, walk_eq, List.map_map] at hmem
  obtain ⟨z, hz, hzy⟩ := List.mem_map.1 hmem
  rw [← hzy]
  exact hplain z hz

end Node

/-- A tree without directives has no places. -/
theorem Places.ofTree_of_forall {root : Node} (hplain : ∀ y ∈ root.visit, y.node.directive? = none) :
    ofTree root = {} := by
  have hregistered : ∀ l : List Located, (∀ y ∈ l, y.node.directive? = none) → l.foldl registerNode {} = {} := by
    intro l hl
    induction l with
    | nil => rfl
    | cons y rest ih =>
      rw [List.forall_mem_cons] at hl
      rw [List.foldl_cons, registerNode, hl.1]
      exact ih hl.2
  unfold ofTree
  rw [hregistered root.visit hplain]
  rfl

namespace Formatter

variable {root node other : Node} {path : NodePath}

/-- The kinds of the ids of a tree are read off the ids and the names of its nodes. -/
theorem treeTargets_congr {other : Node}
    (h : other.walk.map (fun n => (n.id, n.name)) = root.walk.map (fun n => (n.id, n.name))) :
    treeTargets other = treeTargets root := by
  have hsame : List.Forall₂ (fun a b : Node => (a.id, a.name) = (b.id, b.name)) other.walk root.walk := by
    rwa [← List.forall₂_eq_eq_eq, List.forall₂_map_left_iff, List.forall₂_map_right_iff] at h
  unfold treeTargets
  refine List.rel_foldl (P := Eq) ?_ rfl hsame
  rintro targets _ rfl a b hab
  rw [Prod.mk.injEq] at hab
  simp only [hab.1, hab.2]

/-- A document without directives has the same formatter, but for the tree, when a node takes on other properties
and keeps its id, its name and its children. -/
theorem ofDocument_replaceAt (options : Options) (citations : Option Citations)
    (hplain : ∀ y ∈ root.visit, y.node.directive? = none) (h : root.atPath path = some node)
    (hname : other.name = node.name) (hid : other.id = node.id) (hchildren : other.children = node.children)
    (hother : other.directive? = none) :
    ofDocument (root.replaceAt path other) options citations =
      { ofDocument root options citations with root := root.replaceAt path other } := by
  have hplaces : Places.ofTree (root.replaceAt path other) = Places.ofTree root := by
    rw [Places.ofTree_of_forall hplain, Places.ofTree_of_forall (Node.directive?_replaceAt hplain h hchildren hother)]
  have htargets : treeTargets (root.replaceAt path other) = treeTargets root := by
    refine treeTargets_congr (Node.map_walk_replaceAt ?_ h (Node.map_walk_of_children hchildren ?_))
    · intro a nodes _
      rfl
    · rw [hname, hid]
  unfold ofDocument
  rw [hplaces, htargets]

/-- The rules do not look at the tree beyond the node that they are about. -/
theorem render_withRoot (f : Formatter) (root : Node) (n : Nat) :
    ({ f with root := root } : Formatter).render n = f.render n := by
  induction n with
  | zero => rfl
  | succ n ih =>
    funext depth place
    rw [render, render, ih]
    rfl

end Formatter

end Manuscript
