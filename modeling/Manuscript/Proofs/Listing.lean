import Mathlib.Data.List.Nodup
import Manuscript.Proofs.Tree

/-!
# The listing of a tree

The places of a tree in document order: a place comes before those below it, and these come child by child
(`subtree_eq`). So the paths increase (`ordered_paths_visit`), no place comes twice (`nodup_paths_visit`), and the
walk with a stack meets the same nodes in the same order (`walk_eq`).
-/

namespace Manuscript

namespace Located

/-- A place and the places below it in document order. -/
def subtree (x : Located) : List Located :=
  x.node.visitFrom x.path

/-- The listing of nodes below a place is that of the places, each with what is below it. -/
theorem visitAll_eq (path : NodePath) (index : Nat) (nodes : List Node) :
    Node.visitFrom.visitAll path index nodes = (siblings path index nodes).flatMap subtree := by
  induction nodes generalizing index with
  | nil => rfl
  | cons node rest ih => rw [Node.visitFrom.visitAll, siblings, List.flatMap_cons, ih, subtree]

/-- The listing of a subtree follows its children. -/
theorem subtree_eq (x : Located) : x.subtree = x :: x.children.flatMap subtree := by
  rw [subtree, Node.visitFrom_eq, visitAll_eq, children]

/-- What stands below a place has a path that goes on from its path. -/
theorem prefix_of_mem_subtree {x y : Located} (h : y ∈ x.subtree) : x.path <+: y.path := by
  obtain ⟨q, hpath, -⟩ := Node.mem_visitFrom.1 h
  exact hpath ▸ List.prefix_append _ _

/-- A place is in its own subtree. -/
theorem mem_subtree (x : Located) : x ∈ x.subtree := by
  rw [subtree_eq]
  exact List.mem_cons_self

/-- What is below a child is below the place. -/
theorem mem_subtree_of_mem_children {x c y : Located} (hc : c ∈ x.children) (hy : y ∈ c.subtree) : y ∈ x.subtree := by
  rw [subtree_eq]
  exact List.mem_cons_of_mem _ (List.mem_flatMap.2 ⟨c, hc, hy⟩)

/-- No place of the subtree is higher. -/
theorem height_le_of_mem_subtree {x y : Located} (h : y ∈ x.subtree) : y.node.height ≤ x.node.height := by
  obtain ⟨q, -, hnode⟩ := Node.mem_visitFrom.1 h
  exact Node.height_atPath hnode

/-- What is below a place of the tree is in the tree. -/
theorem mem_visit_of_mem_subtree {root : Node} {x y : Located} (hx : x ∈ root.visit) (hy : y ∈ x.subtree) :
    y ∈ root.visit := by
  obtain ⟨q, hpath, hnode⟩ := Node.mem_visitFrom.1 hy
  rw [Node.mem_visit] at hx ⊢
  rw [hpath, Node.atPath_append, hx]
  exact hnode

/-- The paths of a listing increase: document order is the order of the paths. The induction is on the height of the
subtree. -/
theorem ordered_paths_subtree (x : Located) : (x.subtree.map (·.path)).Pairwise (· < ·) := by
  induction hn : x.node.height using Nat.strongRecOn generalizing x with
  | ind n ih =>
    subst hn
    rw [subtree_eq, List.map_cons, List.map_flatMap]
    refine List.pairwise_cons.2 ⟨fun p hp => ?_, List.pairwise_flatMap.2 ⟨fun c hc => ?_, x.children_ordered.imp ?_⟩⟩
    · -- What stands below a place goes on from its path.
      obtain ⟨c, hc, hp⟩ := List.mem_flatMap.1 hp
      obtain ⟨y, hy, rfl⟩ := List.mem_map.1 hp
      obtain ⟨i, hc, -⟩ := mem_children.1 hc
      obtain ⟨q, hq⟩ := prefix_of_mem_subtree hy
      have hlt : x.path ++ [] < x.path ++ i :: q := List.append_left_lt (List.nil_lt_cons i q)
      rwa [List.append_nil, List.append_cons, ← hc, hq] at hlt
    · exact ih c.node.height (Node.height_lt_of_mem_children hc) c rfl
    · -- Below two children their indices decide.
      rintro a b ⟨i, j, hij, ha, hb⟩ p hpa q hqb
      obtain ⟨y, hy, rfl⟩ := List.mem_map.1 hpa
      obtain ⟨z, hz, rfl⟩ := List.mem_map.1 hqb
      obtain ⟨s, hs⟩ := prefix_of_mem_subtree hy
      obtain ⟨t, ht⟩ := prefix_of_mem_subtree hz
      have hlt : x.path ++ i :: s < x.path ++ j :: t := List.append_left_lt (List.cons_lt_cons_iff.2 (Or.inl hij))
      rwa [List.append_cons, ← ha, hs, List.append_cons, ← hb, ht] at hlt

/-- No place comes twice in the listing of a subtree. -/
theorem nodup_paths_subtree (x : Located) : (x.subtree.map (·.path)).Nodup := by
  refine x.ordered_paths_subtree.imp ?_
  rintro p q hlt rfl
  exact List.lt_irrefl p hlt

end Located

namespace Node

/-- The places of a tree are those below its root. -/
theorem visit_eq (root : Node) : root.visit = (⟨[], root⟩ : Located).subtree := rfl

/-- The paths of the listing of a tree increase. -/
theorem ordered_paths_visit (root : Node) : (root.visit.map (·.path)).Pairwise (· < ·) :=
  Located.ordered_paths_subtree ⟨[], root⟩

/-- No place comes twice in the listing of a tree. -/
theorem nodup_paths_visit (root : Node) : (root.visit.map (·.path)).Nodup :=
  Located.nodup_paths_subtree ⟨[], root⟩

/-! ## The walk with a stack -/

/-- The nodes of the places made of a list are the list. -/
theorem map_node_siblings (path : NodePath) (index : Nat) (nodes : List Node) :
    (Located.siblings path index nodes).map (·.node) = nodes := by
  induction nodes generalizing index with
  | nil => rfl
  | cons node rest ih => rw [Located.siblings, List.map_cons, ih]

/-- The nodes below a place do not hang on where it stands. -/
theorem map_node_visitFrom (path : NodePath) (node : Node) :
    (node.visitFrom path).map (·.node) = node :: node.children.flatMap (fun child => child.visit.map (·.node)) := by
  induction hn : node.height using Nat.strongRecOn generalizing node path with
  | ind n ih =>
    subst hn
    have hsubtree := Located.subtree_eq ⟨path, node⟩
    rw [Located.subtree] at hsubtree
    rw [hsubtree, List.map_cons, List.map_flatMap]
    congr 1
    conv_rhs => rw [← map_node_siblings path 0 node.children, List.flatMap_map]
    refine List.flatMap_congr (fun c hc => ?_)
    have hheight := height_lt_of_mem_children (x := ⟨path, node⟩) hc
    rw [Located.subtree, visit, ih c.node.height hheight c.path c.node rfl, ih c.node.height hheight [] c.node rfl]

theorem sizes_append (l r : List Node) : size.sizes (l ++ r) = size.sizes l + size.sizes r := by
  induction l with
  | nil => rw [List.nil_append, size.sizes, Nat.zero_add]
  | cons node rest ih => rw [List.cons_append, size.sizes, size.sizes, ih, Nat.add_assoc]

/-- A walk with steps enough for the trees on its stack meets their nodes in document order. -/
theorem walkFrom_eq (fuel : Nat) (pending : List Node) (h : size.sizes pending ≤ fuel) :
    walkFrom fuel pending = pending.flatMap (fun node => node.visit.map (·.node)) := by
  induction fuel generalizing pending with
  | zero =>
    cases pending with
    | nil => rfl
    | cons node rest =>
      rw [size.sizes, size_eq] at h
      omega
  | succ fuel ih =>
    cases pending with
    | nil => rfl
    | cons node rest =>
      rw [size.sizes, size_eq] at h
      have hrest : size.sizes (node.children ++ rest) ≤ fuel := by
        rw [sizes_append]
        omega
      rw [walkFrom, ih _ hrest, List.flatMap_append, List.flatMap_cons, visit, map_node_visitFrom, List.cons_append]

/-- The walk with a stack meets the nodes of the listing in their order. -/
theorem walk_eq (root : Node) : root.walk = root.visit.map (·.node) := by
  rw [walk, walkFrom_eq root.size [root] (Nat.le_of_eq (by rw [size.sizes, size.sizes, Nat.add_zero])),
    List.flatMap_cons, List.flatMap_nil, List.append_nil]

/-- The nodes below a place are those of the places below it. -/
theorem walk_eq_map_subtree (x : Located) : x.node.walk = x.subtree.map (·.node) := by
  rw [walk_eq, visit, map_node_visitFrom, Located.subtree, map_node_visitFrom]

end Node

end Manuscript
