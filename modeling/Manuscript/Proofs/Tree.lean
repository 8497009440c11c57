import Mathlib.Data.List.Nodup
import Manuscript.Node.Traversal

/-!
# Paths and places in a tree

A listing of a tree holds a node at a path exactly when the path leads to the node (`mem_visit`), so a place of the
tree is told by its path (`eq_of_path_eq`). What stands below a place stands at a longer path (`mem_visitFrom`), and
a place that is not the root is a child of the place one step up (`exists_parent`).
-/

namespace Manuscript

namespace Located

/-- Siblings stand at indices in turn. -/
theorem mem_siblings {path : NodePath} {index : Nat} {nodes : List Node} {x : Located} :
    x ∈ siblings path index nodes ↔ ∃ i, x.path = path ++ [index + i] ∧ nodes[i]? = some x.node := by
  induction nodes generalizing index with
  | nil => simp [siblings]
  | cons node rest ih =>
    rw [siblings, List.mem_cons, ih]
    constructor
    · rintro (rfl | ⟨i, hp, hn⟩)
      · exact ⟨0, rfl, rfl⟩
      · exact ⟨i + 1, by rw [hp, Nat.add_assoc, Nat.add_comm 1 i], hn⟩
    · rintro ⟨i, hp, hn⟩
      cases i with
      | zero =>
        left
        obtain ⟨_, _⟩ := x
        simp only [List.getElem?_cons_zero, Option.some.injEq] at hn hp
        subst hn hp
        rfl
      | succ i => exact Or.inr ⟨i, by rw [hp, Nat.add_assoc, Nat.add_comm 1 i], hn⟩

/-- The children of a place stand one step below it. -/
theorem mem_children {x c : Located} :
    c ∈ x.children ↔ ∃ i, c.path = x.path ++ [i] ∧ x.node.children[i]? = some c.node := by
  rw [children, mem_siblings]
  simp only [Nat.zero_add]

/-- The nodes at the children of a place are the children of its node. -/
theorem node_mem_of_mem_children {x c : Located} (h : c ∈ x.children) : c.node ∈ x.node.children := by
  obtain ⟨i, -, hi⟩ := mem_children.1 h
  exact List.mem_of_getElem? hi

/-- The path of a child goes one step beyond that of its place. -/
theorem path_of_mem_children {x c : Located} (h : c ∈ x.children) : c.path.dropLast = x.path := by
  obtain ⟨i, hp, -⟩ := mem_children.1 h
  rw [hp, List.dropLast_concat]

/-- A child is not the root. -/
theorem path_ne_nil_of_mem_children {x c : Located} (h : c ∈ x.children) : c.path ≠ [] := by
  obtain ⟨i, hp, -⟩ := mem_children.1 h
  rw [hp]
  simp

/-- The path of a child is one step longer. -/
theorem length_path_of_mem_children {x c : Located} (h : c ∈ x.children) : c.path.length = x.path.length + 1 := by
  obtain ⟨i, hp, -⟩ := mem_children.1 h
  rw [hp, List.length_append, List.length_singleton]

/-- Siblings come in the order of their indices. -/
theorem siblings_ordered (path : NodePath) (index : Nat) (nodes : List Node) :
    (siblings path index nodes).Pairwise (fun a b => ∃ i j, i < j ∧ a.path = path ++ [i] ∧ b.path = path ++ [j]) := by
  induction nodes generalizing index with
  | nil => exact List.Pairwise.nil
  | cons node rest ih =>
    refine List.pairwise_cons.2 ⟨fun b hb => ?_, ih (index + 1)⟩
    obtain ⟨i, hp, -⟩ := mem_siblings.1 hb
    exact ⟨index, index + 1 + i, by omega, rfl, hp⟩

/-- The children of a place come in the order of their indices. -/
theorem children_ordered (x : Located) :
    x.children.Pairwise (fun a b => ∃ i j, i < j ∧ a.path = x.path ++ [i] ∧ b.path = x.path ++ [j]) :=
  siblings_ordered _ _ _

/-- No two children of a place have the same path. -/
theorem children_pairwise (x : Located) : x.children.Pairwise (fun a b => a.path ≠ b.path) := by
  refine x.children_ordered.imp ?_
  rintro a b ⟨i, j, hij, ha, hb⟩ h
  rw [ha, hb] at h
  have hindex := List.append_cancel_left h
  rw [List.cons.injEq] at hindex
  exact Nat.ne_of_lt hij hindex.1

end Located

namespace Node

/-- A node with a literal text has no children. -/
theorem children_of_isLeaf {node : Node} (h : node.isLeaf = true) : node.children = [] := by
  rw [isLeaf, value] at h
  rw [children]
  cases hcontent : node.content with
  | children nodes =>
    rw [hcontent] at h
    cases h
  | value text => rfl

end Node

/-- At a leaf there are no children. -/
theorem Located.children_of_isLeaf {x : Located} (h : x.node.isLeaf = true) : x.children = [] := by
  rw [children, Node.children_of_isLeaf h]
  rfl

namespace Node

/-! ## Heights -/

/-- A node among others is less high than what holds them. -/
theorem height_lt_heights {nodes : List Node} {child : Node} (h : child ∈ nodes) :
    child.height + 1 ≤ height.heights nodes := by
  induction nodes with
  | nil => exact absurd h List.not_mem_nil
  | cons node rest ih =>
    rw [height.heights]
    rcases List.mem_cons.1 h with rfl | h
    · exact Nat.le_max_left _ _
    · exact Nat.le_trans (ih h) (Nat.le_max_right _ _)

/-- A child is less high than its node. -/
theorem height_lt_of_mem {node child : Node} (h : child ∈ node.children) : child.height + 1 ≤ node.height := by
  rw [node.height_eq]
  exact height_lt_heights h

/-- A child at an index is less high than its node. -/
theorem height_lt_of_getElem? {node child : Node} {i : Nat} (h : node.children[i]? = some child) :
    child.height + 1 ≤ node.height :=
  height_lt_of_mem (List.mem_of_getElem? h)

/-! ## Paths -/

/-- The empty path leads to the node itself. -/
@[simp]
theorem atPath_nil (node : Node) : node.atPath [] = some node := by
  rw [atPath]

theorem atPath_cons (node : Node) (i : Nat) (p : NodePath) :
    node.atPath (i :: p) = (node.children[i]?).bind (fun child => child.atPath p) := by
  rw [atPath]
  cases node.children[i]? <;> rfl

/-- A path after another leads from where the other leads. -/
theorem atPath_append (node : Node) (p q : NodePath) :
    node.atPath (p ++ q) = (node.atPath p).bind (fun inner => inner.atPath q) := by
  induction p generalizing node with
  | nil => rw [List.nil_append, atPath_nil, Option.bind_some]
  | cons i p ih =>
    rw [List.cons_append, atPath_cons, atPath_cons]
    cases node.children[i]? with
    | none => rfl
    | some child => exact ih child

theorem atPath_concat (node : Node) (p : NodePath) (i : Nat) :
    node.atPath (p ++ [i]) = (node.atPath p).bind (fun inner => inner.children[i]?) := by
  rw [atPath_append]
  congr 1
  funext inner
  rw [atPath_cons]
  cases inner.children[i]? <;> rfl

/-- Where a path leads is no higher than where it starts. -/
theorem height_atPath {node inner : Node} {p : NodePath} (h : node.atPath p = some inner) :
    inner.height ≤ node.height := by
  induction p generalizing node with
  | nil =>
    rw [atPath_nil, Option.some.injEq] at h
    exact Nat.le_of_eq (h ▸ rfl)
  | cons i p ih =>
    rw [atPath_cons] at h
    obtain ⟨child, hc, hp⟩ := Option.bind_eq_some_iff.1 h
    have := height_lt_of_getElem? hc
    have := ih hp
    omega

/-! ## Listings -/

/-- The listing of nodes in a row holds the listings of each. -/
theorem mem_visitAll {path : NodePath} {index : Nat} {nodes : List Node} {x : Located} :
    x ∈ visitFrom.visitAll path index nodes ↔
      ∃ (i : Nat) (child : Node), nodes[i]? = some child ∧ x ∈ child.visitFrom (path ++ [index + i]) := by
  induction nodes generalizing index with
  | nil => simp [visitFrom.visitAll]
  | cons node rest ih =>
    rw [visitFrom.visitAll, List.mem_append, ih]
    constructor
    · rintro (h | ⟨i, child, hc, hx⟩)
      · exact ⟨0, node, rfl, h⟩
      · exact ⟨i + 1, child, hc, by rw [Nat.add_comm i 1, ← Nat.add_assoc]; exact hx⟩
    · rintro ⟨i, child, hc, hx⟩
      cases i with
      | zero =>
        rw [List.getElem?_cons_zero, Option.some.injEq] at hc
        subst hc
        exact Or.inl hx
      | succ i => exact Or.inr ⟨i, child, hc, by rw [Nat.add_assoc, Nat.add_comm 1 i]; exact hx⟩

/-- The listing of a tree that stands at a path holds the nodes to which longer paths lead. The induction is on the
height of the tree. -/
theorem mem_visitFrom {path : NodePath} {node : Node} {x : Located} :
    x ∈ node.visitFrom path ↔ ∃ q, x.path = path ++ q ∧ node.atPath q = some x.node := by
  induction hn : node.height using Nat.strongRecOn generalizing node path with
  | ind n ih =>
    subst hn
    rw [visitFrom_eq, List.mem_cons, mem_visitAll]
    constructor
    · rintro (rfl | ⟨i, child, hc, hx⟩)
      · exact ⟨[], (List.append_nil _).symm, atPath_nil _⟩
      · obtain ⟨q, hp, ha⟩ := (ih child.height (height_lt_of_getElem? hc) rfl).1 hx
        refine ⟨i :: q, by rw [hp, Nat.zero_add, List.append_assoc]; rfl, ?_⟩
        rw [atPath_cons, hc]
        exact ha
    · rintro ⟨q, hp, ha⟩
      cases q with
      | nil =>
        left
        obtain ⟨_, _⟩ := x
        rw [atPath_nil, Option.some.injEq] at ha
        simp only [List.append_nil] at hp
        subst ha hp
        rfl
      | cons i q =>
        rw [atPath_cons] at ha
        obtain ⟨child, hc, ha⟩ := Option.bind_eq_some_iff.1 ha
        refine Or.inr ⟨i, child, hc, (ih child.height (height_lt_of_getElem? hc) rfl).2 ⟨q, ?_, ha⟩⟩
        rw [hp, Nat.zero_add, List.append_assoc]
        rfl

variable {root : Node}

/-- The listing of a tree holds the nodes of its paths. -/
theorem mem_visit {x : Located} : x ∈ root.visit ↔ root.atPath x.path = some x.node := by
  rw [visit, mem_visitFrom]
  simp only [List.nil_append]
  constructor
  · rintro ⟨q, rfl, h⟩
    exact h
  · intro h
    exact ⟨x.path, rfl, h⟩

/-- A place of a tree is told by its path. -/
theorem eq_of_path_eq {x y : Located} (hx : x ∈ root.visit) (hy : y ∈ root.visit) (h : x.path = y.path) : x = y := by
  rw [mem_visit] at hx hy
  rw [h, hy, Option.some.injEq] at hx
  obtain ⟨_, _⟩ := x
  obtain ⟨_, _⟩ := y
  simp only at h hx
  subst h hx
  rfl

/-- The root is the only place with the empty path. -/
theorem root_mem_visit (root : Node) : (⟨[], root⟩ : Located) ∈ root.visit :=
  mem_visit.2 (atPath_nil root)

/-- The children of a place of a tree are places of the tree. -/
theorem child_mem_visit {x c : Located} (hx : x ∈ root.visit) (hc : c ∈ x.children) : c ∈ root.visit := by
  obtain ⟨i, hp, hn⟩ := Located.mem_children.1 hc
  rw [mem_visit] at hx ⊢
  rw [hp, atPath_concat, hx]
  exact hn

/-- A place that is not the root is a child of the place one step up. -/
theorem exists_parent {c : Located} (hc : c ∈ root.visit) (hne : c.path ≠ []) :
    ∃ x ∈ root.visit, c ∈ x.children := by
  rw [mem_visit] at hc
  rw [← List.dropLast_append_getLast hne, atPath_concat] at hc
  obtain ⟨node, hn, hi⟩ := Option.bind_eq_some_iff.1 hc
  refine ⟨⟨c.path.dropLast, node⟩, mem_visit.2 hn, Located.mem_children.2 ⟨c.path.getLast hne, ?_, hi⟩⟩
  exact (List.dropLast_append_getLast hne).symm

/-- A place is a child of one place only. -/
theorem parent_unique {x y c d : Located} (hx : x ∈ root.visit) (hy : y ∈ root.visit) (hc : c ∈ x.children)
    (hd : d ∈ y.children) (h : c.path = d.path) : x = y := by
  refine eq_of_path_eq hx hy ?_
  rw [← Located.path_of_mem_children hc, ← Located.path_of_mem_children hd, h]

/-- No place of a tree is higher than the tree. -/
theorem height_le_of_mem_visit {x : Located} (hx : x ∈ root.visit) : x.node.height ≤ root.height :=
  height_atPath (mem_visit.1 hx)

/-- The node of a child is less high than that of its place. -/
theorem height_lt_of_mem_children {x c : Located} (hc : c ∈ x.children) : c.node.height + 1 ≤ x.node.height := by
  obtain ⟨i, -, hn⟩ := Located.mem_children.1 hc
  exact height_lt_of_getElem? hn

end Node

/-- Of a list in which no answer of a partial function comes twice, two members with the same answer are one. -/
theorem eq_of_nodup_filterMap {α β : Type} {f : α → Option β} {l : List α} (h : (l.filterMap f).Nodup) {x y : α} {b : β}
    (hx : x ∈ l) (hy : y ∈ l) (hfx : f x = some b) (hfy : f y = some b) : x = y := by
  induction l with
  | nil => exact absurd hx List.not_mem_nil
  | cons a rest ih =>
    have hrest : (rest.filterMap f).Nodup := by
      cases ha : f a with
      | none => rwa [List.filterMap_cons_none ha] at h
      | some d => rw [List.filterMap_cons_some ha] at h; exact (List.nodup_cons.1 h).2
    have hclash : ∀ z ∈ rest, f z = some b → f a ≠ some b := by
      intro z hz hfz ha
      rw [List.filterMap_cons_some ha] at h
      exact (List.nodup_cons.1 h).1 (List.mem_filterMap.2 ⟨z, hz, hfz⟩)
    rcases List.mem_cons.1 hx with rfl | hx'
    · rcases List.mem_cons.1 hy with rfl | hy'
      · rfl
      · exact absurd hfx (hclash y hy' hfy)
    · rcases List.mem_cons.1 hy with rfl | hy'
      · exact absurd hfy (hclash x hx' hfx)
      · exact ih hrest hx' hy'

end Manuscript
