import Manuscript.Proofs.Listing

/-!
# The ways through a tree agree

The walk keeps the trees still to be visited on a stack. What it has yet to meet is told by the stack alone
(`toVisit`), one step takes the first node off it (`toVisit_cons`), and so after any number of steps the walk has
met just that many nodes of the listing (`walkFrom_eq_take`). Searching by id and collecting the text go along the
walk; both are told without it here, the one by the listing (`findById_eq_some_iff`), the other by the children of
the node (`textContent_eq`).
-/

namespace Manuscript

namespace Node

/-! ## The stack and what is still to be visited -/

/-- The nodes that a walk with these trees on its stack has yet to meet. -/
def toVisit (pending : List Node) : List Node :=
  pending.flatMap (fun node => node.visit.map (·.node))

@[simp]
theorem toVisit_nil : toVisit [] = [] := rfl

theorem toVisit_singleton (node : Node) : toVisit [node] = node.visit.map (·.node) := by
  simp [toVisit]

/-- A step of the walk takes the first of the nodes still to be visited and leaves the others. -/
theorem toVisit_cons (node : Node) (pending : List Node) :
    toVisit (node :: pending) = node :: toVisit (node.children ++ pending) := by
  unfold toVisit
  rw [List.flatMap_cons, visit, map_node_visitFrom, List.flatMap_append, List.cons_append]

/-- The steps of a walk meet the nodes still to be visited one by one; once the stack is empty there are no more. -/
theorem walkFrom_eq_take (steps : Nat) (pending : List Node) :
    walkFrom steps pending = (toVisit pending).take steps := by
  induction steps generalizing pending with
  | zero => cases pending <;> simp [walkFrom]
  | succ steps ih =>
    cases pending with
    | nil => simp [walkFrom]
    | cons node pending =>
      unfold walkFrom
      rw [toVisit_cons, List.take_succ_cons, ih]

/-! ## Paths -/

/-- A path leads somewhere just when the listing has an entry with it. -/
theorem isSome_atPath_iff (root : Node) (p : NodePath) : (root.atPath p).isSome ↔ p ∈ root.visit.map (·.path) := by
  rw [List.mem_map]
  constructor
  · intro h
    obtain ⟨node, hnode⟩ := Option.isSome_iff_exists.1 h
    exact ⟨⟨p, node⟩, mem_visit.2 hnode, rfl⟩
  · rintro ⟨x, hx, rfl⟩
    rw [mem_visit.1 hx]
    rfl

/-! ## Searching by id -/

/-- A node has an id when the property is that text and the text is not empty. -/
theorem id_eq_some_iff {node : Node} {id : String} : node.id = some id ↔ id ≠ "" ∧ node.property "id" = some id := by
  unfold Node.id
  rw [Option.filter_eq_some_iff]
  simp [and_comm]

/-- The search finds the first node of the listing that has the id. -/
theorem findById_eq_some_iff {root found : Node} {id : String} :
    root.findById id = some found ↔
      id ≠ "" ∧ ∃ before path after, root.visit = before ++ ⟨path, found⟩ :: after ∧ found.property "id" = some id ∧
        ∀ x ∈ before, x.node.property "id" ≠ some id := by
  unfold findById
  rw [walk_eq, List.find?_map, Option.map_eq_some_iff]
  constructor
  · rintro ⟨x, hx, rfl⟩
    obtain ⟨hid, before, after, hvisit, hbefore⟩ := List.find?_eq_some_iff_append.1 hx
    rw [Function.comp, beq_iff_eq, id_eq_some_iff] at hid
    obtain ⟨hne, hid⟩ := hid
    refine ⟨hne, before, x.path, after, hvisit, hid, ?_⟩
    intro y hy hyid
    have hother := hbefore y hy
    simp [id_eq_some_iff.2 ⟨hne, hyid⟩] at hother
  · rintro ⟨hne, before, path, after, hvisit, hid, hbefore⟩
    refine ⟨⟨path, found⟩, List.find?_eq_some_iff_append.2 ⟨?_, before, after, hvisit, ?_⟩, rfl⟩
    · simp [id_eq_some_iff.2 ⟨hne, hid⟩]
    · intro y hy
      have hother := hbefore y hy
      simp only [Function.comp, Bool.not_eq_true', beq_eq_false_iff_ne]
      intro hyid
      exact hother (id_eq_some_iff.1 hyid).2

/-! ## The text of a tree -/

/-- The walk meets a node and then what the walks of its children meet. -/
theorem walk_eq_cons (node : Node) : node.walk = node :: node.children.flatMap (fun child => child.walk) := by
  simp only [walk_eq]
  rw [visit, map_node_visitFrom]

/-- The text of a node is its own text, or the texts of its children one after another. -/
theorem textContent_eq (node : Node) :
    node.textContent =
      match node.content with
      | .value text => text.toList
      | .children nodes => nodes.flatMap textContent := by
  unfold textContent
  rw [walk_eq_cons, List.flatMap_cons, List.flatMap_assoc]
  unfold value children
  cases node.content with
  | value text => simp
  | children nodes => simp

/-- The ways through a tree agree: the walk with a stack meets, however many steps it takes, the nodes of the
listing in their order; the paths of the listing increase and none comes twice; a path leads to a node just when the
listing reports the node with it; the search by id finds the first node of the listing with an id that is not empty;
and the text of a tree is put together along its nodes. -/
theorem traversals_agree (root : Node) :
    root.walk = root.visit.map (·.node) ∧
    (∀ steps, walkFrom steps [root] = (root.visit.map (·.node)).take steps) ∧
    ((root.visit.map (·.path)).Pairwise (· < ·) ∧ (root.visit.map (·.path)).Nodup) ∧
    (∀ p, ((root.atPath p).isSome ↔ p ∈ root.visit.map (·.path)) ∧
      ∀ node, root.atPath p = some node ↔ ⟨p, node⟩ ∈ root.visit) ∧
    (∀ id found, root.findById id = some found ↔
      id ≠ "" ∧ ∃ before path after, root.visit = before ++ ⟨path, found⟩ :: after ∧ found.property "id" = some id ∧
        ∀ x ∈ before, x.node.property "id" ≠ some id) ∧
    root.textContent =
      match root.content with
      | .value text => text.toList
      | .children nodes => nodes.flatMap textContent := by
  refine ⟨walk_eq root, ?_, ⟨ordered_paths_visit root, nodup_paths_visit root⟩, ?_, ?_, textContent_eq root⟩
  · intro steps
    rw [walkFrom_eq_take, toVisit_singleton]
  · intro p
    refine ⟨isSome_atPath_iff root p, ?_⟩
    intro node
    exact (mem_visit (x := ⟨p, node⟩)).symm
  · intro id found
    exact findById_eq_some_iff

end Node

end Manuscript
