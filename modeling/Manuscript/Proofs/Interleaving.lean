import Mathlib.Data.List.Perm.Basic
import Manuscript.Proofs.PlaceResolution
import Manuscript.Proofs.Rendering
import Manuscript.Proofs.TargetKinds
import Manuscript.Proofs.Twins

/-!
# Blocks and their surroundings

The main text and the blocks are read off the children of the root, and how the children of different blocks are
shuffled into one another does not matter (`extraction_of_reordered`). Each node keeps its place in the tree below
the child that it belongs to, but its path changes, and with it the order in which directives and figures are met.
What a document knows of its nodes can be said without paths once no id comes twice: a figure is bound to its id as
soon as any directive asks for it, and an id has the kind of its one node. So the formatters of both documents
answer alike about twins.
-/

namespace Manuscript

/-- The children of a root in another order, in which those that belong to no block come one after another as
before, and so do those of each block. -/
structure Node.Reordered (root other : Node) : Prop where
  name : other.name = root.name
  properties : other.properties = root.properties
  classes : other.classes = root.classes
  value : other.value = root.value
  order : ∀ block : Option Block, other.children.filter (fun child => child.block? == block) =
    root.children.filter (fun child => child.block? == block)

variable {root other : Node} {id : String}

namespace Node

/-! ## The nodes of a tree -/

/-- The nodes below the root in document order. -/
def nodesBelow (root : Node) : List Node :=
  root.children.flatMap (fun child => child.visit.map (·.node))

/-- The listing of a tree is its root and the nodes below. -/
theorem map_node_visit (root : Node) : root.visit.map (·.node) = root :: root.nodesBelow :=
  map_node_visitFrom [] root

/-- Some place of a tree has a property of its node when the root has it or a node below. -/
theorem exists_mem_visit (p : Node → Prop) :
    (∃ x ∈ root.visit, p x.node) ↔ p root ∨ ∃ node ∈ root.nodesBelow, p node := by
  have hmap : (∃ x ∈ root.visit, p x.node) ↔ ∃ node ∈ root.visit.map (·.node), p node := by simp
  rw [hmap, map_node_visit]
  simp

/-- The node of a place that is not the root stands below the root. -/
theorem mem_nodesBelow {x : Located} (hx : x ∈ root.visit) (hne : x ≠ ⟨[], root⟩) : x.node ∈ root.nodesBelow := by
  have hnodes := root.map_node_visit
  rw [visit, visitFrom_eq, List.mem_cons] at hx
  rw [visit, visitFrom_eq, List.map_cons, List.cons.injEq] at hnodes
  rw [← hnodes.2]
  exact List.mem_map_of_mem (hx.resolve_left hne)

/-- The order of nodes has no part in their height. -/
theorem heights_perm {l m : List Node} (h : l.Perm m) : height.heights l = height.heights m := by
  induction h with
  | nil => rfl
  | cons node _ ih => rw [height.heights, height.heights, ih]
  | swap a b rest => simp only [height.heights, Nat.max_left_comm]
  | trans _ _ ih₁ ih₂ => rw [ih₁, ih₂]

/-- Where no id comes twice, an id has the kind that some node with it gives. -/
theorem kindOf_eq_some_iff (hids : (root.visit.filterMap (fun x => x.node.id)).Nodup) {kind : ReferenceKind} :
    root.kindOf id = some kind ↔ ∃ x ∈ root.visit, Formatter.declared? id x.node = some kind := by
  constructor
  · intro h
    exact List.exists_of_findSome?_eq_some h
  · rintro ⟨x, hx, h⟩
    rw [kindOf, ← Formatter.get?_treeTargets_eq]
    rw [Formatter.declared?] at h
    split at h
    · rename_i hid
      exact Formatter.get?_treeTargets hids hx hid h
    · cases h

/-! ## Reorderings -/

namespace Reordered

/-- The first order is one of the second. -/
theorem symm (h : root.Reordered other) : other.Reordered root :=
  ⟨h.name.symm, h.properties.symm, h.classes.symm, h.value.symm, fun block => (h.order block).symm⟩

/-- The children are the same: each comes as often among those of its kind. -/
theorem children_perm (h : root.Reordered other) : root.children.Perm other.children := by
  classical
  rw [List.perm_iff_count]
  intro node
  have hkind : ∀ nodes : List Node,
      nodes.count node = (nodes.filter (fun child => child.block? == node.block?)).count node :=
    fun nodes =>
      (List.count_filter (p := fun child : Node => child.block? == node.block?) (beq_self_eq_true node.block?)).symm
  rw [hkind, hkind other.children, h.order]

/-- The same nodes stand below both roots. -/
theorem below_perm (h : root.Reordered other) : root.nodesBelow.Perm other.nodesBelow :=
  h.children_perm.flatMap_right _

/-- Both trees are of one height. -/
theorem height_eq (h : root.Reordered other) : other.height = root.height := by
  rw [Node.height_eq, Node.height_eq, heights_perm h.children_perm]

/-- Both roots have one id. -/
theorem id_eq (h : root.Reordered other) : other.id = root.id := by
  rw [Node.id, Node.id, property, property, h.properties]

/-- Both roots are the same directive or none. -/
theorem directive?_eq (h : root.Reordered other) : other.directive? = root.directive? := by
  have hraw : other.isRawTex = root.isRawTex := by rw [isRawTex, isRawTex, property, property, h.name, h.properties]
  rw [directive?, directive?, hraw, h.value]

/-- What holds of some place of one tree holds of some place of the other, when the roots agree on it. -/
theorem exists_mem_visit_iff (h : root.Reordered other) (p : Node → Prop) (hroot : p root ↔ p other) :
    (∃ x ∈ root.visit, p x.node) ↔ ∃ y ∈ other.visit, p y.node := by
  simp only [Node.exists_mem_visit, hroot, h.below_perm.mem_iff]

/-- The ids of the tree are those of the other one. -/
theorem ids_perm (h : root.Reordered other) :
    (root.visit.filterMap (fun x => x.node.id)).Perm (other.visit.filterMap (fun y => y.node.id)) := by
  have hids : ∀ node : Node,
      node.visit.filterMap (fun x => x.node.id) = (node :: node.nodesBelow).filterMap Node.id := by
    intro node
    rw [← map_node_visit, List.filterMap_map]
    rfl
  rw [hids, hids, List.filterMap_cons, List.filterMap_cons, h.id_eq]
  cases root.id with
  | none => exact h.below_perm.filterMap _
  | some id => exact (h.below_perm.filterMap _).cons id

/-- An id is asked for in one tree when it is in the other. -/
theorem asked_iff (h : root.Reordered other) :
    (∃ x ∈ root.visit, x.node.directive? = some id) ↔ ∃ y ∈ other.visit, y.node.directive? = some id :=
  h.exists_mem_visit_iff (fun node => node.directive? = some id) (by rw [h.directive?_eq])

end Reordered

end Node

/-! ## Places without paths -/

namespace Places

/-- Where no id comes twice, a figure is set elsewhere as soon as a directive asks for its id. -/
theorem isClaimed_iff_asked (hids : (root.visit.filterMap (fun x => x.node.id)).Nodup) {x : Located}
    (hx : x ∈ root.visit) :
    (ofTree root).isClaimed x = true ↔
      x.node.name = "figure" ∧ ∃ id, x.node.id = some id ∧ ∃ d ∈ root.visit, d.node.directive? = some id := by
  rw [isClaimed_iff hx]
  constructor
  · rintro ⟨id, hget⟩
    obtain ⟨-, hname, hid, hasked⟩ := of_get?_eq_some hget
    exact ⟨hname, id, hid, hasked⟩
  · rintro ⟨hname, id, hid, hasked⟩
    exact ⟨id, (get?_eq_some_iff hids hx hname hid).2 hasked⟩

/-- Each id is asked for once in the list of those that are. -/
theorem nodup_ids (places : Places) : places.ids.Nodup := by
  refine places.ids_ordered.imp ?_
  rintro id _ hlt rfl
  exact String.lt_irrefl id hlt

/-- An id is in the list when a directive of the tree asks for it. -/
theorem mem_ids_iff_asked : id ∈ (ofTree root).ids ↔ ∃ x ∈ root.visit, x.node.directive? = some id := by
  rw [ids, ← Dictionary.contains_iff_mem_keys, ← contains, contains_ofTree, List.any_eq_true]
  simp only [Located.asksFor_iff]

/-- The figures that are bound are counted along the ids. -/
theorem boundCount_eq (places : Places) :
    places.boundCount = places.ids.countP (fun id => (places.get? id).isSome) := by
  rw [boundCount, ids, Dictionary.keys, List.countP_map]
  refine List.countP_congr (fun e he => ?_)
  obtain ⟨key, figure⟩ := e
  rw [Function.comp_apply, get?, Dictionary.get?, Dictionary.find?_of_mem places.bound.sorted he]
  rfl

end Places

/-- The root of the tree is bound to no id. -/
def Node.Unbound (root : Node) : Prop :=
  ∀ id, (Places.ofTree root).get? id ≠ some ⟨[], root⟩

/-- A root that is bound to an id holds the directive that asks for it. -/
theorem Formatter.unbound_of_not_holds {f : Formatter} (hf : f.OfTree) (h : ∀ figure, ¬f.Holds figure figure) :
    f.root.Unbound := by
  intro id hget
  obtain ⟨-, -, -, d, hd, hask⟩ := Places.of_get?_eq_some hget
  refine h f.rootPlace ⟨d, hd, List.nil_prefix, ?_⟩
  rw [hask, Option.bind_some, hf]
  exact hget

namespace Node.Reordered

/-- If the one root is bound to no id, the other is not either. -/
theorem unbound (h : root.Reordered other) (hids : (root.visit.filterMap (fun x => x.node.id)).Nodup)
    (hroot : root.Unbound) : other.Unbound := by
  intro id hget
  obtain ⟨-, hname, hid, hasked⟩ := Places.of_get?_eq_some hget
  refine hroot id
    ((Places.get?_eq_some_iff hids (root_mem_visit root) (h.name.symm.trans hname) (h.id_eq.symm.trans hid)).2 ?_)
  exact h.asked_iff.2 hasked

/-- The figure that is bound to an id has a twin in the other tree, which is bound to the id there. -/
theorem exists_twin (h : root.Reordered other) (hids : (root.visit.filterMap (fun x => x.node.id)).Nodup)
    (hroot : root.Unbound) {a : Located} (hget : (Places.ofTree root).get? id = some a) :
    ∃ b, (Places.ofTree other).get? id = some b ∧ Twin root other a b := by
  obtain ⟨ha, hname, hid, hasked⟩ := Places.of_get?_eq_some hget
  have hbelow : a.node ∈ root.nodesBelow := mem_nodesBelow ha (fun heq => hroot id (heq ▸ hget))
  have hmem : a.node ∈ other.visit.map (·.node) := by
    rw [map_node_visit]
    exact List.mem_cons_of_mem _ (h.below_perm.mem_iff.1 hbelow)
  obtain ⟨b, hb, hnode⟩ := List.mem_map.1 hmem
  refine ⟨b, ?_, ha, hb, hnode.symm⟩
  have hids' : (other.visit.filterMap (fun y => y.node.id)).Nodup := h.ids_perm.nodup_iff.1 hids
  exact (Places.get?_eq_some_iff hids' hb (by rw [hnode, hname]) (by rw [hnode, hid])).2 (h.asked_iff.1 hasked)

/-- What is bound to an id in one tree has its twin bound to the id in the other. -/
theorem get?_twins (h : root.Reordered other) (hids : (root.visit.filterMap (fun x => x.node.id)).Nodup)
    (hroot : root.Unbound) (id : String) :
    Option.Rel (Twin root other) ((Places.ofTree root).get? id) ((Places.ofTree other).get? id) := by
  cases hleft : (Places.ofTree root).get? id with
  | some a =>
    obtain ⟨b, hright, htwin⟩ := h.exists_twin hids hroot hleft
    rw [hright]
    exact Option.Rel.some htwin
  | none =>
    cases hright : (Places.ofTree other).get? id with
    | none => exact Option.Rel.none
    | some b =>
      obtain ⟨a, hback, -⟩ := h.symm.exists_twin (h.ids_perm.nodup_iff.1 hids) (h.unbound hids hroot) hright
      rw [hleft] at hback
      cases hback

/-- An id has a figure in the one tree when it has one in the other. -/
theorem isSome_get?_eq (h : root.Reordered other) (hids : (root.visit.filterMap (fun x => x.node.id)).Nodup)
    (hroot : root.Unbound) (id : String) :
    ((Places.ofTree root).get? id).isSome = ((Places.ofTree other).get? id).isSome := by
  have htwins := h.get?_twins hids hroot id
  revert htwins
  generalize (Places.ofTree root).get? id = figure
  generalize (Places.ofTree other).get? id = figure'
  rintro (_ | _) <;> rfl

/-- The ids that are asked for are the same, and as many of them have a figure. -/
theorem boundCount_eq (h : root.Reordered other) (hids : (root.visit.filterMap (fun x => x.node.id)).Nodup)
    (hroot : root.Unbound) : (Places.ofTree root).boundCount = (Places.ofTree other).boundCount := by
  have hperm : (Places.ofTree root).ids.Perm (Places.ofTree other).ids := by
    rw [List.perm_ext_iff_of_nodup (Places.nodup_ids _) (Places.nodup_ids _)]
    intro id
    rw [Places.mem_ids_iff_asked, Places.mem_ids_iff_asked]
    exact h.asked_iff
  rw [Places.boundCount_eq, Places.boundCount_eq, hperm.countP_eq]
  simp only [h.isSome_get?_eq hids hroot]

/-- A figure is set elsewhere in one tree when its twin is in the other. -/
theorem isClaimed_eq (h : root.Reordered other) (hids : (root.visit.filterMap (fun x => x.node.id)).Nodup)
    {x y : Located} (hxy : Twin root other x y) :
    (Places.ofTree root).isClaimed x = (Places.ofTree other).isClaimed y := by
  rw [Bool.eq_iff_iff, Places.isClaimed_iff_asked hids hxy.left,
    Places.isClaimed_iff_asked (h.ids_perm.nodup_iff.1 hids) hxy.right, hxy.node]
  simp only [h.asked_iff]

/-- An id has the same kind in both trees. -/
theorem kindOf_eq (h : root.Reordered other) (hids : (root.visit.filterMap (fun x => x.node.id)).Nodup) (id : String) :
    root.kindOf id = other.kindOf id := by
  have hroot : Formatter.declared? id root = Formatter.declared? id other := by
    rw [Formatter.declared?, Formatter.declared?, h.id_eq, h.name]
  refine Option.ext (fun kind => ?_)
  rw [kindOf_eq_some_iff hids, kindOf_eq_some_iff (h.ids_perm.nodup_iff.1 hids)]
  exact h.exists_mem_visit_iff (fun node => Formatter.declared? id node = some kind) (by rw [hroot])

end Node.Reordered

/-! ## Both documents -/

namespace Formatter

variable {options : Options} {citations : Option Citations}

/-- The formatters of both documents answer alike. -/
theorem alike_of_reordered (h : root.Reordered other) (hids : (root.visit.filterMap (fun x => x.node.id)).Nodup)
    (hroot : root.Unbound) : Alike (ofDocument root options citations) (ofDocument other options citations) where
  vspace := rfl
  prefixOf := rfl
  referenceKind? target hint := by
    rw [referenceKind?_eq, referenceKind?_eq, Node.resolve?, Node.resolve?, ← Places.isSome_get?_ofTree,
      ← Places.isSome_get?_ofTree, h.isSome_get?_eq hids hroot, h.kindOf_eq hids]
  isClaimed _ _ hxy := h.isClaimed_eq hids hxy
  get? id := h.get?_twins hids hroot id

/-- Both formatters reckon with the same depth. -/
theorem fuel_of_reordered (h : root.Reordered other) (hids : (root.visit.filterMap (fun x => x.node.id)).Nodup)
    (hroot : root.Unbound) : (ofDocument root options citations).fuel = (ofDocument other options citations).fuel := by
  have hheight : root.height = other.height := h.height_eq.symm
  have hbound : (Places.ofTree root).boundCount = (Places.ofTree other).boundCount := h.boundCount_eq hids hroot
  exact congrArg₂ (fun bound height => (bound + 1) * (height + 1)) hbound hheight

/-- The children of the two roots that belong to one block, or to none, are twins one by one. -/
theorem forall₂_twin_of_reordered (h : root.Reordered other) (block : Option Block) :
    List.Forall₂ (Twin root other)
      ((ofDocument root options citations).rootPlace.children.filter (fun c => c.node.block? == block))
      ((ofDocument other options citations).rootPlace.children.filter (fun c => c.node.block? == block)) := by
  refine forall₂_twin (fun c hc => mem_visit_of_mem_root_children (List.mem_of_mem_filter hc))
    (fun c hc => mem_visit_of_mem_root_children (List.mem_of_mem_filter hc)) ?_
  have hnodes : ∀ node : Node, ((⟨[], node⟩ : Located).children.filter (fun c => c.node.block? == block)).map (·.node) =
      node.children.filter (fun child => child.block? == block) := by
    intro node
    conv_rhs => rw [← Node.map_node_siblings [] 0 node.children, List.filter_map]
    rfl
  exact (hnodes root).trans ((h.order block).symm.trans (hnodes other).symm)

/-- The content is made up of the children that belong to no block. -/
theorem mainChildren_eq_filter (f : Formatter) :
    f.mainChildren = f.rootPlace.children.filter (fun c => c.node.block? == none) := by
  refine List.filter_congr (fun c _ => ?_)
  rw [Node.isExtracted]
  cases c.node.block? <;> rfl

variable {f g : Formatter}

/-- Twins add the same to a block. -/
theorem Alike.blockText_eq (hfg : Alike f g) (hfuel : f.fuel = g.fuel) (block : Block) {x y : Located}
    (h : Twin f.root g.root x y) : f.blockText block x = g.blockText block y := by
  have hfragment : f.fragment x = g.fragment y := by
    rw [fragment, fragment, hfuel, (render_eq hfg g.fuel).renderChildren_eq h]
  unfold blockText
  simp only [h.node, vspace?, hfg.vspace, hfragment]

end Formatter

/-- Extraction does not hang on interleaving. Where no id comes twice and no figure is asked for by a directive in
it, the children of different blocks may be shuffled into one another and into the children that belong to no block:
the main text and the blocks stay the same. A block has the texts of the children that belong to it, one on a line
after another, and is not there when there are none. Each child of the root comes either into the main text and no
block, or into one block only and not into the main text. -/
theorem extraction_of_reordered (root other : Node) (options : Options) (citations : Option Citations)
    (hids : (root.visit.filterMap (fun x => x.node.id)).Nodup)
    (hself : ∀ figure, ¬(Formatter.ofDocument root options citations).Holds figure figure)
    (hother : root.Reordered other) :
    let f := Formatter.ofDocument root options citations
    let g := Formatter.ofDocument other options citations
    g.content = f.content ∧
    (∀ block, g.blocks.text? block = f.blocks.text? block) ∧
    (∀ block, f.blocks.text? block =
      if (f.blockChildren block).isEmpty then none
      else some (Text.joinWith ['\n'] ((f.blockChildren block).map (f.blockText block)))) ∧
    ∀ child ∈ f.rootPlace.children,
      (child ∈ f.mainChildren ∧ ∀ block, child ∉ f.blockChildren block) ∨
      (child ∉ f.mainChildren ∧ ∃! block, child ∈ f.blockChildren block) := by
  intro f g
  have hroot : root.Unbound := Formatter.unbound_of_not_holds (f := f) rfl hself
  have halike : Formatter.Alike f g := Formatter.alike_of_reordered hother hids hroot
  have hfuel : f.fuel = g.fuel := Formatter.fuel_of_reordered hother hids hroot
  refine ⟨?_, fun block => ?_, fun block => ?_, fun child hchild => ?_⟩
  · -- The children in the main text are twins, and both formatters go equally deep.
    have htext : f.mainChildren.flatMap (f.render f.fuel 0) = g.mainChildren.flatMap (g.render g.fuel 0) := by
      rw [f.mainChildren_eq_filter, g.mainChildren_eq_filter, hfuel]
      exact Formatter.flatMap_eq_of_forall₂ (Formatter.forall₂_twin_of_reordered hother none)
        (fun x y hxy => Formatter.render_eq halike g.fuel x y hxy 0)
    rw [Formatter.content, Formatter.content, htext]
  · have htexts : (f.blockChildren block).map (f.blockText block) = (g.blockChildren block).map (g.blockText block) :=
      Formatter.map_eq_of_forall₂ (Formatter.forall₂_twin_of_reordered hother (some block))
        (fun x y hxy => halike.blockText_eq hfuel block hxy)
    rw [Formatter.text?_blocks, Formatter.text?_blocks, htexts]
  · rw [Formatter.text?_blocks, Formatter.joined?, List.isEmpty_map]
  · rw [f.mainChildren_eq_filter, List.mem_filter]
    simp only [Formatter.mem_blockChildren, hchild, true_and, beq_iff_eq]
    cases child.node.block? with
    | none =>
      left
      simp
    | some block =>
      right
      simp

/-- A paragraph of acknowledgments. -/
def thanks (name : String) : Node where
  name := "acknowledgments"
  content := .children [.text name]

/-- An article that thanks two people, in front of a directive for its figure and behind the figure. -/
def scattered : Node where
  name := "article"
  content := .children
    [thanks "Ann.", .raw "tex" "\\place\x7bcat\x7d", { name := "abstract", content := .children [.text "Cats."] },
      ({ name := "figure", content := .children [.text "Cat"] } : Node).withId "cat", thanks "Bob."]

/-- The same article with the acknowledgments next to one another at the end. -/
def gathered : Node where
  name := "article"
  content := .children
    [.raw "tex" "\\place\x7bcat\x7d", ({ name := "figure", content := .children [.text "Cat"] } : Node).withId "cat",
      { name := "abstract", content := .children [.text "Cats."] }, thanks "Ann.", thanks "Bob."]

/-- The scattered article has the children of the other one in another order. -/
theorem scattered_reordered : scattered.Reordered gathered where
  name := rfl
  properties := rfl
  classes := rfl
  value := rfl
  order block := by
    rcases block with _ | _ | _ | _ | _ <;> rfl

/-- Both articles come to the same content and the same blocks. -/
theorem gathered_extraction :
    let f := Formatter.ofDocument scattered {} none
    let g := Formatter.ofDocument gathered {} none
    (∀ figure, ¬f.Holds figure figure) ∧ scattered.Reordered gathered ∧
      g.content = f.content ∧ g.blocks.text? .acknowledgments = f.blocks.text? .acknowledgments ∧
      f.blocks.text? .acknowledgments = some "Ann.\nBob.".toList := by
  intro f g
  have hacyclic : f.Acyclic := Formatter.acyclic_of_rank (fun y => y.path.length) (by decide +kernel)
  have hself : ∀ figure, ¬f.Holds figure figure := fun figure h => hacyclic figure (Relation.TransGen.single h)
  have hextraction := extraction_of_reordered scattered gathered {} none (by decide +kernel) hself scattered_reordered
  exact ⟨hself, scattered_reordered, hextraction.1, hextraction.2.1 .acknowledgments, by decide +kernel⟩

end Manuscript
