import Manuscript.Proofs.Rendering
import Manuscript.Proofs.Slots

/-!
# The label of a figure

A figure sets its label where it is set. Nodes that are set without their children hide what stands below them, and
so do the cells of a table for themselves. When no figure with an id and no directive is hidden, a node sets the
label of a figure as often as rendering it comes to the place where the figure goes (`count_labels`).
-/

namespace Manuscript

/-- Whether a node of this role is set without its children. -/
def Role.hidesChildren : Role → Bool
  | .raw | .image | .reference | .citation | .lineBreak | .code | .math | .equation | .listing => true
  | _ => false

/-- Whether a place takes part in placing figures: a directive, or a figure with an id. -/
def Located.isMarked (x : Located) : Bool :=
  x.node.directive?.isSome || (x.node.name == "figure" && x.node.id.isSome)

/-- A place whose node is rendered by the rule for its role: below the root, with no node in between that hides its
children, and no cell of a table. -/
structure AtRenderedPosition (root : Node) (x : Located) : Prop where
  below : x.path ≠ []
  visible : ∀ a ∈ root.visit, a.path ≠ [] → a.path <+: x.path → a.path ≠ x.path → a.node.role.hidesChildren = false
  noCell : ∀ table ∈ root.visit, table.node.role = .table → ∀ row ∈ table.children, row.node.isRow = true →
    ∀ cell ∈ row.children, cell.path ≠ x.path

instance (root : Node) (x : Located) : Decidable (AtRenderedPosition root x) :=
  decidable_of_iff
    (x.path ≠ [] ∧
      (∀ a ∈ root.visit, a.path ≠ [] → a.path <+: x.path → a.path ≠ x.path → a.node.role.hidesChildren = false) ∧
      ∀ table ∈ root.visit, table.node.role = .table → ∀ row ∈ table.children, row.node.isRow = true →
        ∀ cell ∈ row.children, cell.path ≠ x.path)
    ⟨fun ⟨hbelow, hvisible, hcell⟩ => ⟨hbelow, hvisible, hcell⟩, fun h => ⟨h.below, h.visible, h.noCell⟩⟩

/-- All that takes part in placing figures is at rendered positions. -/
def MarkedAreRendered (root : Node) : Prop :=
  ∀ x ∈ root.visit, x.isMarked = true → AtRenderedPosition root x

instance (root : Node) : Decidable (MarkedAreRendered root) :=
  inferInstanceAs (Decidable (∀ x ∈ root.visit, _))

namespace Formatter

variable {f : Formatter}

/-- A claimed figure is marked. -/
theorem isMarked_of_isClaimed (hf : f.OfTree) {x : Located} (hx : x ∈ f.root.visit) (h : f.places.isClaimed x = true) :
    x.isMarked = true := by
  have hplaces : f.places = Places.ofTree f.root := hf
  rw [hplaces, Places.isClaimed_iff hx] at h
  obtain ⟨id, hget⟩ := h
  obtain ⟨-, hname, hid, -⟩ := Places.of_get?_eq_some hget
  simp [Located.isMarked, hname, hid]

/-- What takes no part in placing figures stands for itself. -/
theorem body?_of_not_isMarked (hf : f.OfTree) {x : Located} (hx : x ∈ f.root.visit) (h : x.isMarked = false) :
    f.body? x = some x := by
  have hclaimed : f.places.isClaimed x = false := by
    rw [Bool.eq_false_iff]
    intro hc
    rw [isMarked_of_isClaimed hf hx hc] at h
    cases h
  rw [Located.isMarked, Bool.or_eq_false_iff, Option.isSome_eq_false_iff, Option.isNone_iff_eq_none] at h
  exact body?_of_not_isClaimed (by rw [h.1]; rfl) hclaimed

/-- The places that set something marked are marked themselves. -/
theorem isMarked_of_body? {x b : Located} (h : f.body? x = some b) (hb : b.isMarked = true) : x.isMarked = true := by
  rcases body?_eq_some_iff.1 h with hplaced | ⟨-, -, rfl⟩
  · obtain ⟨id, hid, -⟩ := Option.bind_eq_some_iff.1 hplaced
    simp [Located.isMarked, hid]
  · exact hb

/-- Where nothing is marked, rendering comes to nothing but what stands there. -/
theorem prefix_of_mem_slots (hf : f.OfTree) (n : Nat) :
    ∀ x ∈ f.root.visit, (∀ y ∈ f.root.visit, x.path <+: y.path → y.isMarked = false) →
      ∀ q ∈ f.slots n x, x.path <+: q := by
  induction n with
  | zero => exact fun x _ _ q hq => absurd hq List.not_mem_nil
  | succ n ih =>
    intro x hx hquiet q hq
    rw [slots, List.mem_cons, List.mem_flatMap] at hq
    rcases hq with rfl | ⟨z, hz, hq⟩
    · exact List.prefix_refl _
    · obtain ⟨b, hb, hz⟩ := mem_shown_iff.1 hz
      rw [body?_of_not_isMarked hf hx (hquiet x hx (List.prefix_refl _)), Option.some.injEq] at hb
      subst hb
      obtain ⟨i, hpath, -⟩ := Located.mem_children.1 hz
      have hpre : x.path <+: z.path := hpath ▸ List.prefix_append _ _
      exact hpre.trans (ih z (Node.child_mem_visit hx hz) (fun y hy hzy => hquiet y hy (hpre.trans hzy)) q hq)

/-- A figure with an id of its own, and the place that sets it. -/
structure FigureAt (f : Formatter) (figure slot : Located) (id : String) : Prop where
  ofTree : f.OfTree
  mem : figure ∈ f.root.visit
  isFigure : figure.node.name = "figure"
  hasId : figure.node.id = some id
  distinct : (f.root.visit.filterMap (fun x => x.node.id)).Nodup
  slot_mem : slot ∈ f.root.visit
  sets : ∀ x ∈ f.root.visit, f.body? x = some figure ↔ x = slot
  rendered : MarkedAreRendered f.root

namespace FigureAt

variable {figure slot : Located} {id : String} {x : Located} {n : Nat}

/-- The figure is marked. -/
theorem isMarked (h : f.FigureAt figure slot id) : figure.isMarked = true := by
  simp [Located.isMarked, h.isFigure, h.hasId]

/-- The place it is moved to is marked. -/
theorem slot_isMarked (h : f.FigureAt figure slot id) : slot.isMarked = true :=
  isMarked_of_body? ((h.sets slot h.slot_mem).2 rfl) h.isMarked

/-- Only the figure sets its label as a figure. -/
theorem count_labels_figure (h : f.FigureAt figure slot id) (hx : x ∈ f.root.visit) :
    (x.node.labels .figure).count (.figure, id) = if x.path = figure.path then 1 else 0 := by
  by_cases heq : x.path = figure.path
  · rw [if_pos heq, Node.eq_of_path_eq hx h.mem heq, Node.labels, h.hasId]
    exact List.count_singleton_self
  · rw [if_neg heq, List.count_eq_zero]
    intro hmem
    rw [Node.labels, Option.mem_toList, Option.map_eq_some_iff] at hmem
    obtain ⟨id', hid', hpair⟩ := hmem
    rw [(Prod.mk.inj hpair).2] at hid'
    exact heq (by rw [eq_of_nodup_filterMap h.distinct hx h.mem hid' h.hasId])

/-! ## Slots -/

/-- A place with a body counts for the figure when the body is the figure, and for what stands below the body. -/
theorem count_slots_succ (h : f.FigureAt figure slot id) (hx : x ∈ f.root.visit) {b : Located}
    (hb : f.body? x = some b) :
    (f.slots (n + 1) x).count slot.path =
      (if b.path = figure.path then 1 else 0) + (b.children.flatMap (f.slots n)).count slot.path := by
  have hbmem := mem_visit_of_body? h.ofTree hx hb
  have hiff : x.path = slot.path ↔ b.path = figure.path := by
    constructor
    · intro heq
      have hbody := (h.sets x hx).2 (Node.eq_of_path_eq hx h.slot_mem heq)
      rw [hb, Option.some.injEq] at hbody
      rw [hbody]
    · intro heq
      rw [Node.eq_of_path_eq hbmem h.mem heq] at hb
      rw [(h.sets x hx).1 hb]
  rw [slots, shown, hb, List.count_cons, Nat.add_comm]
  simp only [beq_iff_eq, hiff]

/-- A place where nothing is set is not the place of the figure. -/
theorem count_slots_none (h : f.FigureAt figure slot id) (hx : x ∈ f.root.visit) (hb : f.body? x = none) :
    (f.slots (n + 1) x).count slot.path = 0 := by
  have hne : x.path ≠ slot.path := by
    intro heq
    rw [(h.sets x hx).2 (Node.eq_of_path_eq hx h.slot_mem heq)] at hb
    cases hb
  rw [slots, shown, hb]
  simp [hne]

/-- Where nothing is marked nothing counts for the figure. -/
theorem count_slots_quiet (h : f.FigureAt figure slot id) (hx : x ∈ f.root.visit)
    (hquiet : ∀ y ∈ f.root.visit, x.path <+: y.path → y.isMarked = false) : (f.slots n x).count slot.path = 0 := by
  rw [List.count_eq_zero]
  intro hmem
  have hslot := hquiet slot h.slot_mem (prefix_of_mem_slots h.ofTree n x hx hquiet slot.path hmem)
  rw [h.slot_isMarked] at hslot
  cases hslot

/-- Below places that are not marked there is no place of the figure. -/
theorem count_slots_children (h : f.FigureAt figure slot id) (hx : x ∈ f.root.visit)
    (hquiet : ∀ z ∈ x.children, ∀ y ∈ f.root.visit, z.path <+: y.path → y.isMarked = false) :
    (x.children.flatMap (f.slots n)).count slot.path = 0 := by
  rw [List.count_eq_zero]
  intro hmem
  obtain ⟨z, hz, hmem⟩ := List.mem_flatMap.1 hmem
  exact List.count_eq_zero.1 (h.count_slots_quiet (Node.child_mem_visit hx hz) (hquiet z hz)) hmem

/-- Below a node that hides its children nothing counts for the figure. -/
theorem count_slots_hidden (h : f.FigureAt figure slot id) (hx : x ∈ f.root.visit) (hne : x.path ≠ [])
    (hrole : x.node.role.hidesChildren = true) : (x.children.flatMap (f.slots n)).count slot.path = 0 := by
  refine h.count_slots_children hx (fun z hz y hy hzy => ?_)
  obtain ⟨i, hpath, -⟩ := Located.mem_children.1 hz
  rw [Bool.eq_false_iff]
  intro hmarked
  have hxz : x.path <+: z.path := hpath ▸ List.prefix_append _ _
  have hlength := hzy.length_le
  rw [hpath, List.length_append, List.length_singleton] at hlength
  have hvisible := (h.rendered y hy hmarked).visible x hx hne (hxz.trans hzy) (fun heq => by rw [heq] at hlength; omega)
  rw [hrole] at hvisible
  cases hvisible

/-- A place that is not marked is not the figure's. -/
theorem ne_of_not_isMarked (h : f.FigureAt figure slot id) (hx : x ∈ f.root.visit) (hmarked : x.isMarked = false) :
    x.path ≠ figure.path := by
  intro heq
  rw [Node.eq_of_path_eq hx h.mem heq, h.isMarked] at hmarked
  cases hmarked

/-- A depth that is enough for a place that stands for itself is enough for its children. -/
theorem within_children (h : f.FigureAt figure slot id) (hx : x ∈ f.root.visit) (hmarked : x.isMarked = false)
    (hw : f.Within n x) : ∀ z ∈ x.children, f.Within n z := by
  cases n with
  | zero => exact absurd hw (fun hfalse => hfalse)
  | succ n =>
    intro z hz
    exact (hw z (mem_shown_iff.2 ⟨x, body?_of_not_isMarked h.ofTree hx hmarked, hz⟩)).mono (Nat.le_succ n)

/-- A place that takes no part in placing figures counts for what stands below it. -/
theorem count_slots_plain (h : f.FigureAt figure slot id) (hx : x ∈ f.root.visit) (hmarked : x.isMarked = false)
    (hw : f.Within n x) : (f.slots n x).count slot.path = (x.children.flatMap (f.slots n)).count slot.path := by
  cases n with
  | zero => exact absurd hw (fun hfalse => hfalse)
  | succ n =>
    have hbody := body?_of_not_isMarked h.ofTree hx hmarked
    rw [h.count_slots_succ hx hbody, if_neg (h.ne_of_not_isMarked hx hmarked), Nat.zero_add]
    congr 1
    refine List.flatMap_congr (fun z hz => (slots_of_within (Nat.le_succ n) (hw z ?_)).symm)
    exact mem_shown_iff.2 ⟨x, hbody, hz⟩

end FigureAt

/-- Labels of another kind are not that of a figure. -/
theorem count_labels_other {node : Node} {kind : ReferenceKind} (hkind : kind ≠ .figure) (id : String) :
    (node.labels kind).count (.figure, id) = 0 := by
  rw [List.count_eq_zero]
  intro hmem
  rw [Node.labels, Option.mem_toList, Option.map_eq_some_iff] at hmem
  obtain ⟨id', -, hpair⟩ := hmem
  exact hkind (Prod.mk.inj hpair).1

/-! ## Labels -/

/-- Counts that agree for each member of a list agree for the list. -/
theorem count_flatMap_congr {α β γ : Type} [BEq α] [BEq β] {l : List γ} {g : γ → List α} {k : γ → List β} {a : α}
    {b : β} (h : ∀ z ∈ l, (g z).count a = (k z).count b) : (l.flatMap g).count a = (l.flatMap k).count b := by
  induction l with
  | nil => rfl
  | cons z rest ih =>
    rw [List.flatMap_cons, List.flatMap_cons, List.count_append, List.count_append, h z List.mem_cons_self,
      ih (fun w hw => h w (List.mem_cons_of_mem z hw))]

/-- A count over a list is one over the members with a property and one over the others. -/
theorem count_flatMap_filter {α γ : Type} [BEq α] (p : γ → Bool) (l : List γ) (g : γ → List α) (a : α) :
    (l.flatMap g).count a = ((l.filter (fun z => !p z)).flatMap g).count a + ((l.filter p).flatMap g).count a := by
  induction l with
  | nil => rfl
  | cons z rest ih =>
    rw [List.flatMap_cons, List.count_append, ih, List.filter_cons, List.filter_cons]
    cases p z with
    | true =>
      simp only [Bool.not_true, Bool.false_eq_true, if_false, if_true, List.flatMap_cons, List.count_append]
      omega
    | false =>
      simp only [Bool.not_false, Bool.false_eq_true, if_false, if_true, List.flatMap_cons, List.count_append]
      omega

namespace FigureAt

variable {figure slot : Located} {id : String} {x : Located} {n : Nat}

section Labels

variable (h : f.FigureAt figure slot id)
  (hbelow : ∀ y ∈ f.root.visit, y.path ≠ [] → f.Within n y →
    (f.labels n y).count (.figure, id) = (f.slots n y).count slot.path)
include h hbelow

omit h in
/-- Among the labels of children, the figure's comes as often as its place among the places set there. -/
theorem count_childLabels {p : Located} (hp : p ∈ f.root.visit) (hw : ∀ z ∈ p.children, f.Within n z) :
    (childLabels (f.labels n) p).count (.figure, id) = (p.children.flatMap (f.slots n)).count slot.path :=
  count_flatMap_congr (fun z hz =>
    hbelow z (Node.child_mem_visit hp hz) (Located.path_ne_nil_of_mem_children hz) (hw z hz))

/-- Among the labels of a heading, the figure's comes as often as its place among those set there. -/
theorem count_headingLabels {c : Located} (hc : c ∈ f.root.visit) (hname : c.node.name = "heading")
    (sectionId : Option String) (hw : f.Within n c) :
    (headingLabels (f.labels n) sectionId c).count (.figure, id) = (f.slots n c).count slot.path := by
  have hmarked : c.isMarked = false := by
    rw [Located.isMarked, Node.directive?, Node.isRawTex, hname]
    rfl
  have hown : (((c.node.id.or sectionId).map (fun id => (ReferenceKind.sectioning, id))).toList).count (.figure, id) =
      0 := by
    cases c.node.id.or sectionId <;> simp
  rw [headingLabels, List.count_append, hown, Nat.add_zero, h.count_slots_plain hc hmarked hw]
  exact count_childLabels hbelow hc (h.within_children hc hmarked hw)

/-- Among the labels of a section, the figure's comes as often as its place among those set there. -/
theorem count_sectionLabels (hx : x ∈ f.root.visit) (hw : ∀ z ∈ x.children, f.Within n z) :
    (sectionLabels (f.labels n) x).count (.figure, id) = (x.children.flatMap (f.slots n)).count slot.path := by
  refine count_flatMap_congr (fun c hc => ?_)
  have hcmem := Node.child_mem_visit hx hc
  split
  · rename_i hname
    exact h.count_headingLabels hbelow hcmem (beq_iff_eq.1 hname) x.node.id (hw c hc)
  · exact hbelow c hcmem (Located.path_ne_nil_of_mem_children hc) (hw c hc)

/-- The cells of a row in a table are not rendered themselves, and take no part in placing figures. -/
theorem count_rowLabels (hx : x ∈ f.root.visit) (hrole : x.node.role = .table) {row : Located} (hrow : row ∈ x.children)
    (hisRow : row.node.isRow = true) (hw : f.Within n row) :
    (rowLabels (f.labels n) row).count (.figure, id) = (f.slots n row).count slot.path := by
  have hrowmem := Node.child_mem_visit hx hrow
  have hmarked : row.isMarked = false := by
    rw [Node.isRow, Bool.or_eq_true, beq_iff_eq, beq_iff_eq] at hisRow
    rw [Located.isMarked, Node.directive?, Node.isRawTex]
    rcases hisRow with hname | hname <;> rw [hname] <;> rfl
  rw [h.count_slots_plain hrowmem hmarked hw]
  refine count_flatMap_congr (fun cell hcell => ?_)
  have hcellmem := Node.child_mem_visit hrowmem hcell
  have hcellMarked : cell.isMarked = false := by
    rw [Bool.eq_false_iff]
    intro hm
    exact (h.rendered cell hcellmem hm).noCell x hx hrole row hrow hisRow cell hcell rfl
  have hcellWithin := h.within_children hrowmem hmarked hw cell hcell
  rw [h.count_slots_plain hcellmem hcellMarked hcellWithin]
  exact count_childLabels hbelow hcellmem (h.within_children hcellmem hcellMarked hcellWithin)

/-- Among the labels of a table, the figure's comes as often as its place among those set there. -/
theorem count_tableLabels (hx : x ∈ f.root.visit) (hrole : x.node.role = .table) (hw : ∀ z ∈ x.children, f.Within n z) :
    (tableLabels (f.labels n) x).count (.figure, id) = (x.children.flatMap (f.slots n)).count slot.path := by
  rw [tableLabels, List.count_append, List.count_append, count_labels_other (by decide), Nat.add_zero,
    count_flatMap_filter (fun child => child.node.isRow) x.children (f.slots n)]
  congr 1
  · refine count_flatMap_congr (fun c hc => ?_)
    have hc := List.mem_of_mem_filter hc
    exact hbelow c (Node.child_mem_visit hx hc) (Located.path_ne_nil_of_mem_children hc) (hw c hc)
  · refine count_flatMap_congr (fun row hrow => ?_)
    obtain ⟨hrow, hisRow⟩ := List.mem_filter.1 hrow
    exact h.count_rowLabels hbelow hx hrole hrow hisRow (hw row hrow)

/-- The labels of a node that stands for itself, by its role. -/
theorem count_nodeLabels_self (hx : x ∈ f.root.visit) (hpath : x.path ≠ [])
    (hnone : x.node.directive?.bind f.places.get? = none) (hfree : f.places.isClaimed x = false)
    (hw : ∀ z ∈ f.shown x, f.Within n z) :
    (f.nodeLabels (f.labels n) x).count (.figure, id) = (f.slots (n + 1) x).count slot.path := by
  have hbody := body?_of_not_isClaimed hnone hfree
  have hwithin : ∀ z ∈ x.children, f.Within n z := fun z hz => hw z (mem_shown_iff.2 ⟨x, hbody, hz⟩)
  have hchildren := count_childLabels hbelow hx hwithin
  rw [h.count_slots_succ hx hbody]
  by_cases hfigure : x.node.role = .figure
  · rw [nodeLabels, hfigure]
    simp only [hfree, Bool.false_eq_true, if_false]
    rw [figureLabels, List.count_append, hchildren, h.count_labels_figure hx, Nat.add_comm]
  · have hne : x.path ≠ figure.path := by
      intro heq
      refine hfigure ?_
      rw [Node.eq_of_path_eq hx h.mem heq, Node.role, h.isFigure]
      rfl
    rw [if_neg hne, Nat.zero_add, nodeLabels]
    cases hrole : x.node.role with
    | figure => exact absurd hrole hfigure
    | text =>
      simp only
      split
      · rename_i hleaf
        rw [Located.children_of_isLeaf hleaf]
        rfl
      · exact hchildren
    | raw =>
      have hzero := h.count_slots_hidden (n := n) hx hpath (by rw [hrole]; rfl)
      simp only [rawLabels, hnone]
      rw [hzero]
      rfl
    | sectioning => exact h.count_sectionLabels hbelow hx hwithin
    | heading =>
      simp only [headingLabels, List.count_append]
      rw [hchildren]
      cases x.node.id <;> simp
    | table => exact h.count_tableLabels hbelow hx hrole hwithin
    | equation =>
      have hzero := h.count_slots_hidden (n := n) hx hpath (by rw [hrole]; rfl)
      simp only
      rw [hzero, count_labels_other (by decide)]
    | code | reference | citation | image | math | listing | lineBreak =>
      have hzero := h.count_slots_hidden (n := n) hx hpath (by rw [hrole]; rfl)
      simp only
      rw [hzero]
      rfl
    | paragraph | span | emphasis | strong | link | caption | list | item | quote | container => exact hchildren

/-- A node sets the label of the figure as often as it comes to the slot, given that the nodes below do. -/
theorem count_nodeLabels (hx : x ∈ f.root.visit) (hpath : x.path ≠ []) (hw : ∀ z ∈ f.shown x, f.Within n z) :
    (f.nodeLabels (f.labels n) x).count (.figure, id) = (f.slots (n + 1) x).count slot.path := by
  cases hplaced : x.node.directive?.bind f.places.get? with
  | some g =>
    have hgmem := mem_visit_of_placed h.ofTree hplaced
    have hbody := body?_of_directive hplaced
    have hrole : x.node.role = .raw := by
      obtain ⟨id, hid, -⟩ := Option.bind_eq_some_iff.1 hplaced
      rw [Node.role, Node.name_of_directive? hid]
      rfl
    rw [h.count_slots_succ hx hbody, nodeLabels, hrole]
    simp only [rawLabels, hplaced]
    rw [figureLabels, List.count_append, h.count_labels_figure hgmem, Nat.add_comm]
    congr 1
    exact count_childLabels hbelow hgmem (fun z hz => hw z (mem_shown_iff.2 ⟨g, hbody, hz⟩))
  | none =>
    cases hclaimed : f.places.isClaimed x with
    | true =>
      have hrole : x.node.role = .figure := by
        have hplaces : f.places = Places.ofTree f.root := h.ofTree
        rw [hplaces, Places.isClaimed_iff hx] at hclaimed
        obtain ⟨id, hget⟩ := hclaimed
        rw [Node.role, (Places.of_get?_eq_some hget).2.1]
        rfl
      rw [h.count_slots_none hx (body?_of_isClaimed hplaced hclaimed), nodeLabels, hrole]
      simp only [hclaimed, if_true]
      rfl
    | false => exact h.count_nodeLabels_self hbelow hx hpath hplaced hclaimed hw

end Labels

/-- A node sets the label of a figure as often as rendering it comes to the place where the figure goes. -/
theorem count_labels (h : f.FigureAt figure slot id) (n : Nat) :
    ∀ x ∈ f.root.visit, x.path ≠ [] → f.Within n x →
      (f.labels n x).count (.figure, id) = (f.slots n x).count slot.path := by
  induction n with
  | zero => exact fun x _ _ hw => hw.elim
  | succ n ih => exact fun x hx hpath hw => h.count_nodeLabels ih hx hpath hw

end FigureAt

end Formatter

end Manuscript
