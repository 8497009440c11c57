import Manuscript.Formatter.Content
import Manuscript.Proofs.RenderDepth

/-!
# Everything is set once

Figures move to their directives, and what stands in them moves along. Still each place below the root is set
exactly once (`count_setPaths`): where a place stands, its parent has to be set, and there is only one place that
sets the parent, its directive or the parent itself. Going up that way ends at the root, since no figure comes to
stand in itself.
-/

namespace Manuscript.Formatter

variable {f : Formatter}

/-- The paths of the places that rendering a place comes to, no more than `n` places deep. -/
def slots (f : Formatter) : Nat → Located → List NodePath
  | 0, _ => []
  | n + 1, x => x.path :: (f.shown x).flatMap (f.slots n)

/-- The paths of all places that the children of the root come to. -/
def setPaths (f : Formatter) : List NodePath :=
  f.rootPlace.children.flatMap (f.slots f.fuel)

/-- What makes each place stand for one thing: the places are those of the tree, no figure stands in itself, no two
directives ask for one id, and the root neither is a directive nor has one. -/
structure Orderly (f : Formatter) : Prop where
  ofTree : f.OfTree
  acyclic : f.Acyclic
  directives : (f.root.visit.filterMap (fun x => x.node.directive?)).Nodup
  rootPlain : f.root.directive? = none
  rootUnclaimed : f.places.isClaimed f.rootPlace = false

/-- With a depth that is enough, more depth changes nothing. -/
theorem slots_of_within {n m : Nat} (hnm : n ≤ m) {x : Located} (h : f.Within n x) : f.slots m x = f.slots n x := by
  induction n generalizing m x with
  | zero => exact absurd h id
  | succ n ih =>
    obtain ⟨k, rfl⟩ : ∃ k, m = k + 1 := ⟨m - 1, by omega⟩
    rw [slots, slots, List.flatMap_congr (fun z hz => ih (Nat.le_of_succ_le_succ hnm) (h z hz))]

/-- The root is a place of the tree. -/
theorem rootPlace_mem_visit (f : Formatter) : f.rootPlace ∈ f.root.visit :=
  Node.root_mem_visit f.root

/-- The children of the root are places of the tree. -/
theorem mem_visit_of_mem_root_children {x : Located} (hx : x ∈ f.rootPlace.children) : x ∈ f.root.visit :=
  Node.child_mem_visit f.rootPlace_mem_visit hx

/-- Where no child of the root belongs to a block, the main text holds them all. -/
theorem mainChildren_eq (hmain : ∀ y ∈ f.rootPlace.children, y.node.isExtracted = false) :
    f.mainChildren = f.rootPlace.children := by
  rw [mainChildren, List.filter_eq_self]
  intro y hy
  rw [hmain y hy]
  rfl

/-! ## Who sets a place -/

/-- A node with children is no directive. -/
theorem directive?_of_mem_children {p y : Located} (hy : y ∈ p.children) : p.node.directive? = none := by
  cases hvalue : p.node.value with
  | some text =>
    rw [Located.children_of_isLeaf (by rw [Node.isLeaf, hvalue]; rfl)] at hy
    cases hy
  | none =>
    rw [Node.directive?, hvalue]
    split <;> rfl

/-- A place that is no directive is set at exactly one place. -/
theorem exists_slot (h : f.Orderly) {p : Located} (hp : p ∈ f.root.visit) (hplain : p.node.directive? = none) :
    ∃ u ∈ f.root.visit, ∀ x ∈ f.root.visit, f.body? x = some p ↔ x = u := by
  have hplaces : f.places = Places.ofTree f.root := h.ofTree
  cases hc : f.places.isClaimed p with
  | true =>
    rw [hplaces, Places.isClaimed_iff hp] at hc
    obtain ⟨id, hget⟩ := hc
    obtain ⟨-, -, hid, d, hd, hask⟩ := Places.of_get?_eq_some hget
    have hd' : d.node.directive?.bind f.places.get? = some p := by rw [hask, hplaces, Option.bind_some, hget]
    refine ⟨d, hd, fun x hx => ⟨fun hbody => ?_, fun hxd => by rw [hxd, body?_of_directive hd']⟩⟩
    rcases body?_eq_some_iff.1 hbody with hplaced | ⟨-, hfree, rfl⟩
    · -- Both directives ask for the id of the figure.
      obtain ⟨id', hask', hget'⟩ := Option.bind_eq_some_iff.1 hplaced
      rw [hplaces] at hget'
      have hid' := (Places.of_get?_eq_some hget').2.2.1
      rw [hid, Option.some.injEq] at hid'
      rw [← hid'] at hask'
      exact eq_of_nodup_filterMap h.directives hx hd hask' hask
    · rw [hplaces, Bool.eq_false_iff, ne_eq, Places.isClaimed_iff hx] at hfree
      exact absurd ⟨id, hget⟩ hfree
  | false =>
    have hself : f.body? p = some p := body?_of_not_isClaimed (by rw [hplain]; rfl) hc
    refine ⟨p, hp, fun x hx => ⟨fun hbody => ?_, fun hxp => by rw [hxp, hself]⟩⟩
    rcases body?_eq_some_iff.1 hbody with hplaced | ⟨-, -, hxp⟩
    · obtain ⟨id, -, hget⟩ := Option.bind_eq_some_iff.1 hplaced
      rw [hplaces, Bool.eq_false_iff, ne_eq, Places.isClaimed_iff hp] at hc
      rw [hplaces] at hget
      exact absurd ⟨id, hget⟩ hc
    · exact hxp

/-! ## Counting -/

/-- Among the children of a place each of them stands once, and nothing else. -/
theorem count_map_path_children {b y : Located} (hb : b ∈ f.root.visit) (hy : y ∈ f.root.visit) :
    (b.children.map (·.path)).count y.path = 1 ∧ y ∈ b.children ∨ (b.children.map (·.path)).count y.path = 0 ∧
    y ∉ b.children := by
  by_cases hmem : y ∈ b.children
  · have hnodup : (b.children.map (·.path)).Nodup := List.pairwise_map.2 b.children_pairwise
    exact Or.inl ⟨List.count_eq_one_of_mem hnodup (List.mem_map_of_mem hmem), hmem⟩
  · refine Or.inr ⟨List.count_eq_zero_of_not_mem (fun hpath => ?_), hmem⟩
    obtain ⟨z, hz, heq⟩ := List.mem_map.1 hpath
    have hzmem := Node.child_mem_visit hb hz
    rw [Node.eq_of_path_eq hzmem hy heq] at hz
    exact hmem hz

/-- Counts that go with one another for each place of a list go with one another for the list. -/
theorem count_flatMap_eq {l : List Located} {g : Located → List NodePath} {p q : NodePath}
    (h : ∀ z ∈ l, (g z).count p = (if z.path = p then 1 else 0) + (g z).count q) :
    (l.flatMap g).count p = (l.map (·.path)).count p + (l.flatMap g).count q := by
  induction l with
  | nil => rfl
  | cons z rest ih =>
    have hz := h z List.mem_cons_self
    have hrest := ih (fun w hw => h w (List.mem_cons_of_mem z hw))
    rw [List.flatMap_cons, List.count_append, List.count_append, List.map_cons, List.count_cons, hz, hrest]
    by_cases heq : z.path = p
    · simp only [heq, if_true, beq_self_eq_true]
      omega
    · simp only [heq, if_false, beq_eq_false_iff_ne.2 heq, Bool.false_eq_true]
      omega

/-- A place comes up once more than the place that sets its parent does where it stands on top, and else as often. -/
theorem count_slots (hf : f.OfTree) {p u y : Located} (hp : p ∈ f.root.visit) (hu : u ∈ f.root.visit)
    (hslot : ∀ x ∈ f.root.visit, f.body? x = some p ↔ x = u) (hy : y ∈ p.children) (n : Nat) :
    ∀ x ∈ f.root.visit, f.Within n x →
      (f.slots n x).count y.path = (if x.path = y.path then 1 else 0) + (f.slots n x).count u.path := by
  induction n with
  | zero => exact fun x _ hw => absurd hw id
  | succ n ih =>
    intro x hx hw
    have hymem := Node.child_mem_visit hp hy
    have hbelow := count_flatMap_eq (g := f.slots n)
      (fun z hz => ih z (mem_visit_of_mem_shown hf hx hz) (hw z hz))
    -- The place stands right below `x` exactly when `x` sets its parent.
    have hparent : ((f.shown x).map (·.path)).count y.path = if x.path = u.path then 1 else 0 := by
      cases hbody : f.body? x with
      | none =>
        have hne : x.path ≠ u.path := by
          intro heq
          rw [(hslot x hx).2 (Node.eq_of_path_eq hx hu heq)] at hbody
          cases hbody
        rw [shown, hbody, if_neg hne]
        rfl
      | some b =>
        have hb := mem_visit_of_body? hf hx hbody
        rw [shown, hbody]
        rcases count_map_path_children hb hymem with ⟨hone, hmem⟩ | ⟨hzero, hmem⟩
        · rw [Node.parent_unique hb hp hmem hy rfl] at hbody
          rw [hone, if_pos (by rw [(hslot x hx).1 hbody])]
        · rw [hzero, if_neg]
          intro heq
          have hbody' := (hslot x hx).2 (Node.eq_of_path_eq hx hu heq)
          rw [hbody, Option.some.injEq] at hbody'
          exact hmem (hbody' ▸ hy)
    rw [slots, List.count_cons, List.count_cons, hbelow, hparent]
    simp only [beq_iff_eq]
    omega

/-- Below the root no place is the root. -/
theorem path_ne_nil_of_mem_slots (n : Nat) : ∀ x : Located, x.path ≠ [] → ∀ q ∈ f.slots n x, q ≠ [] := by
  induction n with
  | zero => exact fun x _ q hq => absurd hq List.not_mem_nil
  | succ n ih =>
    intro x hx q hq
    rw [slots, List.mem_cons, List.mem_flatMap] at hq
    rcases hq with rfl | ⟨z, hz, hq⟩
    · exact hx
    · obtain ⟨b, -, hz⟩ := mem_shown_iff.1 hz
      exact ih z (Located.path_ne_nil_of_mem_children hz) q hq

/-- The root is not among the places set. -/
theorem nil_not_mem_setPaths (f : Formatter) : [] ∉ f.setPaths := by
  intro h
  obtain ⟨x, hx, hmem⟩ := List.mem_flatMap.1 h
  exact path_ne_nil_of_mem_slots f.fuel x (Located.path_ne_nil_of_mem_children hx) [] hmem rfl

/-- Below the root a place is set as often as the place that sets its parent; the root counts as set once. -/
theorem count_setPaths_step (h : f.Orderly) {p u y : Located} (hp : p ∈ f.root.visit) (hu : u ∈ f.root.visit)
    (hslot : ∀ x ∈ f.root.visit, f.body? x = some p ↔ x = u) (hy : y ∈ p.children) :
    f.setPaths.count y.path = (if p.path = [] then 1 else 0) + f.setPaths.count u.path := by
  have hcount := count_flatMap_eq (l := f.rootPlace.children) (g := f.slots f.fuel) (fun x hx =>
    count_slots h.ofTree hp hu hslot hy f.fuel x (mem_visit_of_mem_root_children hx)
      (within_fuel h.ofTree h.acyclic (mem_visit_of_mem_root_children hx)))
  rw [setPaths, hcount]
  congr 1
  rcases count_map_path_children f.rootPlace_mem_visit (Node.child_mem_visit hp hy) with ⟨hone, hmem⟩ | ⟨hzero, hmem⟩
  · rw [hone, Node.parent_unique hp f.rootPlace_mem_visit hy hmem rfl]
    rfl
  · rw [hzero, if_neg]
    intro hnil
    rw [Node.eq_of_path_eq hp f.rootPlace_mem_visit hnil] at hy
    exact hmem hy

/-- Each place below the root is set exactly once. The induction is on how much of the depth is left: where a place
is deep enough for one more step up, so is what sets its parent. -/
theorem count_setPaths (h : f.Orderly) {y : Located} (hy : y ∈ f.root.visit) (hne : y.path ≠ []) :
    f.setPaths.count y.path = 1 := by
  suffices hall : ∀ k n, n + k = f.fuel → ∀ y ∈ f.root.visit, y.path ≠ [] → ¬f.Within n y →
    f.setPaths.count y.path = 1 from
    hall f.fuel 0 (Nat.zero_add _) y hy hne id
  intro k
  induction k with
  | zero =>
    intro n hn y hy _ hdeep
    rw [Nat.add_zero] at hn
    exact absurd (hn ▸ within_fuel h.ofTree h.acyclic hy) hdeep
  | succ k ih =>
    intro n hn y hy hne hdeep
    obtain ⟨p, hp, hyp⟩ := Node.exists_parent hy hne
    obtain ⟨u, hu, hslot⟩ := exists_slot h hp (directive?_of_mem_children hyp)
    have hbody : f.body? u = some p := (hslot u hu).2 rfl
    have hroot : f.body? f.rootPlace = some f.rootPlace :=
      body?_of_not_isClaimed (by rw [show f.rootPlace.node.directive? = none from h.rootPlain]; rfl) h.rootUnclaimed
    rw [count_setPaths_step h hp hu hslot hyp]
    by_cases hnil : p.path = []
    · have hroot' := Node.eq_of_path_eq hp f.rootPlace_mem_visit hnil
      have hself := (hslot f.rootPlace f.rootPlace_mem_visit).1 (by rw [hroot, hroot'])
      have hzero : f.setPaths.count u.path = 0 := by
        rw [← hself]
        exact List.count_eq_zero_of_not_mem f.nil_not_mem_setPaths
      rw [if_pos hnil, hzero]
    · have hune : u.path ≠ [] := by
        intro hunil
        rw [Node.eq_of_path_eq hu f.rootPlace_mem_visit hunil, hroot, Option.some.injEq] at hbody
        exact hnil (by rw [← hbody]; rfl)
      have hdeeper : ¬f.Within (n + 1) u := fun hw => hdeep (hw y (mem_shown_iff.2 ⟨p, hbody, hyp⟩))
      rw [if_neg hnil, Nat.zero_add]
      exact ih (n + 1) (by omega) u hu hune hdeeper

end Manuscript.Formatter
