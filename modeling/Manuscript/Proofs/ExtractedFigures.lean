import Manuscript.Proofs.PlacedFigures

/-!
# Figures between blocks and directives

A figure may be taken out of the main text in two ways: its class makes it the teaser block, and a directive claims
it. Neither looks at the other. Where all figures and directives are children of the root, a figure sets its label
once exactly when the two agree: each directive for it is raw LaTeX of the preamble, which no longer asks for
anything, if and only if the figure is a teaser (`extracted_figure_once_iff`). A claimed teaser is set both in its
block and at the directive, and a figure that only the preamble asks for is lost.
-/

namespace Manuscript

/-- All figures and all directives are children of the root. -/
def FiguresAtTop (root : Node) : Prop :=
  ∀ x ∈ root.visit, x.node.name = "figure" ∨ x.node.directive?.isSome = true → x.path.length = 1

instance (root : Node) : Decidable (FiguresAtTop root) :=
  inferInstanceAs (Decidable (∀ x ∈ root.visit, _))

namespace FiguresAtTop

variable {root : Node} (h : FiguresAtTop root)
include h

/-- A marked place of such a document stands directly below the root. -/
theorem length_path {x : Located} (hx : x ∈ root.visit) (hmarked : x.isMarked = true) : x.path.length = 1 := by
  rw [Located.isMarked, Bool.or_eq_true, Bool.and_eq_true, beq_iff_eq] at hmarked
  rcases hmarked with hdirective | ⟨hname, -⟩
  · exact h x hx (Or.inr hdirective)
  · exact h x hx (Or.inl hname)

/-- Children of the root are at rendered positions. -/
theorem markedAreRendered : MarkedAreRendered root := by
  intro x hx hmarked
  have hlength := h.length_path hx hmarked
  refine ⟨fun hnil => ?_, fun a _ hne hpre hneq => ?_, fun table _ _ row hrow _ cell hcell heq => ?_⟩
  · rw [hnil] at hlength
    cases hlength
  · have hle := hpre.length_le
    have hpos := List.length_pos_iff.2 hne
    exact absurd (hpre.eq_of_length (by omega)) hneq
  · rw [← heq, Located.length_path_of_mem_children hcell, Located.length_path_of_mem_children hrow] at hlength
    omega

/-- No directive stands in a figure. -/
theorem acyclic (options : Options) (citations : Option Citations) :
    (Formatter.ofDocument root options citations).Acyclic := by
  refine Formatter.acyclic_of_rank (fun _ => 0) (fun d hd b hb e he c hc hpre => ?_)
  obtain ⟨id, -, hget⟩ := Option.bind_eq_some_iff.1 hb
  obtain ⟨id', hid', -⟩ := Option.bind_eq_some_iff.1 hc
  have hbound : (Places.ofTree root).get? id = some b := hget
  obtain ⟨hbmem, hbname, -⟩ := Places.of_get?_eq_some hbound
  have hblength := h b hbmem (Or.inl hbname)
  have helength := h e he (Or.inr (by rw [hid']; rfl))
  have heq := Node.eq_of_path_eq hbmem he (hpre.eq_of_length (hblength.trans helength.symm))
  rw [heq, Node.name_of_directive? hid'] at hbname
  exact absurd hbname (by decide)

end FiguresAtTop

/-- A place one step down is a child of the root. -/
theorem Node.mem_children_of_length {root : Node} {x : Located} (hx : x ∈ root.visit) (hlength : x.path.length = 1) :
    x ∈ (⟨[], root⟩ : Located).children := by
  obtain ⟨p, hp, hxp⟩ := Node.exists_parent hx (fun hnil => by rw [hnil] at hlength; cases hlength)
  have hnil : p.path = [] := by
    rw [Located.length_path_of_mem_children hxp] at hlength
    exact List.length_eq_zero_iff.1 (by omega)
  rwa [Node.eq_of_path_eq hp (Node.root_mem_visit root) hnil] at hxp

namespace Formatter

variable {f : Formatter}

/-- A count that is made up of one for a place and one for those with a property, for each place of a list. -/
theorem count_flatMap_add {l : List Located} {g : Located → List Label} {a : Label} {p : NodePath} {k : Nat}
    {P : Located → Bool} (h : ∀ z ∈ l, (g z).count a = (if z.path = p then k else 0) + if P z then 1 else 0) :
    (l.flatMap g).count a = (l.map (·.path)).count p * k + l.countP P := by
  induction l with
  | nil => simp
  | cons z rest ih =>
    have hz := h z List.mem_cons_self
    have hrest := ih (fun w hw => h w (List.mem_cons_of_mem z hw))
    rw [List.flatMap_cons, List.count_append, hz, hrest, List.map_cons, List.count_cons, List.countP_cons, Nat.add_mul]
    by_cases heq : z.path = p
    · simp only [heq, if_true, beq_self_eq_true, Nat.one_mul]
      omega
    · simp only [heq, if_false, beq_eq_false_iff_ne.2 heq, Bool.false_eq_true, Nat.zero_mul]
      omega

namespace FigureAt

variable {figure slot : Located} {id : String} {x : Located}

/-- Below a child of the root nothing counts for the figure. -/
theorem count_slots_below (h : f.FigureAt figure slot id) (htop : FiguresAtTop f.root) (hx : x ∈ f.root.visit)
    (hlength : x.path.length = 1) (n : Nat) : (x.children.flatMap (f.slots n)).count slot.path = 0 := by
  refine h.count_slots_children hx (fun z hz y hy hzy => ?_)
  rw [Bool.eq_false_iff]
  intro hmarked
  have hle := hzy.length_le
  rw [Located.length_path_of_mem_children hz, htop.length_path hy hmarked] at hle
  omega

/-- Among children of the root only the one that sets the figure comes to it. -/
theorem count_slots_top (h : f.FigureAt figure slot id) (htop : FiguresAtTop f.root) (hx : x ∈ f.root.visit)
    {b : Located} (hb : f.body? x = some b) (hlength : b.path.length = 1) :
    (f.slots f.fuel x).count slot.path = if b.path = figure.path then 1 else 0 := by
  have hpos : 0 < f.fuel := Nat.mul_pos (Nat.succ_pos _) (Nat.succ_pos _)
  obtain ⟨n, hn⟩ : ∃ n, f.fuel = n + 1 := ⟨f.fuel - 1, by omega⟩
  rw [hn, h.count_slots_succ hx hb, h.count_slots_below htop (mem_visit_of_body? h.ofTree hx hb) hlength, Nat.add_zero]

/-- A claimed figure in the teaser block sets its label there nevertheless. -/
theorem count_blockLabels_teaser (h : f.FigureAt figure slot id) (htop : FiguresAtTop f.root) (hacyclic : f.Acyclic)
    (hx : x ∈ f.root.visit) (hlength : x.path.length = 1) :
    (f.blockLabels .teaser x).count (.figure, id) = if x.path = figure.path then 1 else 0 := by
  have hchildren : (childLabels (f.labels f.fuel) x).count (.figure, id) =
      (x.children.flatMap (f.slots f.fuel)).count slot.path :=
    count_childLabels (h.count_labels f.fuel) hx
      (fun z hz => within_fuel h.ofTree hacyclic (Node.child_mem_visit hx hz))
  have hlabels : f.blockLabels .teaser x = childLabels (f.labels f.fuel) x ++ x.node.labels .figure := rfl
  rw [hlabels, List.count_append, hchildren, h.count_slots_below htop hx hlength, h.count_labels_figure hx,
    Nat.zero_add]

/-- A directive at the top adds one when it asks for the figure and stays in the flow. -/
theorem count_shareLabels_directive (h : f.FigureAt figure slot id) (htop : FiguresAtTop f.root) (hacyclic : f.Acyclic)
    (hx : x ∈ f.rootPlace.children) {key : String} (hask : x.node.directive? = some key) :
    (f.shareLabels x).count (.figure, id) = if key = id ∧ x.node.hasClass "preamble" = false then 1 else 0 := by
  have hplaces : f.places = Places.ofTree f.root := h.ofTree
  have hxmem := mem_visit_of_mem_root_children hx
  have hname := Node.name_of_directive? hask
  have hne : x.path ≠ figure.path := by
    intro heq
    rw [Node.eq_of_path_eq hxmem h.mem heq, h.isFigure] at hname
    exact absurd hname (by decide)
  have hfree : f.places.isClaimed x = false := by
    rw [hplaces, Bool.eq_false_iff, ne_eq, Places.isClaimed_iff hxmem]
    rintro ⟨k, hget⟩
    rw [(Places.of_get?_eq_some hget).2.1] at hname
    exact absurd hname (by decide)
  cases hclass : x.node.hasClass "preamble" with
  | true =>
    have hblock : x.node.block? = some .preamble := by
      rw [Node.block?, hname]
      simp [Node.isRawTex_of_directive? hask, hclass]
    rw [shareLabels, hblock, if_neg (by simp)]
    rfl
  | false =>
    have hw := within_fuel h.ofTree hacyclic hxmem
    rw [h.count_shareLabels hx hw (fun hclaimed => absurd hclaimed (Bool.eq_false_iff.1 hfree)) (fun _ => hclass)]
    simp only [and_true]
    cases hget : f.places.get? key with
    | some g =>
      have hplaced : x.node.directive?.bind f.places.get? = some g := by rw [hask, Option.bind_some, hget]
      have hget' := hget
      rw [hplaces] at hget'
      obtain ⟨hgmem, hgname, hgid, -⟩ := Places.of_get?_eq_some hget'
      have hiff : g.path = figure.path ↔ key = id := by
        constructor
        · intro heq
          rw [Node.eq_of_path_eq hgmem h.mem heq, h.hasId, Option.some.injEq] at hgid
          exact hgid.symm
        · intro heq
          rw [heq] at hgid
          rw [eq_of_nodup_filterMap h.distinct hgmem h.mem hgid h.hasId]
      rw [h.count_slots_top htop hxmem (body?_of_directive hplaced) (htop g hgmem (Or.inl hgname))]
      simp only [hiff]
    | none =>
      have hkey : key ≠ id := by
        rintro rfl
        rw [hplaces, (Places.get?_eq_some_iff h.distinct h.mem h.isFigure h.hasId).2 ⟨x, hxmem, hask⟩] at hget
        cases hget
      have hbody : f.body? x = some x := body?_of_not_isClaimed (by rw [hask, Option.bind_some, hget]) hfree
      rw [h.count_slots_top htop hxmem hbody (htop x hxmem (Or.inr (by rw [hask]; rfl))), if_neg hne, if_neg hkey]

/-- Another child of the root adds one when it is the figure, unless it is claimed and stays in the flow. -/
theorem count_shareLabels_other (h : f.FigureAt figure slot id) (htop : FiguresAtTop f.root) (hacyclic : f.Acyclic)
    (hx : x ∈ f.rootPlace.children) (hnone : x.node.directive? = none) :
    (f.shareLabels x).count (.figure, id) =
      if x.path = figure.path then (if f.places.isClaimed figure = true ∧
        figure.node.hasClass "teaser" = false then 0 else 1)
      else 0 := by
  have hxmem := mem_visit_of_mem_root_children hx
  have hlength : x.path.length = 1 := Located.length_path_of_mem_children hx
  by_cases hteaser : f.places.isClaimed x = true ∧ x.node.hasClass "teaser" = true
  · have hname : x.node.name = "figure" := by
      have hclaimed := hteaser.1
      rw [show f.places = Places.ofTree f.root from h.ofTree, Places.isClaimed_iff hxmem] at hclaimed
      obtain ⟨key, hget⟩ := hclaimed
      exact (Places.of_get?_eq_some hget).2.1
    have hblock : x.node.block? = some .teaser := by
      rw [Node.block?, hname]
      simp [hteaser.2]
    rw [shareLabels, hblock]
    simp only
    rw [h.count_blockLabels_teaser htop hacyclic hxmem hlength]
    by_cases heq : x.path = figure.path
    · rw [if_pos heq, if_pos heq, if_neg]
      rw [← Node.eq_of_path_eq hxmem h.mem heq, hteaser.2]
      simp
    · rw [if_neg heq, if_neg heq]
  · have hstays : f.places.isClaimed x = true → x.node.hasClass "teaser" = false := by
      intro hclaimed
      rw [Bool.eq_false_iff]
      exact fun hclass => hteaser ⟨hclaimed, hclass⟩
    have hplain : x.node.directive?.isSome = true → x.node.hasClass "preamble" = false := by
      intro hsome
      rw [hnone] at hsome
      cases hsome
    rw [h.count_shareLabels hx (within_fuel h.ofTree hacyclic hxmem) hstays hplain]
    cases hclaimed : f.places.isClaimed x with
    | true =>
      have hpos : 0 < f.fuel := Nat.mul_pos (Nat.succ_pos _) (Nat.succ_pos _)
      obtain ⟨n, hn⟩ : ∃ n, f.fuel = n + 1 := ⟨f.fuel - 1, by omega⟩
      rw [hn, h.count_slots_none hxmem (body?_of_isClaimed (by rw [hnone]; rfl) hclaimed)]
      by_cases heq : x.path = figure.path
      · rw [if_pos heq, ← Node.eq_of_path_eq hxmem h.mem heq, if_pos ⟨hclaimed, hstays hclaimed⟩]
      · rw [if_neg heq]
    | false =>
      rw [h.count_slots_top htop hxmem (body?_of_not_isClaimed (by rw [hnone]; rfl) hclaimed) hlength]
      by_cases heq : x.path = figure.path
      · rw [if_pos heq, if_pos heq, ← Node.eq_of_path_eq hxmem h.mem heq, hclaimed]
        simp
      · rw [if_neg heq, if_neg heq]

/-- The children of the root together: one for the figure, unless it is claimed and stays in the flow, and one for
each directive for it that stays in the flow. -/
theorem count_shares_top (h : f.FigureAt figure slot id) (htop : FiguresAtTop f.root) (hacyclic : f.Acyclic)
    (hchild : figure ∈ f.rootPlace.children) :
    (f.rootPlace.children.flatMap f.shareLabels).count (.figure, id) =
      (if f.places.isClaimed figure = true ∧ figure.node.hasClass "teaser" = false then 0 else 1) +
        f.rootPlace.children.countP (fun y => y.node.directive? == some id && !y.node.hasClass "preamble") := by
  have hshare : ∀ y ∈ f.rootPlace.children, (f.shareLabels y).count (.figure, id) =
      (if y.path = figure.path then (if f.places.isClaimed figure = true ∧
        figure.node.hasClass "teaser" = false then 0 else 1)
        else 0) + if y.node.directive? == some id && !y.node.hasClass "preamble" then 1 else 0 := by
    intro y hy
    cases hask : y.node.directive? with
    | some key =>
      have hne : y.path ≠ figure.path := by
        intro heq
        have hname := Node.name_of_directive? hask
        rw [Node.eq_of_path_eq (mem_visit_of_mem_root_children hy) h.mem heq, h.isFigure] at hname
        exact absurd hname (by decide)
      rw [h.count_shareLabels_directive htop hacyclic hy hask, if_neg hne, Nat.zero_add]
      simp
    | none =>
      rw [h.count_shareLabels_other htop hacyclic hy hask]
      simp
  have hone : (f.rootPlace.children.map (·.path)).count figure.path = 1 :=
    List.count_eq_one_of_mem (List.pairwise_map.2 f.rootPlace.children_pairwise) (List.mem_map_of_mem hchild)
  rw [count_flatMap_add hshare, hone, Nat.one_mul]

end FigureAt

end Formatter

/-- Of the directives of a flat document at most one asks for an id. -/
theorem countP_directives {root : Node} (hdirectives : (root.visit.filterMap (fun y => y.node.directive?)).Nodup)
    (htop : FiguresAtTop root) {d : Located} (hd : d ∈ root.visit) {id : String} (hask : d.node.directive? = some id) :
    (⟨[], root⟩ : Located).children.countP (fun y => y.node.directive? == some id && !y.node.hasClass "preamble") =
      if d.node.hasClass "preamble" = true then 0 else 1 := by
  have honly : ∀ y ∈ (⟨[], root⟩ : Located).children, y.node.directive? = some id → y = d := by
    intro y hy hyask
    exact eq_of_nodup_filterMap hdirectives (Node.child_mem_visit (Node.root_mem_visit root) hy) hd hyask hask
  split
  · rename_i hclass
    rw [List.countP_eq_zero]
    intro y hy hboth
    rw [Bool.and_eq_true, beq_iff_eq] at hboth
    rw [honly y hy hboth.1, hclass] at hboth
    cases hboth.2
  · rename_i hclass
    have hchild := Node.mem_children_of_length hd (htop d hd (Or.inr (by rw [hask]; rfl)))
    have hcongr : (⟨[], root⟩ : Located).children.countP
      (fun y => y.node.directive? == some id && !y.node.hasClass "preamble") =
        (⟨[], root⟩ : Located).children.countP (fun y => y.path == d.path) := by
      refine List.countP_congr (fun y hy => ?_)
      rw [Bool.and_eq_true, beq_iff_eq, beq_iff_eq]
      constructor
      · rintro ⟨hyask, -⟩
        rw [honly y hy hyask]
      · intro hpath
        rw [Node.eq_of_path_eq (Node.child_mem_visit (Node.root_mem_visit root) hy) hd hpath]
        exact ⟨hask, by simpa using hclass⟩
    have hnodup : ((⟨[], root⟩ : Located).children.map (·.path)).Nodup :=
      List.pairwise_map.2 (Located.children_pairwise ⟨[], root⟩)
    have hone := List.count_eq_one_of_mem hnodup (List.mem_map_of_mem hchild)
    rw [hcongr, ← hone, List.count, List.countP_map]
    rfl

/-- In a document whose figures and directives are all children of the root, the label of a figure occurs exactly
once in the main text and the blocks taken together if and only if each directive for the figure belongs to the
preamble exactly when the figure is a teaser. -/
theorem extracted_figure_once_iff (root : Node) (options : Options) (citations : Option Citations) {x : Located}
    {id : String} (htexts : LabelFree root options) (hids : (root.visit.filterMap (fun y => y.node.id)).Nodup)
    (hdirectives : (root.visit.filterMap (fun y => y.node.directive?)).Nodup)
    (htop : FiguresAtTop root)
    (hx : x ∈ root.visit) (hname : x.node.name = "figure") (hid : x.node.id = some id) :
    (Formatter.ofDocument root options citations).occurrencesInOutput (Tex.label .figure id) = 1 ↔
      ∀ d ∈ root.visit, d.node.directive? = some id → d.node.hasClass "preamble" = x.node.hasClass "teaser" := by
  have horderly := orderly_of_markedAreRendered hdirectives htop.markedAreRendered (htop.acyclic options citations)
  have hpreambleTexts : ∀ y ∈ (Formatter.ofDocument root options citations).blockChildren .preamble,
      Tex.Quiet Tex.labelCalls (y.node.value.getD "").toList := by
    intro y hy
    obtain ⟨hchild, hblock⟩ := Formatter.mem_blockChildren.1 hy
    exact htexts.preamble y hchild hblock
  rw [Formatter.occurrencesInOutput_eq (htexts.admits citations) hpreambleTexts (htexts.ids x hx id hid)]
  generalize hf : Formatter.ofDocument root options citations = f at horderly
  have hroot : f.root = root := by rw [← hf]; rfl
  have hplaces : f.places = Places.ofTree root := by rw [← hf]; rfl
  subst hroot
  have hfigure : x.node.directive? = none := by
    rw [Node.directive?, Node.isRawTex, hname]
    rfl
  obtain ⟨slot, hslotmem, hsets⟩ := Formatter.exists_slot horderly hx hfigure
  have hat : f.FigureAt x slot id := ⟨horderly.ofTree, hx, hname, hid, hids, hslotmem, hsets, htop.markedAreRendered⟩
  have hchild := Node.mem_children_of_length hx (htop x hx (Or.inl hname))
  rw [hat.count_shares_top htop horderly.acyclic hchild]
  by_cases hasked : ∃ d ∈ f.root.visit, d.node.directive? = some id
  · have hclaimed : f.places.isClaimed x = true := by
      rw [hplaces, Places.isClaimed_iff hx]
      exact ⟨id, (Places.get?_eq_some_iff hids hx hname hid).2 hasked⟩
    obtain ⟨d, hd, hask⟩ := hasked
    have honly : (∀ e ∈ f.root.visit, e.node.directive? = some id →
      e.node.hasClass "preamble" = x.node.hasClass "teaser") ↔
        d.node.hasClass "preamble" = x.node.hasClass "teaser" := by
      refine ⟨fun hall => hall d hd hask, fun hsame e he heask => ?_⟩
      rw [eq_of_nodup_filterMap hdirectives he hd heask hask, hsame]
    rw [honly, hclaimed, show f.rootPlace = ⟨[], f.root⟩ from rfl, countP_directives hdirectives htop hd hask]
    cases d.node.hasClass "preamble" <;> cases x.node.hasClass "teaser" <;> decide
  · have hclaimed : f.places.isClaimed x = false := by
      rw [hplaces, Bool.eq_false_iff, ne_eq, Places.isClaimed_iff hx]
      rintro ⟨key, hget⟩
      obtain ⟨-, -, hkey, hsome⟩ := Places.of_get?_eq_some hget
      rw [hid, Option.some.injEq] at hkey
      exact hasked (hkey ▸ hsome)
    have hzero : f.rootPlace.children.countP (fun y => y.node.directive? == some id && !y.node.hasClass "preamble") =
        0 := by
      rw [List.countP_eq_zero]
      intro y hy hboth
      rw [Bool.and_eq_true, beq_iff_eq] at hboth
      exact hasked ⟨y, Formatter.mem_visit_of_mem_root_children hy, hboth.1⟩
    rw [hclaimed, hzero]
    refine ⟨fun _ d hd hask => absurd ⟨d, hd, hask⟩ hasked, fun _ => ?_⟩
    rw [if_neg (fun hstays => Bool.false_ne_true hstays.1)]

/-- A figure and a directive for it, next to one another and with the given classes. -/
def claimedFigure (figureClasses directiveClasses : List String) : Node where
  name := "article"
  content := .children
    [pictureFigure "cat" figureClasses, { Node.raw "tex" "\\place\x7bcat\x7d" with classes := directiveClasses }]

/-- A claimed figure that goes nowhere else. -/
theorem claimedFigure_once :
    (Formatter.ofDocument (claimedFigure [] []) {} none).occurrencesInOutput (Tex.label .figure "cat") = 1 := by
  have hid : (pictureFigure "cat" []).id = some "cat" := by decide +kernel
  have hiff := extracted_figure_once_iff (claimedFigure [] []) {} none (x := ⟨[0], pictureFigure "cat" []⟩)
    (by decide +kernel) (by decide +kernel) (by decide +kernel) (by decide +kernel) (Node.mem_visit.2 rfl) rfl hid
  exact hiff.2 (by decide +kernel)

/-- A claimed teaser is set twice, and a figure that only the preamble asks for is lost. -/
theorem claimedFigure_twice_or_lost :
    LabelFree (claimedFigure ["teaser"] []) {} ∧ FiguresAtTop (claimedFigure ["teaser"] []) ∧
      (Formatter.ofDocument (claimedFigure ["teaser"] []) {} none).occurrencesInOutput (Tex.label .figure "cat") = 2 ∧
      LabelFree (claimedFigure [] ["preamble"]) {} ∧ FiguresAtTop (claimedFigure [] ["preamble"]) ∧
      (Formatter.ofDocument (claimedFigure [] ["preamble"]) {} none).occurrencesInOutput
        (Tex.label .figure "cat") = 0 := by
  decide +kernel

end Manuscript
