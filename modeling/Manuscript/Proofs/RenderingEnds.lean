import Manuscript.Proofs.Slots

/-!
# Rendering ends

The rule for a place has the renderer called for certain places and for no others (`renderNode_congr`). Each of them
stands below what is set at the place, so where no figure comes to stand in itself through directives, calls are
nested no deeper than the depth that the formatter reckons with. What the renderer would say beyond that depth is
never asked for, and more depth changes nothing (`rendering_ends`).
-/

namespace Manuscript

namespace Formatter

variable {f : Formatter} {x z : Located} {render other : Renderer} {depth : Nat}

/-! ## Calls -/

/-- The places that the renderer is called for when a place is set. -/
def calls (f : Formatter) (x : Located) : List Located :=
  match x.node.role with
  | .raw =>
    match x.node.directive?.bind f.places.get? with
    | some figure => figure.children
    | none => []
  | .sectioning => x.children.flatMap (fun child => if child.node.name == "heading" then child.children else [child])
  | .figure => if f.places.isClaimed x then [] else x.children
  | .table =>
    x.children.filter (fun child => !child.node.isRow) ++
      (x.children.filter (fun child => child.node.isRow)).flatMap (fun row => row.children.flatMap Located.children)
  | .code | .reference | .citation | .image | .math | .equation | .listing | .lineBreak => []
  | .text | .heading | .paragraph | .span | .emphasis | .strong | .link | .caption | .list | .item | .quote
    | .container => x.children

/-- Two renderers say the same of each place of a list. -/
def Agree (render other : Renderer) (places : List Located) : Prop :=
  ∀ z ∈ places, ∀ depth, render depth z = other depth z

/-- The children joined depend on the renderer at the children only. -/
theorem Agree.renderChildren_eq (h : Agree render other x.children) (depth : Nat) :
    renderChildren render depth x = renderChildren other depth x :=
  List.flatMap_congr (fun c hc => h c hc depth)

/-- A heading's command depends on the renderer at the children of the heading only. -/
theorem Agree.renderHeading_eq (h : Agree render other x.children) (level : Nat) (sectionId : Option String) :
    renderHeading render level sectionId x = renderHeading other level sectionId x := by
  simp only [renderHeading, h.renderChildren_eq]

/-- A float depends on the renderer at the children of the figure only. -/
theorem Agree.renderFigure_eq (h : Agree render other x.children) (depth : Nat) :
    renderFigure render depth x = renderFigure other depth x := by
  simp only [renderFigure, h.renderChildren_eq]

/-- What a piece of raw markup becomes depends on the renderer at the children of the figure placed there, if one
is. -/
theorem Agree.renderRaw_eq
    (h : ∀ figure, x.node.directive?.bind f.places.get? = some figure → Agree render other figure.children) :
    f.renderRaw render x = f.renderRaw other x := by
  rw [renderRaw, renderRaw]
  by_cases hraw : x.node.isRawTex = true
  · rw [Node.directive?_of_isRawTex hraw] at h
    simp only [if_pos hraw]
    cases hid : Directive.parse? (x.node.value.getD "") with
    | none => simp only
    | some id =>
      rw [hid, Option.bind_some] at h
      cases hfigure : f.places.get? id with
      | none => simp only [hfigure]
      | some figure => simp only [hfigure, (h figure hfigure).renderFigure_eq]
  · rw [if_neg hraw, if_neg hraw]

/-- A section depends on the renderer at its children, its headings given by their own. -/
theorem Agree.renderSection_eq
    (h : Agree render other
      (x.children.flatMap (fun child => if child.node.name == "heading" then child.children else [child])))
    (depth : Nat) : f.renderSection render depth x = f.renderSection other depth x := by
  refine List.flatMap_congr (fun c hc => ?_)
  have hchild : Agree render other (if c.node.name == "heading" then c.children else [c]) :=
    fun z hz => h z (List.mem_flatMap.2 ⟨c, hc, hz⟩)
  rw [renderSectionChild, renderSectionChild]
  split
  · rename_i hname
    rw [if_pos hname] at hchild
    simp only [hchild.renderHeading_eq]
  · rename_i hname
    rw [if_neg hname] at hchild
    exact hchild c List.mem_cons_self (depth + 1)

/-- A row depends on the renderer at the children of its cells only. -/
theorem Agree.renderRow_eq (h : Agree render other (x.children.flatMap Located.children)) (depth : Nat) :
    renderRow render depth x = renderRow other depth x := by
  have hcells : x.children.map (fun cell => Text.trim (renderChildren render depth cell)) =
      x.children.map (fun cell => Text.trim (renderChildren other depth cell)) := by
    refine List.map_congr_left (fun cell hcell => ?_)
    have hcell : Agree render other cell.children := fun z hz => h z (List.mem_flatMap.2 ⟨cell, hcell, hz⟩)
    rw [hcell.renderChildren_eq]
  simp only [renderRow, hcells]

/-- The rows set together depend on the renderer at the children of their cells only. -/
theorem Agree.renderTabular_eq {rows : List Located}
    (h : Agree render other (rows.flatMap (fun row => row.children.flatMap Located.children))) (depth : Nat) :
    renderTabular render depth rows = renderTabular other depth rows := by
  have hrows : rows.flatMap (renderRow render depth) = rows.flatMap (renderRow other depth) := by
    refine List.flatMap_congr (fun row hrow => ?_)
    have hcells : Agree render other (row.children.flatMap Located.children) :=
      fun z hz => h z (List.mem_flatMap.2 ⟨row, hrow, hz⟩)
    exact hcells.renderRow_eq depth
  unfold renderTabular
  simp only [hrows]

/-- A table depends on the renderer at what is not a row and at the children of the cells. -/
theorem Agree.renderTable_eq
    (h : Agree render other (x.children.filter (fun child => !child.node.isRow) ++
      (x.children.filter (fun child => child.node.isRow)).flatMap (fun row => row.children.flatMap Located.children)))
    (depth : Nat) : renderTable render depth x = renderTable other depth x := by
  have hothers : (x.children.filter (fun child => !child.node.isRow)).flatMap (render depth) =
      (x.children.filter (fun child => !child.node.isRow)).flatMap (other depth) :=
    List.flatMap_congr (fun c hc => h c (List.mem_append.2 (Or.inl hc)) depth)
  have htabular : renderTabular render depth (x.children.filter (fun child => child.node.isRow)) =
      renderTabular other depth (x.children.filter (fun child => child.node.isRow)) :=
    Agree.renderTabular_eq (fun z hz => h z (List.mem_append.2 (Or.inr hz))) depth
  unfold renderTable
  simp only [hothers, htabular]

/-- The rule for a place hangs on what the renderer says of the places that it is called for, and on nothing else
that it says. -/
theorem renderNode_congr (h : Agree render other (f.calls x)) (depth : Nat) :
    f.renderNode render depth x = f.renderNode other depth x := by
  rw [calls] at h
  rw [renderNode, renderNode]
  -- The last group of roles hands all children to the renderer, the one before it none.
  cases hrole : x.node.role with
  | raw =>
    rw [hrole] at h
    refine Agree.renderRaw_eq (fun figure hfigure => ?_)
    simpa only [hfigure] using h
  | sectioning =>
    rw [hrole] at h
    exact h.renderSection_eq depth
  | figure =>
    simp only [hrole] at h ⊢
    split
    · rfl
    · rename_i hclaimed
      rw [if_neg hclaimed] at h
      exact h.renderFigure_eq depth
  | table =>
    rw [hrole] at h
    exact h.renderTable_eq depth
  | heading =>
    rw [hrole] at h
    exact h.renderHeading_eq _ _
  | code | reference | citation | image | math | equation | listing | lineBreak => rfl
  | text | paragraph | span | emphasis | strong | link | caption | list | item | quote | container =>
    simp only [hrole] at h
    simp only [renderText, renderLink, renderList, h.renderChildren_eq]

/-- Each call is for a place below what is set. -/
theorem leadsTo_of_mem_calls (h : z ∈ f.calls x) : f.LeadsTo x z := by
  have hbelow : ∀ c ∈ x.children, z ∈ c.subtree → f.LeadsTo x z := fun c hc hz => ⟨x, Or.inr rfl, c, hc, hz⟩
  rw [calls] at h
  cases hrole : x.node.role with
  | raw =>
    simp only [hrole] at h
    cases hfigure : x.node.directive?.bind f.places.get? with
    | none =>
      rw [hfigure] at h
      exact absurd h List.not_mem_nil
    | some figure =>
      rw [hfigure] at h
      exact ⟨figure, Or.inl hfigure, z, h, z.mem_subtree⟩
  | sectioning =>
    simp only [hrole] at h
    obtain ⟨c, hc, hz⟩ := List.mem_flatMap.1 h
    refine hbelow c hc ?_
    split at hz
    · exact Located.mem_subtree_of_mem_children hz z.mem_subtree
    · rw [List.mem_singleton.1 hz]
      exact c.mem_subtree
  | figure =>
    simp only [hrole] at h
    split at h
    · exact absurd h List.not_mem_nil
    · exact hbelow z h z.mem_subtree
  | table =>
    simp only [hrole] at h
    rcases List.mem_append.1 h with h | h
    · exact hbelow z (List.mem_of_mem_filter h) z.mem_subtree
    · obtain ⟨row, hrow, h⟩ := List.mem_flatMap.1 h
      obtain ⟨cell, hcell, hz⟩ := List.mem_flatMap.1 h
      exact hbelow row (List.mem_of_mem_filter hrow)
        (Located.mem_subtree_of_mem_children hcell (Located.mem_subtree_of_mem_children hz z.mem_subtree))
  | code | reference | citation | image | math | equation | listing | lineBreak =>
    simp only [hrole] at h
    exact absurd h List.not_mem_nil
  | text | heading | paragraph | span | emphasis | strong | link | caption | list | item | quote | container =>
    simp only [hrole] at h
    exact hbelow z h z.mem_subtree

/-! ## Depth -/

/-- A node by the rules, with what another renderer says in the place of the calls that lie more than so many calls
deep. -/
def renderOr (f : Formatter) (last : Renderer) : Nat → Renderer
  | 0 => last
  | fuel + 1 => fun depth place => f.spaced place.node (f.renderNode (f.renderOr last fuel) depth place)

/-- The renderer is the one that gives nothing where the fuel is used up. -/
theorem render_eq_renderOr (fuel : Nat) : f.render fuel = f.renderOr (fun _ _ => []) fuel := by
  induction fuel with
  | zero => rfl
  | succ fuel ih => rw [render, renderOr, ih]

/-- Where calls are nested less than `n` deep, each greater depth gives the same text, and what comes after it is
never asked for. The induction is on the depth. -/
theorem renderOr_eq {n : Nat} (last later : Renderer) {x : Located}
    (h : ∀ chain, (x :: chain).IsChain (fun a b => b ∈ f.calls a) → chain.length < n) {k m : Nat} (hk : n ≤ k)
    (hm : n ≤ m) (depth : Nat) : f.renderOr last k depth x = f.renderOr later m depth x := by
  induction n generalizing x k m depth with
  | zero => exact absurd (h [] (List.IsChain.singleton x)) (Nat.not_lt_zero _)
  | succ n ih =>
    obtain ⟨k, rfl⟩ : ∃ k', k = k' + 1 := ⟨k - 1, by omega⟩
    obtain ⟨m, rfl⟩ : ∃ m', m = m' + 1 := ⟨m - 1, by omega⟩
    have hcalls : Agree (f.renderOr last k) (f.renderOr later m) (f.calls x) := by
      intro z hz depth
      have hz : ∀ chain, (z :: chain).IsChain (fun a b => b ∈ f.calls a) → chain.length < n :=
        fun chain hchain => Nat.lt_of_succ_lt_succ (h (z :: chain) (List.isChain_cons_cons.2 ⟨hz, hchain⟩))
      exact ih hz (Nat.le_of_succ_le_succ hk) (Nat.le_of_succ_le_succ hm) depth
    simp only [renderOr, renderNode_congr hcalls]

/-- Calls are nested no deeper than the depth that the formatter reckons with. -/
theorem length_calls_le_fuel (hf : f.OfTree) (hacyclic : f.Acyclic) {x : Located} (hx : x ∈ f.root.visit)
    {chain : List Located} (hchain : (x :: chain).IsChain (fun a b => b ∈ f.calls a)) :
    (x :: chain).length ≤ f.fuel :=
  length_le_fuel hf hacyclic hx (hchain.imp (fun _ _ => leadsTo_of_mem_calls))

/-- From the depth that the formatter reckons with, each depth gives the same text. -/
theorem renderOr_eq_render (hf : f.OfTree) (hacyclic : f.Acyclic) (last : Renderer) {n : Nat} (hn : f.fuel ≤ n) :
    Agree (f.renderOr last n) (f.render f.fuel) f.root.visit := by
  intro x hx depth
  rw [render_eq_renderOr]
  exact renderOr_eq last _ (fun chain hchain => length_calls_le_fuel hf hacyclic hx hchain) hn (Nat.le_refl _) depth

/-! ## The whole document -/

/-- What a child of the root adds to its block, given what each place holds. -/
def blockTextOf (f : Formatter) (fragment : Located → List Char) (block : Block) (child : Located) : List Char :=
  match block with
  | .preamble => (child.node.value.getD "").toList
  | _ =>
    (match f.vspace? child.node with
      | some command => command.toList ++ ['\n']
      | none => []) ++
      withLabel child.node .figure (Text.trim (fragment child))

/-- The blocks with what a child of the root adds to them, given what each place holds. -/
def addChildOf (f : Formatter) (fragment : Located → List Char) (blocks : Blocks) (child : Located) : Blocks :=
  match child.node.block? with
  | some block => blocks.append block (f.blockTextOf fragment block child)
  | none => blocks

/-- The blocks of the document, given what each place holds. -/
def blocksOf (f : Formatter) (fragment : Located → List Char) : Blocks :=
  f.rootPlace.children.foldl (f.addChildOf fragment) ∅

theorem blocksOf_fragment : f.blocksOf f.fragment = f.blocks := rfl

/-- The blocks hang on what the children of the root hold, and on nothing else. -/
theorem blocksOf_congr {fragment other : Located → List Char}
    (h : ∀ child ∈ f.rootPlace.children, fragment child = other child) :
    f.blocksOf fragment = f.blocksOf other := by
  refine List.foldl_ext _ _ _ (fun blocks child hchild => ?_)
  unfold addChildOf blockTextOf
  rw [h child hchild]

/-- A node's text is the same by a renderer that agrees on the tree. -/
theorem Agree.tex_eq (h : Agree render (f.render f.fuel) f.root.visit) (hx : x ∈ f.root.visit) :
    Tex.tidy (render 0 x) = f.tex x := by
  rw [tex, h x hx 0]

/-- A node's fragment is the same by a renderer that agrees on the tree. -/
theorem Agree.fragment_eq (h : Agree render (f.render f.fuel) f.root.visit) (hx : x ∈ f.root.visit) :
    Tex.tidy (renderChildren render 0 x) = f.fragment x := by
  have hchildren : Agree render (f.render f.fuel) x.children := fun z hz => h z (Node.child_mem_visit hx hz)
  rw [fragment, hchildren.renderChildren_eq]

/-- The body is the same by a renderer that agrees on the tree. -/
theorem Agree.content_eq (h : Agree render (f.render f.fuel) f.root.visit) :
    Tex.tidy (f.mainChildren.flatMap (render 0)) = f.content := by
  have hmain : f.mainChildren.flatMap (render 0) = f.mainChildren.flatMap (f.render f.fuel 0) :=
    List.flatMap_congr (fun c hc => h c (mem_visit_of_mem_root_children (List.mem_of_mem_filter hc)) 0)
  rw [content, hmain]

/-- The blocks are the same by a renderer that agrees on the tree. -/
theorem Agree.blocks_eq (h : Agree render (f.render f.fuel) f.root.visit) :
    f.blocksOf (fun x => Tex.tidy (renderChildren render 0 x)) = f.blocks := by
  rw [← blocksOf_fragment]
  exact blocksOf_congr (fun c hc => h.fragment_eq (mem_visit_of_mem_root_children hc))

end Formatter

/-- Where no figure comes to stand in itself through directives, rendering ends. What becomes of a place hangs only
on its calls, and from any place of the tree calls are nested at most as deep as the number of placed figures and
one more, times the height of the tree and one more. So the text of each place solves the rules without a bound; and
with that depth or more, each place, what it holds, the main text and the blocks come out the same, whatever the
renderer would say beyond. -/
theorem rendering_ends (root : Node) (options : Options) (citations : Option Citations)
    (hacyclic : (Formatter.ofDocument root options citations).Acyclic) :
    let f := Formatter.ofDocument root options citations
    let bound := (f.places.boundCount + 1) * (root.height + 1)
    (∀ render other x depth, Formatter.Agree render other (f.calls x) →
      f.renderNode render depth x = f.renderNode other depth x) ∧
    (∀ x ∈ root.visit, ∀ chain, (x :: chain).IsChain (fun a b => b ∈ f.calls a) → (x :: chain).length ≤ bound) ∧
    (∀ x ∈ root.visit, ∀ depth, f.render f.fuel depth x = f.spaced x.node (f.renderNode (f.render f.fuel) depth x)) ∧
    ∀ n, bound ≤ n → ∀ last : Formatter.Renderer,
      let render := f.renderOr last n
      (∀ x ∈ root.visit, ∀ depth, render depth x = f.render f.fuel depth x) ∧
      (∀ x ∈ root.visit, Tex.tidy (render 0 x) = f.tex x ∧
        Tex.tidy (Formatter.renderChildren render 0 x) = f.fragment x) ∧
      Tex.tidy (f.mainChildren.flatMap (render 0)) = f.content ∧
      f.blocksOf (fun x => Tex.tidy (Formatter.renderChildren render 0 x)) = f.blocks := by
  intro f bound
  have hf : f.OfTree := rfl
  have hmore : ∀ n, bound ≤ n → ∀ last, Formatter.Agree (f.renderOr last n) (f.render f.fuel) root.visit :=
    fun n hn last => Formatter.renderOr_eq_render hf hacyclic last hn
  refine ⟨fun render other x depth h => Formatter.renderNode_congr h depth,
    fun x hx chain hchain => Formatter.length_calls_le_fuel hf hacyclic hx hchain, fun x hx depth => ?_,
      fun n hn last => ?_⟩
  · have hnext := hmore (bound + 1) (Nat.le_succ bound) (fun _ _ => []) x hx depth
    rw [← Formatter.render_eq_renderOr] at hnext
    exact hnext.symm
  · have hagree := hmore n hn last
    exact ⟨hagree, fun x hx => ⟨hagree.tex_eq hx, hagree.fragment_eq hx⟩, hagree.content_eq, hagree.blocks_eq⟩

/-- Two figures, each set at several directives; one of them, with two directives for the other in it, stands in a
section. -/
def sharedFigures : Node where
  name := "article"
  content := .children
    [.raw "tex" "\\place\x7bouter\x7d",
      { name := "section"
        content := .children
          [({ name := "figure"
              content := .children
                [.raw "tex" "\\place\x7binner\x7d", .raw "tex" "\\place\x7binner\x7d"] } : Node).withId "outer",
            .raw "tex" "\\place\x7bouter\x7d"] },
      .raw "tex" "\\place\x7binner\x7d",
      ({ name := "figure"
         content := .children [{ name := "caption", content := .children [.text "Cat"] }] } : Node).withId "inner"]

/-- A document with a figure that two directives ask for. -/
theorem sharedFigures_rendering_ends :
    let f := Formatter.ofDocument sharedFigures {} none
    f.Acyclic ∧ (f.places.boundCount + 1) * (sharedFigures.height + 1) = 12 ∧
      (∀ x ∈ sharedFigures.visit, ∀ chain, (x :: chain).IsChain (fun a b => b ∈ f.calls a) → (x :: chain).length ≤ 12) ∧
      Tex.tidy (f.mainChildren.flatMap (f.renderOr (fun _ _ => "too deep".toList) 12 0)) = f.content := by
  intro f
  have hacyclic : f.Acyclic := Formatter.acyclic_of_rank (fun y => y.path.length) (by decide +kernel)
  have hbound : (f.places.boundCount + 1) * (sharedFigures.height + 1) = 12 := by decide +kernel
  obtain ⟨-, hlength, -, hmore⟩ := rendering_ends sharedFigures {} none hacyclic
  refine ⟨hacyclic, hbound, fun x hx chain hchain => ?_, ?_⟩
  · exact Nat.le_trans (hlength x hx chain hchain) (Nat.le_of_eq hbound)
  · exact (hmore 12 (Nat.le_of_eq hbound) _).2.2.1

end Manuscript
