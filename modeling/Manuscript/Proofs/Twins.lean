import Mathlib.Data.List.Forall2
import Manuscript.Formatter
import Manuscript.Proofs.Listing

/-!
# Equal nodes at different places

What a node becomes hangs on the node and not on where it stands. Two places, each in a tree of its own, are twins
when they hold equal nodes. Where two formatters answer alike about twins (`Alike`), twins are rendered alike to
every depth (`render_eq`). The rules are taken one after another, and the induction over the depth comes last.
-/

namespace Manuscript

/-- A place of one tree and a place of another one hold equal nodes. -/
structure Twin (root other : Node) (x y : Located) : Prop where
  left : x ∈ root.visit
  right : y ∈ other.visit
  node : x.node = y.node

variable {root other : Node} {x y : Located}

/-- Places with the same nodes in the same order are twins, one by one. -/
theorem forall₂_twin {l m : List Located} (hl : ∀ a ∈ l, a ∈ root.visit) (hm : ∀ b ∈ m, b ∈ other.visit)
    (h : l.map (·.node) = m.map (·.node)) : List.Forall₂ (Twin root other) l m := by
  rw [← List.forall₂_eq_eq_eq, List.forall₂_map_left_iff, List.forall₂_map_right_iff, List.forall₂_iff_zip] at h
  refine List.forall₂_iff_zip.2 ⟨h.1, fun hab => ?_⟩
  have hmem := List.of_mem_zip hab
  exact ⟨hl _ hmem.1, hm _ hmem.2, h.2 hab⟩

/-- The children of twins are twins, one by one. -/
theorem Twin.children (h : Twin root other x y) : List.Forall₂ (Twin root other) x.children y.children := by
  refine forall₂_twin (fun c hc => Node.child_mem_visit h.left hc) (fun c hc => Node.child_mem_visit h.right hc) ?_
  rw [Located.children, Located.children, Node.map_node_siblings, Node.map_node_siblings, h.node]

namespace Formatter

/-! ## Lists of twins -/

section Lists

variable {α β γ : Type} {R : α → β → Prop} {l : List α} {m : List β}

/-- Lists in relation come to the same when related members do. -/
theorem map_eq_of_forall₂ {F : α → γ} {G : β → γ} (h : List.Forall₂ R l m) (hFG : ∀ a b, R a b → F a = G b) :
    l.map F = m.map G := by
  have hmapped : List.Forall₂ Eq (l.map F) (m.map G) := List.rel_map (fun a b hab => hFG a b hab) h
  rwa [List.forall₂_eq_eq_eq] at hmapped

/-- So do the lists that are made of their members. -/
theorem flatMap_eq_of_forall₂ {F : α → List γ} {G : β → List γ} (h : List.Forall₂ R l m)
    (hFG : ∀ a b, R a b → F a = G b) : l.flatMap F = m.flatMap G := by
  rw [List.flatMap_def, List.flatMap_def, map_eq_of_forall₂ h hFG]

/-- Lists in relation stay so when related members are kept alike. -/
theorem filter_of_forall₂ {p : α → Bool} {q : β → Bool} (h : List.Forall₂ R l m) (hpq : ∀ a b, R a b → p a = q b) :
    List.Forall₂ R (l.filter p) (m.filter q) :=
  List.rel_filter (fun a b hab => by simp only [hpq a b hab]) h

end Lists

/-! ## Rules -/

/-- Two renderers say the same of twins. -/
def Matched (root other : Node) (render render' : Renderer) : Prop :=
  ∀ x y, Twin root other x y → ∀ depth, render depth x = render' depth y

/-- Two formatters answer alike: they set the same words and spacing, tell the same kinds of targets, and know of
twins the same. -/
structure Alike (f g : Formatter) : Prop where
  vspace : f.vspace = g.vspace
  prefixOf : f.prefixOf = g.prefixOf
  referenceKind? : ∀ target hint, f.referenceKind? target hint = g.referenceKind? target hint
  isClaimed : ∀ x y, Twin f.root g.root x y → f.places.isClaimed x = g.places.isClaimed y
  get? : ∀ id, Option.Rel (Twin f.root g.root) (f.places.get? id) (g.places.get? id)

section Rules

variable {render render' : Renderer} (hrender : Matched root other render render')
include hrender

/-- The children of twins become the same. -/
theorem Matched.renderChildren_eq (h : Twin root other x y) (depth : Nat) :
    renderChildren render depth x = renderChildren render' depth y :=
  flatMap_eq_of_forall₂ h.children (fun c d hcd => hrender c d hcd depth)

/-- Twins are set as text alike. -/
theorem Matched.renderText_eq (h : Twin root other x y) (depth : Nat) :
    renderText render depth x = renderText render' depth y := by
  rw [renderText, renderText, h.node, hrender.renderChildren_eq h]

/-- Twins are set as figures alike. -/
theorem Matched.renderFigure_eq (h : Twin root other x y) (depth : Nat) :
    renderFigure render depth x = renderFigure render' depth y := by
  simp only [renderFigure, h.node, hrender.renderChildren_eq h]

/-- Twins are set as headings alike. -/
theorem Matched.renderHeading_eq (h : Twin root other x y) (level : Nat) (sectionId : Option String) :
    renderHeading render level sectionId x = renderHeading render' level sectionId y := by
  simp only [renderHeading, h.node, hrender.renderChildren_eq h]

/-- Twins are set as links alike. -/
theorem Matched.renderLink_eq (h : Twin root other x y) (depth : Nat) :
    renderLink render depth x = renderLink render' depth y := by
  simp only [renderLink, h.node, hrender.renderChildren_eq h]

/-- Twins are set as lists alike. -/
theorem Matched.renderList_eq (h : Twin root other x y) (depth : Nat) :
    renderList render depth x = renderList render' depth y := by
  simp only [renderList, h.node, hrender.renderChildren_eq h]

/-- Twins are set as rows alike. -/
theorem Matched.renderRow_eq (h : Twin root other x y) (depth : Nat) :
    renderRow render depth x = renderRow render' depth y := by
  have hcells : x.children.map (fun cell => Text.trim (renderChildren render depth cell)) =
      y.children.map (fun cell => Text.trim (renderChildren render' depth cell)) :=
    map_eq_of_forall₂ h.children (fun c d hcd => by rw [hrender.renderChildren_eq hcd])
  simp only [renderRow, h.node, hcells]

/-- Rows that are twins one by one are set alike. -/
theorem Matched.renderTabular_eq {rows rows' : List Located} (h : List.Forall₂ (Twin root other) rows rows')
    (depth : Nat) : renderTabular render depth rows = renderTabular render' depth rows' := by
  have hcolumns : rows.map (fun row => row.node.children.length) = rows'.map (fun row => row.node.children.length) :=
    map_eq_of_forall₂ h (fun a b hab => by rw [hab.node])
  have hrows : rows.flatMap (renderRow render depth) = rows'.flatMap (renderRow render' depth) :=
    flatMap_eq_of_forall₂ h (fun a b hab => hrender.renderRow_eq hab depth)
  unfold renderTabular
  simp only [hcolumns, hrows]

/-- Twins are set as tables alike. -/
theorem Matched.renderTable_eq (h : Twin root other x y) (depth : Nat) :
    renderTable render depth x = renderTable render' depth y := by
  have hrows : List.Forall₂ (Twin root other) (x.children.filter (fun child => child.node.isRow))
      (y.children.filter (fun child => child.node.isRow)) :=
    filter_of_forall₂ h.children (fun a b hab => by rw [hab.node])
  have hothers : (x.children.filter (fun child => !child.node.isRow)).flatMap (render depth) =
      (y.children.filter (fun child => !child.node.isRow)).flatMap (render' depth) :=
    flatMap_eq_of_forall₂ (filter_of_forall₂ h.children (fun a b hab => by rw [hab.node]))
      (fun a b hab => hrender a b hab depth)
  have hempty : (x.children.filter (fun child => child.node.isRow)).isEmpty =
      (y.children.filter (fun child => child.node.isRow)).isEmpty := by
    rw [Bool.eq_iff_iff, List.isEmpty_iff_length_eq_zero, List.isEmpty_iff_length_eq_zero, hrows.length_eq]
  unfold renderTable
  simp only [h.node, hothers, hempty, hrender.renderTabular_eq hrows]

end Rules

variable {f g : Formatter} {render render' : Renderer}

/-- Twins are set as sections alike. -/
theorem Matched.renderSection_eq (hrender : Matched root other render render') (hfg : f.vspace = g.vspace)
    (h : Twin root other x y) (depth : Nat) :
    f.renderSection render depth x = g.renderSection render' depth y := by
  unfold renderSection
  refine flatMap_eq_of_forall₂ h.children (fun c d hcd => ?_)
  simp only [renderSectionChild, vspace?, hfg, h.node, hcd.node, hrender.renderHeading_eq hcd, hrender c d hcd]

/-- Twins are set as raw nodes alike. -/
theorem Matched.renderRaw_eq (hrender : Matched f.root g.root render render') (hfg : Alike f g)
    (h : Twin f.root g.root x y) : f.renderRaw render x = g.renderRaw render' y := by
  simp only [renderRaw, h.node]
  split
  · cases Directive.parse? (y.node.value.getD "") with
    | none => rfl
    | some id =>
      -- The figures of the directive are twins, or there is none on either side.
      have hfigure := hfg.get? id
      cases hleft : f.places.get? id with
      | none =>
        cases hright : g.places.get? id with
        | none => simp only [hleft, hright]
        | some b =>
          rw [hleft, hright] at hfigure
          cases hfigure
      | some a =>
        cases hright : g.places.get? id with
        | none =>
          rw [hleft, hright] at hfigure
          cases hfigure
        | some b =>
          rw [hleft, hright] at hfigure
          cases hfigure with
          | some hab => simp only [hleft, hright, hrender.renderFigure_eq hab]
  · rfl

/-- A reference is set alike. -/
theorem Alike.renderReference_eq (hfg : Alike f g) (node : Node) : f.renderReference node = g.renderReference node := by
  simp only [renderReference, hfg.referenceKind?, hfg.prefixOf]

/-- Twins become the same by the rules, given renderers that say the same of twins. -/
theorem renderNode_eq (hfg : Alike f g) (hrender : Matched f.root g.root render render') (h : Twin f.root g.root x y)
    (depth : Nat) : f.renderNode render depth x = g.renderNode render' depth y := by
  rw [renderNode, renderNode, h.node]
  cases y.node.role with
  | raw => exact hrender.renderRaw_eq hfg h
  | sectioning => exact hrender.renderSection_eq hfg.vspace h depth
  | heading => exact hrender.renderHeading_eq h _ _
  | table => exact hrender.renderTable_eq h depth
  | list => exact hrender.renderList_eq h depth
  | figure => simp only [hfg.isClaimed x y h, hrender.renderFigure_eq h]
  | link => simp only [hrender.renderLink_eq h]
  | text => simp only [hrender.renderText_eq h]
  | reference => simp only [hfg.renderReference_eq]
  | code | citation | image | math | equation | listing | lineBreak => rfl
  | paragraph | span | emphasis | strong | caption | item | quote | container => simp only [hrender.renderChildren_eq h]

/-- Twins are rendered alike to every depth. The induction is on the depth. -/
theorem render_eq (hfg : Alike f g) (n : Nat) : Matched f.root g.root (f.render n) (g.render n) := by
  induction n with
  | zero =>
    intro x y _ depth
    rfl
  | succ n ih =>
    intro x y h depth
    rw [render, render]
    simp only [spaced, vspace?, hfg.vspace, h.node, renderNode_eq hfg ih h]

end Formatter

end Manuscript
