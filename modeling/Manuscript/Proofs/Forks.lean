import Manuscript.Proofs.FigureLabels
import Manuscript.Proofs.FramedText
import Manuscript.Proofs.Replacement

/-!
# Places that differ in one child

Where a node of a tree is replaced, the places above it differ in one child each (`Fork`). What the rules make of
such places is put together from texts that are the same and from what becomes of the child that differs. So when
firm words are all that tells the texts of that child apart, they are all that tells the texts of the places apart
(`Fork.framed_renderNode`, `Fork.framed_renderSection`).
-/

namespace Manuscript.Formatter

open Tex (Framed Firm)

variable {ι : Type} {words texts : ι → List Char} {f : Formatter} {render : Renderer} {depth : Nat} {a : Node}
  {x c : ι → Located}

/-- Places whose nodes differ in one child only. -/
structure Fork (a : Node) (x c : ι → Located) : Prop where
  node : ∀ i, ∃ nodes, (x i).node = a.withChildren nodes
  children : ∃ before after, ∀ i, (x i).children = before ++ c i :: after

/-- Nodes that are replaced in a child make a fork. -/
theorem fork_replaceAt {child : Node} {i : Nat} (h : a.children[i]? = some child) (p path : NodePath) (new : ι → Node) :
    ∃ q, Fork a (fun j => ⟨p, a.replaceAt (i :: path) (new j)⟩) (fun j => ⟨q, child.replaceAt path (new j)⟩) := by
  refine ⟨p ++ [0 + (a.children.take i).length], ?_, Located.siblings p 0 (a.children.take i),
    Located.siblings p (0 + (a.children.take i).length + 1) (a.children.drop (i + 1)), ?_⟩
  · intro j
    exact ⟨_, Node.replaceAt_cons h path (new j)⟩
  · intro j
    unfold Located.children
    simp only [Node.replaceAt_cons h, Node.children_withChildren]
    rw [Located.siblings_append, Located.siblings]

namespace Fork

/-- The nodes have one name. -/
theorem name_eq (h : Fork a x c) (i : ι) : (x i).node.name = a.name := by
  obtain ⟨nodes, hnode⟩ := h.node i
  rw [hnode]
  rfl

/-- The nodes have one role. -/
theorem role_eq (h : Fork a x c) (i : ι) : (x i).node.role = a.role := by
  unfold Node.role
  rw [h.name_eq i]

/-- The nodes have the same classes. -/
theorem classes_eq (h : Fork a x c) (i : ι) : (x i).node.classes = a.classes := by
  obtain ⟨nodes, hnode⟩ := h.node i
  rw [hnode]
  rfl

/-- The nodes have the same properties. -/
theorem properties_eq (h : Fork a x c) (i : ι) : (x i).node.properties = a.properties := by
  obtain ⟨nodes, hnode⟩ := h.node i
  rw [hnode]
  rfl

/-- A node with children has no literal text. -/
theorem value_eq (h : Fork a x c) (i : ι) : (x i).node.value = none := by
  obtain ⟨nodes, hnode⟩ := h.node i
  rw [hnode]
  rfl

/-- Each property is the same in all of them. -/
theorem property_eq (h : Fork a x c) (i : ι) (key : String) : (x i).node.property key = a.property key := by
  unfold Node.property
  rw [h.properties_eq i]

/-- Each class is in all of them or in none. -/
theorem hasClass_eq (h : Fork a x c) (i : ι) (style : String) : (x i).node.hasClass style = a.hasClass style := by
  unfold Node.hasClass
  rw [h.classes_eq i]

/-- The nodes have one id. -/
theorem id_eq (h : Fork a x c) (i : ι) : (x i).node.id = a.id := by
  unfold Node.id
  rw [h.property_eq i]

/-! ## Rules -/

/-- What is put together from the texts of the children is framed with the text of the one that differs. -/
theorem framed_flatMap (h : Fork a x c) {g : Located → List Char} (hg : Framed words (fun i => g (c i))) :
    Framed words (fun i => (x i).children.flatMap g) := by
  obtain ⟨before, after, hchildren⟩ := h.children
  refine ((hg.append (after.flatMap g)).prepend (before.flatMap g)).congr ?_
  intro i
  rw [hchildren, List.flatMap_append, List.flatMap_cons]

/-- Children that are kept for what they are frame the text of the one that differs. -/
theorem framed_filter (h : Fork a x c) {p : Located → Bool} (hp : ∀ i, p (c i) = true) {g : Located → List Char}
    (hg : Framed words (fun i => g (c i))) : Framed words (fun i => ((x i).children.filter p).flatMap g) := by
  obtain ⟨before, after, hchildren⟩ := h.children
  refine ((hg.append ((after.filter p).flatMap g)).prepend ((before.filter p).flatMap g)).congr ?_
  intro i
  rw [hchildren, List.filter_append, List.filter_cons_of_pos (hp i), List.flatMap_append, List.flatMap_cons]

/-- The children of a fork frame the text of the one that differs. -/
theorem framed_renderChildren (h : Fork a x c) (hchild : Framed words (fun i => render depth (c i))) :
    Framed words (fun i => renderChildren render depth (x i)) :=
  h.framed_flatMap hchild

/-- The label of a fork stands behind the text. -/
theorem framed_withLabel (h : Fork a x c) (kind : ReferenceKind) (htexts : Framed words texts) :
    Framed words (fun i => withLabel (x i).node kind (texts i)) := by
  unfold withLabel label?
  simp only [h.id_eq]
  cases a.id with
  | none => exact htexts
  | some id => exact htexts.append _

/-- A link frames the text of the child that differs. -/
theorem framed_renderLink (h : Fork a x c) (hwords : ∀ i, Firm (words i))
    (hchild : Framed words (fun i => render depth (c i))) :
    Framed words (fun i => renderLink render depth (x i)) := by
  have htext := h.framed_renderChildren hchild
  unfold renderLink
  simp only [h.property_eq]
  cases a.property "href" with
  | none => exact htext
  | some href =>
    have hlink := (htext.append ['}']).prepend (Tex.command "href" (Tex.escapeUrl href.toList) ++ ['{'])
    refine hlink.congr ?_
    intro i
    simp [htext.allBlank_eq hwords i]

/-- A figure frames the text of the child that differs. -/
theorem framed_renderFigure (h : Fork a x c) (hwords : ∀ i, Firm (words i))
    (hchild : Framed words (fun i => render depth (c i))) :
    Framed words (fun i => renderFigure render depth (x i)) := by
  have hbody := h.framed_withLabel .figure
    (((h.framed_renderChildren hchild).trim hwords).prepend "\\centering\n".toList)
  unfold renderFigure
  simp only [h.property_eq, h.hasClass_eq]
  exact hbody.environment _ _

/-- A table frames the text of the child that differs, if that is no row. -/
theorem framed_renderTable (h : Fork a x c) (hwords : ∀ i, Firm (words i)) (hrow : ∀ i, (c i).node.isRow = false)
    (hchild : Framed words (fun i => render depth (c i))) : Framed words (fun i => renderTable render depth (x i)) := by
  obtain ⟨before, after, hchildren⟩ := h.children
  -- The child that differs is no row, so the rows are the same.
  have hrows : ∀ i, (x i).children.filter (fun child => child.node.isRow) =
      before.filter (fun child => child.node.isRow) ++ after.filter (fun child => child.node.isRow) := by
    intro i
    rw [hchildren, List.filter_append, List.filter_cons_of_neg (by simp [hrow i])]
  have hothers := h.framed_filter (p := fun child => !child.node.isRow) (fun i => by simp [hrow i]) hchild
  unfold renderTable
  simp only [hrows, h.property_eq]
  exact (h.framed_withLabel .table (((hothers.append _).prepend _).trimEnd hwords)).environment _ _

/-- A list frames the text of the child that differs. -/
theorem framed_renderList (h : Fork a x c) (hwords : ∀ i, Firm (words i))
    (hchild : Framed words (fun i => render depth (c i))) :
    Framed words (fun i => renderList render depth (x i)) := by
  unfold renderList
  simp only [h.name_eq, h.property_eq, h.hasClass_eq]
  exact ((h.framed_renderChildren hchild).trimEnd hwords).environment _ _

/-- A section frames the text of the child that differs. -/
theorem framed_renderSection (h : Fork a x c)
    (hchild : Framed words (fun i => f.renderSectionChild render (depth + 1) a.id (c i))) :
    Framed words (fun i => f.renderSection render depth (x i)) := by
  unfold renderSection
  simp only [h.id_eq]
  exact h.framed_flatMap hchild

/-- Every other rule that hands the children on puts text around what becomes of the child that differs. -/
theorem framed_renderNode (h : Fork a x c) (hwords : ∀ i, Firm (words i)) (hshown : a.role.hidesChildren = false)
    (hheading : a.role ≠ .heading) (hsection : a.role ≠ .sectioning)
    (hrow : a.role = .table → ∀ i, (c i).node.isRow = false) (hclaimed : ∀ i, f.places.isClaimed (x i) = false)
    (hchild : Framed words (fun i => render depth (c i))) :
    Framed words (fun i => f.renderNode render depth (x i)) := by
  have hchildren := h.framed_renderChildren hchild
  unfold renderNode
  simp only [h.role_eq, h.classes_eq]
  cases hrole : a.role with
  | heading => exact absurd hrole hheading
  | sectioning => exact absurd hrole hsection
  | raw | image | reference | citation | lineBreak | code | math | equation | listing =>
    rw [hrole] at hshown
    cases hshown
  | text =>
    unfold renderText
    simp only [h.value_eq]
    exact hchildren.styled a.classes
  | paragraph => exact (hchildren.trim hwords).block hwords
  | span => exact hchildren.styled a.classes
  | emphasis => exact (hchildren.command "emph").styled a.classes
  | strong => exact (hchildren.command "textbf").styled a.classes
  | link => exact (h.framed_renderLink hwords hchild).styled a.classes
  | figure =>
    simp only [hclaimed]
    exact h.framed_renderFigure hwords hchild
  | caption => exact ((hchildren.trim hwords).command "caption").append ['\n']
  | table => exact h.framed_renderTable hwords (hrow hrole) hchild
  | list => exact h.framed_renderList hwords hchild
  | item => exact ((hchildren.trim hwords).append ['\n']).prepend "\\item ".toList
  | quote => exact (hchildren.trim hwords).environment "quote" none
  | container => exact hchildren

end Fork

/-- The spacing command of a node stands in front of its text. -/
theorem framed_spaced (hwords : ∀ i, Firm (words i)) {node : ι → Node} {name : String}
    (hname : ∀ i, (node i).name = name) (h : Framed words texts) :
    Framed words (fun i => f.spaced (node i) (texts i)) := by
  unfold spaced vspace?
  simp only [hname]
  cases f.vspace.get? name with
  | none => exact h
  | some command =>
    refine (h.prepend (command.toList ++ ['\n'])).congr ?_
    intro i
    have hne := h.ne_nil hwords i
    simp [hne]

end Manuscript.Formatter
