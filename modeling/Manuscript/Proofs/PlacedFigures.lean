import Mathlib.Algebra.GroupWithZero.Nat
import Manuscript.Proofs.FigureLabels
import Manuscript.Proofs.Labels

/-!
# Placed figures are neither lost nor set twice

The output of a document is its main text and its blocks. The labels in it are counted child by child of the root
(`occurrencesInOutput_eq`). Where every directive and every figure with an id is at a rendered position, and no
block takes one out of the flow that directives reckon with, each figure sets its label exactly once
(`placed_figure_once`).
-/

namespace Manuscript

instance (s : List Char) : Decidable (Tex.Quiet Tex.labelCalls s) :=
  inferInstanceAs (Decidable (_ ∧ _))

instance (id : String) : Decidable (Tex.LabelId id) :=
  inferInstanceAs (Decidable (∀ c ∈ id.toList, _))

/-- What a tree and options insert without escaping sets no label and has no markers, and the ids can be labels. -/
structure LabelFree (root : Node) (options : Options) : Prop where
  ids : ∀ x ∈ root.visit, ∀ id ∈ x.node.id, Tex.LabelId id
  inserted : ∀ x ∈ root.visit, ∀ s ∈ x.node.inserted, Tex.Quiet Tex.labelCalls s
  preamble : ∀ x ∈ (⟨[], root⟩ : Located).children, x.node.block? = some .preamble →
    Tex.Quiet Tex.labelCalls (x.node.value.getD "").toList
  vspace : ∀ e ∈ options.vspace.entries, Tex.Quiet Tex.labelCalls e.2.toList
  prefixes : ∀ e ∈ options.prefixes.entries, Tex.Quiet Tex.labelCalls e.2.toList

/-- Where a document could set a label of its own, in five parts. -/
theorem labelFree_iff {root : Node} {options : Options} :
    LabelFree root options ↔
      (∀ x ∈ root.visit, ∀ id ∈ x.node.id, Tex.LabelId id) ∧
        (∀ x ∈ root.visit, ∀ s ∈ x.node.inserted, Tex.Quiet Tex.labelCalls s) ∧
        (∀ x ∈ (⟨[], root⟩ : Located).children, x.node.block? = some .preamble →
          Tex.Quiet Tex.labelCalls (x.node.value.getD "").toList) ∧
        (∀ e ∈ options.vspace.entries, Tex.Quiet Tex.labelCalls e.2.toList) ∧
        ∀ e ∈ options.prefixes.entries, Tex.Quiet Tex.labelCalls e.2.toList := by
  constructor
  · intro h
    exact ⟨h.ids, h.inserted, h.preamble, h.vspace, h.prefixes⟩
  · rintro ⟨hids, hinserted, hpreamble, hvspace, hprefixes⟩
    exact ⟨hids, hinserted, hpreamble, hvspace, hprefixes⟩

instance (root : Node) (options : Options) : Decidable (LabelFree root options) :=
  decidable_of_iff _ labelFree_iff.symm

/-- The formatter of such a document admits text without labels. -/
theorem LabelFree.admits {root : Node} {options : Options} (h : LabelFree root options) (citations : Option Citations) :
    (Formatter.ofDocument root options citations).Admits (Tex.Quiet Tex.labelCalls) Tex.LabelId :=
  Formatter.admits_ofDocument citations h.inserted h.ids h.vspace h.prefixes
    (by intro kind; cases kind <;> decide +kernel)

namespace Formatter

variable {f : Formatter}

/-! ## The output -/

/-- What comes out of formatting: the main text, and the text of each block. -/
def outputTexts (f : Formatter) : List (List Char) :=
  f.content :: Block.all.map (fun block => (f.blocks.text? block).getD [])

/-- How often a text occurs in the main text and the blocks taken together. -/
def occurrencesInOutput (f : Formatter) (needle : List Char) : Nat :=
  (f.outputTexts.map (Text.occurrences needle)).sum

/-- The labels that a child of the root sets in the main text or in its block. -/
def shareLabels (f : Formatter) (child : Located) : List Label :=
  match child.node.block? with
  | some block => f.blockLabels block child
  | none => f.labels f.fuel child

/-- A count over the main text and the blocks is one over the children of the root. -/
theorem count_shares (a : Label) (l : List Located) :
    ((l.filter (fun child => !child.node.isExtracted)).flatMap (f.labels f.fuel)).count a +
        (Block.all.map (fun block =>
          ((l.filter (fun child => child.node.block? == some block)).flatMap (f.blockLabels block)).count a)).sum =
      (l.flatMap f.shareLabels).count a := by
  induction l with
  | nil => rfl
  | cons child rest ih =>
    rw [List.flatMap_cons, List.count_append, ← ih, shareLabels]
    simp only [List.filter_cons, Node.isExtracted, Block.all, List.map_cons, List.map_nil, List.sum_cons, List.sum_nil]
    cases child.node.block? with
    | none =>
      simp
      omega
    | some block =>
      cases block <;>
        · simp
          omega

/-- A label occurs in the output as often as the children of the root set it. -/
theorem occurrencesInOutput_eq (hf : f.Admits (Tex.Quiet Tex.labelCalls) Tex.LabelId)
    (hpreamble : ∀ x ∈ f.blockChildren .preamble, Tex.Quiet Tex.labelCalls (x.node.value.getD "").toList)
    {kind : ReferenceKind} {id : String} (hid : Tex.LabelId id) :
    f.occurrencesInOutput (Tex.label kind id) = (f.rootPlace.children.flatMap f.shareLabels).count (kind, id) := by
  have hblock : ∀ block, Text.occurrences (Tex.label kind id) ((f.blocks.text? block).getD []) =
      ((f.blockChildren block).flatMap (f.blockLabels block)).count (kind, id) :=
    fun block => Tex.occurrences_label_eq_count (markup_block hf block (fun hb => hb ▸ hpreamble)) hid
  rw [occurrencesInOutput, outputTexts, List.map_cons, List.sum_cons, List.map_map,
    Tex.occurrences_label_eq_count (markup_content hf) hid, ← count_shares]
  congr 2
  exact List.map_congr_left (fun block _ => hblock block)

namespace FigureAt

variable {figure slot : Located} {id : String} {x : Located}

/-- What a node that stands for itself holds, with its label as a figure. -/
theorem count_body (h : f.FigureAt figure slot id) (hx : x ∈ f.root.visit) (hbody : f.body? x = some x) {n : Nat}
    (hw : f.Within n x) :
    (childLabels (f.labels n) x ++ x.node.labels .figure).count (.figure, id) = (f.slots n x).count slot.path := by
  cases n with
  | zero => exact hw.elim
  | succ n =>
    have hwithin : ∀ z ∈ x.children, f.Within n z := fun z hz => hw z (mem_shown_iff.2 ⟨x, hbody, hz⟩)
    rw [List.count_append, h.count_labels_figure hx, h.count_slots_succ hx hbody, Nat.add_comm]
    congr 1
    refine count_flatMap_congr (fun z hz => ?_)
    rw [h.count_labels (n + 1) z (Node.child_mem_visit hx hz) (Located.path_ne_nil_of_mem_children hz)
      ((hwithin z hz).mono (Nat.le_succ n)), slots_of_within (Nat.le_succ n) (hwithin z hz)]

/-- A child of the root sets the label of the figure as often as it comes to the slot, in the main text as in a
block. -/
theorem count_shareLabels (h : f.FigureAt figure slot id) (hx : x ∈ f.rootPlace.children) (hw : f.Within f.fuel x)
    (hteaser : f.places.isClaimed x = true → x.node.hasClass "teaser" = false)
    (hpreamble : x.node.directive?.isSome = true → x.node.hasClass "preamble" = false) :
    (f.shareLabels x).count (.figure, id) = (f.slots f.fuel x).count slot.path := by
  have hxmem := mem_visit_of_mem_root_children hx
  have hpath := Located.path_ne_nil_of_mem_children hx
  have hself : x.node.name ≠ "figure" → x.node.directive? = none → f.body? x = some x := by
    intro hname hnone
    refine body?_of_not_isMarked h.ofTree hxmem ?_
    simp [Located.isMarked, hname, hnone]
  have hnone : x.node.name ≠ "raw" → x.node.directive? = none := by
    intro hname
    rw [Option.eq_none_iff_forall_ne_some]
    exact fun id hid => hname (Node.name_of_directive? hid)
  rw [shareLabels]
  cases hblock : x.node.block? with
  | none => exact h.count_labels f.fuel x hxmem hpath hw
  | some block =>
    rw [Node.block?] at hblock
    split at hblock
    · rename_i hname
      obtain rfl := Option.some.inj hblock
      exact h.count_body hxmem (hself (by rw [hname]; decide) (hnone (by rw [hname]; decide))) hw
    · rename_i hname
      obtain rfl := Option.some.inj hblock
      exact h.count_body hxmem (hself (by rw [hname]; decide) (hnone (by rw [hname]; decide))) hw
    · rename_i hname
      split at hblock
      · rename_i hclass
        obtain rfl := Option.some.inj hblock
        have hfree : f.places.isClaimed x = false := by
          rw [Bool.eq_false_iff]
          intro hclaimed
          rw [hteaser hclaimed] at hclass
          cases hclass
        refine h.count_body hxmem (body?_of_not_isClaimed ?_ hfree) hw
        rw [hnone (by rw [hname]; decide)]
        rfl
      · cases hblock
    · rename_i hname
      split at hblock
      · rename_i hclass
        obtain rfl := Option.some.inj hblock
        rw [Bool.and_eq_true] at hclass
        have hplain : x.node.directive? = none := by
          rw [← Option.isNone_iff_eq_none, ← Option.not_isSome, Bool.not_eq_true']
          rw [Bool.eq_false_iff]
          intro hsome
          rw [hpreamble hsome] at hclass
          cases hclass.2
        have hunmarked : x.isMarked = false := by
          simp [Located.isMarked, hname, hplain]
        have hrole : x.node.role.hidesChildren = true := by
          rw [Node.role, hname]
          rfl
        rw [h.count_slots_plain hxmem hunmarked hw, h.count_slots_hidden hxmem hpath hrole]
        rfl
      · cases hblock
    · cases hblock

end FigureAt

end Formatter

/-- A document whose directives and figures with ids are at rendered positions is orderly. -/
theorem orderly_of_markedAreRendered {root : Node} {options : Options} {citations : Option Citations}
    (hdirectives : (root.visit.filterMap (fun y => y.node.directive?)).Nodup) (hrendered : MarkedAreRendered root)
    (hacyclic : (Formatter.ofDocument root options citations).Acyclic) :
    (Formatter.ofDocument root options citations).Orderly := by
  have hroot : (⟨[], root⟩ : Located).isMarked = false := by
    rw [Bool.eq_false_iff]
    intro hmarked
    exact (hrendered ⟨[], root⟩ (Node.root_mem_visit root) hmarked).below rfl
  refine ⟨rfl, hacyclic, hdirectives, ?_, ?_⟩
  · rw [Located.isMarked, Bool.or_eq_false_iff, Option.isSome_eq_false_iff, Option.isNone_iff_eq_none] at hroot
    exact hroot.1
  · rw [Bool.eq_false_iff]
    intro hclaimed
    have hmarked := Formatter.isMarked_of_isClaimed (f := Formatter.ofDocument root options citations) rfl
      (Node.root_mem_visit root) hclaimed
    exact Bool.false_ne_true (hroot.symm.trans hmarked)

/-- Of the figures and directives at rendered positions none is lost and none comes twice: the label of each figure
with an id occurs exactly once in the main text and the blocks taken together. -/
theorem placed_figure_once (root : Node) (options : Options) (citations : Option Citations) {x : Located} {id : String}
    (htexts : LabelFree root options)
    (hids : (root.visit.filterMap (fun y => y.node.id)).Nodup)
    (hdirectives : (root.visit.filterMap (fun y => y.node.directive?)).Nodup)
    (hrendered : MarkedAreRendered root)
    (hacyclic : (Formatter.ofDocument root options citations).Acyclic)
    (hteaser : ∀ y ∈ (⟨[], root⟩ : Located).children, (Places.ofTree root).isClaimed y = true →
      y.node.hasClass "teaser" = false)
    (hpreamble : ∀ y ∈ (⟨[], root⟩ : Located).children, y.node.directive?.isSome = true →
      y.node.hasClass "preamble" = false)
    (hx : x ∈ root.visit) (hname : x.node.name = "figure") (hid : x.node.id = some id) :
    (Formatter.ofDocument root options citations).occurrencesInOutput (Tex.label .figure id) = 1 := by
  have horderly := orderly_of_markedAreRendered hdirectives hrendered hacyclic
  have hlabelId : Tex.LabelId id := htexts.ids x hx id hid
  have hpreambleTexts : ∀ y ∈ (Formatter.ofDocument root options citations).blockChildren .preamble,
      Tex.Quiet Tex.labelCalls (y.node.value.getD "").toList := by
    intro y hy
    obtain ⟨hchild, hblock⟩ := Formatter.mem_blockChildren.1 hy
    exact htexts.preamble y hchild hblock
  rw [Formatter.occurrencesInOutput_eq (htexts.admits citations) hpreambleTexts hlabelId]
  generalize hf : Formatter.ofDocument root options citations = f at horderly
  have hroot : f.root = root := by rw [← hf]; rfl
  have hplaces : f.places = Places.ofTree root := by rw [← hf]; rfl
  subst hroot
  -- The place that sets the figure, and that the labels of the output are counted by.
  have hfigure : x.node.directive? = none := by
    rw [Node.directive?, Node.isRawTex, hname]
    rfl
  obtain ⟨slot, hslotmem, hsets⟩ := Formatter.exists_slot horderly hx hfigure
  have hat : f.FigureAt x slot id := ⟨horderly.ofTree, hx, hname, hid, hids, hslotmem, hsets, hrendered⟩
  have hshares : (f.rootPlace.children.flatMap f.shareLabels).count (.figure, id) = f.setPaths.count slot.path := by
    refine Formatter.count_flatMap_congr (fun y hy => hat.count_shareLabels hy ?_ ?_ (hpreamble y hy))
    · exact Formatter.within_fuel horderly.ofTree horderly.acyclic (Formatter.mem_visit_of_mem_root_children hy)
    · intro hclaimed
      rw [hplaces] at hclaimed
      exact hteaser y hy hclaimed
  rw [hshares]
  exact Formatter.count_setPaths horderly hslotmem (hrendered slot hslotmem hat.slot_isMarked).below

/-- A figure with a picture. -/
def pictureFigure (id : String) (classes : List String) : Node :=
  ({ name := "figure", classes
     content := .children [({ name := "image" } : Node).withProperty "src" "cat.png"] } : Node).withId id

/-- A figure that holds a directive for another one, and is itself set at a directive. -/
def nestedFigures : Node where
  name := "article"
  content := .children
    [.raw "tex" "\\place\x7bouter\x7d",
      { name := "section"
        content := .children
          [{ name := "heading", content := .children [.text "Figures"] },
            ({ name := "figure"
               content := .children
                [.raw "tex" "\\place\x7binner\x7d",
                  { name := "caption", content := .children [.text "Both"] }] } : Node).withId "outer"] },
      pictureFigure "inner" []]

/-- A figure moved inside a figure that is moved itself. -/
theorem inner_figure_once :
    (Formatter.ofDocument nestedFigures {} none).occurrencesInOutput (Tex.label .figure "inner") = 1 :=
  placed_figure_once nestedFigures {} none (x := ⟨[2], pictureFigure "inner" []⟩) (by decide +kernel)
    (by decide +kernel) (by decide +kernel)
    (by decide +kernel) (Formatter.acyclic_of_rank (fun y => y.path.length) (by decide +kernel)) (by decide +kernel)
    (by decide +kernel) (Node.mem_visit.2 rfl) rfl (by decide +kernel)

end Manuscript
