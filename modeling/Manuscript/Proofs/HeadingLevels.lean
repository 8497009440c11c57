import Mathlib.Data.List.Chain
import Manuscript.Formatter.Content
import Manuscript.Proofs.Forks
import Manuscript.Proofs.RenderingEnds

/-!
# The level of a heading

A heading is written with the command of its level: the level that it gives for itself, or the number of sections
that it stands in. The number is counted on the way down, and each rule hands it on, whatever it puts around the
text of a child (`Fork.framed_renderNode`). So in the finished text nothing but the command of a heading hangs on
its level (`heading_levels`). A section renders the headings among its children itself. It says the same of them as
the rule for headings does one level further down (`renderSection_eq_flatMap`).
-/

namespace Manuscript

/-! ## Commands by rank -/

namespace Tex

/-- The sectioning commands, from the first rank to the fifth. -/
def sectionCommands : List String :=
  ["section", "subsection", "subsubsection", "paragraph", "subparagraph"]

/-- The sectioning command of a rank. -/
def commandOfRank (rank : Nat) : String :=
  sectionCommands.getD (rank - 1) ""

/-- The command of a level is that of the nearest rank. -/
theorem sectionCommand_eq (level : Nat) : sectionCommand level = commandOfRank (max 1 (min level 5)) := by
  match level with
  | 0 => rfl
  | 1 => rfl
  | 2 => rfl
  | 3 => rfl
  | 4 => rfl
  | level + 5 =>
    have hrank : max 1 (min (level + 5) 5) = 5 := by omega
    rw [hrank]
    rfl

instance (w : List Char) : Decidable (Firm w) :=
  decidable_of_iff (w ≠ [] ∧ (∀ c ∈ w, Text.isBlank c = false) ∧ ∀ inside, nextMarker inside ∉ w)
    ⟨fun ⟨hne, hsolid, hunmarked⟩ => ⟨hne, hsolid, hunmarked⟩, fun h => ⟨h.ne_nil, h.solid, h.unmarked⟩⟩

/-- The beginning of a command is firm. -/
theorem firm_of_mem_commandNames {name : String} (h : name ∈ commandNames) : Firm ('\\' :: (name.toList ++ ['{'])) := by
  have hall : ∀ name ∈ commandNames, Firm ('\\' :: (name.toList ++ ['{'])) := by decide
  exact hall name h

end Tex

namespace Node

/-- The command that opens a heading of a rank; a heading without a number has a star. -/
def opening (heading : Node) (rank : Nat) : List Char :=
  '\\' :: ((Tex.commandOfRank rank ++ if heading.hasClass "unnumbered" then "*" else "").toList ++ ['{'])

/-- The number of sections in a list. -/
def sections (nodes : List Node) : Nat :=
  nodes.countP (fun node => node.name == "section")

theorem sections_cons (node : Node) (nodes : List Node) :
    sections (node :: nodes) = (if node.name = "section" then 1 else 0) + sections nodes := by
  unfold sections
  rw [List.countP_cons, Nat.add_comm]
  simp

/-- The rank of a heading in so many sections: its own level, if it gives one, and else their number, but one at
least and five at most. -/
def headingRank (heading : Node) (sections : Nat) : Nat :=
  max 1 (min ((Formatter.headingLevel? heading).getD (max 1 sections)) 5)

/-- A heading below the root that is set with the main text as a heading: what it stands in, the root apart, is not
taken out for a block, does not hide its children, is no heading and no row of a table. -/
structure HeadingAt (root : Node) (path : NodePath) (heading : Node) : Prop where
  found : root.atPath path = some heading
  name : heading.name = "heading"
  below : path ≠ []
  main : ∀ a ∈ (root.above path).tail.head?, a.isExtracted = false
  shown : ∀ a ∈ (root.above path).tail, a.role.hidesChildren = false
  noHeading : ∀ a ∈ (root.above path).tail, a.name ≠ "heading"
  noRow : (root.above path).tail.IsChain (fun a b => a.role = .table → b.isRow = false)

end Node

namespace Formatter

open Tex (Framed Firm)

variable {ι : Type} {f : Formatter} {render : Renderer} {depth : Nat} {a : Node}

/-! ## Headings -/

/-- What opens a heading has neither a blank nor a marker at its ends. -/
theorem firm_opening (node : Node) (level : Nat) : Firm (node.opening (max 1 (min level 5))) := by
  unfold Node.opening
  rw [← Tex.sectionCommand_eq]
  refine Tex.firm_of_mem_commandNames (Markup.sectionCommand_mem _ _ ?_)
  split
  · exact Or.inr rfl
  · exact Or.inl rfl

/-- Headings that differ in their own levels only. -/
structure Releveled (heading : Node) (new : ι → Node) : Prop where
  name : ∀ i, (new i).name = "heading"
  classes : ∀ i, (new i).classes = heading.classes
  id : ∀ i, (new i).id = heading.id
  children : ∀ i, (new i).children = heading.children

variable {heading : Node} {new : ι → Node}

/-- A child that a heading stands at or below is a row only if it was one. -/
theorem isRow_replaceAt {child other : Node} {path : NodePath} (hpath : child.atPath path = some heading)
    (hother : other.name = "heading")
    (hnoRow : ∀ b ∈ (child.above path).head?, b.isRow = false) : (child.replaceAt path other).isRow = false := by
  refine Node.replaceAt_of_head (fun a nodes ha => ha) hpath ?_ hnoRow
  rw [Node.isRow, hother]
  decide

/-- A child that a heading stands at or below stays with the main text if it was in it. -/
theorem isExtracted_replaceAt {child other : Node} {path : NodePath} (hpath : child.atPath path = some heading)
    (hother : other.name = "heading") (hmain : ∀ b ∈ (child.above path).head?, b.isExtracted = false) :
    (child.replaceAt path other).isExtracted = false := by
  refine Node.replaceAt_of_head (fun a nodes ha => ha) hpath ?_ hmain
  rw [Node.isExtracted, Node.block?, hother]
  rfl

namespace Releveled

/-- The headings differ in their level only. -/
theorem children_eq (h : Releveled heading new) (p : NodePath) (i : ι) :
    (⟨p, new i⟩ : Located).children = (⟨p, heading⟩ : Located).children := by
  unfold Located.children
  rw [h.children]

/-- The command of its level is all that a heading owes to it. -/
theorem framed_renderHeading (h : Releveled heading new) (level : ι → Nat) (sectionId : Option String) (p : NodePath) :
    Framed (fun i => (new i).opening (max 1 (min (level i) 5)))
      (fun i => renderHeading render (level i) sectionId ⟨p, new i⟩) := by
  have hclass : ∀ i, (new i).hasClass "unnumbered" = heading.hasClass "unnumbered" := by
    intro i
    unfold Node.hasClass
    rw [h.classes]
  unfold renderHeading renderChildren label? Node.opening
  simp only [h.children_eq, h.id, hclass, Tex.sectionCommand_eq]
  exact Framed.opening _ _ _

/-- A heading among the children of a section is written like any other. -/
theorem framed_renderSectionChild (h : Releveled heading new) (level : Nat) (sectionId : Option String) (p : NodePath) :
    Framed (fun i => (new i).opening (max 1 (min ((headingLevel? (new i)).getD level) 5)))
      (fun i => f.renderSectionChild render level sectionId ⟨p, new i⟩) := by
  have hheading : Framed (fun i => (new i).opening (max 1 (min ((headingLevel? (new i)).getD level) 5)))
      (fun i => renderHeading render ((headingLevel? (new i)).getD level) sectionId ⟨p, new i⟩) :=
    h.framed_renderHeading _ sectionId p
  unfold renderSectionChild vspace?
  simp only [h.name, beq_self_eq_true, if_true]
  cases f.vspace.get? "heading" with
  | none => exact hheading
  | some command =>
    refine (hheading.prepend (command.toList ++ ['\n'])).congr ?_
    intro i
    simp

/-- The end of a way down: a heading in so many sections. -/
theorem framed_heading (h : Releveled heading new) (p : NodePath) {sections : Nat}
    (hdepth : max depth 1 = max 1 sections) (n : Nat) :
    Framed (fun i => (new i).opening ((new i).headingRank sections)) (fun i => f.render (n + 1) depth ⟨p, new i⟩) := by
  have hrole : ∀ i, (new i).role = .heading := by
    intro i
    rw [Node.role, h.name]
    rfl
  refine framed_spaced (fun i => firm_opening _ _) h.name ?_
  unfold renderNode
  simp only [hrole, hdepth]
  exact h.framed_renderHeading _ none p

/-- A step of a way down through a section: the heading may be next, and else the child is rendered one level
further down. -/
theorem framed_sectionChild (h : Releveled heading new) {child : Node} {path : NodePath} {q : NodePath} {sections : Nat}
    (sectionId : Option String) (hpath : child.atPath path = some heading) (hname : heading.name = "heading")
    (hnoHeading : ∀ b ∈ child.above path, b.name ≠ "heading")
    (hsections : depth + Node.sections (child.above path) = sections)
    (hdepth : 0 < depth)
    (hrender : Framed (fun i => (new i).opening ((new i).headingRank sections))
      (fun i => render depth ⟨q, child.replaceAt path (new i)⟩)) :
    Framed (fun i => (new i).opening ((new i).headingRank sections))
      (fun i => f.renderSectionChild render depth sectionId ⟨q, child.replaceAt path (new i)⟩) := by
  cases path with
  | nil =>
    have hrank : max 1 sections = depth := by
      have hnone : Node.sections (child.above []) = 0 := rfl
      omega
    unfold Node.headingRank
    rw [hrank]
    exact h.framed_renderSectionChild depth sectionId q
  | cons k path =>
    obtain ⟨grandchild, hgrandchild, -⟩ := Node.exists_child_of_atPath_cons hpath
    rw [Node.above_cons hgrandchild, List.forall_mem_cons] at hnoHeading
    refine hrender.congr ?_
    intro i
    unfold renderSectionChild
    rw [if_neg]
    rw [beq_iff_eq, Node.name_replaceAt hpath ((h.name i).trans hname.symm)]
    exact hnoHeading.1

/-- Wherever a heading stands below a node, the text of the node owes its level the command of the heading and
nothing else. The induction is on the way down; the depth grows with each section on it. -/
theorem framed_render (h : Releveled heading new) (hclaimed : ∀ y, f.places.isClaimed y = false)
    (hname : heading.name = "heading")
    {path : NodePath} (p : NodePath) {n sections : Nat} (hfound : a.atPath path = some heading)
    (hshown : ∀ b ∈ a.above path, b.role.hidesChildren = false) (hnoHeading : ∀ b ∈ a.above path, b.name ≠ "heading")
    (hnoRow : (a.above path).IsChain (fun a b => a.role = .table → b.isRow = false)) (hn : path.length < n)
    (hsections : depth + Node.sections (a.above path) = sections) :
    Framed (fun i => (new i).opening ((new i).headingRank sections))
      (fun i => f.render n depth ⟨p, a.replaceAt path (new i)⟩) := by
  have hwords : ∀ i, Firm ((new i).opening ((new i).headingRank sections)) := fun i => firm_opening _ _
  obtain ⟨n, rfl⟩ : ∃ m, n = m + 1 := ⟨n - 1, by omega⟩
  induction path generalizing a p n depth with
  | nil =>
    refine h.framed_heading p ?_ n
    rw [← hsections, Nat.max_comm]
    rfl
  | cons j path ih =>
    obtain ⟨child, hchild, hpath⟩ := Node.exists_child_of_atPath_cons hfound
    obtain ⟨q, hfork⟩ := fork_replaceAt hchild p path new
    rw [List.length_cons, Nat.add_lt_add_iff_right] at hn
    obtain ⟨n, rfl⟩ : ∃ m, n = m + 1 := ⟨n - 1, by omega⟩
    rw [Node.above_cons hchild] at hshown hnoHeading hnoRow hsections
    rw [List.forall_mem_cons] at hshown hnoHeading
    rw [List.isChain_cons] at hnoRow
    refine framed_spaced hwords hfork.name_eq ?_
    by_cases hsection : a.name = "section"
    · have hrole : a.role = .sectioning := by rw [Node.role, hsection]; rfl
      rw [Node.sections_cons, if_pos hsection] at hsections
      unfold renderNode
      simp only [hfork.role_eq, hrole]
      have hbelow : depth + 1 + Node.sections (child.above path) = sections := by omega
      have hrender := ih q hpath hshown.2 hnoHeading.2 hnoRow.2 hbelow n hn
      exact hfork.framed_renderSection
        (h.framed_sectionChild a.id hpath hname hnoHeading.2 hbelow (Nat.succ_pos depth) hrender)
    · rw [Node.sections_cons, if_neg hsection, Nat.zero_add] at hsections
      have hnot : a.role ≠ .sectioning :=
        fun hrole => hsection (List.mem_singleton.1 ((Node.role_eq_iff (by decide)).1 hrole))
      have hheading : a.role ≠ .heading :=
        fun hrole => hnoHeading.1 (List.mem_singleton.1 ((Node.role_eq_iff (by decide)).1 hrole))
      refine hfork.framed_renderNode hwords hshown.1 hheading hnot ?_ (fun i => hclaimed _) ?_
      · intro htable i
        exact isRow_replaceAt hpath (h.name i) (fun b hb => hnoRow.1 b hb htable)
      · exact ih q hpath hshown.2 hnoHeading.2 hnoRow.2 hsections n hn

end Releveled

/-! ## The main text -/

variable {root : Node} {path : NodePath}

/-- In the main text of a document without directives, a heading owes its level its command and nothing else. -/
theorem Releveled.framed_content (h : Releveled heading new) (options : Options) (citations : Option Citations)
    (hplain : ∀ y ∈ root.visit, y.node.directive? = none) (hheading : root.HeadingAt path heading) :
    Framed (fun i => (new i).opening ((new i).headingRank (Node.sections (root.above path).tail)))
      (fun i => (ofDocument (root.replaceAt path (new i)) options citations).content) := by
  obtain ⟨j, rest, rfl⟩ := List.exists_cons_of_ne_nil hheading.below
  obtain ⟨child, hchild, hpath⟩ := Node.exists_child_of_atPath_cons hheading.found
  obtain ⟨q, hfork⟩ := fork_replaceAt hchild [] rest new
  have htail : (root.above (j :: rest)).tail = child.above rest := by
    rw [Node.above_cons hchild, List.tail_cons]
  obtain ⟨hfound, hname, -, hmain, hshown, hnoHeading, hnoRow⟩ := hheading
  rw [htail] at hmain hshown hnoHeading hnoRow ⊢
  generalize hf : ofDocument root options citations = f
  have hclaimed : ∀ y, f.places.isClaimed y = false := by
    intro y
    rw [← hf]
    exact Places.isClaimed_eq_false hplain y
  have hfuel : rest.length < f.fuel := by
    have hlength := Node.length_le_height hfound
    have hheight : f.root.height = root.height := by rw [← hf]; rfl
    rw [List.length_cons, ← hheight] at hlength
    have hle : 1 * (f.root.height + 1) ≤ f.fuel := Nat.mul_le_mul_right _ (Nat.le_add_left 1 _)
    omega
  have hrender := h.framed_render (f := f) hclaimed hname q hpath hshown hnoHeading hnoRow hfuel (Nat.zero_add _)
  have hchildren := hfork.framed_filter (p := fun y => !y.node.isExtracted)
    (fun i => by rw [isExtracted_replaceAt hpath (h.name i) hmain]; rfl) hrender
  refine (hchildren.tidy (fun i => firm_opening _ _)).congr ?_
  intro i
  have hdirective : (new i).directive? = none := by
    refine Node.directive?_of_role ?_
    rw [Node.role, h.name]
    decide
  have hsame := ofDocument_replaceAt options citations hplain hfound ((h.name i).trans hname.symm) (h.id i)
    (h.children i) hdirective
  have hheight : (root.replaceAt (j :: rest) (new i)).height = root.height := by
    refine Node.height_replaceAt hfound ?_
    rw [Node.height_eq, h.children, ← Node.height_eq]
  rw [hf] at hsame
  rw [hsame, content, mainChildren, rootPlace, fuel, render_withRoot, hheight, ← hf]
  rfl

/-! ## Headings among the children of a section -/

/-- Where rendering ends, the text of each place of the tree is the one that its rule gives. -/
theorem render_fuel_eq (hf : f.OfTree) (hacyclic : f.Acyclic) {y : Located} (hy : y ∈ f.root.visit) (depth : Nat) :
    f.render f.fuel depth y = f.spaced y.node (f.renderNode (f.render f.fuel) depth y) := by
  have hnext := renderOr_eq_render hf hacyclic (fun _ _ => []) (Nat.le_succ f.fuel) y hy depth
  rw [← render_eq_renderOr] at hnext
  exact hnext.symm

/-- A section without an id says of each child what the rules say one level further down, of its headings too. -/
theorem renderSection_eq_flatMap {y : Located} (hid : y.node.id = none)
    (hrule : ∀ child ∈ y.children, child.node.name = "heading" →
      render (depth + 1) child = f.spaced child.node (f.renderNode render (depth + 1) child)) :
    f.renderSection render depth y = y.children.flatMap (render (depth + 1)) := by
  unfold renderSection
  refine List.flatMap_congr ?_
  intro child hchild
  unfold renderSectionChild
  split
  · rename_i hname
    rw [beq_iff_eq] at hname
    have hrole : child.node.role = .heading := by rw [Node.role, hname]; rfl
    have hdepth : max (depth + 1) 1 = depth + 1 := by omega
    rw [hrule child hchild hname, renderNode]
    simp only [hrole, hid, hdepth]
    unfold spaced
    cases f.vspace? child.node with
    | none => rfl
    | some command =>
      -- The text of a heading begins with its command and is never empty.
      simp [renderHeading, Tex.command]
  · rfl

end Formatter

/-- The level of a heading follows the sections that it stands in, on both ways to it. In a document without
directives, a heading that is set with the main text has the command of its rank, that of its own level or of the
number of sections around it below the root; whatever the heading is given as its level, the rest of the text is the
same. And a section without an id renders each child as it is rendered for itself one level further down: for every
renderer that follows the rules, and so for the one of a document where rendering ends. -/
theorem heading_levels (root : Node) (options : Options) (citations : Option Citations) :
    ((∀ y ∈ root.visit, y.node.directive? = none) → ∀ path heading, root.HeadingAt path heading →
      ∃ before after,
        (Formatter.ofDocument root options citations).content =
          before ++ (heading.opening (heading.headingRank (Node.sections (root.above path).tail)) ++ after) ∧
        ∀ properties : Dictionary String, (∀ key, key ≠ "level" → properties.get? key = heading.properties.get? key) →
          (Formatter.ofDocument (root.replaceAt path (heading.withProperties properties)) options citations).content =
            before ++
              (heading.opening ((heading.withProperties properties).headingRank
                (Node.sections (root.above path).tail)) ++ after)) ∧
    (∀ (f : Formatter) (render : Formatter.Renderer) (depth : Nat) (x : Located), x.node.id = none →
      (∀ child ∈ x.children, render (depth + 1) child = f.spaced child.node (f.renderNode render (depth + 1) child)) →
      f.renderSection render depth x = x.children.flatMap (render (depth + 1))) ∧
    ((Formatter.ofDocument root options citations).Acyclic →
      ∀ x ∈ root.visit, x.node.name = "section" → x.node.id = none → ∀ depth,
        let f := Formatter.ofDocument root options citations
        f.renderSection (f.render f.fuel) depth x = x.children.flatMap (f.render f.fuel (depth + 1))) := by
  refine ⟨?_, ?_, ?_⟩
  · intro hplain path heading hheading
    have hreleveled : Formatter.Releveled heading
        (fun i : { properties : Dictionary String // ∀ key, key ≠ "level" →
          properties.get? key = heading.properties.get? key } =>
          heading.withProperties i.1) := by
      refine ⟨fun _ => hheading.name, fun _ => rfl, ?_, fun _ => rfl⟩
      rintro ⟨properties, hproperties⟩
      have hget := hproperties "id" (by decide)
      unfold Node.id Node.property Node.withProperties
      simp only [hget]
    obtain ⟨before, after, hcontent⟩ := hreleveled.framed_content options citations hplain hheading
    refine ⟨before, after, ?_, ?_⟩
    · have hself := hcontent ⟨heading.properties, fun _ _ => rfl⟩
      simp only [Node.withProperties_self, Node.replaceAt_self hheading.found] at hself
      exact hself
    · intro properties hproperties
      exact hcontent ⟨properties, hproperties⟩
  · intro f render depth x hid hrule
    exact Formatter.renderSection_eq_flatMap hid (fun child hchild _ => hrule child hchild)
  · intro hacyclic x hx _ hid depth f
    refine Formatter.renderSection_eq_flatMap hid ?_
    intro child hchild _
    exact Formatter.render_fuel_eq (f := f) rfl hacyclic (Node.child_mem_visit hx hchild) (depth + 1)

/-- A heading without a level of its own. -/
def dataHeading : Node where
  name := "heading"
  content := .children [.text "Data"]

/-- An article with a section, in it a division, in that a section, and in a division of that a heading. -/
def nestedSections : Node where
  name := "article"
  content := .children
    [{ name := "section"
       content := .children
         [{ name := "heading", content := .children [.text "Methods"] },
           { name := "div"
             content := .children
               [{ name := "section", content := .children [{ name := "div", content := .children [dataHeading] }] }] }]
                 }]

/-- The inner heading stands in two sections, and the divisions between them do not count; with a level of its own
it has the command of that one. The outer section says of its heading what the rules say of it at the first level.
-/
theorem nestedSections_levels :
    nestedSections.HeadingAt [0, 1, 0, 0, 0] dataHeading ∧
      (∃ before after,
        (Formatter.ofDocument nestedSections {} none).content = before ++ ("\\subsection\x7b".toList ++ after) ∧
          (Formatter.ofDocument (nestedSections.replaceAt [0, 1, 0, 0, 0] (dataHeading.withProperty "level" "7")) {}
            none).content =
            before ++ ("\\subparagraph\x7b".toList ++ after)) ∧
      (Formatter.ofDocument nestedSections {} none).Acyclic ∧
      ∀ x ∈ nestedSections.visit, x.node.name = "section" → x.node.id = none → ∀ depth,
        let f := Formatter.ofDocument nestedSections {} none
        f.renderSection (f.render f.fuel) depth x = x.children.flatMap (f.render f.fuel (depth + 1)) := by
  have hheading : nestedSections.HeadingAt [0, 1, 0, 0, 0] dataHeading :=
    { found := rfl
      name := rfl
      below := List.cons_ne_nil _ _
      main := by decide
      shown := by decide
      noHeading := by decide
      noRow := by decide }
  have hplain : ∀ y ∈ nestedSections.visit, y.node.directive? = none := by decide +kernel
  have hacyclic : (Formatter.ofDocument nestedSections {} none).Acyclic :=
    Formatter.acyclic_of_rank (fun _ => 0) (by decide +kernel)
  obtain ⟨hlevels, -, hsections⟩ := heading_levels nestedSections {} none
  obtain ⟨before, after, hown, hgiven⟩ := hlevels hplain [0, 1, 0, 0, 0] dataHeading hheading
  refine ⟨hheading, ⟨before, after, hown, ?_⟩, hacyclic, hsections hacyclic⟩
  refine hgiven (dataHeading.properties.insert "level" "7") ?_
  intro key hkey
  rw [Dictionary.get?_insert, if_neg hkey.symm]

end Manuscript
