import Manuscript.Proofs.CarriedText
import Manuscript.Proofs.Listing
import Manuscript.Proofs.Rendering
import Manuscript.Proofs.Slots

/-!
# No text is lost

Rendering keeps the text of a tree of paragraphs, styles, links, headings, figures, lists, quotes and plain
containers. There is one lemma for each rule: it says that what the rule makes of a place carries the texts of the
text nodes from there on down, when that holds of the places further down. The main text then carries the texts of
all text nodes below the root in document order (`text_kept`).
-/

namespace Manuscript

/-- The roles whose rules set all the text of the nodes below. -/
def Role.keepsText : Role → Bool
  | .text | .sectioning | .heading | .paragraph | .span | .emphasis | .strong | .code | .link | .figure | .caption
    | .list | .item
  | .quote | .container => true
  | .raw | .reference | .citation | .image | .table | .math | .equation | .listing | .lineBreak => false

/-! ## The texts of a tree -/

namespace Node

/-- The literal text of a text node. -/
def literal? (node : Node) : Option String :=
  if node.name = "text" then node.value else none

/-- The strings of a node that a rule may write. -/
def strings (node : Node) : List String :=
  node.value.toList ++ node.properties.entries.map (·.2)

/-- No string of the node has a marker in it. -/
def Unmarked (node : Node) : Prop :=
  ∀ text ∈ node.strings, Tex.Unmarked text.toList

instance (node : Node) : Decidable node.Unmarked :=
  inferInstanceAs (Decidable (∀ text ∈ _, _))

/-- The places below the root in document order. -/
def descendants (root : Node) : List Located :=
  root.visit.tail

/-- The literal texts of the text nodes below the root in document order. -/
def texts (root : Node) : List String :=
  root.descendants.filterMap (fun y => y.node.literal?)

variable {node root : Node}

/-- The literal text has no markers. -/
theorem Unmarked.value (h : node.Unmarked) {text : String} (hvalue : node.value = some text) :
    Tex.Unmarked text.toList :=
  h text (List.mem_append_left _ (by rw [hvalue]; exact List.mem_singleton.2 rfl))

/-- No property has markers. -/
theorem Unmarked.property (h : node.Unmarked) {key text : String} (hproperty : node.property key = some text) :
    Tex.Unmarked text.toList :=
  h text
    (List.mem_append_right _ (List.mem_map_of_mem (f := fun e : String × String => e.2)
      (Dictionary.mem_of_find? hproperty)))

/-- The id has no markers. -/
theorem Unmarked.id (h : node.Unmarked) {id : String} (hid : node.id = some id) : Tex.Unmarked id.toList :=
  h.property (Option.filter_eq_some_iff.1 hid).1

/-- Text nodes are the nodes of that name. -/
theorem role_eq_text_iff : node.role = .text ↔ node.name = "text" := by
  rw [role_eq_iff (by decide), Role.names, List.mem_singleton]

/-- Below the root stand the subtrees of its children. -/
theorem descendants_eq (root : Node) : root.descendants = (⟨[], root⟩ : Located).children.flatMap Located.subtree := by
  rw [descendants, visit_eq, Located.subtree_eq, List.tail_cons]

/-- A place below the root is a place of the tree. -/
theorem mem_visit_of_mem_descendants {y : Located} (h : y ∈ root.descendants) : y ∈ root.visit :=
  List.mem_of_mem_tail h

/-- A place of the tree is the root or stands below it. -/
theorem eq_root_or_mem_descendants {y : Located} (h : y ∈ root.visit) : y = ⟨[], root⟩ ∨ y ∈ root.descendants := by
  rwa [visit_eq, Located.subtree_eq, List.mem_cons, ← descendants_eq] at h

/-- The children of a place stand below the root. -/
theorem mem_descendants_of_mem_children {x c : Located} (hx : x ∈ root.visit) (hc : c ∈ x.children) :
    c ∈ root.descendants := by
  refine (eq_root_or_mem_descendants (child_mem_visit hx hc)).resolve_left (fun heq => ?_)
  exact Located.path_ne_nil_of_mem_children hc (heq ▸ rfl)

/-- Where all nodes below the root keep their text and there is one, no node is a directive. -/
theorem directive?_eq_none_of_keepsText (hroles : ∀ y ∈ root.descendants, y.node.role.keepsText = true) {x : Located}
    (hx : x ∈ root.descendants) {y : Located} (hy : y ∈ root.visit) : y.node.directive? = none := by
  rcases eq_root_or_mem_descendants hy with rfl | hy
  · rw [descendants_eq] at hx
    obtain ⟨c, hc, -⟩ := List.mem_flatMap.1 hx
    exact Formatter.directive?_of_mem_children hc
  · cases hask : y.node.directive? with
    | none => rfl
    | some id =>
      have hkeeps := hroles y hy
      rw [role, name_of_directive? hask] at hkeeps
      exact absurd hkeeps (by decide)

end Node

namespace Located

variable {x : Located}

/-- The literal texts of the text nodes of a subtree in document order. -/
def texts (x : Located) : List String :=
  x.subtree.filterMap (fun y => y.node.literal?)

/-- The texts of a subtree are that of its top and those of its children. -/
theorem texts_eq (x : Located) : x.texts = x.node.literal?.toList ++ x.children.flatMap texts := by
  rw [texts, subtree_eq, List.filterMap_cons, List.filterMap_flatMap]
  cases x.node.literal? <;> rfl

/-- A node in another role has no text but that of the nodes below. -/
theorem texts_of_role_ne_text (h : x.node.role ≠ .text) : x.texts = x.children.flatMap texts := by
  rw [texts_eq, Node.literal?, if_neg (fun hname => h (Node.role_eq_text_iff.2 hname))]
  rfl

end Located

/-- The texts below the root are those of its children. -/
theorem Node.texts_eq (root : Node) : root.texts = (⟨[], root⟩ : Located).children.flatMap Located.texts := by
  rw [texts, descendants_eq, List.filterMap_flatMap]
  rfl

namespace Formatter

variable {f : Formatter}

/-- A formatter that loses no text: each node below the root has a role that keeps it, no figure is set elsewhere,
and no marker stands in a string that is written. -/
structure KeepsText (f : Formatter) : Prop where
  role : ∀ y ∈ f.root.descendants, y.node.role.keepsText = true
  unclaimed : ∀ y ∈ f.root.descendants, f.places.isClaimed y = false
  unmarked : ∀ y ∈ f.root.visit, y.node.Unmarked
  vspace : ∀ name command, f.vspace.get? name = some command → Tex.Unmarked command.toList

/-! ## Rules -/

section Rules

variable {render : Renderer} {depth : Nat} {x : Located} {s : List Char} {values : List String}

/-- Children carry their texts in turn. -/
theorem carries_renderChildren (h : ∀ c ∈ x.children, Carries (render depth c) c.texts) :
    Carries (renderChildren render depth x) (x.children.flatMap Located.texts) :=
  Carries.flatMap h

/-- A spacing command leaves what is carried. -/
theorem carries_spaced (hf : f.KeepsText) (node : Node) (h : Carries s values) : Carries (f.spaced node s) values := by
  rw [spaced]
  split
  · rename_i command hcommand
    split
    · exact h
    · exact .line (hf.vspace _ _ hcommand) h
  · exact h

/-- A label at the end of a text has no marker. -/
theorem exists_withLabel {node : Node} (hnode : node.Unmarked) (kind : ReferenceKind) :
    ∃ label, Tex.Unmarked label ∧ ∀ s, withLabel node kind s = s ++ label := by
  simp only [withLabel, label?]
  cases hid : node.id with
  | none => exact ⟨[], Tex.unmarked_nil, fun s => (List.append_nil s).symm⟩
  | some id => exact ⟨_, Tex.unmarked_cons.2 ⟨by decide, Tex.unmarked_label kind (hnode.id hid)⟩, fun s => rfl⟩

/-- A label behind a text leaves what is carried. -/
theorem carries_withLabel {node : Node} (hnode : node.Unmarked) (kind : ReferenceKind) (h : Carries s values) :
    Carries (withLabel node kind s) values := by
  obtain ⟨label, hlabel, htext⟩ := exists_withLabel hnode kind
  rw [htext]
  exact h.before hlabel

/-- The placement of a float has no markers, also when it is the usual one. -/
theorem unmarked_placement {node : Node} (hnode : node.Unmarked) :
    ∀ text ∈ some ((node.property "placement").getD "htbp"), Tex.Unmarked text.toList := by
  intro text htext
  rw [Option.mem_some_iff] at htext
  subst htext
  cases hgiven : node.property "placement" with
  | none => decide
  | some given => exact hnode.property hgiven

/-- A text node carries its own text and those below it. -/
theorem carries_renderText (hx : x.node.role = .text) (hnode : x.node.Unmarked)
    (h : ∀ c ∈ x.children, Carries (render depth c) c.texts) : Carries (renderText render depth x) x.texts := by
  rw [Located.texts_eq, Node.literal?, if_pos (Node.role_eq_text_iff.1 hx), renderText]
  cases hvalue : x.node.value with
  | none => exact carries_renderChildren h
  | some value =>
    rw [Located.children_of_isLeaf (by rw [Node.isLeaf, hvalue]; rfl)]
    exact Carries.escape (hnode.value hvalue)

/-- A literal text is carried when it is written. -/
theorem carries_value {node : Node} (hnode : node.Unmarked) :
    Carries (Tex.escape (node.value.getD "").toList) node.literal?.toList := by
  rw [Node.literal?]
  cases hvalue : node.value with
  | none =>
    rw [ite_self]
    exact .plain Tex.unmarked_nil
  | some value =>
    have hunmarked := hnode.value hvalue
    split
    · exact .escape hunmarked
    · exact .plain (Tex.unmarked_escape hunmarked)

/-- The literal texts below a place, one after another and escaped, carry those of the text nodes among them. -/
theorem carries_textContent (h : ∀ y ∈ x.subtree, y.node.Unmarked) :
    Carries (Tex.escape x.node.textContent) x.texts := by
  rw [Node.textContent, Node.walk_eq_map_subtree, List.flatMap_map, Tex.escape, List.flatMap_assoc, Located.texts,
    List.filterMap_eq_flatMap_toList]
  exact Carries.flatMap (fun y hy => carries_value (h y hy))

/-- A link carries the texts of its children. -/
theorem carries_renderLink (hx : x.node.Unmarked) (h : ∀ c ∈ x.children, Carries (render depth c) c.texts) :
    Carries (renderLink render depth x) (x.children.flatMap Located.texts) := by
  have htext := carries_renderChildren h
  rw [renderLink]
  cases hhref : x.node.property "href" with
  | none => exact htext
  | some href =>
    have hurl : Tex.Unmarked (Tex.escapeUrl href.toList) := Tex.unmarked_escapeUrl (hx.property hhref)
    have hcommand : ∀ name ∈ Tex.commandNames, Tex.Unmarked (Tex.command name (Tex.escapeUrl href.toList)) :=
      fun name hname => ((Carries.plain hurl).command hname).unmarked
    simp only
    split
    · -- Nothing of a blank text is to be seen, so the target may stand in its place.
      rename_i hblank
      exact htext.of_allBlank hblank (hcommand _ (by decide))
    · exact .after (hcommand _ (by decide)) (.after (s := ['{']) (by decide) (htext.before (by decide)))

/-- A figure carries the texts of its children. -/
theorem carries_renderFigure (hx : x.node.Unmarked) (h : ∀ c ∈ x.children, Carries (render depth c) c.texts) :
    Carries (renderFigure render depth x) (x.children.flatMap Located.texts) := by
  have hbody := Carries.after (s := "\\centering\n".toList) (by decide) (carries_renderChildren h).trim
  refine (carries_withLabel hx .figure hbody).environment ?_ (unmarked_placement hx)
  split <;> decide

/-- A list carries the texts of its items. -/
theorem carries_renderList (h : ∀ c ∈ x.children, Carries (render depth c) c.texts) :
    Carries (renderList render depth x) (x.children.flatMap Located.texts) := by
  rw [renderList]
  refine (carries_renderChildren h).trimEnd.environment ?_ (by simp)
  split <;> decide

/-- Behind the command of a heading stands its label, and no marker. -/
theorem exists_renderHeading (render : Renderer) (level : Nat) {sectionId : Option String} (hx : x.node.Unmarked)
    (hsection : ∀ id ∈ sectionId, Tex.Unmarked id.toList) :
    ∃ name ∈ Tex.commandNames, ∃ tail, Tex.Unmarked tail ∧
      renderHeading render level sectionId x = Tex.command name (Text.trim (renderChildren render 0 x)) ++ tail := by
  have hlabel : ∀ label ∈ (label? x.node .sectioning).or (sectionId.map (Tex.label .sectioning)),
      Tex.Unmarked label := by
    intro label hlabel
    rcases Option.or_eq_some_iff.1 hlabel with hown | ⟨-, hown⟩
    · obtain ⟨id, hid, rfl⟩ := Option.map_eq_some_iff.1 hown
      exact Tex.unmarked_label _ (hx.id hid)
    · obtain ⟨id, hid, rfl⟩ := Option.map_eq_some_iff.1 hown
      exact Tex.unmarked_label _ (hsection id hid)
  refine ⟨_, Markup.sectionCommand_mem level (if x.node.hasClass "unnumbered" then "*" else "") ?_, _, ?_, rfl⟩
  · split
    · exact Or.inr rfl
    · exact Or.inl rfl
  · refine Tex.unmarked_cons.2 ⟨by decide, Tex.unmarked_append.2 ⟨?_, by decide⟩⟩
    split
    · rename_i label hsome
      exact Tex.unmarked_append.2 ⟨hlabel label hsome, by decide⟩
    · exact Tex.unmarked_nil

/-- A heading carries the texts of its children. -/
theorem carries_renderHeading (hx : x.node.Unmarked) {level : Nat} {sectionId : Option String}
    (hsection : ∀ id ∈ sectionId, Tex.Unmarked id.toList) (h : ∀ c ∈ x.children, Carries (render 0 c) c.texts) :
    Carries (renderHeading render level sectionId x) (x.children.flatMap Located.texts) := by
  obtain ⟨name, hname, tail, htail, htext⟩ := exists_renderHeading render level hx hsection
  rw [htext]
  exact ((carries_renderChildren h).trim.command hname).before htail

/-- A section carries the texts of its children. A heading among them is written by the section itself. -/
theorem carries_renderSection (hf : f.KeepsText) (hx : x ∈ f.root.visit)
    (h : ∀ y ∈ f.root.descendants, y.node.height < x.node.height → ∀ d, Carries (render d y) y.texts) :
    Carries (f.renderSection render depth x) (x.children.flatMap Located.texts) := by
  refine Carries.flatMap (fun c hc => ?_)
  have hcmem := Node.mem_descendants_of_mem_children hx hc
  have hcvisit := Node.mem_visit_of_mem_descendants hcmem
  have hheight := Node.height_lt_of_mem_children hc
  rw [renderSectionChild]
  split
  · rename_i hname
    have hrole : c.node.role = .heading := by rw [Node.role, beq_iff_eq.1 hname]; rfl
    rw [Located.texts_of_role_ne_text (by rw [hrole]; decide)]
    have hheading : Carries (renderHeading render ((headingLevel? c.node).getD (depth + 1)) x.node.id c)
        (c.children.flatMap Located.texts) := by
      refine carries_renderHeading (hf.unmarked c hcvisit) (fun id hid => (hf.unmarked x hx).id hid) (fun d hd => ?_)
      have hlt := Node.height_lt_of_mem_children hd
      exact h d (Node.mem_descendants_of_mem_children hcvisit hd) (by omega) 0
    simp only
    split
    · rename_i command hcommand
      exact .line (hf.vspace _ _ hcommand) hheading
    · exact hheading
  · exact h c hcmem hheight (depth + 1)

/-- What a node becomes carries the texts from there on down, by its role. -/
theorem carries_renderNode (hf : f.KeepsText) (hx : x ∈ f.root.descendants)
    (h : ∀ y ∈ f.root.descendants, y.node.height < x.node.height → ∀ d, Carries (render d y) y.texts) :
    Carries (f.renderNode render depth x) x.texts := by
  have hvisit := Node.mem_visit_of_mem_descendants hx
  have hunmarked := hf.unmarked x hvisit
  have hbelow : ∀ d, ∀ c ∈ x.children, Carries (render d c) c.texts :=
    fun d c hc => h c (Node.mem_descendants_of_mem_children hvisit hc) (Node.height_lt_of_mem_children hc) d
  have hchildren := carries_renderChildren (hbelow depth)
  have hkeeps := hf.role x hx
  -- Text nodes come first: the others have no text but that of the nodes below.
  by_cases htext : x.node.role = .text
  · simp only [renderNode, htext]
    exact (carries_renderText htext hunmarked (hbelow depth)).styled _
  have hcontent := carries_textContent (fun y hy => hf.unmarked y (Located.mem_visit_of_mem_subtree hvisit hy))
  rw [Located.texts_of_role_ne_text htext] at hcontent ⊢
  cases hrole : x.node.role with
  | text => exact absurd hrole htext
  | raw | reference | citation | image | table | math | equation | listing | lineBreak =>
    rw [hrole] at hkeeps
    cases hkeeps
  | sectioning =>
    simp only [renderNode, hrole]
    exact carries_renderSection hf hvisit h
  | heading =>
    simp only [renderNode, hrole]
    exact carries_renderHeading hunmarked (by simp) (hbelow 0)
  | paragraph =>
    simp only [renderNode, hrole]
    exact hchildren.trim.block
  | span =>
    simp only [renderNode, hrole]
    exact hchildren.styled _
  | emphasis | strong =>
    simp only [renderNode, hrole]
    exact (hchildren.command (by decide)).styled _
  | code =>
    simp only [renderNode, hrole]
    exact (hcontent.command (by decide)).styled _
  | link =>
    simp only [renderNode, hrole]
    exact (carries_renderLink hunmarked (hbelow depth)).styled _
  | figure =>
    simp only [renderNode, hrole, hf.unclaimed x hx, Bool.false_eq_true, if_false]
    exact carries_renderFigure hunmarked (hbelow depth)
  | caption =>
    simp only [renderNode, hrole]
    exact (hchildren.trim.command (by decide)).before (by decide)
  | list =>
    simp only [renderNode, hrole]
    exact carries_renderList (hbelow depth)
  | item =>
    simp only [renderNode, hrole]
    exact .after (by decide) (hchildren.trim.before (by decide))
  | quote =>
    simp only [renderNode, hrole]
    exact hchildren.trim.environment (by decide) (by simp)
  | container =>
    simp only [renderNode, hrole]
    exact hchildren

end Rules

/-! ## Rendering -/

/-- With depth enough, what is written for a place carries the texts from there on down. The induction is on the
depth. -/
theorem KeepsText.carries_render (hf : f.KeepsText) (n : Nat) :
    ∀ x ∈ f.root.descendants, x.node.height < n → ∀ depth, Carries (f.render n depth x) x.texts := by
  induction n with
  | zero => exact fun x _ hheight => absurd hheight (Nat.not_lt_zero _)
  | succ n ih =>
    intro x hx hheight depth
    rw [render]
    exact carries_spaced hf _ (carries_renderNode hf hx (fun y hy hlt => ih y hy (by omega)))

/-- The main text, before it is tidied, carries the texts below the root when no child of the root goes to a block. -/
theorem KeepsText.carries_mainChildren (hf : f.KeepsText)
    (hmain : ∀ y ∈ f.rootPlace.children, y.node.isExtracted = false) :
    Carries (f.mainChildren.flatMap (f.render f.fuel 0)) f.root.texts := by
  rw [mainChildren_eq hmain, Node.texts_eq]
  refine Carries.flatMap (fun c hc => ?_)
  have hlt : c.node.height + 1 ≤ f.root.height := Node.height_lt_of_mem_children hc
  have hfuel : f.root.height + 1 ≤ f.fuel := Nat.le_mul_of_pos_left _ (Nat.succ_pos _)
  exact hf.carries_render f.fuel c (Node.mem_descendants_of_mem_children f.rootPlace_mem_visit hc) (by omega) 0

/-- Below the root of such a tree there is no directive, so no figure is set elsewhere. -/
theorem keepsText_ofDocument {root : Node} {options : Options} (citations : Option Citations)
    (hroles : ∀ y ∈ root.descendants, y.node.role.keepsText = true) (hunmarked : ∀ y ∈ root.visit, y.node.Unmarked)
    (hvspace : ∀ e ∈ options.vspace.entries, Tex.Unmarked e.2.toList) :
    (ofDocument root options citations).KeepsText where
  role := hroles
  unclaimed _ hy := Places.isClaimed_eq_false (fun _ hd => Node.directive?_eq_none_of_keepsText hroles hy hd) _
  unmarked := hunmarked
  vspace _ _ hcommand := hvspace _ (Dictionary.mem_of_find? hcommand)

end Formatter

/-- No text is lost or put in another order: in the main text without its blanks stand the escaped texts of the text
nodes below the root, without their blanks, one after another in document order. The root may be of any kind, for it
is not set itself. -/
theorem text_kept (root : Node) (options : Options) (citations : Option Citations)
    (hroles : ∀ y ∈ root.descendants, y.node.role.keepsText = true) (hunmarked : ∀ y ∈ root.visit, y.node.Unmarked)
    (hvspace : ∀ e ∈ options.vspace.entries, Tex.Unmarked e.2.toList)
    (hmain : ∀ node ∈ root.children, node.isExtracted = false) :
    InOrder (root.texts.map Text.piece) (Text.solid (Formatter.ofDocument root options citations).content) := by
  have hf := Formatter.keepsText_ofDocument citations hroles hunmarked hvspace
  have hcarries := hf.carries_mainChildren (fun y hy => hmain y.node (Located.node_mem_of_mem_children hy))
  rw [Formatter.content, Tex.solid_tidy hcarries.unmarked]
  exact hcarries.inOrder

/-- An article with a title, styled text, a link to a page and one without a text, a figure with a caption, a list
and some code. -/
def petArticle : Node where
  name := "article"
  content := .children
    [({ name := "section"
        content := .children
          [{ name := "heading", content := .children [.text " Cats & dogs "] },
            { name := "p"
              classes := ["bold"]
              content := .children
                [.text "100% of ", { name := "em", classes := ["underline"], content := .children [.text "them"] },
                  ({ name := "a", content := .children [.text "a_b"] } : Node).withProperty "href" "https://pets#cats",
                  ({ name := "link", content := .children [.text "  "] } : Node).withProperty
                    "href" "https://pets"] }] } : Node).withId "pets",
      { name := "figure"
        content := .children [{ name := "caption", content := .children [.text "A {cat}"] }] },
      { name := "ul"
        content := .children
          [{ name := "li", content := .children [.text "one\n\n\ntwo"] },
            { name := "aside"
              content := .children [{ name := "code", content := .children [.text "x^2", .text "~y"] }] }] }]

/-- All texts of the article stand in its output, in their order. -/
theorem petArticle_text_kept :
    InOrder
      ["Cats\\&dogs".toList, "100\\%of".toList, "them".toList, "a\\_b".toList, [], "A\\\x7bcat\\\x7d".toList,
        "onetwo".toList, "x\\textasciicircum\x7b\x7d2".toList, "\\textasciitilde\x7b\x7dy".toList]
      (Text.solid (Formatter.ofDocument petArticle { vspace := Dictionary.insert ∅ "p" "\\medskip" }
        none).content) := by
  have h := text_kept petArticle { vspace := Dictionary.insert ∅ "p" "\\medskip" } none (by decide +kernel)
    (by decide +kernel) (by decide +kernel) (by decide +kernel)
  have htexts : petArticle.texts.map Text.piece =
      ["Cats\\&dogs".toList, "100\\%of".toList, "them".toList, "a\\_b".toList, [], "A\\\x7bcat\\\x7d".toList,
        "onetwo".toList, "x\\textasciicircum\x7b\x7d2".toList, "\\textasciitilde\x7b\x7dy".toList] := by
    decide +kernel
  rwa [htexts] at h

end Manuscript
