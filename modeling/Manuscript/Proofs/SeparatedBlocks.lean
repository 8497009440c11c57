import Manuscript.Proofs.LiteralText
import Manuscript.Proofs.MarkedParts
import Manuscript.Proofs.TextKept

/-!
# One blank line between blocks

A formatter that has the markers for itself, because none stands in a string that it writes, spans the marked parts
of whatever it renders, to any depth (`spanned_render`). A paragraph, quote, list, figure, table, equation, listing
or heading is a block or nothing (`render_cases`). So a main text of such nodes is each of them by itself, where
something is left of it, with one blank line between two (`blocks_separated`).
-/

namespace Manuscript

/-- The roles of nodes that are set as blocks. -/
def Role.isBlock : Role → Bool
  | .heading | .paragraph | .figure | .table | .equation | .list | .quote | .listing => true
  | _ => false

/-- The literal texts of a subtree have no markers together when none of them has. -/
theorem Located.unmarked_textContent {x : Located} (h : ∀ y ∈ x.subtree, y.node.Unmarked) :
    Tex.Unmarked x.node.textContent := by
  rw [Node.textContent, Node.walk_eq_map_subtree, List.flatMap_map]
  intro c hc
  obtain ⟨y, hy, hc⟩ := List.mem_flatMap.1 hc
  cases hvalue : y.node.value with
  | none =>
    rw [hvalue] at hc
    cases hc
  | some text =>
    rw [hvalue] at hc
    exact (h y hy).value hvalue c hc

namespace Formatter

variable {f : Formatter}

/-- A formatter that has the markers for itself: none stands in a string that it writes, and no raw LaTeX is empty. -/
structure OwnsMarkers (f : Formatter) : Prop where
  unmarked : ∀ x ∈ f.root.visit, x.node.Unmarked
  raw : ∀ x ∈ f.root.visit, x.node.isRawTex = true → x.node.value.getD "" ≠ ""
  vspace : ∀ name command, f.vspace.get? name = some command → Tex.Unmarked command.toList
  prefixes : ∀ kind, Tex.Unmarked (f.prefixOf kind).toList
  placed : ∀ id figure, f.places.get? id = some figure → figure ∈ f.root.visit

/-! ## Rules -/

section Rules

variable {render : Renderer} {depth : Nat} {x : Located} {s : List Char}

/-- Children span their marked parts one after another. -/
theorem spanned_renderChildren (h : ∀ c ∈ x.children, Tex.Spanned (render depth c)) :
    Tex.Spanned (renderChildren render depth x) :=
  .flatMap h

/-- A spacing command in front of a text marks nothing. -/
theorem spanned_spaced (hf : f.OwnsMarkers) (node : Node) (h : Tex.Spanned s) : Tex.Spanned (f.spaced node s) := by
  rw [spaced]
  split
  · rename_i command hcommand
    split
    · exact h
    · exact .line (hf.vspace _ _ hcommand) h
  · exact h

/-- A label behind a text marks nothing. -/
theorem spanned_withLabel {node : Node} (hnode : node.Unmarked) (kind : ReferenceKind) (h : Tex.Spanned s) :
    Tex.Spanned (withLabel node kind s) := by
  obtain ⟨label, hlabel, htext⟩ := exists_withLabel hnode kind
  rw [htext]
  exact h.before hlabel

/-- A command around a text without markers has none. -/
theorem unmarked_command {name : String} (hname : name ∈ Tex.commandNames) (h : Tex.Unmarked s) :
    Tex.Unmarked (Tex.command name s) :=
  ((Carries.plain h).command hname).unmarked

/-- Text spans its marked parts. -/
theorem spanned_renderText (hx : x.node.Unmarked) (h : ∀ c ∈ x.children, Tex.Spanned (render depth c)) :
    Tex.Spanned (renderText render depth x) := by
  rw [renderText]
  cases hvalue : x.node.value with
  | none => exact spanned_renderChildren h
  | some value => exact Tex.spanned_of_unmarked (Tex.unmarked_escape (hx.value hvalue))

/-- A figure spans the marked parts of its children. -/
theorem spanned_renderFigure (hx : x.node.Unmarked) (h : ∀ c ∈ x.children, Tex.Spanned (render depth c)) :
    Tex.Spanned (renderFigure render depth x) := by
  have hbody := Tex.Spanned.after (s := "\\centering\n".toList) (by decide) (spanned_renderChildren h).trim
  refine (spanned_withLabel hx .figure hbody).environment ?_ (unmarked_placement hx)
  split <;> decide

/-- Raw LaTeX is a marked part with something in it, and a directive is the figure that it asks for. -/
theorem spanned_renderRaw (hf : f.OwnsMarkers) (hx : x ∈ f.root.visit)
    (h : ∀ y ∈ f.root.visit, ∀ d, Tex.Spanned (render d y)) : Tex.Spanned (f.renderRaw render x) := by
  rw [renderRaw]
  split
  · rename_i hraw
    simp only
    split
    · split
      · rename_i figure hfigure
        have hmem := hf.placed _ _ hfigure
        exact spanned_renderFigure (hf.unmarked figure hmem) (fun c hc => h c (Node.child_mem_visit hmem hc) 0)
      · exact Tex.spanned_nil
    · have hne := hf.raw x hx hraw
      refine (Tex.spanned_verbatim ?_ (fun hnil => hne (String.toList_eq_nil_iff.1 hnil))).before (by decide)
      cases hvalue : x.node.value with
      | none => exact Tex.unmarked_nil
      | some value => exact (hf.unmarked x hx).value hvalue
  · exact Tex.spanned_nil

/-- A heading spans the marked parts of its children. -/
theorem spanned_renderHeading (hx : x.node.Unmarked) {level : Nat} {sectionId : Option String}
    (hsection : ∀ id ∈ sectionId, Tex.Unmarked id.toList) (h : ∀ c ∈ x.children, Tex.Spanned (render 0 c)) :
    Tex.Spanned (renderHeading render level sectionId x) := by
  obtain ⟨name, hname, tail, htail, htext⟩ := exists_renderHeading render level hx hsection
  rw [htext]
  exact ((spanned_renderChildren h).trim.command hname).before htail

/-- A section spans the marked parts of its children. -/
theorem spanned_renderSection (hf : f.OwnsMarkers) (hx : x ∈ f.root.visit)
    (h : ∀ y ∈ f.root.visit, ∀ d, Tex.Spanned (render d y)) : Tex.Spanned (f.renderSection render depth x) := by
  refine Tex.Spanned.flatMap (fun c hc => ?_)
  have hc := Node.child_mem_visit hx hc
  rw [renderSectionChild]
  split
  · have hheading : Tex.Spanned (renderHeading render ((headingLevel? c.node).getD (depth + 1)) x.node.id c) :=
      spanned_renderHeading (hf.unmarked c hc) (fun id hid => (hf.unmarked x hx).id hid)
        (fun d hd => h d (Node.child_mem_visit hc hd) 0)
    simp only
    split
    · rename_i command hcommand
      exact .line (hf.vspace _ _ hcommand) hheading
    · exact hheading
  · exact h c hc (depth + 1)

/-- A link spans the marked parts of its children. -/
theorem spanned_renderLink (hx : x.node.Unmarked) (h : ∀ c ∈ x.children, Tex.Spanned (render depth c)) :
    Tex.Spanned (renderLink render depth x) := by
  have htext := spanned_renderChildren h
  rw [renderLink]
  cases hhref : x.node.property "href" with
  | none => exact htext
  | some href =>
    have hurl : Tex.Unmarked (Tex.escapeUrl href.toList) := Tex.unmarked_escapeUrl (hx.property hhref)
    simp only
    split
    · exact Tex.spanned_of_unmarked (unmarked_command (by decide) hurl)
    · exact .after (unmarked_command (by decide) hurl) (.after (s := ['{']) (by decide) (htext.before (by decide)))

/-- A reference has no markers. -/
theorem unmarked_renderReference (hf : f.OwnsMarkers) {node : Node} (hnode : node.Unmarked) :
    Tex.Unmarked (f.renderReference node) := by
  rw [renderReference]
  split
  · exact Tex.unmarked_nil
  · rename_i target htarget
    have hplain : Tex.Unmarked target.toList := hnode.property (Option.filter_eq_some_iff.1 htarget).1
    split
    · rename_i kind hkind
      have hname : Tex.Unmarked (Tex.labelName kind target) := by
        rw [Tex.labelName, Tex.unmarked_append, Tex.unmarked_cons]
        exact ⟨by cases kind <;> decide, by decide, hplain⟩
      exact Tex.unmarked_append.2
        ⟨hf.prefixes kind, Tex.unmarked_cons.2 ⟨by decide, unmarked_command (by decide) hname⟩⟩
    · exact unmarked_command (by decide) hplain

/-- A citation leaves no marked part open. -/
theorem spanned_renderCitation {node : Node} (hnode : node.Unmarked) : Tex.Spanned (renderCitation node) := by
  have hsource : Tex.Unmarked (((node.property "keys").or (node.property "target")).getD "").toList := by
    cases hgiven : (node.property "keys").or (node.property "target") with
    | none => exact Tex.unmarked_nil
    | some source =>
      rcases Option.or_eq_some_iff.1 hgiven with h | ⟨-, h⟩
      · exact hnode.property h
      · exact hnode.property h
  rw [renderCitation]
  split
  · exact Tex.spanned_nil
  · refine (Tex.Spanned.joinWith (by decide)
      (fun key hkey => Tex.spanned_of_unmarked (fun c hc => hsource c ?_))).command (by decide)
    exact Text.mem_of_mem_splitWhere (List.mem_filter.1 hkey).1 c hc

/-- An image has no markers. -/
theorem unmarked_renderImage {node : Node} (hnode : node.Unmarked) : Tex.Unmarked (renderImage node) := by
  rw [renderImage]
  split
  · exact Tex.unmarked_nil
  · rename_i source hsource
    have hwidth : Tex.Unmarked ((node.property "width").getD "\\linewidth").toList := by
      cases hgiven : node.property "width" with
      | none => decide
      | some width => exact hnode.property hgiven
    have hsource : Tex.Unmarked source.toList := by
      rcases Option.or_eq_some_iff.1 hsource with h | ⟨-, h⟩
      · exact hnode.property h
      · exact hnode.property h
    simp only [Tex.unmarked_append]
    exact ⟨by decide, ⟨hwidth, by decide⟩, hsource, by decide⟩

/-- A row spans the marked parts of its cells. -/
theorem spanned_renderRow (h : ∀ c ∈ x.children, ∀ d ∈ c.children, Tex.Spanned (render depth d)) :
    Tex.Spanned (renderRow render depth x) := by
  have hcells : ∀ cell ∈ x.children.map (fun cell => Text.trim (renderChildren render depth cell)),
      Tex.Spanned cell := by
    intro cell hcell
    obtain ⟨c, hc, rfl⟩ := List.mem_map.1 hcell
    exact (spanned_renderChildren (h c hc)).trim
  refine (Tex.Spanned.joinWith (by decide) hcells).before (Tex.unmarked_append.2 ⟨by decide, ?_⟩)
  split <;> decide

/-- Rows span the marked parts of their cells. -/
theorem spanned_renderTabular {rows : List Located}
    (h : ∀ row ∈ rows, ∀ c ∈ row.children, ∀ d ∈ c.children, Tex.Spanned (render depth d)) :
    Tex.Spanned (renderTabular render depth rows) := by
  have hrows := Tex.Spanned.flatMap (fun row hrow => spanned_renderRow (h row hrow))
  have hcolumns : ∀ n, Tex.Unmarked (List.replicate n 'l') := fun n c hc => by
    rw [List.eq_of_mem_replicate hc]
    decide
  exact .after (by decide) (.after (hcolumns _) (.after (by decide) (hrows.before (by decide))))

/-- A table spans the marked parts of what is no row and of its cells. -/
theorem spanned_renderTable (hf : f.OwnsMarkers) (hx : x ∈ f.root.visit)
    (h : ∀ y ∈ f.root.visit, ∀ d, Tex.Spanned (render d y)) : Tex.Spanned (renderTable render depth x) := by
  have hchild : ∀ p, ∀ c ∈ x.children.filter p, c ∈ f.root.visit :=
    fun p c hc => Node.child_mem_visit hx (List.mem_of_mem_filter hc)
  have hothers := Tex.Spanned.flatMap (fun c hc => h c (hchild (fun child => !child.node.isRow) c hc) depth)
  have hrows : Tex.Spanned (if (x.children.filter (fun child => child.node.isRow)).isEmpty then []
      else renderTabular render depth (x.children.filter (fun child => child.node.isRow))) := by
    split
    · exact Tex.spanned_nil
    · refine spanned_renderTabular (fun row hrow c hc d hd => h d ?_ depth)
      exact Node.child_mem_visit (Node.child_mem_visit (hchild _ row hrow) hc) hd
  have hbody := (Tex.Spanned.after (s := "\\centering\n".toList) (by decide) (hothers.append hrows)).trimEnd
  exact (spanned_withLabel (hf.unmarked x hx) .table hbody).environment (by decide)
    (unmarked_placement (hf.unmarked x hx))

/-- An equation spans its marked parts. -/
theorem spanned_renderEquation (hx : x.node.Unmarked) (hcontent : Tex.Unmarked x.node.textContent) :
    Tex.Spanned (renderEquation x.node) := by
  have hbody : Tex.Spanned (Text.trim x.node.textContent) := (Tex.spanned_of_unmarked hcontent).trim
  rw [renderEquation, label?]
  cases hid : x.node.id with
  | none => exact hbody.environment (by decide) (by simp)
  | some id =>
    refine Tex.Spanned.environment (by decide) (by simp) (hbody.before ?_)
    exact Tex.unmarked_cons.2 ⟨by decide, Tex.unmarked_label .equation (hx.id hid)⟩

/-- A list spans the marked parts of its items. -/
theorem spanned_renderList (h : ∀ c ∈ x.children, Tex.Spanned (render depth c)) :
    Tex.Spanned (renderList render depth x) := by
  rw [renderList]
  refine (spanned_renderChildren h).trimEnd.environment ?_ (by simp)
  split <;> decide

/-- A listing spans its marked parts. -/
theorem spanned_renderListing (hcontent : Tex.Unmarked x.node.textContent) : Tex.Spanned (renderListing x.node) := by
  refine Tex.spanned_listing (fun c hc => hcontent c ?_)
  exact List.mem_reverse.1 ((List.dropWhile_suffix _).subset (List.mem_reverse.1 hc))

/-- What a node becomes spans its marked parts, by its role. -/
theorem spanned_renderNode (hf : f.OwnsMarkers) (hx : x ∈ f.root.visit)
    (h : ∀ y ∈ f.root.visit, ∀ d, Tex.Spanned (render d y)) : Tex.Spanned (f.renderNode render depth x) := by
  have hunmarked := hf.unmarked x hx
  have hbelow : ∀ d, ∀ c ∈ x.children, Tex.Spanned (render d c) := fun d c hc => h c (Node.child_mem_visit hx hc) d
  have hchildren := spanned_renderChildren (hbelow depth)
  have hcontent := Located.unmarked_textContent (fun y hy => hf.unmarked y (Located.mem_visit_of_mem_subtree hx hy))
  rw [renderNode]
  cases x.node.role with
  | text => exact (spanned_renderText hunmarked (hbelow depth)).styled _
  | raw => exact spanned_renderRaw hf hx h
  | sectioning => exact spanned_renderSection hf hx h
  | heading => exact spanned_renderHeading hunmarked (by simp) (hbelow 0)
  | paragraph => exact hchildren.trim.block
  | span => exact hchildren.styled _
  | emphasis | strong => exact (hchildren.command (by decide)).styled _
  | code => exact (Tex.spanned_of_unmarked (unmarked_command (by decide) (Tex.unmarked_escape hcontent))).styled _
  | link => exact (spanned_renderLink hunmarked (hbelow depth)).styled _
  | reference => exact (Tex.spanned_of_unmarked (unmarked_renderReference hf hunmarked)).styled _
  | citation => exact spanned_renderCitation hunmarked
  | figure =>
    simp only
    split
    · exact Tex.spanned_nil
    · exact spanned_renderFigure hunmarked (hbelow depth)
  | image => exact Tex.spanned_of_unmarked (unmarked_renderImage hunmarked)
  | caption => exact (hchildren.trim.command (by decide)).before (by decide)
  | table => exact spanned_renderTable hf hx h
  | math => exact .after (s := ['$']) (by decide) ((Tex.spanned_of_unmarked hcontent).trim.before (by decide))
  | equation => exact spanned_renderEquation hunmarked hcontent
  | list => exact spanned_renderList (hbelow depth)
  | item => exact .after (by decide) (hchildren.trim.before (by decide))
  | quote => exact hchildren.trim.environment (by decide) (by simp)
  | listing => exact spanned_renderListing hcontent
  | lineBreak => exact Tex.spanned_of_unmarked (s := "\\newline\n".toList) (by decide)
  | container => exact hchildren

/-! ## Blocks -/

/-- A heading is a block, whatever its text. -/
theorem isBlock_renderHeading (render : Renderer) (level : Nat) (sectionId : Option String) (x : Located) :
    Tex.IsBlock (renderHeading render level sectionId x) := by
  cases hlabel : (label? x.node .sectioning).or (sectionId.map (Tex.label .sectioning)) with
  | none =>
    refine ⟨_, by simp only [renderHeading, hlabel]; rfl, ⟨'\\', rfl, by decide⟩, fun c hc => ?_⟩
    rw [Tex.getLast?_command, Option.mem_some_iff] at hc
    rw [← hc]
    decide
  | some label =>
    obtain ⟨kind, id, rfl⟩ : ∃ kind id, label = Tex.label kind id := by
      rcases Option.or_eq_some_iff.1 hlabel with h | ⟨-, h⟩
      · obtain ⟨id, -, rfl⟩ := Option.map_eq_some_iff.1 h
        exact ⟨_, id, rfl⟩
      · obtain ⟨id, -, rfl⟩ := Option.map_eq_some_iff.1 h
        exact ⟨_, id, rfl⟩
    have hblock := Tex.isBlock_of_command (Tex.sectionCommand level ++ if x.node.hasClass "unnumbered" then "*" else "")
      "label"
      (Text.trim (renderChildren render 0 x)) (Tex.labelName kind id) ['\n']
    simpa [renderHeading, hlabel, Tex.label] using hblock

/-- What a node of such a role becomes is a block or nothing. -/
theorem renderNode_cases (hrole : x.node.role.isBlock = true) (render : Renderer) (depth : Nat) :
    f.renderNode render depth x = [] ∨ Tex.IsBlock (f.renderNode render depth x) := by
  rw [renderNode]
  cases hkind : x.node.role with
  | heading => exact Or.inr (isBlock_renderHeading ..)
  | paragraph => exact Tex.block_trim_cases _
  | figure =>
    simp only
    split
    · exact Or.inl rfl
    · exact Or.inr (Tex.isBlock_environment ..)
  | table | list | quote | listing => exact Or.inr (Tex.isBlock_environment ..)
  | equation =>
    refine Or.inr ?_
    simp only [renderEquation]
    split <;> exact Tex.isBlock_environment ..
  | _ =>
    rw [hkind] at hrole
    cases hrole

end Rules

/-! ## Rendering -/

/-- What a formatter writes for a place of the tree spans its marked parts. The induction is on the depth. -/
theorem OwnsMarkers.spanned_render (hf : f.OwnsMarkers) (n : Nat) :
    ∀ x ∈ f.root.visit, ∀ depth, Tex.Spanned (f.render n depth x) := by
  induction n with
  | zero => exact fun _ _ _ => Tex.spanned_nil
  | succ n ih =>
    intro x hx depth
    rw [render]
    exact spanned_spaced hf _ (spanned_renderNode hf hx ih)

/-- A node that is set as a block becomes a block or nothing. -/
theorem render_cases {x : Located} (hrole : x.node.role.isBlock = true) (hspace : f.vspace? x.node = none)
    (n depth : Nat) : f.render n depth x = [] ∨ Tex.IsBlock (f.render n depth x) := by
  cases n with
  | zero => exact Or.inl rfl
  | succ n =>
    rw [render_succ hspace]
    exact renderNode_cases hrole _ _

/-- The main text of blocks, each tidied by itself. -/
theorem OwnsMarkers.content_eq (hf : f.OwnsMarkers)
    (hblocks : ∀ x ∈ f.mainChildren, x.node.role.isBlock = true ∧ f.vspace? x.node = none) :
    f.content = Text.joinWith "\n\n".toList ((f.mainChildren.map f.tex).filter (fun text => !text.isEmpty)) := by
  have htex : f.mainChildren.map f.tex = (f.mainChildren.map (f.render f.fuel 0)).map Tex.tidy := by
    rw [List.map_map]
    rfl
  rw [content, List.flatMap_def, htex]
  refine Tex.tidy_flatten (fun s hs => ?_) (fun s hs => ?_)
  · obtain ⟨x, hx, rfl⟩ := List.mem_map.1 hs
    exact render_cases (hblocks x hx).1 (hblocks x hx).2 _ _
  · obtain ⟨x, hx, rfl⟩ := List.mem_map.1 hs
    exact hf.spanned_render _ x (mem_visit_of_mem_mainChildren hx) 0

/-- A document and options without markers make a formatter that has them for itself. -/
theorem ownsMarkers_ofDocument {root : Node} {options : Options} (citations : Option Citations)
    (hunmarked : ∀ x ∈ root.visit, x.node.Unmarked)
    (hraw : ∀ x ∈ root.visit, x.node.isRawTex = true → x.node.value.getD "" ≠ "")
    (hvspace : ∀ e ∈ options.vspace.entries, Tex.Unmarked e.2.toList)
    (hprefixes : ∀ e ∈ options.prefixes.entries, Tex.Unmarked e.2.toList) :
    (ofDocument root options citations).OwnsMarkers where
  unmarked := hunmarked
  raw := hraw
  vspace _ _ hcommand := hvspace _ (Dictionary.mem_of_find? hcommand)
  prefixes := Options.prefixOf_of_forall (P := fun text => Tex.Unmarked text.toList) hprefixes
    (fun kind => by cases kind <;> decide)
  placed _ _ hfigure := (Places.of_get?_eq_some hfigure).1

end Formatter

/-- In a main text of paragraphs, quotes, lists, figures, tables, equations, listings and headings, whatever they
hold, there is exactly one blank line between two that come to something: the main text is what each child of the
root outside of the blocks comes to by itself, joined by two ends of line where it is not nothing. -/
theorem blocks_separated (root : Node) (options : Options) (citations : Option Citations)
    (hblocks : ∀ node ∈ root.children, node.isExtracted = false →
      node.role.isBlock = true ∧ options.vspace.get? node.name = none)
    (hunmarked : ∀ x ∈ root.visit, x.node.Unmarked)
    (hraw : ∀ x ∈ root.visit, x.node.isRawTex = true → x.node.value.getD "" ≠ "")
    (hvspace : ∀ e ∈ options.vspace.entries, Tex.Unmarked e.2.toList)
    (hprefixes : ∀ e ∈ options.prefixes.entries, Tex.Unmarked e.2.toList) :
    (Formatter.ofDocument root options citations).content =
      Text.joinWith "\n\n".toList
        (((Formatter.ofDocument root options citations).mainChildren.map
          (Formatter.ofDocument root options citations).tex).filter
          (fun text => !text.isEmpty)) := by
  refine (Formatter.ownsMarkers_ofDocument citations hunmarked hraw hvspace hprefixes).content_eq (fun x hx => ?_)
  obtain ⟨hchild, hmain⟩ := List.mem_filter.1 hx
  exact hblocks x.node (Located.node_mem_of_mem_children hchild) (by simpa using hmain)

/-- An article in which raw LaTeX stands at both ends of a paragraph, a paragraph is blank, a figure stands in a
list, and a listing is empty. -/
def blocksArticle : Node where
  name := "article"
  content := .children
    [({ name := "heading", content := .children [.text " Pets "] } : Node).withId "pets",
      { name := "abstract", content := .children [.text "Short."] },
      { name := "p", content := .children [.text " ", .raw "tex" "\n\n%", .text "1\n\n\n2", .raw "tex" "\n"] },
      { name := "p", content := .children [.text " \n"] },
      ({ name := "figure" } : Node).withId "cat",
      { name := "ul"
        content := .children
          [{ name := "item", content := .children [.raw "tex" "\\place\x7bcat\x7d", .raw "html" ""] }] },
      { name := "pre", content := .value "\n" }]

/-- The blank paragraph and the figure that stands in the list come to nothing, and no blank line is left for them. -/
theorem blocksArticle_separated :
    (Formatter.ofDocument blocksArticle { vspace := Dictionary.insert ∅ "item" "\\smallskip" } none).content =
      Text.joinWith "\n\n".toList
        ["\\section\x7bPets\x7d\n\\label\x7bsec:pets\x7d".toList,
          "\n\n%\n1\n\n2\n".toList,
          "\\begin\x7bitemize\x7d\n\\smallskip\n\\item \\begin\x7bfigure\x7d[htbp]\n\\centering\n\n".toList ++
            "\\label\x7bfig:cat\x7d\n\\end\x7bfigure\x7d\n\\end\x7bitemize\x7d".toList,
          "\\begin\x7bverbatim\x7d\n\n\\end\x7bverbatim\x7d".toList] := by
  have h := blocks_separated blocksArticle { vspace := Dictionary.insert ∅ "item" "\\smallskip" } none
    (by decide +kernel) (by decide +kernel) (by decide +kernel) (by decide +kernel) (by decide +kernel)
  exact h.trans (congrArg (Text.joinWith "\n\n".toList) (by decide +kernel))

end Manuscript
