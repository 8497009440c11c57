import Manuscript.Formatter.Content
import Manuscript.Proofs.Blank
import Manuscript.Proofs.Markup
import Manuscript.Proofs.Places

/-!
# Rendered nodes are markup

What a formatter writes for a node belongs to the grammar of markup, and the labels that it sets are those that
`labels` lists (`markup_render`). There is one lemma for each rule. It says what the rule makes of texts that are
markup already, so that the induction over the depth is all that is left to do for a tree.
-/

namespace Manuscript

/-! ## Roles and their names -/

/-- The names that stand for a role. A plain container may have any other name. -/
def Role.names : Role → List String
  | .text => ["text"]
  | .raw => ["raw"]
  | .sectioning => ["section"]
  | .heading => ["heading"]
  | .paragraph => ["p", "paragraph"]
  | .span => ["span"]
  | .emphasis => ["em"]
  | .strong => ["strong", "b"]
  | .code => ["code"]
  | .link => ["link", "a"]
  | .reference => ["ref"]
  | .citation => ["cite"]
  | .figure => ["figure"]
  | .image => ["image", "img"]
  | .caption => ["caption"]
  | .table => ["table"]
  | .math => ["math"]
  | .equation => ["equation"]
  | .list => ["list", "ul", "ol"]
  | .item => ["item", "li"]
  | .quote => ["quote", "blockquote"]
  | .listing => ["pre", "codeblock"]
  | .lineBreak => ["break", "br"]
  | .container => []

/-- A name has a role, other than that of a plain container, exactly when it is one of the names of the role. -/
theorem Role.ofName_eq_iff {name : String} {role : Role} (hrole : role ≠ .container) :
    Role.ofName name = role ↔ name ∈ role.names := by
  constructor
  · intro h
    unfold Role.ofName at h
    split at h <;> subst h <;> first | decide | exact absurd rfl hrole
  · have hall : ∀ name ∈ role.names, Role.ofName name = role := by
      cases role <;> decide
    exact hall name

/-- A node has a role of its own exactly when its name stands for it. -/
theorem Node.role_eq_iff {node : Node} {role : Role} (hrole : role ≠ .container) :
    node.role = role ↔ node.name ∈ role.names :=
  Role.ofName_eq_iff hrole

/-- A node in another role than raw nodes is no directive. -/
theorem Node.directive?_of_role {node : Node} (hrole : node.role ≠ .raw) : node.directive? = none := by
  rw [directive?, if_neg]
  intro hraw
  exact hrole (by rw [role, name_of_isRawTex hraw]; rfl)

/-- The word in front of references is one that the options hold, or the usual one. -/
theorem Options.prefixOf_of_forall {P : String → Prop} {options : Options} (h : ∀ e ∈ options.prefixes.entries, P e.2)
    (hdefault : ∀ kind : ReferenceKind, P kind.defaultPrefix) (kind : ReferenceKind) : P (options.prefixOf kind) := by
  rw [prefixOf]
  cases htext : options.prefixes.get? kind.name with
  | none => exact hdefault kind
  | some text => exact h _ (Dictionary.mem_of_find? htext)

/-- The texts of a node that are set without being escaped for LaTeX text. -/
def Node.inserted (node : Node) : List (List Char) :=
  match node.role with
  | .raw => if node.isRawTex && node.directive?.isNone then [(node.value.getD "").toList] else []
  | .link => (node.property "href").toList.map (fun href => Tex.escapeUrl href.toList)
  | .reference => (node.property "target").toList.map (·.toList)
  | .citation =>
    Text.words (fun c => c == ',' || Text.isBlank c)
      (((node.property "keys").or (node.property "target")).getD "").toList
  | .figure | .table => (node.property "placement").toList.map (·.toList)
  | .image =>
    (node.property "width").toList.map (·.toList) ++
      ((node.property "src").or (node.property "href")).toList.map (·.toList)
  | .math | .equation | .listing => [node.textContent]
  | _ => []

/-- The label that a node sets, when it has an id. -/
def Node.labels (node : Node) (kind : ReferenceKind) : List Label :=
  (node.id.map (fun id => (kind, id))).toList

namespace Formatter

/-! ## Labels -/

/-- A way to list the labels that nodes further down set. -/
abbrev Labeller := Located → List Label

/-- The labels of the children of a node. -/
def childLabels (labels : Labeller) (place : Located) : List Label :=
  place.children.flatMap labels

/-- The labels of a figure, wherever it is set. -/
def figureLabels (labels : Labeller) (place : Located) : List Label :=
  childLabels labels place ++ place.node.labels .figure

/-- The labels of a raw node: those of the placed figure for a directive. -/
def rawLabels (f : Formatter) (labels : Labeller) (place : Located) : List Label :=
  match place.node.directive?.bind f.places.get? with
  | some figure => figureLabels labels figure
  | none => []

/-- The labels of a heading: its own, or else that of the section it stands in. -/
def headingLabels (labels : Labeller) (sectionId : Option String) (place : Located) : List Label :=
  childLabels labels place ++ ((place.node.id.or sectionId).map (fun id => (.sectioning, id))).toList

/-- The labels of a section. -/
def sectionLabels (labels : Labeller) (place : Located) : List Label :=
  place.children.flatMap
    (fun child => if child.node.name == "heading" then headingLabels labels place.node.id child else labels child)

/-- The labels of a row of a table. -/
def rowLabels (labels : Labeller) (row : Located) : List Label :=
  row.children.flatMap (childLabels labels)

/-- The labels of a table: what is no row first, then the rows. -/
def tableLabels (labels : Labeller) (place : Located) : List Label :=
  (place.children.filter (fun child => !child.node.isRow)).flatMap labels ++
    (place.children.filter (fun child => child.node.isRow)).flatMap (rowLabels labels) ++ place.node.labels .table

/-- The labels that a node sets, given those of the nodes below it. -/
def nodeLabels (f : Formatter) (labels : Labeller) (place : Located) : List Label :=
  match place.node.role with
  | .text => if place.node.isLeaf then [] else childLabels labels place
  | .raw => f.rawLabels labels place
  | .sectioning => sectionLabels labels place
  | .heading => headingLabels labels none place
  | .figure => if f.places.isClaimed place then [] else figureLabels labels place
  | .table => tableLabels labels place
  | .equation => place.node.labels .equation
  | .code | .reference | .citation | .image | .math | .listing | .lineBreak => []
  | .paragraph | .span | .emphasis | .strong | .link | .caption | .list | .item | .quote | .container =>
    childLabels labels place

/-- The labels that a node sets when it is rendered no more than `fuel` nodes deep, in their order. -/
def labels (f : Formatter) : Nat → Labeller
  | 0 => fun _ => []
  | fuel + 1 => f.nodeLabels (f.labels fuel)

/-- What the grammar asks of a formatter: the texts it inserts are plain, the ids of the tree may be labels, and the
figures bound to ids stand in the tree. -/
structure Admits (f : Formatter) (Plain : List Char → Prop) (Named : String → Prop) : Prop where
  inserted : ∀ x ∈ f.root.visit, ∀ s ∈ x.node.inserted, Plain s
  named : ∀ x ∈ f.root.visit, ∀ id, x.node.id = some id → Named id
  vspace : ∀ name command, f.vspace.get? name = some command → Plain command.toList
  prefixes : ∀ kind, Plain (f.prefixOf kind).toList
  placed : ∀ id figure, f.places.get? id = some figure → figure ∈ f.root.visit ∧ figure.node.name = "figure"

variable {f : Formatter} {Plain : List Char → Prop} {Named : String → Prop}

/-- The formatter of a document is admitted when what the tree and the options hold is. -/
theorem admits_ofDocument {root : Node} {options : Options} (citations : Option Citations)
    (hinserted : ∀ x ∈ root.visit, ∀ s ∈ x.node.inserted, Plain s) (hids : ∀ x ∈ root.visit, ∀ id ∈ x.node.id, Named id)
    (hvspace : ∀ e ∈ options.vspace.entries, Plain e.2.toList)
    (hprefixes : ∀ e ∈ options.prefixes.entries, Plain e.2.toList)
    (hdefault : ∀ kind : ReferenceKind, Plain kind.defaultPrefix.toList) :
    (ofDocument root options citations).Admits Plain Named where
  inserted := hinserted
  named x hx id hid := hids x hx id hid
  vspace _ _ hcommand := hvspace _ (Dictionary.mem_of_find? hcommand)
  prefixes := Options.prefixOf_of_forall (P := fun text => Plain text.toList) hprefixes hdefault
  placed id figure hfigure := by
    have hbound : (Places.ofTree root).get? id = some figure := hfigure
    obtain ⟨hmem, hname, -⟩ := Places.of_get?_eq_some hbound
    exact ⟨hmem, hname⟩

/-! ## Rules -/

section Rules

variable {render : Renderer} {labels : Labeller} {depth : Nat} {x : Located}

/-- Rendering the children of a node gives markup. -/
theorem markup_renderChildren (h : ∀ c ∈ x.children, Markup Plain Named .sealed (render depth c) (labels c)) :
    Markup Plain Named .sealed (renderChildren render depth x) (childLabels labels x) :=
  Markup.flatMap h

/-- A spacing command in front of a node is markup, and the labels stay. -/
theorem markup_spaced (hf : f.Admits Plain Named) {s : List Char} {l : List Label}
    (h : Markup Plain Named .sealed s l) : Markup Plain Named .sealed (f.spaced x.node s) l := by
  rw [spaced]
  split
  · rename_i command hcommand
    split
    · exact h
    · exact Markup.line (.plain (hf.vspace _ _ hcommand)) h
  · exact h

/-- The label of a node stands behind its text. -/
theorem markup_withLabel {kind : ReferenceKind} {s : List Char} {l : List Label}
    (hid : ∀ id, x.node.id = some id → Named id) (h : Markup Plain Named .loose s l) :
    Markup Plain Named .loose (withLabel x.node kind s) (l ++ x.node.labels kind) := by
  rw [withLabel, label?, Node.labels]
  cases hx : x.node.id with
  | none => simpa using h
  | some id => exact Markup.line h (.loosen (.label kind (hid id hx)))

/-- A placement that is given is plain, and the usual one is a word. -/
theorem markup_placement (h : ∀ s ∈ (x.node.property "placement").toList.map (·.toList), Plain s) :
    Markup Plain Named .sealed (Tex.placementText (some ((x.node.property "placement").getD "htbp"))) [] := by
  refine Markup.placementText ?_
  cases hp : x.node.property "placement" with
  | none => exact .loosen (Markup.of_escape rfl)
  | some placement => exact .plain (h _ (by rw [hp]; exact List.mem_singleton.2 rfl))

/-- A figure is markup, with its label behind those of its children. -/
theorem markup_renderFigure (hrole : x.node.role = .figure) (hinserted : ∀ s ∈ x.node.inserted, Plain s)
    (hid : ∀ id, x.node.id = some id → Named id)
    (h : ∀ c ∈ x.children, Markup Plain Named .sealed (render depth c) (labels c)) :
    Markup Plain Named .sealed (renderFigure render depth x) (figureLabels labels x) := by
  rw [Node.inserted, hrole] at hinserted
  have hbody := Markup.after (Markup.phrase (p := "\\centering\n".toList) (by decide))
    (Markup.trim (.loosen (markup_renderChildren h)))
  refine Markup.environmentText ?_ (markup_placement hinserted) (markup_withLabel hid hbody)
  split <;> decide

/-- A heading is markup, with its label behind those of its children. -/
theorem markup_renderHeading {level : Nat} {sectionId : Option String} (hid : ∀ id, x.node.id = some id → Named id)
    (hsection : ∀ id, sectionId = some id → Named id)
    (h : ∀ c ∈ x.children, Markup Plain Named .sealed (render 0 c) (labels c)) :
    Markup Plain Named .sealed (renderHeading render level sectionId x) (headingLabels labels sectionId x) := by
  have htitle := Markup.trim (.loosen (markup_renderChildren h))
  have heq : (label? x.node .sectioning).or (sectionId.map (Tex.label .sectioning)) =
      (x.node.id.or sectionId).map (Tex.label .sectioning) := by
    rw [label?]
    cases x.node.id <;> rfl
  unfold renderHeading
  rw [headingLabels]
  dsimp only
  refine Markup.line (.loosen (.command (Markup.sectionCommand_mem _ _ ?_) htitle)) ?_
  · split
    · exact Or.inr rfl
    · exact Or.inl rfl
  · rw [heq]
    cases ho : x.node.id.or sectionId with
    | none => exact Markup.of_escape rfl
    | some id =>
      have hnamed : Named id := by
        rcases Option.or_eq_some_iff.1 ho with h' | ⟨-, h'⟩
        · exact hid id h'
        · exact hsection id h'
      exact .before (Markup.lineEnd (.loosen (.label .sectioning hnamed))) (Markup.of_escape rfl)

/-- A section is markup; its heading comes to know the id of the section. -/
theorem markup_renderSection (hf : f.Admits Plain Named) (hx : x ∈ f.root.visit)
    (h : ∀ y ∈ f.root.visit, ∀ d, Markup Plain Named .sealed (render d y) (labels y)) :
    Markup Plain Named .sealed (f.renderSection render depth x) (sectionLabels labels x) := by
  refine Markup.flatMap (fun c hc => ?_)
  have hc := Node.child_mem_visit hx hc
  rw [renderSectionChild]
  split
  · have hheading : Markup Plain Named .sealed
      (renderHeading render ((headingLevel? c.node).getD (depth + 1)) x.node.id c)
        (headingLabels labels x.node.id c) :=
      markup_renderHeading (hf.named c hc) (hf.named x hx) (fun d hd => h d (Node.child_mem_visit hc hd) 0)
    simp only
    split
    · rename_i command hcommand
      have hcommand : Markup Plain Named .loose command.toList [] := .plain (hf.vspace _ _ hcommand)
      exact hcommand.line hheading
    · exact hheading
  · exact h c hc _

/-- A raw node is markup: a placed figure, or text that goes in as it is. -/
theorem markup_renderRaw (hf : f.Admits Plain Named) (hx : x ∈ f.root.visit) (hrole : x.node.role = .raw)
    (h : ∀ y ∈ f.root.visit, ∀ d, Markup Plain Named .sealed (render d y) (labels y)) :
    Markup Plain Named .sealed (f.renderRaw render x) (f.rawLabels labels x) := by
  have hinserted := hf.inserted x hx
  rw [Node.inserted, hrole] at hinserted
  rw [renderRaw, rawLabels]
  by_cases hraw : x.node.isRawTex = true
  · rw [if_pos hraw]
    simp only [hraw, Bool.true_and, Node.directive?_of_isRawTex hraw] at hinserted ⊢
    cases hd : Directive.parse? (x.node.value.getD "") with
    | some id =>
      rw [Option.bind_some]
      simp only
      cases hg : f.places.get? id with
      | some figure =>
        obtain ⟨hfigure, hname⟩ := hf.placed id figure hg
        have hfigureRole : figure.node.role = .figure := by rw [Node.role, hname]; rfl
        exact markup_renderFigure hfigureRole (hf.inserted figure hfigure) (hf.named figure hfigure)
          (fun c hc => h c (Node.child_mem_visit hfigure hc) 0)
      | none => exact .nil
    | none =>
      rw [hd] at hinserted
      have hvalue := hinserted (x.node.value.getD "").toList (List.mem_singleton.2 rfl)
      rw [← List.append_nil (x.node.value.getD "").toList] at hvalue
      exact Markup.lineEnd (.verbatim hvalue rfl)
  · rw [if_neg hraw, Node.directive?, if_neg hraw]
    exact .nil

/-- A link is markup with the labels of its children. -/
theorem markup_renderLink
    (hinserted : ∀ s ∈ (x.node.property "href").toList.map (fun href => Tex.escapeUrl href.toList), Plain s)
    (h : ∀ c ∈ x.children, Markup Plain Named .sealed (render depth c) (labels c)) :
    Markup Plain Named .sealed (renderLink render depth x) (childLabels labels x) := by
  have htext := markup_renderChildren h
  rw [renderLink]
  cases hhref : x.node.property "href" with
  | none => exact htext
  | some href =>
    have hurl : Markup Plain Named .loose (Tex.escapeUrl href.toList) [] :=
      .plain (hinserted _ (by rw [hhref]; exact List.mem_singleton.2 rfl))
    simp only
    split
    · rename_i hblank
      exact .before (.drop hblank (.loosen htext)) (.command (by decide) hurl)
    · exact .after (.command (by decide) hurl) (.group (.loosen htext))

/-- A reference is markup without labels. -/
theorem markup_renderReference (hprefixes : ∀ kind, Plain (f.prefixOf kind).toList)
    (hinserted : ∀ s ∈ (x.node.property "target").toList.map (·.toList), Plain s) :
    Markup Plain Named .sealed (f.renderReference x.node) [] := by
  rw [renderReference]
  split
  · exact .nil
  · rename_i target htarget
    have hmem := (Option.filter_eq_some_iff.1 htarget).1
    have hplain : Markup Plain Named .loose target.toList [] :=
      .plain (hinserted _ (by rw [hmem]; exact List.mem_singleton.2 rfl))
    split
    · rename_i kind hkind
      have hword : Markup Plain Named .sealed ((f.prefixOf kind).toList ++ ['~']) [] :=
        .close (by decide) (.plain (hprefixes kind))
      have hcommand : Markup Plain Named .sealed (Tex.command "ref" (Tex.labelName kind target)) [] :=
        .command (by decide) (Markup.labelName kind hplain)
      have hall := Markup.after hword hcommand
      rwa [List.append_assoc] at hall
    · exact .command (by decide) hplain

/-- A citation is markup without labels. -/
theorem markup_renderCitation (hrole : x.node.role = .citation) (hinserted : ∀ s ∈ x.node.inserted, Plain s) :
    Markup Plain Named .sealed (renderCitation x.node) [] := by
  rw [Node.inserted, hrole] at hinserted
  unfold renderCitation
  extract_lets source keys
  split
  · exact .nil
  · have hplain : ∀ key ∈ keys, Markup Plain Named .loose key [] := fun key hkey => .plain (hinserted key hkey)
    have hkeys := Markup.joinWith (c := ',') (by decide) .nil hplain
    rw [List.map_id', List.flatMap_eq_nil_iff.2 (fun _ _ => rfl)] at hkeys
    exact .command (by decide) hkeys

/-- An image is markup without labels. -/
theorem markup_renderImage (hrole : x.node.role = .image) (hinserted : ∀ s ∈ x.node.inserted, Plain s) :
    Markup Plain Named .sealed (renderImage x.node) [] := by
  rw [Node.inserted, hrole] at hinserted
  rw [renderImage]
  split
  · exact .nil
  · rename_i source hsource
    have hopening : Markup Plain Named .sealed "\\includegraphics[width=".toList [] :=
      .after (s := "\\includegraphics[".toList) (.phrase (by decide)) (Markup.of_escape (s := "width=".toList) rfl)
    have hwidth : Markup Plain Named .sealed (((x.node.property "width").getD "\\linewidth").toList ++ [']']) [] := by
      cases hw : x.node.property "width" with
      | none => exact .phrase (by decide)
      | some width =>
        refine .close (by decide) (.plain (hinserted _ ?_))
        rw [hw]
        exact List.mem_append_left _ (List.mem_singleton.2 rfl)
    have hsource : Markup Plain Named .sealed ('{' :: (source.toList ++ ['}'])) [] := by
      refine .group (.plain (hinserted _ ?_))
      rw [hsource]
      exact List.mem_append_right _ (List.mem_singleton.2 rfl)
    have hall := Markup.after hopening (.after hwidth (.after hsource (Markup.of_escape (s := ['\n']) rfl)))
    have hmiddle : "]\x7b".toList = [']', '{'] := rfl
    have hend : "\x7d\n".toList = ['}', '\n'] := rfl
    rw [hmiddle, hend]
    simpa only [List.append_assoc, List.cons_append, List.nil_append] using hall

/-- A row is markup with the labels of its cells. -/
theorem markup_renderRow
    (h : ∀ c ∈ x.children, ∀ d ∈ c.children, Markup Plain Named .sealed (render depth d) (labels d)) :
    Markup Plain Named .sealed (renderRow render depth x) (rowLabels labels x) := by
  have hcells := Markup.joinWith (c := ' ') (r := "& ".toList)
    (f := fun cell => Text.trim (renderChildren render depth cell))
    (g := childLabels labels) (by decide) (.phrase (by decide))
    (fun c hc => Markup.trim (.loosen (markup_renderChildren (h c hc))))
  have hrule : Markup Plain Named .sealed
      (if x.node.hasClass "header" ||
        x.node.children.any (fun cell => cell.name == "th") then "\\hline\n".toList else []) [] := by
    split
    · exact .phrase (by decide)
    · exact .nil
  have hall := Markup.before (Markup.close (c := ' ') (by decide) hcells)
    (.after (.phrase (p := "\\\\\n".toList) (by decide)) hrule)
  have hend : " \\\\\n".toList = ' ' :: "\\\\\n".toList := rfl
  have hgap : " & ".toList = ' ' :: "& ".toList := rfl
  rw [renderRow, hend, hgap]
  rwa [List.append_assoc] at hall

/-- Rows one after another are markup with the labels of their cells. -/
theorem markup_renderTabular {rows : List Located}
    (h : ∀ row ∈ rows, ∀ c ∈ row.children, ∀ d ∈ c.children, Markup Plain Named .sealed (render depth d) (labels d)) :
    Markup Plain Named .sealed (renderTabular render depth rows) (rows.flatMap (rowLabels labels)) := by
  have hrows := Markup.flatMap (fun row hrow => markup_renderRow (h row hrow))
  have hrule : Markup Plain Named .sealed "\\hline\n".toList [] := .phrase (by decide)
  have hbreak : Markup Plain Named .sealed ['\n'] [] := Markup.of_escape rfl
  have hcolumns : Markup Plain Named .sealed
      ('{' :: (List.replicate ((rows.map (fun row => row.node.children.length)).foldl max 0) 'l' ++ ['}'])) [] :=
    .group (.loosen (Markup.columns _))
  have hbody := Markup.after hcolumns (.after (.after hbreak hrule) (.before hrows hrule))
  have htabular := Markup.environment (show "tabular" ∈ Tex.environmentNames by decide) hbody
  have hall := Markup.before htabular hbreak
  have hopening : "\\begin\x7btabular\x7d\x7b".toList = Tex.command "begin" "tabular".toList ++ ['{'] := rfl
  have hheader : "\x7d\n\\hline\n".toList = ['}', '\n'] ++ "\\hline\n".toList := rfl
  have hclosing : "\\hline\n\\end\x7btabular\x7d\n".toList =
      "\\hline\n".toList ++ (Tex.command "end" "tabular".toList ++ ['\n']) := rfl
  unfold renderTabular
  rw [hopening, hheader, hclosing]
  simpa only [List.append_assoc, List.cons_append, List.nil_append] using hall

/-- A table is markup; what is no row comes first. -/
theorem markup_renderTable (hrole : x.node.role = .table) (hinserted : ∀ s ∈ x.node.inserted, Plain s)
    (hid : ∀ id, x.node.id = some id → Named id) (hx : x ∈ f.root.visit)
    (h : ∀ y ∈ f.root.visit, ∀ d, Markup Plain Named .sealed (render d y) (labels y)) :
    Markup Plain Named .sealed (renderTable render depth x) (tableLabels labels x) := by
  rw [Node.inserted, hrole] at hinserted
  have hchild : ∀ p, ∀ c ∈ x.children.filter p, c ∈ f.root.visit :=
    fun p c hc => Node.child_mem_visit hx (List.mem_of_mem_filter hc)
  have hothers := Markup.flatMap (fun c hc => h c (hchild (fun child => !child.node.isRow) c hc) depth)
  have hrows : Markup Plain Named .sealed
      (if (x.children.filter (fun child => child.node.isRow)).isEmpty then []
        else renderTabular render depth (x.children.filter (fun child => child.node.isRow)))
      ((x.children.filter (fun child => child.node.isRow)).flatMap (rowLabels labels)) := by
    split
    · rename_i hempty
      rw [List.isEmpty_iff.1 hempty]
      exact .nil
    · refine markup_renderTabular (fun row hrow c hc d hd => h d ?_ depth)
      exact Node.child_mem_visit (Node.child_mem_visit (hchild _ row hrow) hc) hd
  have hbody := Markup.after (.phrase (p := "\\centering\n".toList) (by decide)) (.append hothers hrows)
  exact Markup.environmentText (by decide) (markup_placement hinserted)
    (markup_withLabel hid (.trimEnd (.loosen hbody)))

/-- An equation is markup with its own label. -/
theorem markup_renderEquation (hinserted : Plain x.node.textContent) (hid : ∀ id, x.node.id = some id → Named id) :
    Markup Plain Named .sealed (renderEquation x.node) (x.node.labels .equation) := by
  have hbody : Markup Plain Named .loose (Text.trim x.node.textContent) [] := Markup.trim (.plain hinserted)
  rw [renderEquation, label?, Node.labels]
  cases hx : x.node.id with
  | none => exact Markup.environmentText (by decide) .nil hbody
  | some id =>
    exact Markup.environmentText (by decide) .nil (Markup.line hbody (.loosen (.label .equation (hid id hx))))

/-- A list is markup with the labels of its items. -/
theorem markup_renderList (h : ∀ c ∈ x.children, Markup Plain Named .sealed (render depth c) (labels c)) :
    Markup Plain Named .sealed (renderList render depth x) (childLabels labels x) := by
  rw [renderList]
  refine Markup.environmentText ?_ .nil (.trimEnd (.loosen (markup_renderChildren h)))
  split <;> decide

/-- A listing is markup without labels. -/
theorem markup_renderListing (hinserted : Plain x.node.textContent) :
    Markup Plain Named .sealed (renderListing x.node) [] := by
  have hsplit := List.takeWhile_append_dropWhile (p := fun c => c == '\n') (l := x.node.textContent.reverse)
  have hblank : Text.allBlank (x.node.textContent.reverse.takeWhile (fun c => c == '\n')).reverse = true := by
    rw [Text.allBlank_iff]
    intro c hc
    have := List.mem_takeWhile_imp (List.mem_reverse.1 hc)
    rw [beq_iff_eq.1 this]
    rfl
  have heq := congrArg List.reverse hsplit
  rw [List.reverse_append, List.reverse_reverse] at heq
  rw [← heq] at hinserted
  exact Markup.environmentText (by decide) .nil (.verbatim hinserted hblank)

/-- Text is markup, with the labels of its children unless it is a leaf. -/
theorem markup_renderText (h : ∀ c ∈ x.children, Markup Plain Named .sealed (render depth c) (labels c)) :
    Markup Plain Named .sealed (renderText render depth x) (if x.node.isLeaf then [] else childLabels labels x) := by
  rw [renderText, Node.isLeaf]
  cases hvalue : x.node.value with
  | none => exact markup_renderChildren h
  | some value => exact .escape _

/-- What a node becomes is markup, with the labels that are listed for it. -/
theorem markup_renderNode (hf : f.Admits Plain Named) (hx : x ∈ f.root.visit)
    (h : ∀ y ∈ f.root.visit, ∀ d, Markup Plain Named .sealed (render d y) (labels y)) :
    Markup Plain Named .sealed (f.renderNode render depth x) (f.nodeLabels labels x) := by
  have hinserted := hf.inserted x hx
  have hid := hf.named x hx
  have hbelow : ∀ d, ∀ c ∈ x.children, Markup Plain Named .sealed (render d c) (labels c) :=
    fun d c hc => h c (Node.child_mem_visit hx hc) d
  have hchildren := markup_renderChildren (hbelow depth)
  have hplain : ∀ {s : List Char}, x.node.inserted = [s] → Plain s :=
    fun hs => hinserted _ (by rw [hs]; exact List.mem_singleton.2 rfl)
  cases hrole : x.node.role with
  | text =>
    simp only [renderNode, nodeLabels, hrole]
    exact Markup.styled _ (markup_renderText (hbelow depth))
  | raw =>
    simp only [renderNode, nodeLabels, hrole]
    exact markup_renderRaw hf hx hrole h
  | sectioning =>
    simp only [renderNode, nodeLabels, hrole]
    exact markup_renderSection hf hx h
  | heading =>
    simp only [renderNode, nodeLabels, hrole]
    exact markup_renderHeading hid nofun (hbelow 0)
  | paragraph =>
    simp only [renderNode, nodeLabels, hrole]
    exact Markup.block (Markup.trim (.loosen hchildren))
  | span =>
    simp only [renderNode, nodeLabels, hrole]
    exact Markup.styled _ hchildren
  | emphasis =>
    simp only [renderNode, nodeLabels, hrole]
    exact Markup.styled _ (.command (by decide) (.loosen hchildren))
  | strong =>
    simp only [renderNode, nodeLabels, hrole]
    exact Markup.styled _ (.command (by decide) (.loosen hchildren))
  | code =>
    simp only [renderNode, nodeLabels, hrole]
    exact Markup.styled _ (.command (by decide) (.loosen (.escape _)))
  | link =>
    rw [Node.inserted, hrole] at hinserted
    simp only [renderNode, nodeLabels, hrole]
    exact Markup.styled _ (markup_renderLink hinserted (hbelow depth))
  | reference =>
    rw [Node.inserted, hrole] at hinserted
    simp only [renderNode, nodeLabels, hrole]
    exact Markup.styled _ (markup_renderReference hf.prefixes hinserted)
  | citation =>
    simp only [renderNode, nodeLabels, hrole]
    exact markup_renderCitation hrole hinserted
  | figure =>
    simp only [renderNode, nodeLabels, hrole]
    split
    · exact .nil
    · exact markup_renderFigure hrole hinserted hid (hbelow depth)
  | image =>
    simp only [renderNode, nodeLabels, hrole]
    exact markup_renderImage hrole hinserted
  | caption =>
    simp only [renderNode, nodeLabels, hrole]
    exact .before (.command (by decide) (Markup.trim (.loosen hchildren))) (Markup.of_escape rfl)
  | table =>
    simp only [renderNode, nodeLabels, hrole]
    exact markup_renderTable hrole hinserted hid hx h
  | math =>
    simp only [renderNode, nodeLabels, hrole]
    have hbody : Markup Plain Named .loose (Text.trim x.node.textContent) [] :=
      Markup.trim (.plain (hplain (by rw [Node.inserted, hrole])))
    exact .after (.phrase (p := ['$']) (by decide)) (.close (by decide) hbody)
  | equation =>
    simp only [renderNode, nodeLabels, hrole]
    exact markup_renderEquation (hplain (by rw [Node.inserted, hrole])) hid
  | list =>
    simp only [renderNode, nodeLabels, hrole]
    exact markup_renderList (hbelow depth)
  | item =>
    simp only [renderNode, nodeLabels, hrole]
    exact .after (.phrase (by decide)) (Markup.lineEnd (Markup.trim (.loosen hchildren)))
  | quote =>
    simp only [renderNode, nodeLabels, hrole]
    exact Markup.environmentText (by decide) .nil (Markup.trim (.loosen hchildren))
  | listing =>
    simp only [renderNode, nodeLabels, hrole]
    exact markup_renderListing (hplain (by rw [Node.inserted, hrole]))
  | lineBreak =>
    simp only [renderNode, nodeLabels, hrole]
    exact .phrase (by decide)
  | container =>
    simp only [renderNode, nodeLabels, hrole]
    exact hchildren

end Rules

/-! ## Rendering -/

/-- What a formatter writes for a place of the tree is markup, with the labels that are listed for it. The induction
is on the depth. -/
theorem markup_render (hf : f.Admits Plain Named) (n : Nat) :
    ∀ x ∈ f.root.visit, ∀ depth, Markup Plain Named .sealed (f.render n depth x) (f.labels n x) := by
  induction n with
  | zero =>
    intro x hx depth
    exact .nil
  | succ n ih =>
    intro x hx depth
    rw [render, labels]
    exact markup_spaced hf (markup_renderNode hf hx ih)

/-- The text of a place is markup, with the labels that are listed for it. -/
theorem markup_tex (hf : f.Admits Plain Named) {x : Located} (hx : x ∈ f.root.visit) :
    Markup Plain Named .loose (f.tex x) (f.labels f.fuel x) :=
  .tidy (markup_render hf _ x hx 0)

/-- The text of what a place holds is markup, with the labels of its children. -/
theorem markup_fragment (hf : f.Admits Plain Named) {x : Located} (hx : x ∈ f.root.visit) :
    Markup Plain Named .loose (f.fragment x) (childLabels (f.labels f.fuel) x) :=
  .tidy (markup_renderChildren (fun c hc => markup_render hf _ c (Node.child_mem_visit hx hc) 0))

/-- The children that make up the content are places of the tree. -/
theorem mem_visit_of_mem_mainChildren {x : Located} (hx : x ∈ f.mainChildren) : x ∈ f.root.visit :=
  Node.child_mem_visit (Node.root_mem_visit f.root) (List.mem_of_mem_filter hx)

/-- The content is markup, with the labels of the children that make it up. -/
theorem markup_content (hf : f.Admits Plain Named) :
    Markup Plain Named .loose f.content (f.mainChildren.flatMap (f.labels f.fuel)) :=
  .tidy (Markup.flatMap (fun c hc => markup_render hf _ c (mem_visit_of_mem_mainChildren hc) 0))

/-! ## Blocks -/

/-- The labels that a child of the root sets in its block. -/
def blockLabels (f : Formatter) (block : Block) (child : Located) : List Label :=
  match block with
  | .preamble => []
  | _ => childLabels (f.labels f.fuel) child ++ child.node.labels .figure

/-- The children of the root that make up a block. -/
def blockChildren (f : Formatter) (block : Block) : List Located :=
  f.rootPlace.children.filter (fun child => child.node.block? == some block)

/-- A child of the root belongs to the block that its classes name. -/
theorem mem_blockChildren {block : Block} {x : Located} :
    x ∈ f.blockChildren block ↔ x ∈ f.rootPlace.children ∧ x.node.block? = some block := by
  rw [blockChildren, List.mem_filter, beq_iff_eq]

/-- Pieces on lines of their own, if there are any. -/
def joined? (pieces : List (List Char)) : Option (List Char) :=
  if pieces.isEmpty then none else some (Text.joinWith ['\n'] pieces)

/-- One more piece stands on a line of its own behind the others. -/
theorem joined?_concat (pieces : List (List Char)) (piece : List Char) :
    joined? (pieces ++ [piece]) =
      some (match joined? pieces with
        | some before => before ++ '\n' :: piece
        | none => piece) := by
  by_cases h : pieces = []
  · rw [h, List.nil_append, joined?, joined?]
    simp [Text.joinWith_singleton]
  · simp [joined?, Text.joinWith_concat _ _ h, h]

/-- Children of the root are added to the text of their block, each on a line of its own. -/
theorem text?_foldl_addChild (l : List Located) (blocks : Blocks) (block : Block) (pieces : List (List Char))
    (h : blocks.text? block = joined? pieces) :
    (l.foldl f.addChild blocks).text? block =
      joined? (pieces ++ (l.filter (fun child => child.node.block? == some block)).map (f.blockText block)) := by
  induction l generalizing blocks pieces with
  | nil => simpa using h
  | cons child rest ih =>
    rw [List.foldl_cons]
    by_cases hb : child.node.block? = some block
    · have hstep : (f.addChild blocks child).text? block = joined? (pieces ++ [f.blockText block child]) := by
        rw [addChild, hb, joined?_concat, ← h]
        simp only [Blocks.append]
        refine (Blocks.text?_set _ _ _ _).trans ((if_pos rfl).trans ?_)
        cases blocks.text? block <;> rfl
      rw [ih _ _ hstep, List.filter_cons_of_pos (by rw [hb]; exact beq_self_eq_true _), List.map_cons,
        List.append_assoc]
      rfl
    · have hstep : (f.addChild blocks child).text? block = joined? pieces := by
        rw [addChild]
        cases hc : child.node.block? with
        | none => exact h
        | some other =>
          simp only [Blocks.append]
          rw [Blocks.text?_set, if_neg (fun heq => hb (by rw [hc, heq])), h]
      rw [ih _ _ hstep, List.filter_cons_of_neg (by simpa using hb)]

/-- A block has the texts of its children, one on a line after another, and there is no block without children. -/
theorem text?_blocks (f : Formatter) (block : Block) :
    f.blocks.text? block = joined? ((f.blockChildren block).map (f.blockText block)) :=
  text?_foldl_addChild f.rootPlace.children ∅ block [] rfl

/-- What a child adds to its block is markup, with the labels that are listed for it. -/
theorem markup_blockText (hf : f.Admits Plain Named) {block : Block} {x : Located} (hx : x ∈ f.root.visit)
    (hvalue : block = .preamble → Plain (x.node.value.getD "").toList) :
    Markup Plain Named .loose (f.blockText block x) (f.blockLabels block x) := by
  have hlabelled : Markup Plain Named .loose (withLabel x.node .figure (Text.trim (f.fragment x)))
      (childLabels (f.labels f.fuel) x ++ x.node.labels .figure) :=
    markup_withLabel (hf.named x hx) (Markup.trim (markup_fragment hf hx))
  unfold blockText
  cases block with
  | preamble => exact .plain (hvalue rfl)
  | abstract | acknowledgments | teaser =>
    refine Markup.after ?_ hlabelled
    split
    · rename_i command hcommand
      exact Markup.lineEnd (.plain (hf.vspace _ _ hcommand))
    · exact .nil

/-- A block is markup, with the labels of its children. -/
theorem markup_block (hf : f.Admits Plain Named) (block : Block)
    (hvalue : block = .preamble → ∀ x ∈ f.blockChildren block, Plain (x.node.value.getD "").toList) :
    Markup Plain Named .loose ((f.blocks.text? block).getD [])
      ((f.blockChildren block).flatMap (f.blockLabels block)) := by
  have hpieces : ∀ x ∈ f.blockChildren block,
      Markup Plain Named .loose (f.blockText block x) (f.blockLabels block x) := by
    intro x hx
    have hmem := Node.child_mem_visit (Node.root_mem_visit f.root) (mem_blockChildren.1 hx).1
    exact markup_blockText hf hmem (fun hb => hvalue hb x hx)
  have hjoin := Markup.joinWith (c := '\n') (by decide) .nil hpieces
  rw [text?_blocks, joined?]
  split
  · rename_i hempty
    rw [List.isEmpty_iff, List.map_eq_nil_iff] at hempty
    rw [hempty]
    exact .loosen .nil
  · exact hjoin

end Formatter

end Manuscript
