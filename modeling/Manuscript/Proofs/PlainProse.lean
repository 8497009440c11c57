import Manuscript.Proofs.EscapedText
import Manuscript.Proofs.LiteralText
import Manuscript.Proofs.TextKept
import Manuscript.Proofs.TidiedText

/-!
# Plain prose

Escaping changes no blank and makes none, so it goes with cutting a text into runs (`runs_escape`), and with
whatever is done run by run: trimming, and tidying a text in which no marked part begins (`tidy_escape`). In a tree
of texts, paragraphs and plain containers nothing else is done. So its main text is its prose, tidied as if nothing
had to be escaped, and then escaped (`plain_prose`).
-/

namespace Manuscript

namespace Tex

variable {s t : List Char} {c : Char}

/-! ## Escaping and blanks -/

/-- What a character is replaced by is blank exactly if the character is. -/
theorem isBlank_of_mem_escapeChar {d : Char} (h : d ∈ escapeChar c) : Text.isBlank d = Text.isBlank c := by
  have hall : ∀ e ∈ escapes, ∀ d ∈ e.2, Text.isBlank d = Text.isBlank e.1 := by decide
  rcases escapeChar_cases c with ⟨-, hself⟩ | ⟨e, he, rfl, hsequence⟩
  · rw [hself, List.mem_singleton] at h
    rw [h]
  · exact hall e he d (hsequence ▸ h)

/-- No character is dropped. -/
theorem escapeChar_ne_nil (c : Char) : escapeChar c ≠ [] := by
  have hall : ∀ e ∈ escapes, e.2 ≠ [] := by decide
  rcases escapeChar_cases c with ⟨-, hself⟩ | ⟨e, he, -, hsequence⟩
  · rw [hself]
    exact List.cons_ne_nil c []
  · rw [hsequence]
    exact hall e he

/-- No blank has a meaning in LaTeX. -/
theorem escape_of_allBlank (h : Text.allBlank s = true) : escape s = s := by
  have hall : ∀ e ∈ escapes, Text.isBlank e.1 = false := by decide
  induction s with
  | nil => rfl
  | cons c rest ih =>
    rw [Text.allBlank, List.all_cons, Bool.and_eq_true] at h
    rw [escape_cons, ih h.2]
    rcases escapeChar_cases c with ⟨-, hself⟩ | ⟨e, he, rfl, -⟩
    · rw [hself, List.singleton_append]
    · rw [hall e he] at h
      exact absurd h.1 Bool.false_ne_true

/-- An escaped text is blank exactly if the text is. -/
theorem allBlank_escape (s : List Char) : Text.allBlank (escape s) = Text.allBlank s := by
  rw [Bool.eq_iff_iff, Text.allBlank_iff, Text.allBlank_iff]
  constructor
  · intro h c hc
    obtain ⟨d, rest, hwritten⟩ := List.exists_cons_of_ne_nil (escapeChar_ne_nil c)
    have hd : d ∈ escapeChar c := hwritten ▸ List.mem_cons_self
    rw [← isBlank_of_mem_escapeChar hd]
    exact h d (List.mem_flatMap_of_mem hc hd)
  · intro h d hd
    obtain ⟨c, hc, hd⟩ := List.mem_flatMap.1 hd
    rw [isBlank_of_mem_escapeChar hd, h c hc]

/-- Escaping makes a run of a run. -/
theorem uniform_escape {run : List Char} (h : Text.Uniform run) : Text.Uniform (escape run) := by
  refine ⟨fun hnil => h.1 ?_, fun d hd => ?_⟩
  · rw [← unescape_escape run, hnil]
    rfl
  · obtain ⟨c, hc, hd⟩ := List.mem_flatMap.1 hd
    rw [isBlank_of_mem_escapeChar hd, allBlank_escape, h.2 c hc]

theorem escape_flatMap {α : Type} (l : List α) (g : α → List Char) :
    escape (l.flatMap g) = l.flatMap (fun a => escape (g a)) :=
  List.flatMap_assoc

/-- The runs of an escaped text are the runs of the text, escaped. -/
theorem runs_escape (s : List Char) : Text.runs (escape s) = (Text.runs s).map escape := by
  have hturn := (Text.inTurn_runs s).map (fun run _ hrun => ⟨uniform_escape hrun, allBlank_escape run⟩)
  refine Text.runs_eq_iff.2 ⟨?_, hturn⟩
  conv => lhs; rw [← Text.flatten_runs s, ← List.flatMap_id, escape_flatMap]
  rw [List.flatMap_def]
  rfl

/-- A run of one kind is thinned alike before and after escaping. -/
theorem thinRun_escape {run : List Char} (h : Text.Uniform run) :
    Text.thinRun (escape run) = escape (Text.thinRun run) := by
  cases hblank : Text.allBlank run with
  | true =>
    have hthin : Text.allBlank (Text.thinRun run) = true := (Text.thinRun_spec h).2.1.trans hblank
    rw [escape_of_allBlank hblank, escape_of_allBlank hthin]
  | false =>
    rw [Text.thinRun_of_not_allBlank hblank, Text.thinRun_of_not_allBlank ((allBlank_escape run).trans hblank)]

/-- Thinning and escaping may be exchanged. -/
theorem thin_escape (s : List Char) : Text.thin (escape s) = escape (Text.thin s) := by
  rw [Text.thin, Text.thin, runs_escape, List.flatMap_map, escape_flatMap]
  exact List.flatMap_congr (fun run hrun => thinRun_escape ((Text.inTurn_runs s).uniform run hrun))

/-- Trimming and escaping may be exchanged. -/
theorem trim_escape (s : List Char) : Text.trim (escape s) = escape (Text.trim s) := by
  obtain ⟨lead, text, trail, rfl, htrim, hlead, htrail, hhead, hlast⟩ := Text.exists_trimmed s
  rw [htrim, escape_append, escape_append, escape_of_allBlank hlead, escape_of_allBlank htrail]
  refine Text.trim_append hlead htrail (fun d hd => ?_) (fun d hd => ?_)
  · -- The first character belongs to what is written for the first one.
    cases text with
    | nil => cases hd
    | cons c rest =>
      rw [escape_cons, List.head?_append_of_ne_nil _ (escapeChar_ne_nil c)] at hd
      rw [isBlank_of_mem_escapeChar (List.mem_of_mem_head? hd), hhead c rfl]
  · rcases List.eq_nil_or_concat text with rfl | ⟨front, c, rfl⟩
    · cases hd
    · have hone : escape [c] = escapeChar c := List.append_nil _
      rw [List.concat_eq_append, escape_append, hone, List.getLast?_append_of_ne_nil _ (escapeChar_ne_nil c)] at hd
      rw [isBlank_of_mem_escapeChar (List.mem_of_mem_getLast? hd), hlast c (by simp)]

/-- Where no marked part begins, a text may be escaped before it is tidied or after. -/
theorem tidy_escape (h : verbatimOpen ∉ s) : tidy (escape s) = escape (tidy s) := by
  rw [tidy_of_not_mem (fun hmem => h (verbatimOpen_mem_escape.1 hmem)), tidy_of_not_mem h, thin_escape, trim_escape]

/-- Blank lines can be collapsed before a text is trimmed or after. -/
theorem trim_collapseBlankLines (s : List Char) :
    Text.trim (collapseBlankLines s) = collapseBlankLines (Text.trim s) := by
  obtain ⟨lead, text, trail, rfl, htrim, hlead, htrail, hhead, hlast⟩ := Text.exists_trimmed s
  rw [htrim]
  cases text with
  | nil =>
    rw [List.nil_append, collapseBlankLines_nil, Text.trim_eq_nil_iff]
    refine allBlank_collapseBlankLines ?_
    rw [Text.allBlank_append, hlead, htrail, Bool.and_self]
  | cons c rest =>
    have hseam : ∀ d ∈ (c :: rest ++ trail).head?, Text.isBlank d = false := hhead
    rw [collapseBlankLines_append (Or.inr hseam), collapseBlankLines_append (Or.inl hlast)]
    refine Text.trim_append (allBlank_collapseBlankLines hlead) (allBlank_collapseBlankLines htrail) (fun d hd => ?_)
      (isBlank_getLast?_collapseBlankLines hlast)
    rw [← List.nil_append (c :: rest), collapseBlankLines_append_cons (hhead c rfl), collapseBlankLines_nil] at hd
    exact Option.mem_unique hd rfl ▸ hhead c rfl

/-- The blanks around a block of text are of no account. -/
theorem tidy_block_trim (h : verbatimOpen ∉ s) : tidy (block (Text.trim s)) = tidy s := by
  have htrim : Text.trim (block (Text.trim s)) = Text.trim s := by
    rw [block]
    split
    · rename_i hempty
      rw [List.isEmpty_iff.1 hempty]
      rfl
    · exact Text.trim_trim_append s (by decide)
  have hblock : verbatimOpen ∉ block (Text.trim s) := by
    rwa [← verbatimOpen_mem_solid, solid_block_trim, verbatimOpen_mem_solid]
  rw [tidy_of_not_mem h, tidy_of_not_mem hblock, ← collapseBlankLines_eq, ← collapseBlankLines_eq,
    trim_collapseBlankLines, trim_collapseBlankLines, htrim]

/-! ## Escaped texts -/

/-- A text is another text escaped, and no marked part begins in that. -/
structure EscapeOf (s plain : List Char) : Prop where
  eq_escape : s = escape plain
  free : verbatimOpen ∉ plain

namespace EscapeOf

variable {plain : List Char}

theorem flatMap {α : Type} {l : List α} {g p : α → List Char} (h : ∀ a ∈ l, EscapeOf (g a) (p a)) :
    EscapeOf (l.flatMap g) (l.flatMap p) where
  eq_escape := by
    rw [escape_flatMap]
    exact List.flatMap_congr (fun a ha => (h a ha).eq_escape)
  free hmem := by
    obtain ⟨a, ha, hmem⟩ := List.mem_flatMap.1 hmem
    exact (h a ha).free hmem

/-- A paragraph of escaped text. -/
theorem block_trim (h : EscapeOf s plain) : EscapeOf (block (Text.trim s)) (block (Text.trim plain)) where
  eq_escape := by
    have hblank : escape "\n\n".toList = "\n\n".toList := by decide
    rw [h.eq_escape, trim_escape, block, block]
    cases Text.trim plain with
    | nil => rfl
    | cons c rest =>
      obtain ⟨d, written, hwritten⟩ := List.exists_cons_of_ne_nil (escapeChar_ne_nil c)
      have hshown : (escape (c :: rest)).isEmpty = false := by
        rw [escape_cons, hwritten]
        rfl
      rw [hshown, List.isEmpty_cons, if_neg Bool.false_ne_true, if_neg Bool.false_ne_true, escape_append, hblank]
  free := by
    rw [← verbatimOpen_mem_solid, solid_block_trim, verbatimOpen_mem_solid]
    exact h.free

end EscapeOf

end Tex

/-! ## The prose of a tree -/

/-- The roles of plain prose. -/
def Role.isProse : Role → Bool
  | .text | .paragraph | .container => true
  | _ => false

namespace Node

/-- What a tree of plain prose comes to when nothing is escaped. A text leaf is its text; a paragraph is what it
holds, trimmed, and a blank line, or nothing when that is blank; any other node is what it holds. -/
def plain : Node → List Char
  | ⟨name, _, _, .value text⟩ => if name = "text" then text.toList else []
  | ⟨name, _, _, .children nodes⟩ =>
    if Role.ofName name = .paragraph then Tex.block (Text.trim (plains nodes)) else plains nodes
where
  /-- What the trees of a list come to, one after another. -/
  plains : List Node → List Char
    | [] => []
    | node :: rest => plain node ++ plains rest

variable {node : Node}

/-- The plain text of nodes is that of each, in turn. -/
theorem plains_eq (nodes : List Node) : plain.plains nodes = nodes.flatMap plain := by
  induction nodes with
  | nil => rfl
  | cons node rest ih => rw [plain.plains, List.flatMap_cons, ih]

/-- A text leaf's plain text is its text. -/
theorem plain_of_literal? {text : String} (h : node.literal? = some text) : node.plain = text.toList := by
  obtain ⟨name, properties, classes, nodes | value⟩ := node
  · rw [literal?] at h
    split at h <;> cases h
  · rw [literal?] at h
    split at h
    · rename_i hname
      cases h
      rw [plain, if_pos hname]
    · cases h

/-- A node without a literal text of its own is set by what it holds. -/
theorem plain_eq (h : node.literal? = none) :
    node.plain = if node.role = .paragraph then Tex.block
      (Text.trim (node.children.flatMap plain)) else node.children.flatMap plain := by
  obtain ⟨name, properties, classes, nodes | value⟩ := node
  · rw [plain, plains_eq]
    rfl
  · have hname : name ≠ "text" := by
      rintro rfl
      cases h
    rw [plain, if_neg hname]
    exact (ite_self _).symm

end Node

namespace Formatter

variable {f : Formatter}

/-- A formatter of plain prose: each node below the root is a text without style classes, a paragraph or a plain
container, no spacing command is given for it, and no marked part begins in a text. -/
structure SetsProse (f : Formatter) : Prop where
  role : ∀ x ∈ f.root.descendants, x.node.role.isProse = true
  unstyled : ∀ x ∈ f.root.descendants, x.node.role = .text → x.node.classes = []
  unspaced : ∀ x ∈ f.root.descendants, f.vspace? x.node = none
  free : ∀ text ∈ f.root.texts, Tex.verbatimOpen ∉ text.toList

/-- What stands below a place is its prose when that holds of its children. -/
theorem escapeOf_renderChildren {render : Renderer} {depth : Nat} {x : Located}
    (h : ∀ c ∈ x.children, Tex.EscapeOf (render depth c) c.node.plain) :
    Tex.EscapeOf (renderChildren render depth x) (x.node.children.flatMap Node.plain) := by
  have hnodes : x.node.children.flatMap Node.plain = x.children.flatMap (fun c => c.node.plain) := by
    rw [← Node.map_node_siblings x.path 0 x.node.children, List.flatMap_map]
    rfl
  rw [hnodes]
  exact .flatMap h

/-- With depth enough, what is written for a place is its prose, escaped. The induction is on the depth. -/
theorem SetsProse.escapeOf_render (hf : f.SetsProse) (n : Nat) :
    ∀ x ∈ f.root.descendants, x.node.height < n → ∀ depth, Tex.EscapeOf (f.render n depth x) x.node.plain := by
  induction n with
  | zero => exact fun x _ hheight => absurd hheight (Nat.not_lt_zero _)
  | succ n ih =>
    intro x hx hheight depth
    have hbelow : Tex.EscapeOf (renderChildren (f.render n) depth x) (x.node.children.flatMap Node.plain) := by
      refine escapeOf_renderChildren (fun c hc => ?_)
      have hlt := Node.height_lt_of_mem_children hc
      exact ih c (Node.mem_descendants_of_mem_children (Node.mem_visit_of_mem_descendants hx) hc) (by omega) depth
    have hrole := hf.role x hx
    rw [render_succ (hf.unspaced x hx), renderNode]
    cases hliteral : x.node.literal? with
    | some text =>
      have htext : x.node.role = .text ∧ x.node.value = some text := by
        rw [Node.literal?] at hliteral
        split at hliteral
        · rename_i hname
          exact ⟨Node.role_eq_text_iff.2 hname, hliteral⟩
        · cases hliteral
      simp only [htext.1, renderText, htext.2, hf.unstyled x hx htext.1]
      rw [Node.plain_of_literal? hliteral]
      exact ⟨rfl, hf.free text (List.mem_filterMap.2 ⟨x, hx, hliteral⟩)⟩
    | none =>
      rw [Node.plain_eq hliteral]
      cases hkind : x.node.role with
      | text =>
        have hvalue : x.node.value = none := by
          rwa [Node.literal?, if_pos (Node.role_eq_text_iff.1 hkind)] at hliteral
        simp only [renderText, hvalue, hf.unstyled x hx hkind]
        exact hbelow
      | paragraph => exact hbelow.block_trim
      | container => exact hbelow
      | _ =>
        rw [hkind] at hrole
        cases hrole

/-- The main text, before it is tidied, is the prose below the root, escaped. -/
theorem SetsProse.escapeOf_mainChildren (hf : f.SetsProse)
    (hmain : ∀ y ∈ f.rootPlace.children, y.node.isExtracted = false) :
    Tex.EscapeOf (f.mainChildren.flatMap (f.render f.fuel 0)) (f.root.children.flatMap Node.plain) := by
  rw [mainChildren_eq hmain]
  refine escapeOf_renderChildren (x := f.rootPlace) (fun c hc => ?_)
  have hlt : c.node.height + 1 ≤ f.root.height := Node.height_lt_of_mem_children hc
  have hfuel : f.root.height + 1 ≤ f.fuel := Nat.le_mul_of_pos_left _ (Nat.succ_pos _)
  exact hf.escapeOf_render f.fuel c (Node.mem_descendants_of_mem_children f.rootPlace_mem_visit hc) (by omega) 0

end Formatter

/-- The main text of plain prose is its prose, tidied and then escaped, and reading it back gives the tidied prose.
The root may be of any kind but a text leaf, for it is not set itself. -/
theorem plain_prose (root : Node) (options : Options) (citations : Option Citations)
    (hroles : ∀ x ∈ root.descendants, x.node.role.isProse = true)
    (hclasses : ∀ x ∈ root.descendants, x.node.role = .text → x.node.classes = [])
    (hvspace : ∀ x ∈ root.descendants, options.vspace.get? x.node.name = none)
    (hfree : ∀ text ∈ root.texts, Tex.verbatimOpen ∉ text.toList)
    (hmain : ∀ node ∈ root.children, node.isExtracted = false) (hroot : root.literal? = none) :
    (Formatter.ofDocument root options citations).content = Tex.escape (Tex.tidy root.plain) ∧
      Tex.unescape (Formatter.ofDocument root options citations).content = Tex.tidy root.plain := by
  have hf : (Formatter.ofDocument root options citations).SetsProse := ⟨hroles, hclasses, hvspace, hfree⟩
  have hmainText := hf.escapeOf_mainChildren (fun y hy => hmain y.node (Located.node_mem_of_mem_children hy))
  have hplain : Tex.tidy root.plain = Tex.tidy (root.children.flatMap Node.plain) := by
    rw [Node.plain_eq hroot]
    split
    · exact Tex.tidy_block_trim hmainText.free
    · rfl
  have hcontent : (Formatter.ofDocument root options citations).content = Tex.escape (Tex.tidy root.plain) := by
    rw [Formatter.content, hmainText.eq_escape, Tex.tidy_escape hmainText.free, hplain]
    rfl
  exact ⟨hcontent, by rw [hcontent, Tex.unescape_escape]⟩

/-- An article with paragraphs in one another, a blank one among them, and texts with blank lines and characters
that have a meaning in LaTeX. -/
def proseArticle : Node where
  name := "article"
  content := .children
    [{ name := "paragraph", content :=
      .children [.text " 5% of\n\n\n", { name := "aside", content := .children [.text "a_b "] }] },
      { name := "p", content := .children [.text " \n "] },
      { name := "chapter"
        content := .children
          [.text "~",
            { name := "p"
              content := .children
                [{ name := "text", content := .children [.text "\t\x7bx\x7d"] },
                  { name := "p", content := .children [.text "y\n"] }] }] },
      .text "z \n"]

/-- An article with two sections, and blank lines asked for between the figures it has none of. -/
theorem proseArticle_plain_prose :
    (Formatter.ofDocument proseArticle { vspace := Dictionary.insert ∅ "figure" "\\medskip" } none).content =
        "5\\% of\n\na\\_b\n\n\\textasciitilde\x7b\x7d\\\x7bx\\\x7dy\n\nz".toList ∧
      Tex.unescape
          (Formatter.ofDocument proseArticle { vspace := Dictionary.insert ∅ "figure" "\\medskip" } none).content =
        "5% of\n\na_b\n\n~\x7bx\x7dy\n\nz".toList := by
  obtain ⟨hcontent, hback⟩ :=
    plain_prose proseArticle { vspace := Dictionary.insert ∅ "figure" "\\medskip" } none (by decide +kernel)
    (by decide +kernel) (by decide +kernel) (by decide +kernel) (by decide +kernel) rfl
  have htidy : Tex.tidy proseArticle.plain = "5% of\n\na_b\n\n~\x7bx\x7dy\n\nz".toList := by decide +kernel
  rw [htidy] at hcontent hback
  exact ⟨hcontent.trans (by decide +kernel), hback⟩

/-- A document whose root is a text leaf has no main text: the root itself is not set. -/
theorem text_leaf_not_set :
    (∀ x ∈ (Node.text "abc").visit, x.node.role.isProse = true ∧ x.node.classes = []) ∧
      (∀ x ∈ (Node.text "abc").visit, x.node.isExtracted = false) ∧ Tex.Unmarked "abc".toList ∧
      Tex.escape (Tex.tidy (Node.text "abc").plain) = "abc".toList ∧
      (Formatter.ofDocument (Node.text "abc") {} none).content = [] ∧
      (Formatter.ofDocument (Node.text "abc") {} none).content ≠ Tex.escape (Tex.tidy (Node.text "abc").plain) := by
  decide +kernel

end Manuscript
