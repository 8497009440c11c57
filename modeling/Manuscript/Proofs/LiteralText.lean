import Mathlib.Data.List.DropRight
import Manuscript.Proofs.Tidying
import Manuscript.Formatter.Content

/-!
# Literal text

What becomes of text that is to be set as it is: the text of a paragraph, which is escaped, and raw LaTeX and
program text, which travel between markers. The markers are characters like any other, so a text can hold them
itself. A paragraph keeps all that is not blank exactly when no opening marker stands in its text. Raw LaTeX and
program text between two paragraphs come through unchanged exactly when no closing marker stands in them but at
their end (`literal_text_iff`).
-/

namespace Manuscript

namespace Tex

/-- Escaping takes no opening marker away and brings none in. -/
theorem verbatimOpen_mem_escape {s : List Char} : verbatimOpen ∈ escape s ↔ verbatimOpen ∈ s := by
  have hsequences : ∀ e ∈ escapes, verbatimOpen ≠ e.1 ∧ verbatimOpen ∉ e.2 := by decide
  rw [escape, List.mem_flatMap]
  constructor
  · rintro ⟨c, hc, hmem⟩
    rw [escapeChar] at hmem
    cases hlookup : escapes.lookup c with
    | none =>
      rw [hlookup, Option.getD_none, List.mem_singleton] at hmem
      exact hmem ▸ hc
    | some sequence =>
      obtain ⟨before, after, hsplit, -⟩ := List.lookup_eq_some_iff.1 hlookup
      rw [hlookup, Option.getD_some] at hmem
      exact absurd hmem (hsequences (c, sequence) (by rw [hsplit]; simp)).2
  · intro hmem
    exact ⟨verbatimOpen, hmem, by decide⟩

/-- What the text of a paragraph has besides blanks it has in its block. -/
theorem solid_block_trim (s : List Char) : Text.solid (block (Text.trim s)) = Text.solid s := by
  obtain ⟨lead, trail, hs, hlead, htrail⟩ := Text.exists_trim s
  have hblock : Text.solid (block (Text.trim s)) = Text.solid (Text.trim s) := by
    rw [block]
    split
    · rename_i hempty
      rw [List.isEmpty_iff.1 hempty]
    · rw [Text.solid_append, Text.solid_of_allBlank (s := "\n\n".toList) (by decide), List.append_nil]
  rw [hblock]
  conv => rhs; rw [hs, Text.solid_append, Text.solid_append, Text.solid_of_allBlank hlead,
    Text.solid_of_allBlank htrail, List.nil_append, List.append_nil]

/-- A text that tidying leaves as it is when more follows, and that leaves no marked part open. -/
def Settled (s : List Char) : Prop :=
  tidyAhead false s = s ∧ insideAfter false s = false

instance (s : List Char) : Decidable (Settled s) :=
  inferInstanceAs (Decidable (_ ∧ _))

end Tex

namespace Formatter

variable {f : Formatter} {x : Located}

/-! ## Rules -/

/-- A node without extra space stays as it is. -/
theorem spaced_eq (h : f.vspace? x.node = none) (body : List Char) : f.spaced x.node body = body := by
  rw [spaced, h]

/-- With depth left, a node without spacing is what its rule says. -/
theorem render_succ (h : f.vspace? x.node = none) (n depth : Nat) :
    f.render (n + 1) depth x = f.renderNode (f.render n) depth x :=
  spaced_eq h _

/-- There is fuel for the root. -/
theorem exists_fuel (f : Formatter) : ∃ n, f.fuel = n + 1 :=
  ⟨f.fuel - 1, (Nat.succ_pred (Nat.mul_ne_zero (Nat.succ_ne_zero _) (Nat.succ_ne_zero _))).symm⟩

/-- A paragraph is the block of its trimmed text. -/
theorem render_paragraph (hrole : x.node.role = .paragraph) (hspace : f.vspace? x.node = none) (n depth : Nat) :
    f.render (n + 1) depth x = Tex.block (Text.trim (renderChildren (f.render n) depth x)) := by
  rw [render_succ hspace, renderNode]
  simp only [hrole]

/-- Raw markup that is no directive is copied through on a line of its own. -/
theorem render_raw {v : String} (hraw : x.node.isRawTex = true) (hvalue : x.node.value = some v)
    (hparse : Directive.parse? v = none) (hspace : f.vspace? x.node = none) (n depth : Nat) :
    f.render (n + 1) depth x = Tex.verbatim v.toList ++ ['\n'] := by
  have hrole : x.node.role = .raw := by
    rw [Node.isRawTex, Bool.and_eq_true, beq_iff_eq] at hraw
    rw [Node.role, hraw.1]
    rfl
  rw [render_succ hspace, renderNode]
  simp only [hrole, renderRaw, hraw, hvalue, Option.getD_some, hparse, if_true]

/-- A listing is copied through without the line ends at its end. -/
theorem render_listing {v : String} (hrole : x.node.role = .listing) (hvalue : x.node.value = some v)
    (hspace : f.vspace? x.node = none) (n depth : Nat) :
    f.render (n + 1) depth x = Tex.environment "verbatim" none (Tex.verbatim (v.toList.rdropWhile (· == '\n'))) := by
  have htext : x.node.textContent = v.toList := by
    obtain ⟨path, name, properties, classes, nodes | text⟩ := x
    · cases hvalue
    · cases hvalue
      exact List.append_nil _
  rw [render_succ hspace, renderNode]
  simp only [hrole, renderListing, htext]
  rfl

/-! ## Paragraphs -/

/-- What a paragraph comes to: its text, which neither begins nor ends in a blank, and a blank line. -/
theorem exists_paragraph (hrole : x.node.role = .paragraph) (hspace : f.vspace? x.node = none)
    (hclosed : Tex.insideAfter false (f.render f.fuel 0 x) = false) (hshown : f.tex x ≠ []) :
    ∃ text, f.render f.fuel 0 x = text ++ "\n\n".toList ∧ (∃ c ∈ text.head?, Text.isBlank c = false) ∧
      (∀ c ∈ text.getLast?, Text.isBlank c = false) ∧ Tex.insideAfter false text = false ∧
      Tex.tidyAhead false text = f.tex x := by
  obtain ⟨n, hn⟩ := f.exists_fuel
  have hrender := render_paragraph hrole hspace n 0
  rw [← hn] at hrender
  generalize hbody : renderChildren (f.render n) 0 x = body at hrender
  have hhead := Text.isBlank_head?_trim body
  have hlast := Text.isBlank_getLast?_trim body
  generalize Text.trim body = text at hrender hhead hlast
  cases text with
  | nil =>
    rw [tex, hrender] at hshown
    exact absurd rfl hshown
  | cons c rest =>
    have hblock : f.render f.fuel 0 x = c :: rest ++ "\n\n".toList := hrender
    have hfree : ∀ inside, Tex.nextMarker inside ∉ "\n\n".toList := Tex.not_mem_of_allBlank (by decide)
    have hinside : Tex.insideAfter false (c :: rest) = false := by
      rwa [hblock, Tex.insideAfter_append, Tex.insideAfter_of_not_mem (hfree _)] at hclosed
    refine ⟨c :: rest, hblock, ⟨c, rfl, hhead c rfl⟩, hlast, hinside, ?_⟩
    rw [tex, hblock, Tex.tidy_append_blankLine ⟨c, rfl, hhead c rfl⟩ hlast hinside]

/-! ## Between two paragraphs -/

/-- A place of the main text between two paragraphs. There is something to be seen in both, no spacing is set for
the three, and no marked part is left open by the places around it. -/
structure Between (f : Formatter) (front : List Located) (first place last : Located) (back : List Located) : Prop where
  mainChildren : f.mainChildren = front ++ first :: place :: last :: back
  role : ∀ x ∈ [first, last], x.node.role = .paragraph
  unspaced : ∀ x ∈ [first, place, last], f.vspace? x.node = none
  closed : ∀ x ∈ front ++ [first, last], Tex.insideAfter false (f.render f.fuel 0 x) = false
  shown : ∀ x ∈ [first, last], f.tex x ≠ []

/-- The main text up to a paragraph in it. -/
def contentBefore (f : Formatter) (front : List Located) : List Char :=
  Tex.tidyAhead false (Text.trimStart (front.flatMap (f.render f.fuel 0)))

/-- The main text after a paragraph in it. -/
def contentAfter (f : Formatter) (back : List Located) : List Char :=
  Tex.tidyToEnd false ("\n\n".toList ++ back.flatMap (f.render f.fuel 0))

/-- Places that each leave no marked part open leave none open together. -/
theorem insideAfter_flatMap {l : List Located} (h : ∀ x ∈ l, Tex.insideAfter false (f.render f.fuel 0 x) = false) :
    Tex.insideAfter false (l.flatMap (f.render f.fuel 0)) = false := by
  induction l with
  | nil => rfl
  | cons x rest ih =>
    rw [List.forall_mem_cons] at h
    rw [List.flatMap_cons, Tex.insideAfter_append, h.1]
    exact ih h.2

/-- A place that is set as a marked part with a text around it stands in the main text as it is exactly when no
closing marker stands in the part but at its end. -/
theorem Between.content_iff {front back : List Located} {first place last : Located} {lead v trail : List Char}
    (h : f.Between front first place last back) (hplace : f.render f.fuel 0 place = lead ++ (Tex.verbatim v ++ trail))
    (hlead : Tex.Settled ("\n\n".toList ++ lead)) (htrail : Tex.Settled trail) :
    f.content = f.contentBefore front ++
        (f.tex first ++ ("\n\n".toList ++ lead ++ (v ++ (trail ++ (f.tex last ++ f.contentAfter back))))) ↔
      Tex.ClosesAtEnd v := by
  have hparagraph := fun x (hx : x ∈ [first, last]) => exists_paragraph (h.role x hx) (h.unspaced x (by
    rw [List.mem_pair] at hx
    rcases hx with rfl | rfl <;> simp)) (h.closed x (List.mem_append_right _ hx)) (h.shown x hx)
  obtain ⟨text, hfirst, htextHead, htextLast, htextClosed, htext⟩ := hparagraph first (by simp)
  obtain ⟨next, hlast, hnextHead, hnextLast, hnextClosed, hnext⟩ := hparagraph last (by simp)
  have hfront : Tex.insideAfter false (front.flatMap (f.render f.fuel 0)) = false :=
    insideAfter_flatMap (fun x hx => h.closed x (List.mem_append_left _ hx))
  have hhead : ∀ c ∈ (text ++ ("\n\n".toList ++ lead)).head?, Text.isBlank c = false := by
    obtain ⟨c, hc, hblank⟩ := htextHead
    obtain ⟨rest, rfl⟩ := List.head?_eq_some_iff.1 hc
    intro d hd
    cases hd
    exact hblank
  -- In front of the marked part.
  have hbefore : Tex.tidyAhead false
    (Text.trimStart (front.flatMap (f.render f.fuel 0) ++ (text ++ ("\n\n".toList ++ lead)))) =
      f.contentBefore front ++ (f.tex first ++ ("\n\n".toList ++ lead)) := by
    have hseam : Tex.Apart (Text.trimStart (front.flatMap (f.render f.fuel 0))) (text ++ ("\n\n".toList ++ lead)) := by
      obtain ⟨c, hc, hblank⟩ := htextHead
      exact Or.inr ⟨c, by rw [List.head?_append, Option.mem_def.1 hc]; rfl, hblank⟩
    rw [Text.trimStart_append_of_head? hhead, Tex.tidyAhead_append hseam, Tex.insideAfter_trimStart, hfront,
      Tex.tidyAhead_append (Or.inl htextLast), htextClosed, htext, hlead.1, contentBefore]
  -- Behind it.
  have hafter : Tex.tidyToEnd false (trail ++ (next ++ ("\n\n".toList ++ back.flatMap (f.render f.fuel 0)))) =
      trail ++ (f.tex last ++ f.contentAfter back) := by
    have hseam : Tex.Apart trail (next ++ ("\n\n".toList ++ back.flatMap (f.render f.fuel 0))) := by
      obtain ⟨c, hc, hblank⟩ := hnextHead
      exact Or.inr ⟨c, by rw [List.head?_append, Option.mem_def.1 hc]; rfl, hblank⟩
    rw [Tex.tidyToEnd_append hseam, htrail.1, htrail.2, Tex.tidyToEnd_append (Or.inl hnextLast), hnextClosed, hnext,
      contentAfter]
  have hclosed : Tex.insideAfter false (front.flatMap (f.render f.fuel 0) ++ (text ++ ("\n\n".toList ++ lead))) =
      false := by
    rw [Tex.insideAfter_append, hfront, Tex.insideAfter_append, htextClosed, hlead.2]
  have hcontent : f.content = Tex.tidy (front.flatMap (f.render f.fuel 0) ++ (text ++ ("\n\n".toList ++ lead)) ++
      (Tex.verbatim v ++ (trail ++ (next ++ ("\n\n".toList ++ back.flatMap (f.render f.fuel 0)))))) := by
    rw [content, h.mainChildren, List.flatMap_append, List.flatMap_cons, List.flatMap_cons, List.flatMap_cons, hfirst,
      hplace, hlast]
    simp only [List.append_assoc]
  have hwhole := Tex.tidy_verbatim_iff hclosed v
    (trail ++ (next ++ ("\n\n".toList ++ back.flatMap (f.render f.fuel 0))))
  rw [hbefore, hafter] at hwhole
  rw [hcontent, ← hwhole]
  simp only [List.append_assoc]

/-! ## A paragraph with one text -/

/-- Below a root with children there is depth for two nodes. -/
theorem exists_fuel_of_children (h : f.root.children ≠ []) : ∃ n, f.fuel = n + 2 := by
  have hheight : 1 ≤ f.root.height := by
    obtain ⟨child, rest, hchildren⟩ := List.exists_cons_of_ne_nil h
    rw [Node.height_eq, hchildren]
    exact Nat.le_trans (Nat.le_add_left 1 _) (Nat.le_max_left _ _)
  have hfuel : f.root.height + 1 ≤ f.fuel := Nat.le_mul_of_pos_left _ (Nat.succ_pos _)
  exact ⟨f.fuel - 2, by omega⟩

/-- A paragraph of one text leaf is the block of the escaped text. -/
theorem render_sentence {v : String} (hrole : x.node.role = .paragraph) (htext : x.node.children = [.text v])
    (hspace : f.vspace? x.node = none) (htextSpace : f.vspace.get? "text" = none) (n depth : Nat) :
    f.render (n + 2) depth x = Tex.block (Text.trim (Tex.escape v.toList)) := by
  have hleaf : renderChildren (f.render (n + 1)) depth x = Tex.escape v.toList := by
    rw [renderChildren, Located.children, htext, Located.siblings, Located.siblings, List.flatMap_singleton,
      render_succ (x := ⟨x.path ++ [0], .text v⟩) htextSpace]
    rfl
  rw [render_paragraph hrole hspace, hleaf]

/-- The main text of a root whose only child is a paragraph with one text. -/
theorem content_of_sentence {p : Node} {v : String} (hroot : f.root.children = [p]) (hrole : p.role = .paragraph)
    (htext : p.children = [.text v]) (hmain : p.isExtracted = false) (hspace : f.vspace.get? p.name = none)
    (htextSpace : f.vspace.get? "text" = none) :
    f.content = Tex.tidy (Tex.block (Text.trim (Tex.escape v.toList))) := by
  have hchildren : f.mainChildren = [⟨[0], p⟩] := by
    rw [mainChildren, rootPlace, Located.children, hroot]
    simp [Located.siblings, hmain]
  obtain ⟨n, hn⟩ := exists_fuel_of_children (f := f) (by simp [hroot])
  rw [content, hchildren, List.flatMap_singleton, hn, render_sentence (x := ⟨[0], p⟩) hrole htext hspace htextSpace]

end Formatter

/-- What of a literal text comes through, whatever its characters are. The text of a paragraph that is the only
child of the root keeps all that is not blank exactly when no opening marker stands in it. Raw LaTeX that is no
directive, between two paragraphs, stands in the main text unchanged and on lines of its own exactly when no closing
marker stands in it but at its end; and so does program text without the ends of line at its end, in its
environment. -/
theorem literal_text_iff (f : Formatter) :
    (∀ (p : Node) (v : String), f.root.children = [p] → p.role = .paragraph → p.children = [.text v] →
      p.isExtracted = false →
        f.vspace.get? p.name = none → f.vspace.get? "text" = none →
        (Text.solid f.content = Text.solid (Tex.escape v.toList) ↔ Tex.verbatimOpen ∉ v.toList)) ∧
      ∀ (front : List Located) (first place last : Located) (back : List Located) (v : String),
        f.Between front first place last back → place.node.value = some v →
        (place.node.isRawTex = true → Directive.parse? v = none →
          (f.content = f.contentBefore front ++
              (f.tex first ++ ("\n\n".toList ++ (v.toList ++ ("\n".toList ++ (f.tex last ++ f.contentAfter back))))) ↔
            Tex.ClosesAtEnd v.toList)) ∧
        (place.node.role = .listing →
          (f.content = f.contentBefore front ++
              (f.tex first ++ ("\n\n\\begin\x7bverbatim\x7d\n".toList ++ (v.toList.rdropWhile (· == '\n') ++
                ("\n\\end\x7bverbatim\x7d\n\n".toList ++ (f.tex last ++ f.contentAfter back))))) ↔
            Tex.ClosesAtEnd (v.toList.rdropWhile (· == '\n')))) := by
  refine ⟨?_, fun front first place last back v h hvalue => ⟨fun hraw hparse => ?_, fun hrole => ?_⟩⟩
  · intro p v hroot hrole htext hmain hspace htextSpace
    rw [Formatter.content_of_sentence hroot hrole htext hmain hspace htextSpace,
      ← Tex.solid_block_trim (Tex.escape v.toList), Tex.solid_tidy_iff, ← Tex.verbatimOpen_mem_solid,
      Tex.solid_block_trim, Tex.verbatimOpen_mem_solid, Tex.verbatimOpen_mem_escape]
  · obtain ⟨n, hn⟩ := f.exists_fuel
    have hplace := Formatter.render_raw hraw hvalue hparse (h.unspaced place (by simp)) n 0
    rw [← hn, ← List.nil_append (Tex.verbatim v.toList ++ ['\n'])] at hplace
    exact h.content_iff hplace (by decide) (by decide)
  · obtain ⟨n, hn⟩ := f.exists_fuel
    have hplace := Formatter.render_listing hrole hvalue (h.unspaced place (by simp)) n 0
    have hsplit : Tex.environment "verbatim" none (Tex.verbatim (v.toList.rdropWhile (· == '\n'))) =
        "\\begin\x7bverbatim\x7d\n".toList ++
          (Tex.verbatim (v.toList.rdropWhile (· == '\n')) ++ "\n\\end\x7bverbatim\x7d\n\n".toList) := rfl
    rw [← hn, hsplit] at hplace
    exact h.content_iff hplace (by decide) (by decide)

/-- A paragraph with one text. -/
def sentence (text : String) : Node where
  name := "p"
  content := .children [.text text]

/-- An article with a node between two paragraphs. -/
def besides (node : Node) : Node where
  name := "article"
  content := .children [sentence "One.", node, sentence "Two."]

/-- A node of the main text stands between the two paragraphs. -/
theorem between_besides {node : Node} (hmain : node.isExtracted = false) :
    (Formatter.ofDocument (besides node) {} none).Between [] ⟨[0], sentence "One."⟩ ⟨[1], node⟩ ⟨[2], sentence "Two."⟩
      [] := by
  obtain ⟨n, hn⟩ := Formatter.exists_fuel_of_children (f := Formatter.ofDocument (besides node) {} none)
    (List.cons_ne_nil _ _)
  have hrender := fun (path : NodePath) (text : String) => Formatter.render_sentence
    (f := Formatter.ofDocument (besides node) {} none) (x := ⟨path, sentence text⟩) (v := text) rfl rfl rfl rfl n 0
  rw [← hn] at hrender
  exact {
    mainChildren := by
      have hfirst : (sentence "One.").isExtracted = false := rfl
      have hlast : (sentence "Two.").isExtracted = false := rfl
      simp [Formatter.mainChildren, Formatter.rootPlace, Formatter.ofDocument, besides, Located.children,
        Located.siblings, Node.children, hmain, hfirst, hlast]
    role := List.forall_mem_cons.2 ⟨rfl, List.forall_mem_singleton.2 rfl⟩
    unspaced := fun _ _ => rfl
    closed := by
      refine List.forall_mem_cons.2 ⟨?_, List.forall_mem_singleton.2 ?_⟩ <;> rw [hrender] <;> decide
    shown := by
      refine List.forall_mem_cons.2 ⟨?_, List.forall_mem_singleton.2 ?_⟩ <;> rw [Formatter.tex, hrender] <;> decide }

/-- Blank lines, opening markers, and closing markers at the end do no harm to raw LaTeX and program text, nor
closing markers to a paragraph. -/
theorem literal_text_unchanged :
    Text.solid
        (Formatter.ofDocument { name := "article", content := .children [sentence "50 % \uE001"] } {} none).content =
        Text.solid (Tex.escape "50 % \uE001".toList) ∧
      (Formatter.ofDocument (besides (.raw "tex" "a \n\n\n\uE000b\uE001")) {} none).content =
          "One.\n\na \n\n\n\uE000b\uE001\nTwo.".toList ∧
        (Formatter.ofDocument
            (besides { name := "pre", content := .value "if x:\n\n\n  y \uE000\n\n" }) {} none).content =
          "One.\n\n\\begin\x7bverbatim\x7d\nif x:\n\n\n  y \uE000\n\\end\x7bverbatim\x7d\n\nTwo.".toList := by
  have hparagraph := (literal_text_iff
    (Formatter.ofDocument { name := "article", content := .children [sentence "50 % \uE001"] } {} none)).1
    (sentence "50 % \uE001") "50 % \uE001" rfl rfl rfl rfl rfl rfl
  have hraw :=
    ((literal_text_iff (Formatter.ofDocument (besides (.raw "tex" "a \n\n\n\uE000b\uE001")) {} none)).2 _ _ _ _ _ _
    (between_besides rfl) rfl).1 rfl (by decide +kernel)
  have hlisting := ((literal_text_iff
    (Formatter.ofDocument (besides { name := "pre", content := .value "if x:\n\n\n  y \uE000\n\n" }) {} none)).2
    _ _ _ _ _ _ (between_besides rfl) rfl).2 rfl
  refine ⟨hparagraph.2 (by decide +kernel), ?_, ?_⟩
  · rw [hraw.2 (by decide +kernel)]
    decide +kernel
  · rw [hlisting.2 (by decide +kernel)]
    decide +kernel

/-- A marker in the middle of a literal text is lost or moved, and what stands behind it is set as if it were
ordinary text. -/
theorem literal_text_changed :
    Text.solid
      (Formatter.ofDocument { name := "article", content := .children [sentence "a\uE000b"] } {} none).content ≠
        Text.solid (Tex.escape "a\uE000b".toList) ∧
      ((Formatter.ofDocument (besides (.raw "tex" "a\uE001 \n\n\n\nb")) {} none).content =
          "One.\n\na\n\nb\uE001\nTwo.".toList ∧
        ¬"a\uE001 \n\n\n\nb".toList <:+: "One.\n\na\n\nb\uE001\nTwo.".toList) ∧
      (Formatter.ofDocument (besides { name := "pre", content := .value "a\uE001 \n\n\n\nb" }) {} none).content =
          "One.\n\n\\begin\x7bverbatim\x7d\na\n\nb\uE001\n\\end\x7bverbatim\x7d\n\nTwo.".toList ∧
        ¬"a\uE001 \n\n\n\nb".toList <:+:
          "One.\n\n\\begin\x7bverbatim\x7d\na\n\nb\uE001\n\\end\x7bverbatim\x7d\n\nTwo.".toList := by
  decide +kernel

end Manuscript
