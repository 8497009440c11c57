import Manuscript.Proofs.EscapedText
import Manuscript.Proofs.FormulaText
import Manuscript.Proofs.RenderingEnds
import Manuscript.Proofs.Rendering

/-!
# Formulas of a document

A math node is written between two dollar signs, and no other node writes a dollar sign that counts, as long as none
goes in unescaped. So the formulas of the main text are those of the math nodes that are rendered (`formulas`), and
whether they all come out as inline formulas is told by their bodies (`inline_math_iff`).
-/

namespace Manuscript

namespace Tex

/-- Text that goes in unescaped and has no part in any formula: without dollar signs and backslashes. -/
def NoMath (s : List Char) : Prop :=
  ∀ c ∈ s, c ≠ '$' ∧ c ≠ '\\'

instance (s : List Char) : Decidable (NoMath s) :=
  inferInstanceAs (Decidable (∀ c ∈ s, _))

/-! ## Texts without formulas -/

namespace FormulaFree

variable {s t : List Char}

theorem append (hs : FormulaFree s) (ht : FormulaFree t) : FormulaFree (s ++ t) := by
  unfold FormulaFree at hs ht ⊢
  rw [plainReader.read_append_of_eq hs, ht]

theorem cons {c : Char} (hc : c ≠ '$' ∧ c ≠ '\\') (hs : FormulaFree s) : FormulaFree (c :: s) := by
  have hstep : plainReader.step false c = some false := by simp [plainReader, hc.1, hc.2]
  unfold FormulaFree
  rw [Reader.read_cons, hstep]
  exact hs

/-- Without dollar signs and backslashes there are no formulas. -/
theorem of_noMath (h : NoMath s) : FormulaFree s := by
  induction s with
  | nil => rfl
  | cons c rest ih => exact cons (h c List.mem_cons_self) (ih (fun d hd => h d (List.mem_cons_of_mem c hd)))

theorem flatMap {α : Type} {l : List α} {g : α → List Char} (h : ∀ a ∈ l, FormulaFree (g a)) :
    FormulaFree (l.flatMap g) := by
  induction l with
  | nil => rfl
  | cons a rest ih =>
    rw [List.flatMap_cons]
    exact (h a List.mem_cons_self).append (ih (fun b hb => h b (List.mem_cons_of_mem a hb)))

/-- An escaped text has no formulas. -/
theorem escape (s : List Char) : FormulaFree (escape s) := by
  refine flatMap (fun c _ => ?_)
  have hsequences : ∀ e ∈ escapes, FormulaFree e.2 := by decide
  rcases escapeChar_cases c with ⟨hc, hself⟩ | ⟨e, he, -, hsequence⟩
  · rw [hself]
    refine cons ⟨?_, ?_⟩ rfl <;>
    · rintro rfl
      exact absurd hc (by decide)
  · rw [hsequence]
    exact hsequences e he

/-- An escaped link has none when the link has none. -/
theorem escapeUrl (h : NoMath s) : FormulaFree (escapeUrl s) := by
  refine flatMap (fun c hc => ?_)
  split
  · exact rfl
  · split
    · exact rfl
    · exact cons (h c hc) rfl

end FormulaFree

/-! ## Frames -/

namespace WithFormulas

variable {bodies : List (List Char)} {s t : List Char}

/-- Text without formulas in front of formulas. -/
theorem after (hs : FormulaFree s) (ht : WithFormulas bodies t) : WithFormulas bodies (s ++ t) :=
  append (free hs) ht

/-- Text without formulas behind formulas. -/
theorem before (hs : WithFormulas bodies s) (ht : FormulaFree t) : WithFormulas bodies (s ++ t) := by
  have happend := append hs (free ht)
  rwa [List.append_nil] at happend

/-- Trimming leaves the formulas. -/
theorem trim (h : WithFormulas bodies s) : WithFormulas bodies (Text.trim s) :=
  trimEnd (trimStart h)

theorem flatMap {α : Type} {l : List α} {g : α → List Char} {b : α → List (List Char)}
    (h : ∀ a ∈ l, WithFormulas (b a) (g a)) : WithFormulas (l.flatMap b) (l.flatMap g) := by
  induction l with
  | nil => exact free rfl
  | cons a rest ih =>
    rw [List.flatMap_cons, List.flatMap_cons]
    exact append (h a List.mem_cons_self) (ih (fun c hc => h c (List.mem_cons_of_mem a hc)))

/-- The formulas of an argument are those of the command. -/
theorem command {name : String} (hname : name ∈ commandNames) (h : WithFormulas bodies s) :
    WithFormulas bodies (command name s) := by
  have hall : ∀ name ∈ commandNames, FormulaFree ('\\' :: (name.toList ++ ['{'])) := by decide
  have htext : Tex.command name s = '\\' :: (name.toList ++ ['{']) ++ (s ++ ['}']) := by simp [Tex.command]
  rw [htext]
  exact after (hall name hname) (before h rfl)

/-- Style commands leave the formulas. -/
theorem styled (classes : List String) (h : WithFormulas bodies s) : WithFormulas bodies (styled classes s) :=
  Markup.styled_of_command (P := WithFormulas bodies) (fun _ hname _ hs => command hname hs) classes h

/-- A block has the formulas of its text. -/
theorem block (h : WithFormulas bodies s) : WithFormulas bodies (block s) := by
  rw [Tex.block]
  split
  · rename_i hempty
    rwa [List.isEmpty_iff.1 hempty] at h
  · exact before h rfl

/-- An environment has the formulas of its body. -/
theorem environment {name : String} {placement : Option String} (hname : name ∈ environmentNames)
    (hplacement : ∀ text ∈ placement, NoMath text.toList) (h : WithFormulas bodies s) :
    WithFormulas bodies (environment name placement s) := by
  have hbegin : ∀ name ∈ environmentNames, FormulaFree (Tex.command "begin" name.toList) := by decide
  have hend : ∀ name ∈ environmentNames,
    FormulaFree ('\n' :: (Tex.command "end" name.toList ++ "\n\n".toList)) := by decide
  have htext : FormulaFree (placementText placement ++ ['\n']) := by
    cases placement with
    | none => exact rfl
    | some text =>
      refine FormulaFree.append (.cons (by decide) (.append (.of_noMath (hplacement text rfl)) rfl)) rfl
  have hbody := after (hbegin name hname) (after htext (before h (hend name hname)))
  rw [Tex.environment]
  simpa only [List.append_assoc, List.singleton_append] using hbody

/-- A formula is not blank. -/
theorem eq_nil_of_allBlank (h : WithFormulas bodies s) (hblank : Text.allBlank s = true) : bodies = [] := by
  induction h with
  | free _ => rfl
  | formula body => cases hblank
  | append _ _ ihs iht =>
    rw [Text.allBlank_append, Bool.and_eq_true] at hblank
    rw [ihs hblank.1, iht hblank.2, List.append_nil]
  | @trimStart _ s _ ih =>
    obtain ⟨lead, hs, hlead⟩ := Text.exists_trimStart s
    refine ih ?_
    rw [hs, Text.allBlank_append, hlead, hblank]
    rfl
  | @trimEnd _ s _ ih =>
    obtain ⟨trail, hs, htrail⟩ := Text.exists_trimEnd s
    refine ih ?_
    rw [hs, Text.allBlank_append, htrail, hblank]
    rfl

/-- Pieces with a separator between them. -/
theorem joinWith {α : Type} {l : List α} {g : α → List Char} {b : α → List (List Char)} (hs : FormulaFree s)
    (h : ∀ a ∈ l, WithFormulas (b a) (g a)) : WithFormulas (l.flatMap b) (Text.joinWith s (l.map g)) := by
  induction l with
  | nil => exact free rfl
  | cons a rest ih =>
    have hrest := ih (fun c hc => h c (List.mem_cons_of_mem a hc))
    have ha := h a List.mem_cons_self
    cases rest with
    | nil =>
      rw [List.flatMap_singleton, List.map_singleton, Text.joinWith_singleton]
      exact ha
    | cons next others =>
      rw [List.flatMap_cons, List.map_cons, List.map_cons, Text.joinWith_cons_cons]
      exact append ha (after hs hrest)

end WithFormulas

end Tex

namespace Formatter

open Tex (WithFormulas FormulaFree NoMath)

/-- The bodies of the formulas that a place comes to when it is rendered no more than so many nodes deep, in the
order of the text: its own for a math node, and else those of the places that the renderer is called for. -/
def formulas (f : Formatter) : Nat → Located → List (List Char)
  | 0, _ => []
  | n + 1, x =>
    match x.node.role with
    | .math => [Text.trim x.node.textContent]
    | _ => (f.calls x).flatMap (f.formulas n)

/-- A formatter that writes the dollar signs of math nodes and no others: no node goes in unescaped but as a
formula, no figure is set elsewhere, and what the formatter inserts has neither dollar signs nor backslashes. -/
structure FormulasOnly (f : Formatter) : Prop where
  role : ∀ x ∈ f.root.visit, x.node.role ≠ .raw ∧ x.node.role ≠ .equation ∧ x.node.role ≠ .listing
  unclaimed : ∀ x ∈ f.root.visit, f.places.isClaimed x = false
  property : ∀ x ∈ f.root.visit, ∀ key text, x.node.property key = some text → NoMath text.toList
  vspace : ∀ name command, f.vspace.get? name = some command → NoMath command.toList
  prefixes : ∀ kind, NoMath (f.prefixOf kind).toList

/-! ## Rules -/

section Rules

variable {f : Formatter} {render : Renderer} {bodies : Located → List (List Char)} {depth : Nat} {x : Located}
  {own : List (List Char)} {s : List Char}

/-- The names of nodes have no part in formulas. -/
theorem FormulasOnly.id (hf : f.FormulasOnly) (hx : x ∈ f.root.visit) {id : String} (hid : x.node.id = some id) :
    NoMath id.toList :=
  hf.property x hx "id" id (Option.filter_eq_some_iff.1 hid).1

/-- Nor have the labels made of them. -/
theorem formulaFree_label (kind : ReferenceKind) {id : String} (hid : NoMath id.toList) :
    FormulaFree (Tex.label kind id) := by
  have hopening : FormulaFree ("\\label\x7b".toList ++ (kind.labelPrefix.toList ++ [':'])) := by cases kind <;> decide
  have htext : Tex.label kind id = "\\label\x7b".toList ++ (kind.labelPrefix.toList ++ [':']) ++
      (id.toList ++ ['\x7d']) := by
    simp [Tex.label, Tex.command, Tex.labelName]
  rw [htext]
  exact hopening.append ((FormulaFree.of_noMath hid).append rfl)

/-- A label behind a text leaves its formulas. -/
theorem formulas_withLabel (hid : ∀ id, x.node.id = some id → NoMath id.toList) (kind : ReferenceKind)
    (h : WithFormulas own s) : WithFormulas own (withLabel x.node kind s) := by
  rw [withLabel, label?]
  cases hx : x.node.id with
  | none => exact h
  | some id => exact h.before (.cons (by decide) (formulaFree_label kind (hid id hx)))

/-- Spacing in front of a node leaves its formulas. -/
theorem formulas_spaced (hf : f.FormulasOnly) (h : WithFormulas own s) : WithFormulas own (f.spaced x.node s) := by
  unfold spaced
  split
  · rename_i command hcommand
    split
    · exact h
    · exact .after (.of_noMath (hf.vspace _ _ hcommand)) (.after (s := ['\n']) rfl h)
  · exact h

/-- Children come to their formulas in turn. -/
theorem formulas_renderChildren (h : ∀ c ∈ x.children, WithFormulas (bodies c) (render depth c)) :
    WithFormulas (x.children.flatMap bodies) (renderChildren render depth x) :=
  .flatMap h

/-- The placement of a float is free of math, also when it is the usual one. -/
theorem noMath_placement (h : ∀ text, x.node.property "placement" = some text → NoMath text.toList) :
    ∀ text ∈ some ((x.node.property "placement").getD "htbp"), NoMath text.toList := by
  rintro text htext
  obtain rfl := Option.some.inj htext
  cases hplacement : x.node.property "placement" with
  | none => decide
  | some placement => exact h placement hplacement

/-- A figure has the formulas of its children. -/
theorem formulas_renderFigure (hf : f.FormulasOnly) (hx : x ∈ f.root.visit)
    (h : ∀ c ∈ x.children, WithFormulas (bodies c) (render depth c)) :
    WithFormulas (x.children.flatMap bodies) (renderFigure render depth x) := by
  have hbody := WithFormulas.after (s := "\\centering\n".toList) rfl (formulas_renderChildren h).trim
  refine .environment ?_ (noMath_placement (hf.property x hx "placement"))
    (formulas_withLabel (fun _ => hf.id hx) .figure hbody)
  split <;> decide

/-- A heading has the formulas of its children, whatever its command. -/
theorem formulas_renderHeading {level : Nat} {sectionId : Option String}
    (hid : ∀ id, x.node.id = some id → NoMath id.toList) (hsection : ∀ id, sectionId = some id → NoMath id.toList)
    (h : ∀ c ∈ x.children, WithFormulas (bodies c) (render 0 c)) :
    WithFormulas (x.children.flatMap bodies) (renderHeading render level sectionId x) := by
  have hlabel : ∀ label, (label? x.node .sectioning).or (sectionId.map (Tex.label .sectioning)) = some label →
      FormulaFree label := by
    intro label hlabel
    rcases Option.or_eq_some_iff.1 hlabel with hown | ⟨-, hsome⟩
    · obtain ⟨id, hx, rfl⟩ := Option.map_eq_some_iff.1 hown
      exact formulaFree_label .sectioning (hid id hx)
    · obtain ⟨id, hx, rfl⟩ := Option.map_eq_some_iff.1 hsome
      exact formulaFree_label .sectioning (hsection id hx)
  unfold renderHeading
  dsimp only
  refine .before (.command (Markup.sectionCommand_mem _ _ ?_) (formulas_renderChildren h).trim)
    (.cons (by decide) (.append ?_ rfl))
  · split
    · exact Or.inr rfl
    · exact Or.inl rfl
  · split
    · rename_i label hsome
      exact (hlabel label hsome).append rfl
    · exact rfl

/-- A section has the formulas of its children, with those of a heading in its place. -/
theorem formulas_renderSection (hf : f.FormulasOnly) (hx : x ∈ f.root.visit)
    (h : ∀ y ∈ f.root.visit, ∀ d, WithFormulas (bodies y) (render d y)) :
    WithFormulas ((x.children.flatMap (fun c => if c.node.name == "heading" then c.children else [c])).flatMap bodies)
      (f.renderSection render depth x) := by
  rw [List.flatMap_assoc]
  refine .flatMap (fun c hc => ?_)
  have hcmem := Node.child_mem_visit hx hc
  rw [renderSectionChild]
  split
  · have hheading : WithFormulas (c.children.flatMap bodies)
        (renderHeading render ((headingLevel? c.node).getD (depth + 1)) x.node.id c) :=
      formulas_renderHeading (fun _ => hf.id hcmem) (fun _ => hf.id hx)
        (fun d hd => h d (Node.child_mem_visit hcmem hd) 0)
    simp only
    split
    · rename_i command hcommand
      exact .after (.of_noMath (hf.vspace _ _ hcommand)) (.after (s := ['\n']) rfl hheading)
    · exact hheading
  · rw [List.flatMap_singleton]
    exact h c hcmem _

/-- A link has the formulas of its children. -/
theorem formulas_renderLink (hf : f.FormulasOnly) (hx : x ∈ f.root.visit)
    (h : ∀ c ∈ x.children, WithFormulas (bodies c) (render depth c)) :
    WithFormulas (x.children.flatMap bodies) (renderLink render depth x) := by
  have htext := formulas_renderChildren h
  rw [renderLink]
  cases hhref : x.node.property "href" with
  | none => exact htext
  | some href =>
    have hurl : FormulaFree (Tex.escapeUrl href.toList) := .escapeUrl (hf.property x hx "href" href hhref)
    simp only
    split
    · rename_i hblank
      rw [htext.eq_nil_of_allBlank hblank]
      exact .command (by decide) (.free hurl)
    · have hcommand : WithFormulas [] (Tex.command "href" (Tex.escapeUrl href.toList)) :=
        .command (by decide) (.free hurl)
      exact .append hcommand (.after (s := ['{']) rfl (.before htext rfl))

/-- A reference has no formulas. -/
theorem formulas_renderReference (hf : f.FormulasOnly) (hx : x ∈ f.root.visit) :
    WithFormulas [] (f.renderReference x.node) := by
  rw [renderReference]
  split
  · exact .free rfl
  · rename_i target htarget
    have hplain : NoMath target.toList := hf.property x hx "target" target (Option.filter_eq_some_iff.1 htarget).1
    split
    · rename_i kind hkind
      have hname : FormulaFree (Tex.labelName kind target) := by
        have hspace : FormulaFree (kind.labelPrefix.toList ++ [':']) := by cases kind <;> decide
        have hall := hspace.append (.of_noMath hplain)
        rwa [List.append_assoc] at hall
      exact .after (.of_noMath (hf.prefixes kind)) (.after (s := ['~']) rfl (.command (by decide) (.free hname)))
    · exact .command (by decide) (.free (.of_noMath hplain))

/-- A citation has no formulas. -/
theorem formulas_renderCitation (hf : f.FormulasOnly) (hx : x ∈ f.root.visit) :
    WithFormulas [] (renderCitation x.node) := by
  have hsource : NoMath (((x.node.property "keys").or (x.node.property "target")).getD "").toList := by
    cases hkeys : (x.node.property "keys").or (x.node.property "target") with
    | none => decide
    | some source =>
      rcases Option.or_eq_some_iff.1 hkeys with hsome | ⟨-, hsome⟩
      · exact hf.property x hx _ _ hsome
      · exact hf.property x hx _ _ hsome
  unfold renderCitation
  extract_lets source keys
  split
  · exact .free rfl
  · have hkeys : ∀ key ∈ keys, WithFormulas [] key :=
      fun key hkey =>
        .free (.of_noMath (fun c hc => hsource c (Text.mem_of_mem_splitWhere (List.mem_of_mem_filter hkey) c hc)))
    have hjoined := WithFormulas.joinWith (s := [',']) (g := fun key => key) rfl hkeys
    rw [List.map_id', List.flatMap_eq_nil_iff.2 (fun _ _ => rfl)] at hjoined
    exact .command (by decide) hjoined

/-- An image has no formulas. -/
theorem formulas_renderImage (hf : f.FormulasOnly) (hx : x ∈ f.root.visit) : WithFormulas [] (renderImage x.node) := by
  rw [renderImage]
  split
  · exact .free rfl
  · rename_i source hsource
    have hplain : NoMath source.toList := by
      rcases Option.or_eq_some_iff.1 hsource with hsome | ⟨-, hsome⟩
      · exact hf.property x hx _ _ hsome
      · exact hf.property x hx _ _ hsome
    have hwidth : FormulaFree ((x.node.property "width").getD "\\linewidth").toList := by
      cases hw : x.node.property "width" with
      | none => decide
      | some width => exact .of_noMath (hf.property x hx "width" width hw)
    have hopening : FormulaFree "\\includegraphics[width=".toList := by decide
    have hend : FormulaFree (source.toList ++ "\x7d\n".toList) := .append (.of_noMath hplain) rfl
    exact .free (hopening.append (.append (hwidth.append rfl) hend))

/-- A row has the formulas of its cells. -/
theorem formulas_renderRow (h : ∀ c ∈ x.children, ∀ d ∈ c.children, WithFormulas (bodies d) (render depth d)) :
    WithFormulas (x.children.flatMap (fun c => c.children.flatMap bodies)) (renderRow render depth x) := by
  have hcells : WithFormulas (x.children.flatMap (fun c => c.children.flatMap bodies))
      (Text.joinWith " & ".toList (x.children.map (fun c => Text.trim (renderChildren render depth c)))) :=
    .joinWith (by decide) (fun c hc => (formulas_renderChildren (h c hc)).trim)
  unfold renderRow
  dsimp only
  refine .before hcells (.append (by decide) ?_)
  split <;> decide

/-- Rows one after another have the formulas of their cells. -/
theorem formulas_renderTabular {rows : List Located}
    (h : ∀ row ∈ rows, ∀ c ∈ row.children, ∀ d ∈ c.children, WithFormulas (bodies d) (render depth d)) :
    WithFormulas (rows.flatMap (fun row => row.children.flatMap (fun c => c.children.flatMap bodies)))
      (renderTabular render depth rows) := by
  have hcolumns : ∀ n, FormulaFree (List.replicate n 'l') := by
    intro n
    induction n with
    | zero => rfl
    | succ n ih => exact .cons (by decide) ih
  have hrows := WithFormulas.flatMap (fun row hrow => formulas_renderRow (h row hrow))
  unfold renderTabular
  exact .after (by decide) (.after (hcolumns _) (.after (by decide) (.before hrows (by decide))))

/-- A table has the formulas of what is no row first, and then those of its cells. -/
theorem formulas_renderTable (hf : f.FormulasOnly) (hx : x ∈ f.root.visit)
    (h : ∀ y ∈ f.root.visit, ∀ d, WithFormulas (bodies y) (render d y)) :
    WithFormulas ((x.children.filter (fun child => !child.node.isRow) ++
        (x.children.filter (fun child => child.node.isRow)).flatMap
          (fun row => row.children.flatMap Located.children)).flatMap bodies)
      (renderTable render depth x) := by
  have hchild : ∀ p, ∀ c ∈ x.children.filter p, c ∈ f.root.visit :=
    fun p c hc => Node.child_mem_visit hx (List.mem_of_mem_filter hc)
  have hothers := WithFormulas.flatMap (fun c hc => h c (hchild (fun child => !child.node.isRow) c hc) depth)
  have hrows : WithFormulas ((x.children.filter (fun child => child.node.isRow)).flatMap
        (fun row => row.children.flatMap (fun c => c.children.flatMap bodies)))
      (if (x.children.filter (fun child => child.node.isRow)).isEmpty then []
        else renderTabular render depth (x.children.filter (fun child => child.node.isRow))) := by
    split
    · rename_i hempty
      rw [List.isEmpty_iff.1 hempty]
      exact .free rfl
    · refine formulas_renderTabular (fun row hrow c hc d hd => h d ?_ depth)
      exact Node.child_mem_visit (Node.child_mem_visit (hchild _ row hrow) hc) hd
  have hbody := WithFormulas.after (s := "\\centering\n".toList) rfl (.append hothers hrows)
  rw [List.flatMap_append, List.flatMap_assoc]
  simp only [List.flatMap_assoc]
  exact .environment (by decide) (noMath_placement (hf.property x hx "placement"))
    (formulas_withLabel (fun _ => hf.id hx) .table hbody.trimEnd)

/-- What a node becomes has its own formula, or those of the places that the renderer is called for. -/
theorem formulas_renderNode (hf : f.FormulasOnly) (hx : x ∈ f.root.visit)
    (h : ∀ y ∈ f.root.visit, ∀ d, WithFormulas (bodies y) (render d y)) :
    WithFormulas (match x.node.role with | .math => [Text.trim x.node.textContent] | _ => (f.calls x).flatMap bodies)
      (f.renderNode render depth x) := by
  have hbelow : ∀ d, ∀ c ∈ x.children, WithFormulas (bodies c) (render d c) :=
    fun d c hc => h c (Node.child_mem_visit hx hc) d
  have hchildren := formulas_renderChildren (hbelow depth)
  cases hrole : x.node.role with
  | raw => exact absurd hrole (hf.role x hx).1
  | equation => exact absurd hrole (hf.role x hx).2.1
  | listing => exact absurd hrole (hf.role x hx).2.2
  | math =>
    simp only [renderNode, hrole]
    exact .formula _
  | text =>
    simp only [renderNode, calls, hrole]
    refine .styled _ ?_
    rw [renderText]
    cases hvalue : x.node.value with
    | none => exact hchildren
    | some value =>
      have hleaf : x.node.isLeaf = true := by rw [Node.isLeaf, hvalue]; rfl
      simp only [Located.children_of_isLeaf hleaf, List.flatMap_nil]
      exact .free (.escape _)
  | sectioning =>
    simp only [renderNode, calls, hrole]
    exact formulas_renderSection hf hx h
  | heading =>
    simp only [renderNode, calls, hrole]
    exact formulas_renderHeading (fun _ => hf.id hx) (by simp) (hbelow 0)
  | paragraph =>
    simp only [renderNode, calls, hrole]
    exact hchildren.trim.block
  | span =>
    simp only [renderNode, calls, hrole]
    exact hchildren.styled _
  | emphasis =>
    simp only [renderNode, calls, hrole]
    exact .styled _ (.command (by decide) hchildren)
  | strong =>
    simp only [renderNode, calls, hrole]
    exact .styled _ (.command (by decide) hchildren)
  | code =>
    simp only [renderNode, calls, hrole]
    exact .styled _ (.command (by decide) (.free (.escape _)))
  | link =>
    simp only [renderNode, calls, hrole]
    exact .styled _ (formulas_renderLink hf hx (hbelow depth))
  | reference =>
    simp only [renderNode, calls, hrole]
    exact .styled _ (formulas_renderReference hf hx)
  | citation =>
    simp only [renderNode, calls, hrole]
    exact formulas_renderCitation hf hx
  | figure =>
    simp only [renderNode, calls, hrole, hf.unclaimed x hx, Bool.false_eq_true, if_false]
    exact formulas_renderFigure hf hx (hbelow depth)
  | image =>
    simp only [renderNode, calls, hrole]
    exact formulas_renderImage hf hx
  | caption =>
    simp only [renderNode, calls, hrole]
    exact .before (.command (by decide) hchildren.trim) rfl
  | table =>
    simp only [renderNode, calls, hrole]
    exact formulas_renderTable hf hx h
  | list =>
    simp only [renderNode, calls, hrole, renderList]
    refine .environment ?_ (by simp) hchildren.trimEnd
    split <;> decide
  | item =>
    simp only [renderNode, calls, hrole]
    exact .after (by decide) (.before hchildren.trim rfl)
  | quote =>
    simp only [renderNode, calls, hrole]
    exact .environment (by decide) (by simp) hchildren.trim
  | lineBreak =>
    simp only [renderNode, calls, hrole]
    exact .free (by decide)
  | container =>
    simp only [renderNode, calls, hrole]
    exact hchildren

end Rules

/-! ## Documents -/

variable {f : Formatter}

/-- What is rendered has the formulas of the math nodes that are rendered. The induction is on the depth. -/
theorem formulas_render (hf : f.FormulasOnly) (n : Nat) :
    ∀ x ∈ f.root.visit, ∀ depth, WithFormulas (f.formulas n x) (f.render n depth x) := by
  induction n with
  | zero =>
    intro x _ depth
    exact .free rfl
  | succ n ih =>
    intro x hx depth
    exact formulas_spaced hf (formulas_renderNode hf hx ih)

/-- The body of a formula is what a math node of the tree holds. -/
theorem exists_math_of_mem_formulas (hf : f.OfTree) {body : List Char} (n : Nat) :
    ∀ x ∈ f.root.visit, body ∈ f.formulas n x → ∃ y ∈ f.root.visit, y.node.role = .math ∧
      body = Text.trim y.node.textContent := by
  induction n with
  | zero => exact fun x _ hbody => absurd hbody List.not_mem_nil
  | succ n ih =>
    intro x hx hbody
    rw [formulas] at hbody
    split at hbody
    · rename_i hrole
      exact ⟨x, hx, hrole, List.mem_singleton.1 hbody⟩
    · obtain ⟨y, hy, hbody⟩ := List.mem_flatMap.1 hbody
      obtain ⟨b, hb, c, hc, hyc⟩ := leadsTo_of_mem_calls hy
      have hbmem : b ∈ f.root.visit := by
        rcases hb with hplaced | rfl
        · exact mem_visit_of_placed hf hplaced
        · exact hx
      exact ih y (Located.mem_visit_of_mem_subtree (Node.child_mem_visit hbmem hc) hyc) hbody

end Formatter

open Tex (NoMath) in
/-- Math nodes come out as inline formulas. In a document without raw nodes, equations and listings, in which no
math node holds a dollar sign or a marker and no property, spacing or word in front of references has a dollar sign
or a backslash, the main text opens no display, has as many inline formulas as math nodes are rendered, and ends
outside them, exactly when each of these math nodes has something besides blanks and does not end in a backslash
that takes the dollar sign behind it. -/
theorem inline_math_iff (root : Node) (options : Options) (citations : Option Citations)
    (hroles : ∀ x ∈ root.visit, x.node.role ≠ .raw ∧ x.node.role ≠ .equation ∧ x.node.role ≠ .listing)
    (hmath : ∀ x ∈ root.visit, x.node.role = .math → Tex.Admitted x.node.textContent)
    (hproperties : ∀ x ∈ root.visit, ∀ e ∈ x.node.properties.entries, NoMath e.2.toList)
    (hvspace : ∀ e ∈ options.vspace.entries, NoMath e.2.toList)
    (hprefixes : ∀ e ∈ options.prefixes.entries, NoMath e.2.toList) :
    let f := Formatter.ofDocument root options citations
    let bodies := f.mainChildren.flatMap (f.formulas f.fuel)
    ((Tex.scanMath f.content).mode = .text ∧ (Tex.scanMath f.content).formulas = bodies.length) ↔
      ∀ body ∈ bodies, body ≠ [] ∧ ¬Odd (Bibtex.backslashes body) := by
  intro f bodies
  have hdirectives : ∀ x ∈ root.visit, x.node.directive? = none := fun x hx => Node.directive?_of_role (hroles x hx).1
  have hf : f.FormulasOnly :=
    { role := hroles
      unclaimed := fun x _ => Places.isClaimed_eq_false hdirectives x
      property := fun x hx _ _ htext => hproperties x hx _ (Dictionary.mem_of_find? htext)
      vspace := fun _ _ hcommand => hvspace _ (Dictionary.mem_of_find? hcommand)
      prefixes := Options.prefixOf_of_forall (P := fun text => NoMath text.toList) hprefixes
        (fun kind => by cases kind <;> decide) }
  have htext : Tex.WithFormulas bodies (f.mainChildren.flatMap (f.render f.fuel 0)) :=
    .flatMap (fun c hc => Formatter.formulas_render hf _ c (Formatter.mem_visit_of_mem_mainChildren hc) 0)
  refine Tex.scanMath_tidy_iff htext (fun body hbody => ?_)
  obtain ⟨c, hc, hbody⟩ := List.mem_flatMap.1 hbody
  obtain ⟨y, hy, hrole, rfl⟩ :=
    Formatter.exists_math_of_mem_formulas (f := f) rfl _ c (Formatter.mem_visit_of_mem_mainChildren hc) hbody
  obtain ⟨lead, trail, hsplit, -, -⟩ := Text.exists_trim y.node.textContent
  have hadmitted := hmath y hy hrole
  rw [hsplit] at hadmitted
  exact fun c hc => hadmitted c (by simp [hc])

/-- A math node. -/
def mathNode (body : String) : Node where
  name := "math"
  content := .value body

/-- Formulas next to one another, in emphasized text with a price, and in a caption; a row takes none of them for a
cell. -/
def formulaSheet : Node where
  name := "article"
  content := .children
    [{ name := "ul"
       content := .children
        [{ name := "item"
           content := .children
            [mathNode "x", mathNode " y\\\\ ",
              { name := "em", content := .children [.text "$5 ", mathNode "a\\ b"] }] }] },
      { name := "figure", content := .children [{ name := "caption", content := .children [mathNode "z"] }] },
      { name := "table", content := .children [{ name := "row", content := .children [mathNode "lost"] }] }]

/-- The sheet has four formulas, and its text scans as inline formulas only. -/
theorem formulaSheet_inline :
    let f := Formatter.ofDocument formulaSheet {} none
    f.mainChildren.flatMap (f.formulas f.fuel) = ["x", "y\\\\", "a\\ b", "z"].map String.toList ∧
      (Tex.scanMath f.content).mode = .text ∧ (Tex.scanMath f.content).formulas = 4 := by
  intro f
  have hbodies : f.mainChildren.flatMap (f.formulas f.fuel) =
    ["x", "y\\\\", "a\\ b", "z"].map String.toList := by decide +kernel
  have hiff := inline_math_iff formulaSheet {} none (by decide +kernel) (by decide +kernel) (by decide +kernel)
    (by decide) (by decide)
  have hinline := hiff.2 (by decide +kernel)
  refine ⟨hbodies, hinline.1, hinline.2.trans ?_⟩
  exact congrArg List.length hbodies

/-- An article with one formula in it. -/
def oneFormula (body : String) : Node where
  name := "article"
  content := .children [{ name := "p", content := .children [mathNode body] }]

/-- A formula without a body opens a display, and one that ends in a backslash is never closed. -/
theorem display_opened_or_formula_left_open :
    (Formatter.ofDocument (oneFormula " ") {} none).content = "$$".toList ∧ (Tex.scanMath "$$".toList).mode = .display ∧
      (Formatter.ofDocument (oneFormula "a\\ ") {} none).content = "$a\\$".toList ∧
      (Tex.scanMath "$a\\$".toList).mode = .inline := by
  decide +kernel

end Manuscript
