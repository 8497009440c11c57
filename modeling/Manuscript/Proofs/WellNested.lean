import Manuscript.Proofs.Braces
import Manuscript.Proofs.CallLaw
import Manuscript.Proofs.Rendering

/-!
# Generated text is well nested

When the texts that go in unescaped are harmless, everything that a formatter writes has balanced braces, and its
environments are properly nested (`wellNested_output`). This holds however deep a tree is rendered, so nothing is
asked of the directives in it.
-/

namespace Manuscript

namespace Tex

/-- The open environments after a mark, innermost first: one more after a beginning, and one less after the end of
the innermost. -/
def nest (opened : List (List Char)) (mark : Call) : Option (List (List Char)) :=
  if mark.1 = "begin".toList then some (mark.2 :: opened)
  else
    match opened with
    | [] => none
    | inner :: outer => if inner = mark.2 then some outer else none

/-- The marks of environments in a text form a properly nested sequence, with matching names. -/
def Nested (s : List Char) : Prop :=
  (calls environmentCalls s).foldlM nest [] = some []

instance (s : List Char) : Decidable (Nested s) :=
  inferInstanceAs (Decidable (_ = _))

/-- The braces of a text are balanced and its environments are nested. -/
def WellNested (s : List Char) : Prop :=
  Balanced s ∧ Nested s

/-- Harmless text begins and ends no environment. -/
theorem quiet_of_harmless {s : List Char} (h : Harmless s) : Quiet environmentCalls s := by
  refine ⟨fun w hw hpart => ?_, h.noMarker⟩
  have hlonger : ('\\' :: w) <:+: s := by
    refine List.IsInfix.trans ?_ hpart
    exact ⟨[], ['{'], rfl⟩
  rw [environmentCalls, List.mem_cons, List.mem_singleton] at hw
  rcases hw with rfl | rfl
  · exact h.noBegin hlonger
  · exact h.noEnd hlonger

/-! ## Harmless names -/

/-- A text that begins with a missing character is no part. -/
theorem not_infix_of_not_mem {c : Char} {s t : List Char} (h : c ∉ s) : ¬(c :: t) <:+: s :=
  fun hpart => h (hpart.subset List.mem_cons_self)

/-- Without a backslash there is none to bind. -/
theorem backslashesBound_of_not_mem {s : List Char} (h : '\\' ∉ s) : backslashesBound s = true := by
  induction s with
  | nil => rfl
  | cons c rest ih =>
    rw [List.mem_cons, not_or] at h
    rw [backslashesBound, ih h.2, Bool.and_true, Bool.or_eq_true, bne_iff_ne]
    exact Or.inl (Ne.symm h.1)

/-- A bare name is harmless. -/
theorem Bare.harmless {s : List Char} (h : Bare s) : Harmless s where
  balanced := balanced_of_read (braceReader_read_bare h 0)
  noBegin := not_infix_of_not_mem h.noBackslash
  noEnd := not_infix_of_not_mem h.noBackslash
  bound := backslashesBound_of_not_mem h.noBackslash
  noMarker := h.noMarker

theorem escapeUrl_cons (c : Char) (s : List Char) :
    escapeUrl (c :: s) = (if c = '%' ∨ c = '#' then ['\\', c] else [c]) ++ escapeUrl s := by
  rw [escapeUrl, escapeUrl, List.flatMap_cons]
  by_cases hpercent : c = '%'
  · subst hpercent
    rfl
  · by_cases hhash : c = '#'
    · subst hhash
      rfl
    · simp only [hpercent, hhash, if_false, or_self]

/-- In the target of a link only `%` and `#` come after a backslash. -/
theorem not_infix_escapeUrl {s t : List Char} {d : Char} (h : Bare s) (hd : d ≠ '%' ∧ d ≠ '#') :
    ¬('\\' :: d :: t) <:+: escapeUrl s := by
  induction s with
  | nil => simp [escapeUrl]
  | cons c rest ih =>
    have hrest := ih (h.subset (fun b hb => List.mem_cons_of_mem c hb))
    have hback : '\\' ≠ c := fun hc => h.noBackslash (hc ▸ List.mem_cons_self)
    rw [escapeUrl_cons]
    split
    · rename_i hc
      rw [List.cons_append, List.singleton_append, List.infix_cons_iff, List.infix_cons_iff, List.cons_prefix_cons,
        List.cons_prefix_cons, List.cons_prefix_cons]
      rintro (⟨-, rfl, -⟩ | ⟨heq, -⟩ | hpart)
      · exact hc.elim hd.1 hd.2
      · exact hback heq
      · exact hrest hpart
    · rw [List.singleton_append, List.infix_cons_iff, List.cons_prefix_cons]
      rintro (⟨heq, -⟩ | hpart)
      · exact hback heq
      · exact hrest hpart

/-- The target of a link is harmless when it is bare. -/
theorem harmless_escapeUrl {s : List Char} (h : Bare s) : Harmless (escapeUrl s) where
  balanced := by
    suffices hread : (braceReader fun _ => false).read (0, false) (escapeUrl s) =
      some (0, false) from balanced_of_read hread
    induction s with
    | nil => rfl
    | cons c rest ih =>
      have hread := ih (h.subset (fun b hb => List.mem_cons_of_mem c hb))
      rw [escapeUrl_cons]
      split
      · exact hread
      · rw [List.singleton_append, Reader.read_cons, braceReader_step_other
          (fun hc => h.noBackslash (hc ▸ List.mem_cons_self)) (fun hc => h.noOpening (hc ▸ List.mem_cons_self))
          (fun hc => h.noClosing (hc ▸ List.mem_cons_self))]
        exact hread
  noBegin := not_infix_escapeUrl h (by decide)
  noEnd := not_infix_escapeUrl h (by decide)
  bound := by
    induction s with
    | nil => rfl
    | cons c rest ih =>
      have hbound := ih (h.subset (fun b hb => List.mem_cons_of_mem c hb))
      have hback : c ≠ '\\' := fun hc => h.noBackslash (hc ▸ List.mem_cons_self)
      rw [escapeUrl_cons]
      split
      · rename_i hc
        have hblank : Text.isBlank c = false := by rcases hc with rfl | rfl <;> rfl
        simp [backslashesBound, hback, hblank, hbound]
      · simp [backslashesBound, hback, hbound]
  noMarker := by
    intro c hc
    rw [escapeUrl, List.mem_flatMap] at hc
    obtain ⟨d, hd, hc⟩ := hc
    split at hc
    · rcases List.mem_pair.1 hc with rfl | rfl <;> rfl
    · split at hc
      · rcases List.mem_pair.1 hc with rfl | rfl <;> rfl
      · rw [List.mem_singleton.1 hc]
        exact h.noMarker d hd

/-! ## Environments -/

/-- Text without backslashes leaves a settled reader as it was. -/
theorem callReader_read_of_not_mem {τ : Type} {names : List (List Char)} {enter : τ → Call → Option τ} {s : List Char}
    (h : '\\' ∉ s) (t : τ) : (callReader names enter).read (.plain, t) s = some (.plain, t) := by
  induction s with
  | nil => rfl
  | cons c rest ih =>
    rw [List.mem_cons, not_or] at h
    have hstep : (callReader names enter).step (.plain, t) c = some (.plain, t) := by
      simp [callReader, CallMode.next, Ne.symm h.1]
    rw [Reader.read_cons, hstep]
    exact ih h.2

/-- Markup is read without a change to the open environments. -/
theorem nestLaw : CallLaw environmentCalls nest (fun _ opened => opened) Harmless (fun id => Bare id.toList) where
  effect_nil _ := rfl
  effect_append _ _ _ := rfl
  known := List.mem_cons_self
  environment := by
    intro name hname opened
    refine ⟨name.toList :: opened, ?_⟩
    simp only [environmentNames, List.mem_cons, List.not_mem_nil, or_false] at hname
    rcases hname with rfl | rfl | rfl | rfl | rfl | rfl | rfl | rfl | rfl | rfl <;> exact ⟨rfl, fun _ => rfl⟩
  label := by
    intro kind id hid opened
    have hopening : (callReader environmentCalls nest).read (.plain, opened) "\\label\x7b".toList =
        some (.plain, opened) := rfl
    have hname : '\\' ∉ kind.labelPrefix.toList ++ [':'] := by
      cases kind <;> decide
    have htext : label kind id = "\\label\x7b".toList ++
        (kind.labelPrefix.toList ++ [':'] ++ (id.toList ++ ['}'])) := by
      simp [label, command, labelName]
    rw [htext, (callReader environmentCalls nest).read_append_of_eq hopening]
    refine callReader_read_of_not_mem ?_ opened
    simp only [List.mem_append, not_or] at hname ⊢
    exact ⟨hname, hid.noBackslash, by decide⟩
  plain _ := quiet_of_harmless

/-- The environments of markup are nested. -/
theorem wellNested_of_markup {e : Ending} {s : List Char} {l : List Label}
    (hs : Markup Harmless (fun id => Bare id.toList) e s l) : WellNested s :=
  ⟨balanced_of_markup hs, nestLaw.foldlM_calls hs []⟩

end Tex

/-! ## Documents -/

/-- The properties that a formatter inserts as names. -/
def bareProperties : List String :=
  ["id", "href", "src", "placement", "target", "keys"]

/-- Whether the text of a node goes in as it is, children and all. -/
def Node.holdsSource (node : Node) : Bool :=
  node.role == .math || node.role == .equation || node.role == .listing

/-- What a tree and options insert without escaping is harmless. -/
structure HarmlessInput (root : Node) (options : Options) : Prop where
  names : ∀ x ∈ root.visit, ∀ key ∈ bareProperties, ∀ text ∈ x.node.property key, Tex.Bare text.toList
  raw : ∀ x ∈ root.visit, x.node.isRawTex = true → Tex.Harmless (x.node.value.getD "").toList
  source : ∀ x ∈ root.visit, x.node.holdsSource = true → Tex.Harmless x.node.textContent
  widths : ∀ x ∈ root.visit, ∀ text ∈ x.node.property "width", Tex.Harmless text.toList
  vspace : ∀ e ∈ options.vspace.entries, Tex.Harmless e.2.toList
  prefixes : ∀ e ∈ options.prefixes.entries, Tex.Harmless e.2.toList

instance (root : Node) (options : Options) : Decidable (HarmlessInput root options) :=
  decidable_of_iff
    ((∀ x ∈ root.visit, ∀ key ∈ bareProperties, ∀ text ∈ x.node.property key, Tex.Bare text.toList) ∧
      (∀ x ∈ root.visit, x.node.isRawTex = true → Tex.Harmless (x.node.value.getD "").toList) ∧
      (∀ x ∈ root.visit, x.node.holdsSource = true → Tex.Harmless x.node.textContent) ∧
      (∀ x ∈ root.visit, ∀ text ∈ x.node.property "width", Tex.Harmless text.toList) ∧
      (∀ e ∈ options.vspace.entries, Tex.Harmless e.2.toList) ∧ ∀ e ∈ options.prefixes.entries, Tex.Harmless e.2.toList)
    ⟨fun ⟨h₁, h₂, h₃, h₄, h₅, h₆⟩ => ⟨h₁, h₂, h₃, h₄, h₅, h₆⟩, fun h => ⟨h.1, h.2, h.3, h.4, h.5, h.6⟩⟩

namespace HarmlessInput

variable {root : Node} {options : Options}

/-- The texts that a node inserts are harmless. -/
theorem inserted (h : HarmlessInput root options) {x : Located} (hx : x ∈ root.visit) :
    ∀ s ∈ x.node.inserted, Tex.Harmless s := by
  have hname : ∀ key ∈ bareProperties, ∀ s ∈ (x.node.property key).toList.map (·.toList), Tex.Bare s := by
    intro key hkey s hs
    obtain ⟨text, htext, rfl⟩ := List.mem_map.1 hs
    exact h.names x hx key hkey text (Option.mem_toList.1 htext)
  intro s hs
  rw [Node.inserted] at hs
  cases hrole : x.node.role with
  | raw =>
    simp only [hrole] at hs
    split at hs
    · rename_i hraw
      rw [Bool.and_eq_true] at hraw
      rw [List.mem_singleton.1 hs]
      exact h.raw x hx hraw.1
    · exact absurd hs List.not_mem_nil
  | link =>
    simp only [hrole] at hs
    obtain ⟨href, hhref, rfl⟩ := List.mem_map.1 hs
    exact Tex.harmless_escapeUrl (h.names x hx "href" (by decide) href (Option.mem_toList.1 hhref))
  | reference =>
    simp only [hrole] at hs
    exact (hname "target" (by decide) s hs).harmless
  | citation =>
    simp only [hrole, Text.words] at hs
    have hsource : Tex.Bare (((x.node.property "keys").or (x.node.property "target")).getD "").toList := by
      cases hkeys : x.node.property "keys" with
      | some keys => exact h.names x hx "keys" (by decide) keys hkeys
      | none =>
        cases htarget : x.node.property "target" with
        | some target => exact h.names x hx "target" (by decide) target htarget
        | none => exact ⟨List.not_mem_nil, List.not_mem_nil, List.not_mem_nil, fun c hc => absurd hc List.not_mem_nil⟩
    exact (hsource.subset (Text.mem_of_mem_splitWhere (List.mem_of_mem_filter hs))).harmless
  | figure =>
    simp only [hrole] at hs
    exact (hname "placement" (by decide) s hs).harmless
  | table =>
    simp only [hrole] at hs
    exact (hname "placement" (by decide) s hs).harmless
  | image =>
    simp only [hrole] at hs
    rcases List.mem_append.1 hs with hs | hs
    · obtain ⟨width, hwidth, rfl⟩ := List.mem_map.1 hs
      exact h.widths x hx width (Option.mem_toList.1 hwidth)
    · obtain ⟨source, hsource, rfl⟩ := List.mem_map.1 hs
      rcases Option.or_eq_some_iff.1 (Option.mem_toList.1 hsource) with hsource | ⟨-, hsource⟩
      · exact (h.names x hx "src" (by decide) source hsource).harmless
      · exact (h.names x hx "href" (by decide) source hsource).harmless
  | math | equation | listing =>
    simp only [hrole] at hs
    rw [List.mem_singleton.1 hs]
    exact h.source x hx (by rw [Node.holdsSource, hrole]; rfl)
  | text | sectioning | heading | paragraph | span | emphasis | strong | code | caption | list | item | quote
      | lineBreak | container =>
    simp only [hrole] at hs
    exact absurd hs List.not_mem_nil

/-- The formatter of a harmless input admits harmless text and bare names. -/
theorem admits (h : HarmlessInput root options) (citations : Option Citations) :
    (Formatter.ofDocument root options citations).Admits Tex.Harmless (fun id => Tex.Bare id.toList) := by
  refine Formatter.admits_ofDocument citations (fun x hx => h.inserted hx) (fun x hx id hid => ?_) h.vspace h.prefixes
    (fun kind => ?_)
  · exact h.names x hx "id" (by decide) id (Option.filter_eq_some_iff.1 hid).1
  · cases kind <;> decide +kernel

end HarmlessInput

/-- When what goes in unescaped is harmless, the main text, and the text of each node and of what it holds, are well
nested. -/
theorem wellNested_output (root : Node) (options : Options) (citations : Option Citations)
    (h : HarmlessInput root options) :
    Tex.WellNested (Formatter.ofDocument root options citations).content ∧
      ∀ x ∈ root.visit, Tex.WellNested ((Formatter.ofDocument root options citations).tex x) ∧
        Tex.WellNested ((Formatter.ofDocument root options citations).fragment x) := by
  have hf := h.admits citations
  refine ⟨Tex.wellNested_of_markup (Formatter.markup_content hf), fun x hx => ⟨?_, ?_⟩⟩
  · exact Tex.wellNested_of_markup (Formatter.markup_tex hf hx)
  · exact Tex.wellNested_of_markup (Formatter.markup_fragment hf hx)

/-- A figure with a picture and a caption, to be set at a directive, an equation, and LaTeX of its own in between. -/
def placedCat : Node where
  name := "article"
  content := .children
    [.raw "tex" "\\place\x7bcat\x7d",
      { name := "section"
        content := .children
          [({ name := "heading", content := .children [.text "Cats & \x7bdogs\x7d"] } : Node).withId "intro",
            ({ name := "figure"
               content := .children
                [(({ name := "image" } : Node).withProperty "src" "cat.png").withProperty "width" "0.5\\linewidth",
                  { name := "caption", content := .children [.text "50% cat"] }] } : Node).withId "cat"] },
      .raw "tex" "\\newcommand\x7b\\cat\x7d\x7b\\emph\x7bcat\x7d\x7d",
      ({ name := "equation", content := .value "a_\x7b1\x7d = \\\x7b b \\\x7d" } : Node).withId "set"]

/-- A figure that is placed elsewhere, with space around it. -/
theorem wellNested_placedCat :
    Tex.WellNested
      (Formatter.ofDocument placedCat { vspace := Dictionary.insert ∅ "figure" "\\vspace\x7b1em\x7d" } none).content :=
  (wellNested_output placedCat { vspace := Dictionary.insert ∅ "figure" "\\vspace\x7b1em\x7d" } none
    (by decide +kernel)).1

end Manuscript
