import Manuscript.Proofs.Blank
import Manuscript.Tex.Tidy

/-!
# Readers

A reader goes through a text from left to right and keeps a state; it may refuse a character. Properties of
generated text are stated as what a reader says of it. Formatting moves blanks about: it trims, collapses blank
lines and takes the markers out. So the readers of interest are those that cannot tell one run of blanks from
another (`BlankLaw`) and that a marker leaves no wiser (`MarkerLaw`). For these the main statements are that
trimming and tidying do not change what they say (`read_trimStart`, `exists_read_trimEnd`, `exists_read_tidy`).
-/

namespace Manuscript

/-- What a reader does with one character in a state; it may refuse the character. -/
structure Reader (σ : Type) where
  step : σ → Char → Option σ

namespace Reader

variable {σ : Type} (r : Reader σ)

/-- The state after a text, unless a character was refused. -/
def read (q : σ) (s : List Char) : Option σ :=
  s.foldlM r.step q

@[simp]
theorem read_nil (q : σ) : r.read q [] = some q := rfl

theorem read_cons (q : σ) (c : Char) (s : List Char) :
    r.read q (c :: s) = (r.step q c).bind (fun p => r.read p s) := rfl

theorem read_append (q : σ) (s t : List Char) : r.read q (s ++ t) = (r.read q s).bind (fun p => r.read p t) :=
  List.foldlM_append

theorem read_singleton (q : σ) (c : Char) : r.read q [c] = r.step q c := by
  rw [read_cons]
  cases r.step q c <;> rfl

/-- The second text is read from where the first one leads. -/
theorem read_append_of_eq {q p : σ} {s : List Char} (h : r.read q s = some p) (t : List Char) :
    r.read q (s ++ t) = r.read p t := by
  rw [read_append, h]
  rfl

/-! ## Blanks -/

/-- The reader does the same at every blank, and at a blank after a blank nothing more. -/
structure BlankLaw : Prop where
  same : ∀ q c, Text.isBlank c = true → r.step q c = r.step q '\n'
  again : ∀ q p, r.step q '\n' = some p → r.step p '\n' = some p

variable {r}

/-- A run of blanks is read as one end of line. -/
theorem BlankLaw.read_blanks (h : r.BlankLaw) (q : σ) {s : List Char} (hs : Text.allBlank s = true) (hne : s ≠ []) :
    r.read q s = r.step q '\n' := by
  induction s generalizing q with
  | nil => exact absurd rfl hne
  | cons c rest ih =>
    rw [Text.allBlank_iff] at hs
    rw [read_cons, h.same q c (hs c (by simp))]
    have hrest : Text.allBlank rest = true := (Text.allBlank_iff rest).2 (fun d hd => hs d (by simp [hd]))
    cases hq : r.step q '\n' with
    | none => rfl
    | some p =>
      rw [Option.bind_some]
      by_cases hnil : rest = []
      · rw [hnil, read_nil]
      · rw [ih p hrest hnil, h.again q p hq]

/-- Blanks leave a state as it is that an end of line leaves as it is. -/
theorem BlankLaw.read_blanks_idle (h : r.BlankLaw) {q : σ} (hq : r.step q '\n' = some q) {s : List Char}
    (hs : Text.allBlank s = true) : r.read q s = some q := by
  by_cases hne : s = []
  · rw [hne, read_nil]
  · rw [h.read_blanks q hs hne, hq]

/-- Two runs of blanks are read alike. -/
theorem BlankLaw.read_blanks_congr (h : r.BlankLaw) (q : σ) {s t : List Char} (hs : Text.allBlank s = true)
    (ht : Text.allBlank t = true) (hiff : s = [] ↔ t = []) : r.read q s = r.read q t := by
  by_cases hne : s = []
  · rw [hne, hiff.1 hne]
  · rw [h.read_blanks q hs hne, h.read_blanks q ht (fun ht' => hne (hiff.2 ht'))]

/-- Line ends are blank. -/
theorem allBlank_replicate (n : Nat) : Text.allBlank (List.replicate n '\n') = true := by
  rw [Text.allBlank_iff]
  intro c hc
  rw [List.eq_of_mem_replicate hc]
  rfl

/-- Ends of line that are written are read as those that were met. -/
theorem BlankLaw.read_breaks (h : r.BlankLaw) (q : σ) (n : Nat) :
    r.read q (Tex.breaks n) = r.read q (List.replicate n '\n') := by
  refine h.read_blanks_congr q (allBlank_replicate _) (allBlank_replicate _) ?_
  rw [Tex.breaks, List.replicate_eq_nil_iff, List.replicate_eq_nil_iff]
  omega

/-- Blanks in front of an end of line are not read. -/
theorem BlankLaw.read_line_end (h : r.BlankLaw) (q : σ) {trail : List Char} (ht : Text.allBlank trail = true)
    (t : List Char) : r.read q (trail ++ '\n' :: t) = r.read q ('\n' :: t) := by
  have heq : r.read q (trail ++ ['\n']) = r.read q ['\n'] := by
    refine h.read_blanks_congr q ?_ rfl (by simp)
    rw [Text.allBlank_append, ht]
    rfl
  rw [← List.singleton_append, ← List.append_assoc, read_append, heq, ← read_append]

/-- Lines that are joined again are read as the lines with their ends. -/
theorem BlankLaw.read_collapseLines (h : r.BlankLaw) :
    ∀ (lines : List (List Char)) (n : Nat) (q : σ), lines ≠ [] →
      r.read q (Tex.collapseLines n lines) = r.read q (List.replicate n '\n' ++ Text.joinWith ['\n'] lines)
  | [], _, _, hne => absurd rfl hne
  | [last], n, q, _ => by
    rw [Tex.collapseLines, Text.joinWith_singleton]
    split
    · rename_i hl
      rw [List.isEmpty_iff.1 hl, List.append_nil, h.read_breaks]
    · rw [read_append, read_append, h.read_breaks]
  | line :: next :: rest, n, q, _ => by
    have ih := h.read_collapseLines (next :: rest)
    obtain ⟨trail, hline, htrail⟩ := Text.exists_trimEnd line
    rw [Tex.collapseLines, Text.joinWith_cons_cons]
    · split
      · -- The line is blank: its end joins the ends of line before it.
        rename_i hk
        have hblank : Text.allBlank line = true := Text.allBlank_of_trimEnd_eq_nil (List.isEmpty_iff.1 hk)
        rw [ih (n + 1) q (by simp), ← List.append_assoc, ← List.append_assoc, read_append, read_append]
        congr 1
        refine h.read_blanks_congr q (allBlank_replicate _) ?_ (by simp [List.replicate_eq_nil_iff])
        rw [Text.allBlank_append, Text.allBlank_append, allBlank_replicate, hblank]
        rfl
      · rw [read_append, read_append, h.read_breaks]
        congr 1
        funext p
        rw [read_append]
        conv => rhs; rw [hline, List.append_assoc, read_append]
        congr 1
        funext p'
        rw [ih 1 p' (by simp), List.singleton_append, h.read_line_end p' htrail]
        rfl
    · simp

/-- Collapsing blank lines changes nothing that the reader could tell. -/
theorem BlankLaw.read_collapseBlankLines (h : r.BlankLaw) (q : σ) (s : List Char) :
    r.read q (Tex.collapseBlankLines s) = r.read q s := by
  rw [Tex.collapseBlankLines, h.read_collapseLines _ 0 q (Text.splitWhere_ne_nil _ _), List.replicate_zero,
    List.nil_append, Text.joinWith_splitWhere]

/-- From a state that blanks leave as it is, the blanks at the start of a text are not read. -/
theorem BlankLaw.read_trimStart (h : r.BlankLaw) {q : σ} (hq : r.step q '\n' = some q) (s : List Char) :
    r.read q (Text.trimStart s) = r.read q s := by
  obtain ⟨lead, hs, hb⟩ := Text.exists_trimStart s
  conv => rhs; rw [hs, r.read_append_of_eq (h.read_blanks_idle hq hb)]

/-- A text that is read is read without the blanks at its end, and these are all that is missing. -/
theorem exists_read_trimEnd {q p : σ} {s : List Char} (hs : r.read q s = some p) :
    ∃ trail m, Text.allBlank trail = true ∧ r.read q (Text.trimEnd s) = some m ∧ r.read m trail = some p := by
  obtain ⟨trail, heq, hb⟩ := Text.exists_trimEnd s
  rw [heq, read_append] at hs
  obtain ⟨m, hm, hp⟩ := Option.bind_eq_some_iff.1 hs
  exact ⟨trail, m, hb, hm, hp⟩

/-! ## Markers -/

/-- An order on the states under which a marker only loses: whatever can be read from a state can be read from each
state above it, and the state after a marker lies below that before it. -/
structure MarkerLaw (r : Reader σ) (below : σ → σ → Prop) : Prop where
  refl : ∀ q, below q q
  trans : ∀ q p o, below q p → below p o → below q o
  step : ∀ q p q' c, below q p → r.step q c = some q' → ∃ p', r.step p c = some p' ∧ below q' p'
  mark : ∀ q q' c, c = Tex.verbatimOpen ∨ c = Tex.verbatimClose → r.step q c = some q' → below q' q

variable {below : σ → σ → Prop}

/-- What can be read from a state can be read from each state above it. -/
theorem MarkerLaw.read (h : r.MarkerLaw below) {q p q' : σ} (hqp : below q p) {s : List Char}
    (hs : r.read q s = some q') : ∃ p', r.read p s = some p' ∧ below q' p' := by
  induction s generalizing q p with
  | nil =>
    rw [read_nil] at hs
    exact ⟨p, rfl, Option.some.inj hs ▸ hqp⟩
  | cons c rest ih =>
    rw [read_cons] at hs
    obtain ⟨q₁, hq₁, hrest⟩ := Option.bind_eq_some_iff.1 hs
    obtain ⟨p₁, hp₁, hle⟩ := h.step q p q₁ c hqp hq₁
    obtain ⟨p', hp', hle'⟩ := ih hle hrest
    refine ⟨p', ?_, hle'⟩
    rw [read_cons, hp₁]
    exact hp'

/-- Parts of a text with the markers between them, the first of them inside or outside a part that stays as it is. -/
def assemble (inside : Bool) : List (List Char) → List Char
  | [] => []
  | [part] => part
  | part :: next :: rest =>
    part ++ (if inside then Tex.verbatimClose else Tex.verbatimOpen) :: assemble (!inside) (next :: rest)

/-- A text has a first segment, be it empty. -/
theorem segments_ne_nil (inside : Bool) (s : List Char) : Tex.segments inside s ≠ [] := by
  cases s with
  | nil => simp [Tex.segments]
  | cons c rest =>
    rw [Tex.segments]
    by_cases hc : c = (if inside then Tex.verbatimClose else Tex.verbatimOpen)
    · rw [if_pos hc]
      exact List.cons_ne_nil _ _
    · rw [if_neg hc]
      cases Tex.segments inside rest <;> exact List.cons_ne_nil _ _

/-- The parts of a text with the markers between them are the text. -/
theorem assemble_segments (inside : Bool) (s : List Char) : assemble inside (Tex.segments inside s) = s := by
  induction s generalizing inside with
  | nil => rfl
  | cons c rest ih =>
    rw [Tex.segments]
    by_cases hc : c = (if inside then Tex.verbatimClose else Tex.verbatimOpen)
    · rw [if_pos hc]
      have h := ih (!inside)
      cases hs : Tex.segments (!inside) rest with
      | nil => exact absurd hs (segments_ne_nil _ _)
      | cons part parts =>
        rw [hs] at h
        rw [assemble, h, List.nil_append, ← hc]
    · rw [if_neg hc]
      have h := ih inside
      cases hs : Tex.segments inside rest with
      | nil => exact absurd hs (segments_ne_nil _ _)
      | cons part parts =>
        rw [hs] at h
        cases parts with
        | nil =>
          rw [assemble] at h ⊢
          rw [h]
        | cons next others =>
          rw [assemble] at h ⊢
          rw [List.cons_append, h]

/-- The parts after the first, tidied, are read like the parts with their markers, but for blanks that may be
missing at the end. -/
theorem exists_read_tidyRest (hb : r.BlankLaw) (hm : r.MarkerLaw below) :
    ∀ (parts : List (List Char)) (q p q' : σ), parts ≠ [] → below q p → r.read q (assemble true parts) = some q' →
      ∃ trail p', Text.allBlank trail = true ∧ r.read p (Tex.tidyRest parts ++ trail) = some p' ∧ below q' p'
  | [], _, _, _, hne, _, _ => absurd rfl hne
  | [kept], q, p, q', _, hqp, hs => by
    obtain ⟨p', hp', hle⟩ := hm.read hqp hs
    exact ⟨[], p', rfl, by rw [Tex.tidyRest, List.append_nil]; exact hp', hle⟩
  | [kept, last], q, p, q', _, hqp, hs => by
    rw [assemble, assemble, if_pos rfl, read_append] at hs
    obtain ⟨q₁, hq₁, hs⟩ := Option.bind_eq_some_iff.1 hs
    rw [read_cons] at hs
    obtain ⟨q₂, hq₂, hs⟩ := Option.bind_eq_some_iff.1 hs
    obtain ⟨p₁, hp₁, hle₁⟩ := hm.read hqp hq₁
    have hle₂ := hm.trans _ _ _ (hm.mark _ _ _ (Or.inr rfl) hq₂) hle₁
    obtain ⟨p', hp', hle⟩ := hm.read hle₂ hs
    rw [← hb.read_collapseBlankLines] at hp'
    obtain ⟨trail, m, htrail, hread, hend⟩ := exists_read_trimEnd hp'
    refine ⟨trail, p', htrail, ?_, hle⟩
    rw [Tex.tidyRest, List.append_assoc, r.read_append_of_eq hp₁, r.read_append_of_eq hread, hend]
  | kept :: plain :: next :: rest, q, p, q', _, hqp, hs => by
    rw [assemble, assemble, if_pos rfl, read_append] at hs
    obtain ⟨q₁, hq₁, hs⟩ := Option.bind_eq_some_iff.1 hs
    rw [read_cons] at hs
    obtain ⟨q₂, hq₂, hs⟩ := Option.bind_eq_some_iff.1 hs
    rw [read_append] at hs
    obtain ⟨q₃, hq₃, hs⟩ := Option.bind_eq_some_iff.1 hs
    rw [read_cons] at hs
    obtain ⟨q₄, hq₄, hs⟩ := Option.bind_eq_some_iff.1 hs
    obtain ⟨p₁, hp₁, hle₁⟩ := hm.read hqp hq₁
    have hle₂ := hm.trans _ _ _ (hm.mark _ _ _ (Or.inr rfl) hq₂) hle₁
    obtain ⟨p₃, hp₃, hle₃⟩ := hm.read hle₂ hq₃
    have hle₄ := hm.trans _ _ _ (hm.mark _ _ _ (Or.inl rfl) hq₄) hle₃
    obtain ⟨trail, p', htrail, hread, hle⟩ := exists_read_tidyRest hb hm (next :: rest) q₄ p₃ q' (by simp) hle₄ hs
    refine ⟨trail, p', htrail, ?_, hle⟩
    rw [Tex.tidyRest, List.append_assoc, List.append_assoc, r.read_append_of_eq hp₁, read_append,
      hb.read_collapseBlankLines, hp₃]
    · exact hread
    · simp

/-- Tidied text is read like the text itself, but for blanks that may be missing at the end. -/
theorem exists_read_tidy (hb : r.BlankLaw) (hm : r.MarkerLaw below) {q q' : σ} (hq : r.step q '\n' = some q)
    {s : List Char} (hs : r.read q s = some q') :
    ∃ trail p, Text.allBlank trail = true ∧ r.read q (Tex.tidy s ++ trail) = some p ∧ below q' p := by
  have hparts := assemble_segments false s
  rw [Tex.tidy]
  cases hseg : Tex.segments false s with
  | nil => exact absurd hseg (segments_ne_nil _ _)
  | cons first rest =>
    rw [hseg] at hparts
    cases rest with
    | nil =>
      rw [assemble] at hparts
      rw [← hparts, ← hb.read_collapseBlankLines, ← hb.read_trimStart hq] at hs
      obtain ⟨trail, m, htrail, hread, hend⟩ := exists_read_trimEnd hs
      refine ⟨trail, q', htrail, ?_, hm.refl q'⟩
      simp only [Text.trim]
      rw [r.read_append_of_eq hread, hend]
    | cons next others =>
      rw [assemble] at hparts
      rw [← hparts, read_append] at hs
      obtain ⟨q₁, hq₁, hs⟩ := Option.bind_eq_some_iff.1 hs
      rw [read_cons] at hs
      obtain ⟨q₂, hq₂, hs⟩ := Option.bind_eq_some_iff.1 hs
      have hle := hm.mark _ _ _ (Or.inl rfl) hq₂
      obtain ⟨trail, p', htrail, hread, hle'⟩ := exists_read_tidyRest hb hm (next :: others) q₂ q₁ q' (by simp) hle hs
      refine ⟨trail, p', htrail, ?_, hle'⟩
      simp only
      rw [List.append_assoc, read_append, hb.read_trimStart hq, hb.read_collapseBlankLines, hq₁]
      exact hread

end Reader

end Manuscript
