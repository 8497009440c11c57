import Manuscript.Proofs.Calls

/-!
# Markup without broken calls

The reader of calls tells blanks and markers from nothing that matters, so trimming and tidying do not disturb it
(`blankLaw`, `markerLaw`). When it can read the pieces that a formatter writes, it can read all markup, and the
account at the end is settled by the labels of the text alone (`CallLaw.read_markup`).
-/

namespace Manuscript

namespace Tex

/-- Whether a character ends the name of a command, and starts nothing itself. -/
def endsName (c : Char) : Bool :=
  !c.isAlpha && c != '{' && c != '\\' && !isMarker c

/-- What may end a command's name without being part of the call. -/
theorem endsName_iff {c : Char} : endsName c = true ↔ c.isAlpha = false ∧ c ≠ '{' ∧ c ≠ '\\' ∧ isMarker c = false := by
  simp [endsName, and_assoc]

/-- Blanks are neither letters nor one of the characters with a part in a call. -/
theorem endsName_of_isBlank {c : Char} (h : Text.isBlank c = true) : endsName c = true ∧ c ≠ '}' := by
  have hletter : c.isAlpha = false := by
    rw [Bool.eq_false_iff]
    intro ha
    simp only [Text.isBlank, Bool.or_eq_true, Bool.and_eq_true, decide_eq_true_eq, beq_iff_eq] at h
    change (decide (c.val ≥ 'A'.val ∧ c.val ≤ 'Z'.val) ||
      decide (c.val ≥ 'a'.val) && decide (c.val ≤ 'z'.val)) = true at ha
    simp only [Bool.or_eq_true, Bool.and_eq_true, decide_eq_true_eq, ge_iff_le, UInt32.le_iff_toNat_le] at ha
    have hval : c.val.toNat = c.toNat := rfl
    simp only [hval] at ha
    simp at ha
    omega
  have hne : ∀ d : Char, Text.isBlank d = false → c ≠ d := by
    rintro d hd rfl
    rw [h] at hd
    cases hd
  refine ⟨endsName_iff.2 ⟨hletter, hne _ (by decide), hne _ (by decide), ?_⟩, hne _ (by decide)⟩
  rw [isMarker, Bool.or_eq_false_iff, beq_eq_false_iff_ne, beq_eq_false_iff_ne]
  exact ⟨hne _ (by decide), hne _ (by decide)⟩

/-- The signs that seal a text end a command's name. -/
theorem endsName_of_mem_seals {c : Char} (h : c ∈ seals) : endsName c = true := by
  have hall : ∀ d ∈ seals, endsName d = true := by decide
  exact hall c h

/-- A text of which the given commands have no call, in whatever text it stands, and which has no markers. -/
def Quiet (names : List (List Char)) (s : List Char) : Prop :=
  (∀ w ∈ names, ¬('\\' :: (w ++ ['{'])) <:+: s) ∧ ∀ c ∈ s, isMarker c = false

end Tex

variable {τ : Type} {names : List (List Char)} {enter : τ → Tex.Call → Option τ}

namespace CallMode

/-- Text may go on, or an argument is being read. -/
theorem isOpen_or_argument (mode : CallMode) : mode.isOpen = true ∨ ∃ w a, mode = .argument w a := by
  cases mode with
  | argument w a => exact Or.inr ⟨w, a, rfl⟩
  | plain => exact Or.inl rfl
  | name w => exact Or.inl rfl
  | unsure => exact Or.inl rfl

/-- Behind a sign that ends a name the text is plain. -/
theorem next_of_endsName {mode : CallMode} {c : Char} (hc : Tex.endsName c = true) : mode.next names c = .plain := by
  obtain ⟨hletter, hbrace, hback, hmarker⟩ := Tex.endsName_iff.1 hc
  cases mode <;> simp [next, hletter, hbrace, hback, hmarker]

/-- A marker leaves no argument open. -/
theorem isOpen_next_of_isMarker {mode : CallMode} {c : Char} (hc : Tex.isMarker c = true) :
    (mode.next names c).isOpen = true := by
  have hcases : c = Tex.verbatimOpen ∨ c = Tex.verbatimClose := by
    simpa [Tex.isMarker] using hc
  rcases hcases with rfl | rfl <;> cases mode <;> rfl

end CallMode

/-- What an open mode does with a character that neither goes on with a name nor opens an argument. -/
theorem callReader_step_of_isOpen {mode : CallMode} {t : τ} {c : Char} (h : mode.isOpen = true)
    (hletter : c.isAlpha = false) (hbrace : c ≠ '{') :
    (callReader names enter).step (mode, t) c = some (mode.next names c, t) := by
  cases mode with
  | plain => rfl
  | name w => rfl
  | argument w a => cases h
  | unsure => simp [callReader, hletter, hbrace]

/-- Behind a sign that ends a name the text is plain, and nothing is entered. -/
theorem callReader_step_of_endsName {mode : CallMode} {t : τ} {c : Char} (h : mode.isOpen = true)
    (hc : Tex.endsName c = true) : (callReader names enter).step (mode, t) c = some (.plain, t) := by
  obtain ⟨hletter, hbrace, -, -⟩ := Tex.endsName_iff.1 hc
  rw [callReader_step_of_isOpen h hletter hbrace, CallMode.next_of_endsName hc]

/-- No argument goes on over a blank or a marker. -/
theorem callReader_step_argument {w a : List Char} {t : τ} {c : Char} (hend : c ≠ '}')
    (hc : Text.isBlank c = true ∨ Tex.isMarker c = true) :
    (callReader names enter).step (.argument w a, t) c = none := by
  rcases hc with hc | hc <;> simp [callReader, hend, hc]

/-- The reader cannot tell one blank from another. -/
theorem callReader_blankLaw : (callReader names enter).BlankLaw where
  same := by
    rintro ⟨mode, t⟩ c hc
    obtain ⟨hends, hne⟩ := Tex.endsName_of_isBlank hc
    rcases mode.isOpen_or_argument with hmode | ⟨w, a, rfl⟩
    · rw [callReader_step_of_endsName hmode hends, callReader_step_of_endsName hmode (by decide)]
    · rw [callReader_step_argument hne (Or.inl hc), callReader_step_argument (by decide) (Or.inl rfl)]
  again := by
    rintro ⟨mode, t⟩ p hp
    rcases mode.isOpen_or_argument with hmode | ⟨w, a, rfl⟩
    · rw [callReader_step_of_endsName hmode (by decide), Option.some.injEq] at hp
      rw [← hp, callReader_step_of_endsName rfl (by decide)]
    · rw [callReader_step_argument (by decide) (Or.inl rfl)] at hp
      cases hp

/-- The reader is less sure in the one state than in the other, and else they are the same. -/
def LessSure (q p : CallMode × τ) : Prop :=
  q = p ∨ (q.1 = .unsure ∧ p.1.isOpen = true ∧ q.2 = p.2)

/-- A marker only makes the reader less sure. -/
theorem callReader_markerLaw : (callReader names enter).MarkerLaw LessSure where
  refl q := Or.inl rfl
  trans := by
    rintro q p o (rfl | ⟨hq, hp, ht⟩) hpo
    · exact hpo
    · rcases hpo with rfl | ⟨-, ho, ht'⟩
      · exact Or.inr ⟨hq, hp, ht⟩
      · exact Or.inr ⟨hq, ho, ht.trans ht'⟩
  step := by
    rintro ⟨q, t⟩ ⟨p, u⟩ q' c (heq | ⟨hq, hp, ht⟩) hstep
    · exact ⟨q', heq ▸ hstep, Or.inl rfl⟩
    simp only at hq hp ht
    subst hq ht
    have hchar : c.isAlpha = false ∧ c ≠ '{' := by
      simp only [callReader] at hstep
      split at hstep
      · cases hstep
      · rename_i hc
        simpa using hc
    rw [callReader_step_of_isOpen rfl hchar.1 hchar.2, Option.some.injEq] at hstep
    refine ⟨_, callReader_step_of_isOpen hp hchar.1 hchar.2, ?_⟩
    rw [← hstep]
    by_cases hmarker : Tex.isMarker c = true
    · have hback : c ≠ '\\' := by
        rintro rfl
        revert hmarker
        decide
      refine Or.inr ⟨?_, CallMode.isOpen_next_of_isMarker hmarker, rfl⟩
      simp [CallMode.next, hback, hmarker]
    · left
      rw [Bool.not_eq_true] at hmarker
      cases p with
      | argument w a => cases hp
      | plain => simp [CallMode.next, hmarker]
      | unsure => rfl
      | name w => simp [CallMode.next, hmarker, hchar.1, hchar.2]
  mark := by
    rintro ⟨mode, t⟩ q' c hc hstep
    have hmarker : Tex.isMarker c = true := by
      rcases hc with rfl | rfl <;> rfl
    have hchar : c.isAlpha = false ∧ c ≠ '{' ∧ c ≠ '\\' ∧ c ≠ '}' := by
      rcases hc with rfl | rfl <;> decide
    rcases mode.isOpen_or_argument with hmode | ⟨w, a, rfl⟩
    · rw [callReader_step_of_isOpen hmode hchar.1 hchar.2.1, Option.some.injEq] at hstep
      rw [← hstep]
      cases mode with
      | argument w a => cases hmode
      | plain => left; simp [CallMode.next, hchar.2.2.1]
      | name w => right; simp [CallMode.next, hchar, hmarker, CallMode.isOpen]
      | unsure => left; simp [CallMode.next, hchar.2.2.1, hmarker]
    · rw [callReader_step_argument hchar.2.2.2 (Or.inr hmarker)] at hstep
      cases hstep

/-- Behind an open argument there is no blank, so blanks are read only where none is open, and change no account. -/
theorem isOpen_of_read_blanks {mode mode' : CallMode} {t t' : τ} {s : List Char}
    (h : (callReader names enter).read (mode, t) s = some (mode', t')) (hs : Text.allBlank s = true)
    (hopen : mode'.isOpen = true) : mode.isOpen = true ∧ t = t' := by
  cases s with
  | nil =>
    obtain ⟨rfl, rfl⟩ := Prod.mk.inj (Option.some.inj h)
    exact ⟨hopen, rfl⟩
  | cons c rest =>
    rw [callReader_blankLaw.read_blanks _ hs (List.cons_ne_nil c rest)] at h
    rcases mode.isOpen_or_argument with hmode | ⟨w, a, rfl⟩
    · rw [callReader_step_of_endsName hmode (by decide), Option.some.injEq] at h
      exact ⟨hmode, (Prod.mk.inj h).2⟩
    · rw [callReader_step_argument (by decide) (Or.inl rfl)] at h
      cases h

/-- Text of which the commands have no call is read without a change to the account. -/
theorem exists_read_of_quiet {s : List Char} (hs : Tex.Quiet names s) (t : τ) :
    ∃ mode, mode.isOpen = true ∧ (callReader names enter).read (.plain, t) s = some (mode, t) := by
  -- The text that is remembered counts as part of the text, so a call would show in it.
  suffices h : ∀ (s : List Char) (mode : CallMode), (mode = .plain ∨ ∃ w, mode = .name w) →
      (∀ w ∈ names, ¬('\\' :: (w ++ ['{'])) <:+: mode.text ++ s) → (∀ c ∈ s, Tex.isMarker c = false) →
      ∃ mode', mode'.isOpen = true ∧ (callReader names enter).read (mode, t) s = some (mode', t) from
    h s .plain (Or.inl rfl) hs.1 hs.2
  intro s
  induction s with
  | nil =>
    intro mode hmode _ _
    refine ⟨mode, ?_, rfl⟩
    rcases hmode with rfl | ⟨w, rfl⟩ <;> rfl
  | cons c rest ih =>
    intro mode hmode hcall hmarkers
    have hmarker := hmarkers c List.mem_cons_self
    have hrest : ∀ d ∈ rest, Tex.isMarker d = false := fun d hd => hmarkers d (List.mem_cons_of_mem c hd)
    have hshorter : ∀ w ∈ names, ¬('\\' :: (w ++ ['{'])) <:+: rest := by
      intro w hw hpart
      exact hcall w hw (hpart.trans ((List.suffix_cons c rest).trans (List.suffix_append _ _)).isInfix)
    have hback : ∀ w ∈ names, c = '\\' → ¬('\\' :: (w ++ ['{'])) <:+: '\\' :: rest := by
      rintro w hw rfl hpart
      exact hcall w hw (hpart.trans (List.suffix_append _ _).isInfix)
    rw [Reader.read_cons]
    rcases hmode with rfl | ⟨w, rfl⟩
    · simp only [callReader, CallMode.next, Option.bind_some]
      split
      · rename_i hc
        exact ih (.name []) (Or.inr ⟨[], rfl⟩) (fun w hw => hback w hw hc) hrest
      · exact ih .plain (Or.inl rfl) hshorter hrest
    · simp only [callReader, CallMode.next, Option.bind_some]
      split
      · refine ih (.name (w ++ [c])) (Or.inr ⟨_, rfl⟩) (fun v hv => ?_) hrest
        have := hcall v hv
        simpa [CallMode.text] using this
      · split
        · rename_i hc
          split
          · rename_i hmem
            rw [List.contains_iff_mem] at hmem
            refine absurd ⟨[], rest, ?_⟩ (hcall w hmem)
            simp [CallMode.text, hc]
          · exact ih .plain (Or.inl rfl) hshorter hrest
        · split
          · rename_i hc
            exact ih (.name []) (Or.inr ⟨[], rfl⟩) (fun v hv => hback v hv hc) hrest
          · rw [if_neg (by rw [hmarker]; exact Bool.false_ne_true)]
            exact ih .plain (Or.inl rfl) hshorter hrest

/-! ## The law -/

section Pieces

variable (hnames : names ∈ [Tex.environmentCalls, Tex.labelCalls])
include hnames

/-- The sequences of escaped text have no part in the calls of environments and labels. -/
theorem callReader_read_escapes :
    ∀ e ∈ Tex.escapes, ∀ t, (callReader names enter).read (.plain, t) e.2 = some (.plain, t) := by
  intro e he t
  simp only [Tex.escapes, List.mem_cons, List.not_mem_nil, or_false] at hnames he
  rcases hnames with rfl | rfl <;>
    rcases he with rfl | rfl | rfl | rfl | rfl | rfl | rfl | rfl | rfl | rfl <;> rfl

/-- The fixed phrases enter nothing. -/
theorem callReader_read_phrases :
    ∀ p ∈ Tex.phrases, ∀ t, (callReader names enter).read (.plain, t) p = some (.plain, t) := by
  intro p hp t
  simp only [Tex.phrases, List.mem_cons, List.not_mem_nil, or_false] at hnames hp
  rcases hnames with rfl | rfl <;>
    rcases hp with rfl | rfl | rfl | rfl | rfl | rfl | rfl | rfl | rfl <;> rfl

/-- The head of a command of the formatter enters nothing. -/
theorem callReader_read_command : ∀ name ∈ Tex.commandNames, ∀ t,
    (callReader names enter).read (.plain, t) ('\\' :: (name.toList ++ ['{'])) = some (.plain, t) := by
  intro name hname t
  simp only [Tex.commandNames, List.mem_cons, List.not_mem_nil, or_false] at hnames hname
  rcases hnames with rfl | rfl <;>
    rcases hname with rfl | rfl | rfl | rfl | rfl | rfl | rfl | rfl | rfl | rfl | rfl | rfl | rfl | rfl | rfl | rfl |
      rfl | rfl | rfl | rfl <;> rfl

end Pieces

/-- What makes all markup readable: environments and labels are read from a settled state to a settled state, and
`effect` is what the labels of a text make of the account. -/
structure CallLaw (names : List (List Char)) (enter : τ → Tex.Call → Option τ) (effect : List Label → τ → τ)
    (Plain : List Char → Prop) (Named : String → Prop) : Prop where
  effect_nil : ∀ t, effect [] t = t
  effect_append : ∀ l k t, effect (l ++ k) t = effect k (effect l t)
  known : names ∈ [Tex.environmentCalls, Tex.labelCalls]
  environment : ∀ name ∈ Tex.environmentNames, ∀ t, ∃ u,
    (callReader names enter).read (.plain, t) (Tex.command "begin" name.toList) = some (.plain, u) ∧
      ∀ l, (callReader names enter).read (.plain, effect l u) (Tex.command "end" name.toList) =
        some (.plain, effect l t)
  label : ∀ kind id, Named id → ∀ t,
    (callReader names enter).read (.plain, t) (Tex.label kind id) = some (.plain, effect [(kind, id)] t)
  plain : ∀ s, Plain s → Tex.Quiet names s

namespace CallLaw

variable {effect : List Label → τ → τ} {Plain : List Char → Prop} {Named : String → Prop} {s : List Char}
  {mode : CallMode} {t u : τ}

/-- Escaped text is read without a change. -/
theorem read_escape (h : CallLaw names enter effect Plain Named) (s : List Char) (t : τ) :
    (callReader names enter).read (.plain, t) (Tex.escape s) = some (.plain, t) := by
  induction s with
  | nil => rfl
  | cons c rest ih =>
    have hchar : (callReader names enter).read (.plain, t) (Tex.escapeChar c) = some (.plain, t) := by
      rw [Tex.escapeChar]
      cases hc : Tex.escapes.lookup c with
      | some sequence =>
        obtain ⟨l₁, l₂, heq, -⟩ := List.lookup_eq_some_iff.1 hc
        exact callReader_read_escapes h.known (c, sequence) (by rw [heq]; simp) t
      | none =>
        have hback : c ≠ '\\' := by
          rintro rfl
          revert hc
          decide
        rw [Option.getD_none, Reader.read_singleton]
        simp [callReader, CallMode.next, hback]
    rw [Tex.escape, List.flatMap_cons, (callReader names enter).read_append_of_eq hchar]
    exact ih

/-- Verbatim text is read as the text in it. -/
theorem read_verbatim (h : CallLaw names enter effect Plain Named) {s trail : List Char} (hs : Plain (s ++ trail))
    (htrail : Text.allBlank trail = true) (t : τ) :
    ∃ mode, mode.isOpen = true ∧ (callReader names enter).read (.plain, t) (Tex.verbatim s) = some (mode, t) := by
  obtain ⟨mode, hopen, hread⟩ : ∃ mode : CallMode, mode.isOpen = true ∧
      (callReader names enter).read (.plain, t) (s ++ trail) = some (mode, t) := exists_read_of_quiet (h.plain _ hs) t
  rw [Reader.read_append] at hread
  obtain ⟨⟨mode', t'⟩, hs', htrail'⟩ := Option.bind_eq_some_iff.1 hread
  obtain ⟨hopen', rfl⟩ := isOpen_of_read_blanks htrail' htrail hopen
  refine ⟨mode'.next names Tex.verbatimClose, CallMode.isOpen_next_of_isMarker rfl, ?_⟩
  have hmark : (callReader names enter).step (.plain, t') Tex.verbatimOpen = some (.plain, t') := rfl
  rw [Tex.verbatim, Reader.read_cons, hmark, Option.bind_some, (callReader names enter).read_append_of_eq hs',
    Reader.read_singleton]
  exact callReader_step_of_isOpen hopen' (by decide) (by decide)

/-- The brace that closes a group enters nothing. -/
theorem read_group (h : (callReader names enter).read (.plain, t) s = some (mode, u)) (hopen : mode.isOpen = true) :
    (callReader names enter).read (.plain, t) (s ++ ['}']) = some (.plain, u) := by
  rw [(callReader names enter).read_append_of_eq h, Reader.read_singleton]
  exact callReader_step_of_endsName hopen (by decide)

/-- Markup is read from a settled state, to a settled state when it is sealed, and its labels are all that the
account needs to know. -/
theorem read_markup (h : CallLaw names enter effect Plain Named) {e : Ending} {s : List Char} {l : List Label}
    (hs : Markup Plain Named e s l) :
    ∀ t, ∃ mode, (callReader names enter).read (.plain, t) s = some (mode, effect l t) ∧ mode.isOpen = true ∧
      (e = .sealed → mode = .plain) := by
  induction hs with
  | nil => exact fun t => ⟨.plain, by rw [Reader.read_nil, h.effect_nil], rfl, fun _ => rfl⟩
  | append _ _ ihs iht =>
    intro t
    obtain ⟨mode, hread, -, hplain⟩ := ihs t
    obtain ⟨mode', hread', hopen', hplain'⟩ := iht (effect _ t)
    rw [hplain rfl] at hread
    exact ⟨mode', by rw [(callReader names enter).read_append_of_eq hread, hread', h.effect_append], hopen', hplain'⟩
  | loosen _ ih =>
    intro t
    obtain ⟨mode, hread, hopen, -⟩ := ih t
    exact ⟨mode, hread, hopen, nofun⟩
  | close hc _ ih =>
    intro t
    obtain ⟨mode, hread, hopen, -⟩ := ih t
    refine ⟨.plain, ?_, rfl, fun _ => rfl⟩
    rw [(callReader names enter).read_append_of_eq hread, Reader.read_singleton]
    exact callReader_step_of_endsName hopen (Tex.endsName_of_mem_seals hc)
  | escape s => exact fun t => ⟨.plain, by rw [h.read_escape, h.effect_nil], rfl, fun _ => rfl⟩
  | phrase hp => exact fun t => ⟨.plain, by rw [callReader_read_phrases h.known _ hp, h.effect_nil], rfl, fun _ => rfl⟩
  | @plain s hs =>
    intro t
    obtain ⟨mode, hopen, hread⟩ : ∃ mode : CallMode, mode.isOpen = true ∧
        (callReader names enter).read (.plain, t) s = some (mode, t) := exists_read_of_quiet (h.plain _ hs) t
    exact ⟨mode, by rw [hread, h.effect_nil], hopen, nofun⟩
  | verbatim hs htrail =>
    intro t
    obtain ⟨mode, hopen, hread⟩ := h.read_verbatim hs htrail t
    exact ⟨mode, by rw [hread, h.effect_nil], hopen, nofun⟩
  | group _ ih =>
    intro t
    obtain ⟨mode, hread, hopen, -⟩ := ih t
    exact ⟨.plain, read_group hread hopen, rfl, fun _ => rfl⟩
  | @command name s l hname _ ih =>
    intro t
    obtain ⟨mode, hread, hopen, -⟩ := ih t
    refine ⟨.plain, ?_, rfl, fun _ => rfl⟩
    have htext : Tex.command name s = '\\' :: (name.toList ++ ['{']) ++ (s ++ ['}']) := by
      simp [Tex.command]
    rw [htext, (callReader names enter).read_append_of_eq (callReader_read_command h.known name hname t)]
    exact read_group hread hopen
  | environment hname _ ih =>
    intro t
    obtain ⟨u, hbegin, hend⟩ := h.environment _ hname t
    obtain ⟨mode, hread, -, hplain⟩ := ih u
    rw [hplain rfl] at hread
    refine ⟨.plain, ?_, rfl, fun _ => rfl⟩
    rw [(callReader names enter).read_append_of_eq hbegin, (callReader names enter).read_append_of_eq hread, hend]
  | label kind hid => exact fun t => ⟨.plain, h.label kind _ hid t, rfl, fun _ => rfl⟩
  | trimStart _ ih =>
    intro t
    obtain ⟨mode, hread, hopen, -⟩ := ih t
    exact ⟨mode, by rw [callReader_blankLaw.read_trimStart rfl, hread], hopen, nofun⟩
  | trimEnd _ ih =>
    intro t
    obtain ⟨mode, hread, hopen, -⟩ := ih t
    obtain ⟨trail, ⟨mode', u⟩, htrail, hread', hend⟩ := Reader.exists_read_trimEnd hread
    obtain ⟨hopen', rfl⟩ := isOpen_of_read_blanks hend htrail hopen
    exact ⟨mode', hread', hopen', nofun⟩
  | tidy _ ih =>
    intro t
    obtain ⟨mode, hread, -, hplain⟩ := ih t
    rw [hplain rfl] at hread
    obtain ⟨trail, p, htrail, hread', hbelow⟩ :=
      Reader.exists_read_tidy callReader_blankLaw callReader_markerLaw rfl hread
    rcases hbelow with rfl | ⟨hunsure, -⟩
    · rw [Reader.read_append] at hread'
      obtain ⟨⟨mode', u⟩, hread', hend⟩ := Option.bind_eq_some_iff.1 hread'
      obtain ⟨hopen', rfl⟩ := isOpen_of_read_blanks hend htrail rfl
      exact ⟨mode', hread', hopen', nofun⟩
    · cases hunsure
  | drop hblank _ ih =>
    intro t
    obtain ⟨mode, hread, -⟩ := ih t
    rw [callReader_blankLaw.read_blanks_idle rfl hblank, Option.some.injEq] at hread
    exact ⟨.plain, by rw [Reader.read_nil, (Prod.mk.inj hread).2.symm], rfl, fun _ => rfl⟩

/-- The account of the calls in markup is what its labels make of it. -/
theorem foldlM_calls (h : CallLaw names enter effect Plain Named) {e : Ending} {s : List Char} {l : List Label}
    (hs : Markup Plain Named e s l) (t : τ) : (Tex.calls names s).foldlM enter t = some (effect l t) := by
  obtain ⟨mode, hread, hopen, -⟩ := h.read_markup hs t
  exact foldlM_calls_of_read hread hopen

end CallLaw

end Manuscript
