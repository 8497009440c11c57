import Manuscript.Proofs.Braces
import Manuscript.Proofs.CarriedText
import Manuscript.Proofs.EscapedEntry

/-!
# Inline formulas in a text

TeX reads a dollar sign in text as the start of a formula, two in a row as the start of a display, and a dollar sign
in a formula as its end; a backslash takes the next character (`MathState.next`). A text with formulas
(`WithFormulas`) is made of pieces that have no dollar sign but behind a backslash, and of formulas, each between
two dollar signs of its own. Whether the formulas come out as they were meant is told by their bodies: none may be
empty, and none may end in a backslash that takes the dollar sign behind it (`scanMath_tidy_iff`).

Two scans give this. One counts dollar signs and does not care for what they do: each body that takes a dollar sign
has one less of them. The other keeps the modes apart, and goes back to text behind each body that takes none.
-/

namespace Manuscript

open Bibtex (backslashes backslashes_concat)

namespace Tex

/-! ## The scan -/

/-- Where a scan stands: in text, right behind the dollar sign that opens a formula, in an inline formula, or in a
display, which it does not leave again. -/
inductive MathMode where
  | text
  | opened
  | inline
  | display
  deriving DecidableEq, Repr

/-- The state of a scan for formulas. -/
structure MathState where
  mode : MathMode := .text
  /-- Whether a backslash takes the next character. -/
  escaped : Bool := false
  /-- The inline formulas that were closed. -/
  formulas : Nat := 0
  deriving DecidableEq, Repr

/-- The mode behind a character that is no dollar sign. -/
def MathMode.settle : MathMode → MathMode
  | .opened => .inline
  | mode => mode

/-- One character of a scan. -/
def MathState.next (state : MathState) (c : Char) : MathState :=
  if state.mode = .display then state
  else if state.escaped then { state with mode := state.mode.settle, escaped := false }
  else if c = '\\' then { state with mode := state.mode.settle, escaped := true }
  else if c = '$' then
    match state.mode with
    | .text => { state with mode := .opened }
    | .opened => { state with mode := .display }
    | .inline | .display => { state with mode := .text, formulas := state.formulas + 1 }
  else { state with mode := state.mode.settle }

/-- The state behind a text. -/
def scanMath (s : List Char) : MathState :=
  s.foldl MathState.next {}

/-! ## Texts with formulas -/

/-- The scan of a text without formulas: a backslash takes a character that is neither a blank nor a marker, and
every other character may come but the dollar sign. -/
def plainReader : Reader Bool where
  step
    | true, c => if breaksEscape c then none else some false
    | false, c => if c = '\\' then some true else if c = '$' then none else some false

/-- A text without formulas. -/
def FormulaFree (s : List Char) : Prop :=
  plainReader.read false s = some false

instance (s : List Char) : Decidable (FormulaFree s) :=
  inferInstanceAs (Decidable (_ = _))

/-- A formula as it is written. -/
def formula (body : List Char) : List Char :=
  '$' :: (body ++ ['$'])

/-- Texts with the bodies of their formulas, in the order in which they are written. -/
inductive WithFormulas : List (List Char) → List Char → Prop
  | free {s : List Char} : FormulaFree s → WithFormulas [] s
  | formula (body : List Char) : WithFormulas [body] (formula body)
  | append {bodies others : List (List Char)} {s t : List Char} :
      WithFormulas bodies s → WithFormulas others t → WithFormulas (bodies ++ others) (s ++ t)
  | trimStart {bodies : List (List Char)} {s : List Char} : WithFormulas bodies s →
    WithFormulas bodies (Text.trimStart s)
  | trimEnd {bodies : List (List Char)} {s : List Char} : WithFormulas bodies s → WithFormulas bodies (Text.trimEnd s)

/-- What a reader makes of texts with formulas. From a settled state it comes back to one, a text without formulas
changes nothing, and each body has an effect of its own. Blanks at the end of a text may be left out without a
trace. -/
structure FormulaLaw {σ : Type} (r : Reader σ) (Settled : σ → Prop) (Admitted : List Char → Prop)
    (effect : σ → List Char → σ) : Prop where
  blank : r.BlankLaw
  marker : r.MarkerLaw Eq
  free : ∀ {q s}, Settled q → FormulaFree s → r.read q s = some q
  formula : ∀ {q body}, Settled q → Admitted body → r.read q (formula body) = some (effect q body)
  settled : ∀ {q body}, Settled q → Admitted body → Settled (effect q body)
  back : ∀ {m p}, r.step m '\n' = some p → Settled p → m = p

namespace FormulaLaw

variable {σ : Type} {r : Reader σ} {Settled : σ → Prop} {Admitted : List Char → Prop} {effect : σ → List Char → σ}

/-- An end of line leaves a settled state as it is. -/
theorem idle (h : FormulaLaw r Settled Admitted effect) {q : σ} (hq : Settled q) : r.step q '\n' = some q := by
  have hfree : FormulaFree ['\n'] := rfl
  rw [← r.read_singleton]
  exact h.free hq hfree

/-- Formulas lead from one settled state to another. -/
theorem settled_foldl (h : FormulaLaw r Settled Admitted effect) {bodies : List (List Char)}
    (hbodies : ∀ body ∈ bodies, Admitted body) {q : σ} (hq : Settled q) : Settled (bodies.foldl effect q) := by
  induction bodies generalizing q with
  | nil => exact hq
  | cons body rest ih =>
    exact ih (fun b hb => hbodies b (List.mem_cons_of_mem body hb)) (h.settled hq (hbodies body List.mem_cons_self))

/-- Blanks that lead to a settled state have not been read from any other. -/
theorem eq_of_read_blanks (h : FormulaLaw r Settled Admitted effect) {m p : σ} {trail : List Char}
    (htrail : Text.allBlank trail = true) (hread : r.read m trail = some p) (hp : Settled p) : m = p := by
  by_cases hnil : trail = []
  · rw [hnil, Reader.read_nil] at hread
    exact Option.some.inj hread
  · rw [h.blank.read_blanks m htrail hnil] at hread
    exact h.back hread hp

/-- A text with formulas is read as the effects of its bodies. The induction is on how the text is made. -/
theorem read (h : FormulaLaw r Settled Admitted effect) {bodies : List (List Char)} {s : List Char}
    (hs : WithFormulas bodies s) (hbodies : ∀ body ∈ bodies, Admitted body) {q : σ} (hq : Settled q) :
    r.read q s = some (bodies.foldl effect q) := by
  induction hs generalizing q with
  | free hs => exact h.free hq hs
  | formula body => exact h.formula hq (hbodies body List.mem_cons_self)
  | @append bodies others s t _ _ ihs iht =>
    rw [List.forall_mem_append] at hbodies
    rw [r.read_append_of_eq (ihs hbodies.1 hq), List.foldl_append]
    exact iht hbodies.2 (h.settled_foldl hbodies.1 hq)
  | trimStart _ ih =>
    rw [h.blank.read_trimStart (h.idle hq)]
    exact ih hbodies hq
  | trimEnd _ ih =>
    obtain ⟨trail, m, htrail, hread, hend⟩ := Reader.exists_read_trimEnd (ih hbodies hq)
    rwa [h.eq_of_read_blanks htrail hend (h.settled_foldl hbodies hq)] at hread

/-- Tidying changes nothing of it. -/
theorem read_tidy (h : FormulaLaw r Settled Admitted effect) {bodies : List (List Char)} {s : List Char}
    (hs : WithFormulas bodies s) (hbodies : ∀ body ∈ bodies, Admitted body) {q : σ} (hq : Settled q) :
    r.read q (tidy s) = some (bodies.foldl effect q) := by
  obtain ⟨trail, p, htrail, hread, rfl⟩ := Reader.exists_read_tidy h.blank h.marker (h.idle hq) (h.read hs hbodies hq)
  rw [Reader.read_append] at hread
  obtain ⟨m, hread, hend⟩ := Option.bind_eq_some_iff.1 hread
  rwa [h.eq_of_read_blanks htrail hend (h.settled_foldl hbodies hq)] at hread

end FormulaLaw

/-! ## Counting dollar signs -/

/-- What a backslash does to the character that comes: nothing, it takes the character, or it has taken a blank and
only blanks came since. -/
inductive Grip where
  | free
  | waiting
  | taken
  deriving DecidableEq

/-- The number of dollar signs that no backslash takes, and what the last backslash does. -/
structure DollarState where
  dollars : Nat := 0
  grip : Grip := .free
  deriving DecidableEq

/-- One character of the count. -/
def DollarState.next (state : DollarState) (c : Char) : DollarState :=
  if state.grip = .waiting then { state with grip := if Text.isBlank c then .taken else .free }
  else if state.grip = .taken ∧ Text.isBlank c = true then state
  else if c = '\\' then { state with grip := .waiting }
  else if c = '$' then ⟨state.dollars + 1, .free⟩
  else { state with grip := .free }

/-- The count, which refuses markers where they would make a difference. -/
def dollarReader : Reader DollarState where
  step state c := if isMarker c && state.grip != .free then none else some (state.next c)

/-- Text that may stand in a formula: without dollar signs and markers. -/
def Admitted (body : List Char) : Prop :=
  ∀ c ∈ body, c ≠ '$' ∧ isMarker c = false

instance (body : List Char) : Decidable (Admitted body) :=
  inferInstanceAs (Decidable (∀ c ∈ body, c ≠ '$' ∧ isMarker c = false))

/-- The dollar signs of a formula that nothing takes: both, or only the first. -/
def cost (body : List Char) : Nat :=
  if Odd (backslashes body) then 1 else 2

/-- A blank is neither a backslash nor a dollar sign. -/
theorem ne_of_isBlank {c : Char} (hc : Text.isBlank c = true) : c ≠ '\\' ∧ c ≠ '$' := by
  constructor <;>
  · rintro rfl
    exact absurd hc (by decide)

/-- Nor is a marker, and it is no blank. -/
theorem ne_of_isMarker {c : Char} (hc : isMarker c = true) : c ≠ '\\' ∧ c ≠ '$' ∧ Text.isBlank c = false := by
  rw [isMarker, Bool.or_eq_true, beq_iff_eq, beq_iff_eq] at hc
  rcases hc with rfl | rfl <;> decide

/-- A character of a text without formulas: what it leaves behind, and what it is not. -/
theorem plainReader_step {escaped escaped' : Bool} {c : Char} (h : plainReader.step escaped c = some escaped') :
    if escaped then escaped' = false ∧ Text.isBlank c = false ∧ isMarker c = false else escaped' = (c == '\\') ∧
        c ≠ '$' := by
  cases escaped with
  | true =>
    simp only [plainReader] at h
    split at h
    · cases h
    · rename_i hbreaks
      rw [breaksEscape, Bool.or_eq_true, not_or, Bool.not_eq_true, Bool.not_eq_true] at hbreaks
      exact ⟨(Option.some.inj h).symm, hbreaks.1, hbreaks.2⟩
  | false =>
    simp only [plainReader] at h
    split at h
    · rename_i hback
      subst hback
      exact ⟨(Option.some.inj h).symm, by decide⟩
    · rename_i hback
      split at h
      · cases h
      · rename_i hdollar
        refine ⟨?_, hdollar⟩
        rw [← Option.some.inj h, eq_comm, beq_eq_false_iff_ne]
        exact hback

/-- A blank leaves the count, and what a backslash waits for has come. -/
theorem DollarState.next_of_isBlank (state : DollarState) {c : Char} (hc : Text.isBlank c = true) :
    state.next c = { state with grip := if state.grip = .free then .free else .taken } := by
  obtain ⟨hback, hdollar⟩ := ne_of_isBlank hc
  obtain ⟨dollars, _ | _ | _⟩ := state <;> simp [next, hc, hback, hdollar]

/-- A blank is read as it is counted. -/
theorem dollarReader_step_of_isBlank (state : DollarState) {c : Char} (hc : Text.isBlank c = true) :
    dollarReader.step state c = some { state with grip := if state.grip = .free then .free else .taken } := by
  simp only [dollarReader, isMarker_of_isBlank hc, Bool.false_and, Bool.false_eq_true, if_false,
    state.next_of_isBlank hc]

/-- A text without formulas leaves the count of dollar signs. -/
theorem dollarReader_read_free {escaped escaped' : Bool} {s : List Char}
    (h : plainReader.read escaped s = some escaped') (n : Nat) :
    dollarReader.read ⟨n, if escaped then .waiting else .free⟩ s = some ⟨n, if escaped' then .waiting else .free⟩ := by
  induction s generalizing escaped with
  | nil =>
    rw [Reader.read_nil, Option.some.injEq] at h
    rw [h, Reader.read_nil]
  | cons c rest ih =>
    rw [Reader.read_cons] at h ⊢
    obtain ⟨next, hstep, hrest⟩ := Option.bind_eq_some_iff.1 h
    have hchar := plainReader_step hstep
    have hnext : dollarReader.step ⟨n, if escaped then .waiting else .free⟩ c =
        some ⟨n, if next then .waiting else .free⟩ := by
      cases escaped with
      | true =>
        obtain ⟨rfl, hblank, hmarker⟩ := hchar
        simp [dollarReader, DollarState.next, hblank, hmarker]
      | false =>
        obtain ⟨rfl, hdollar⟩ := hchar
        by_cases hback : c = '\\' <;> simp [dollarReader, DollarState.next, hback, hdollar]
    rw [hnext]
    exact ih hrest

/-- The text of a formula has no dollar sign that counts, and takes the one behind it when it ends in an odd number
of backslashes. -/
theorem dollarReader_read_body {body : List Char} (h : Admitted body) (n : Nat) :
    ∃ grip, dollarReader.read ⟨n, .free⟩ body = some ⟨n, grip⟩ ∧ (grip = .waiting ↔ Odd (backslashes body)) := by
  induction body using List.reverseRecOn with
  | nil => exact ⟨.free, rfl, by simp [backslashes]⟩
  | append_singleton front c ih =>
    obtain ⟨grip, hread, hodd⟩ := ih (fun d hd => h d (List.mem_append_left _ hd))
    obtain ⟨hdollar, hmarker⟩ := h c (List.mem_append_right _ (List.mem_singleton_self c))
    rw [dollarReader.read_append_of_eq hread, Reader.read_singleton, backslashes_concat]
    refine ⟨(DollarState.next ⟨n, grip⟩ c).grip, ?_, ?_⟩
    · have hkeep : (DollarState.next ⟨n, grip⟩ c).dollars = n := by
        unfold DollarState.next
        split_ifs <;> rfl
      simp only [dollarReader, hmarker, Bool.false_and, Bool.false_eq_true, if_false]
      exact congrArg some (congrArg (DollarState.mk · _) hkeep)
    · by_cases hback : c = '\\'
      · rw [if_pos hback, Nat.odd_add_one, ← hodd, hback]
        cases grip <;> simp [DollarState.next, show Text.isBlank '\\' = false from rfl]
      · rw [if_neg hback]
        have hne : (DollarState.next ⟨n, grip⟩ c).grip ≠ .waiting := by
          unfold DollarState.next
          split_ifs <;> simp_all
        simp [hne]

/-- One blank more makes no difference to the count. -/
theorem dollarReader_blankLaw : dollarReader.BlankLaw where
  same state c hc := by rw [dollarReader_step_of_isBlank state hc, dollarReader_step_of_isBlank state rfl]
  again state p hp := by
    rw [dollarReader_step_of_isBlank state rfl, Option.some.injEq] at hp
    subst hp
    rw [dollarReader_step_of_isBlank _ rfl]
    obtain ⟨dollars, _ | _ | _⟩ := state <;> rfl

/-- A marker makes no difference to the count. -/
theorem dollarReader_markerLaw : dollarReader.MarkerLaw Eq where
  refl _ := rfl
  trans _ _ _ := Eq.trans
  step q p q' c hqp hstep := ⟨q', hqp ▸ hstep, rfl⟩
  mark state state' c hc hstep := by
    have hmarker : isMarker c = true := by rwa [isMarker, Bool.or_eq_true, beq_iff_eq, beq_iff_eq]
    obtain ⟨hback, hdollar, hblank⟩ := ne_of_isMarker hmarker
    obtain ⟨dollars, _ | _ | _⟩ := state
    · simp [dollarReader, DollarState.next, hback, hdollar] at hstep
      exact hstep.symm
    · simp [dollarReader, hmarker] at hstep
    · simp [dollarReader, hmarker] at hstep

/-- Each formula adds the dollar signs of its own that count. -/
theorem dollarLaw : FormulaLaw dollarReader (fun state => state.grip = .free) Admitted
    (fun state body => { state with dollars := state.dollars + cost body }) where
  blank := dollarReader_blankLaw
  marker := dollarReader_markerLaw
  free := by
    rintro ⟨n, grip⟩ s rfl hs
    exact dollarReader_read_free hs n
  formula := by
    rintro ⟨n, grip⟩ body rfl hbody
    obtain ⟨grip, hread, hodd⟩ := dollarReader_read_body hbody (n + 1)
    have hopening : dollarReader.step ⟨n, .free⟩ '$' = some ⟨n + 1, .free⟩ := rfl
    rw [formula, Reader.read_cons, hopening, Option.bind_some, dollarReader.read_append_of_eq hread,
      Reader.read_singleton, cost]
    by_cases hgrip : grip = .waiting
    · rw [if_pos (hodd.1 hgrip), hgrip]
      rfl
    · rw [if_neg (fun h => hgrip (hodd.2 h))]
      cases grip with
      | waiting => exact absurd rfl hgrip
      | free => rfl
      | taken => rfl
  settled hstate _ := hstate
  back {m p} hstep hp := by
    rw [dollarReader_step_of_isBlank m rfl, Option.some.injEq] at hstep
    subst hstep
    obtain ⟨n, _ | _ | _⟩ := m
    · rfl
    · cases hp
    · cases hp

/-! ## Keeping the modes apart -/

/-- Whether a character is of no consequence for what tidying does: a marker may stand where it changes nothing, and
in text no blank comes right behind a backslash. -/
def MathState.admits (state : MathState) (c : Char) : Bool :=
  state.mode == .display ||
    !(isMarker c && (state.mode != .text || state.escaped)) &&
      !(Text.isBlank c && (state.mode == .text && state.escaped))

/-- The scan for formulas, which refuses what tidying might take away with a difference. -/
def mathReader : Reader MathState where
  step state c := if state.admits c then some (state.next c) else none

/-- Behind a formula that is closed the scan is in text, and behind one without a body it is in a display. -/
def MathState.behind (state : MathState) (body : List Char) : MathState :=
  if state.mode = .display then state
  else if body = [] then { state with mode := .display }
  else { state with formulas := state.formulas + 1 }

/-- What is read by the stricter scan is scanned alike. -/
theorem foldl_next_of_read {state state' : MathState} {s : List Char} (h : mathReader.read state s = some state') :
    s.foldl MathState.next state = state' := by
  induction s generalizing state with
  | nil => exact Option.some.inj h
  | cons c rest ih =>
    rw [Reader.read_cons] at h
    obtain ⟨next, hstep, hrest⟩ := Option.bind_eq_some_iff.1 h
    simp only [mathReader] at hstep
    split at hstep
    · rw [List.foldl_cons, Option.some.inj hstep]
      exact ih hrest
    · cases hstep

/-- Nothing leads out of a display. -/
theorem mathReader_step_display {state : MathState} (h : state.mode = .display) (c : Char) :
    mathReader.step state c = some state := by
  simp [mathReader, MathState.admits, MathState.next, h]

/-- No text leads out of a display. -/
theorem mathReader_read_display {state : MathState} (h : state.mode = .display) (s : List Char) :
    mathReader.read state s = some state := by
  induction s with
  | nil => rfl
  | cons c rest ih => rw [Reader.read_cons, mathReader_step_display h, Option.bind_some, ih]

/-- A blank settles the mode, unless a backslash stands before it in text, where it is refused. -/
theorem mathReader_step_of_isBlank (state : MathState) {c : Char} (hc : Text.isBlank c = true) :
    mathReader.step state c =
      if state.mode = .text ∧ state.escaped = true then none
      else some (if state.mode = .display then state
        else { state with mode := state.mode.settle, escaped := false }) := by
  obtain ⟨hback, hdollar⟩ := ne_of_isBlank hc
  obtain ⟨_ | _ | _ | _, _ | _, n⟩ := state <;>
    simp [mathReader, MathState.admits, MathState.next, MathMode.settle, isMarker_of_isBlank hc, hc, hback, hdollar]

/-- One blank more makes no difference to the scan. -/
theorem mathReader_blankLaw : mathReader.BlankLaw where
  same state c hc := by rw [mathReader_step_of_isBlank state hc, mathReader_step_of_isBlank state rfl]
  again state p hp := by
    rw [mathReader_step_of_isBlank state rfl] at hp
    split at hp
    · cases hp
    · obtain rfl := Option.some.inj hp
      rw [mathReader_step_of_isBlank _ rfl]
      obtain ⟨_ | _ | _ | _, _ | _, n⟩ := state <;> simp_all [MathMode.settle]

/-- A marker makes no difference to the scan. -/
theorem mathReader_markerLaw : mathReader.MarkerLaw Eq where
  refl _ := rfl
  trans _ _ _ := Eq.trans
  step q p q' c hqp hstep := ⟨q', hqp ▸ hstep, rfl⟩
  mark state state' c hc hstep := by
    have hmarker : isMarker c = true := by rwa [isMarker, Bool.or_eq_true, beq_iff_eq, beq_iff_eq]
    obtain ⟨hback, hdollar, hblank⟩ := ne_of_isMarker hmarker
    by_cases hdisplay : state.mode = .display
    · rw [mathReader_step_display hdisplay] at hstep
      exact (Option.some.inj hstep).symm
    · obtain ⟨_ | _ | _ | _, _ | _, n⟩ := state <;>
        simp [mathReader, MathState.admits, MathState.next, MathMode.settle, hmarker, hblank, hback, hdollar]
          at hstep hdisplay ⊢
      exact hstep.symm

/-- A text without formulas leaves the scan in text. -/
theorem mathReader_read_free {escaped escaped' : Bool} {s : List Char} (h : plainReader.read escaped s = some escaped')
    (n : Nat) : mathReader.read ⟨.text, escaped, n⟩ s = some ⟨.text, escaped', n⟩ := by
  induction s generalizing escaped with
  | nil =>
    rw [Reader.read_nil, Option.some.injEq] at h
    rw [h, Reader.read_nil]
  | cons c rest ih =>
    rw [Reader.read_cons] at h ⊢
    obtain ⟨next, hstep, hrest⟩ := Option.bind_eq_some_iff.1 h
    have hchar := plainReader_step hstep
    have hnext : mathReader.step ⟨.text, escaped, n⟩ c = some ⟨.text, next, n⟩ := by
      cases escaped with
      | true =>
        obtain ⟨rfl, hblank, hmarker⟩ := hchar
        simp [mathReader, MathState.admits, MathState.next, MathMode.settle, hblank, hmarker]
      | false =>
        obtain ⟨rfl, hdollar⟩ := hchar
        by_cases hback : c = '\\' <;>
          simp [mathReader, MathState.admits, MathState.next, MathMode.settle, hback, hdollar]
    rw [hnext]
    exact ih hrest

/-- The text of a formula stays in it, and takes the character behind it when it ends in an odd number of
backslashes. -/
theorem mathReader_read_body {body : List Char} (h : Admitted body) (n : Nat) :
    ∃ escaped, mathReader.read ⟨.opened, false, n⟩ body = some ⟨if body = [] then .opened else .inline, escaped, n⟩ ∧
      (escaped = true ↔ Odd (backslashes body)) := by
  induction body using List.reverseRecOn with
  | nil => exact ⟨false, rfl, by simp [backslashes]⟩
  | append_singleton front c ih =>
    obtain ⟨escaped, hread, hodd⟩ := ih (fun d hd => h d (List.mem_append_left _ hd))
    obtain ⟨hdollar, hmarker⟩ := h c (List.mem_append_right _ (List.mem_singleton_self c))
    have hstep : mathReader.step ⟨if front = [] then .opened else .inline, escaped, n⟩ c =
        some ⟨.inline, !escaped && c == '\\', n⟩ := by
      by_cases hfront : front = []
      · have hplain : escaped = false := by
          rw [hfront] at hodd
          exact Bool.eq_false_iff.2 (fun he => by simpa [backslashes] using hodd.1 he)
        by_cases hback : c = '\\' <;>
          simp [mathReader, MathState.admits, MathState.next, MathMode.settle, hfront, hplain, hback, hdollar, hmarker,
            show isMarker '\\' = false from rfl]
      · cases escaped <;> by_cases hback : c = '\\' <;>
          simp [mathReader, MathState.admits, MathState.next, MathMode.settle, hfront, hback, hdollar, hmarker,
            show isMarker '\\' = false from rfl]
    refine ⟨!escaped && c == '\\', ?_, ?_⟩
    · rw [mathReader.read_append_of_eq hread, Reader.read_singleton, hstep, if_neg (by simp)]
    · rw [backslashes_concat]
      by_cases hback : c = '\\'
      · rw [if_pos hback, Nat.odd_add_one, ← hodd, hback]
        cases escaped <;> simp
      · simp [hback]

/-- Each formula that takes no dollar sign is one more, or opens a display when it has no body. -/
theorem mathLaw :
    FormulaLaw mathReader (fun state => state.escaped = false ∧ (state.mode = .text ∨ state.mode = .display))
    (fun body => Admitted body ∧ ¬Odd (backslashes body)) MathState.behind where
  blank := mathReader_blankLaw
  marker := mathReader_markerLaw
  free := by
    rintro ⟨mode, escaped, n⟩ s ⟨rfl, rfl | rfl⟩ hs
    · exact mathReader_read_free hs n
    · exact mathReader_read_display rfl s
  formula := by
    rintro ⟨mode, escaped, n⟩ body ⟨rfl, rfl | rfl⟩ ⟨hbody, hodd⟩
    · obtain ⟨escaped, hread, hescaped⟩ := mathReader_read_body hbody n
      obtain rfl : escaped = false := Bool.eq_false_iff.2 (fun he => hodd (hescaped.1 he))
      have hopening : mathReader.step ⟨.text, false, n⟩ '$' = some ⟨.opened, false, n⟩ := rfl
      rw [formula, Reader.read_cons, hopening, Option.bind_some, mathReader.read_append_of_eq hread,
        Reader.read_singleton]
      by_cases hnil : body = []
      · rw [if_pos hnil, MathState.behind, if_neg nofun, if_pos hnil]
        rfl
      · rw [if_neg hnil, MathState.behind, if_neg nofun, if_neg hnil]
        rfl
    · rw [mathReader_read_display rfl, MathState.behind, if_pos rfl]
  settled := by
    rintro ⟨mode, escaped, n⟩ body ⟨rfl, hmode⟩ -
    unfold MathState.behind
    split_ifs
    · exact ⟨rfl, hmode⟩
    · exact ⟨rfl, Or.inr rfl⟩
    · exact ⟨rfl, hmode⟩
  back := by
    intro m p hstep hp
    rw [mathReader_step_of_isBlank m rfl] at hstep
    split at hstep
    · cases hstep
    · obtain rfl := Option.some.inj hstep
      obtain ⟨_ | _ | _ | _, _ | _, n⟩ := m <;> simp_all [MathMode.settle]

/-! ## Both scans -/

/-- Outside displays, two dollar signs belong to each closed formula, and one more to a formula that is open. -/
def Agrees (state : MathState) (count : DollarState) : Prop :=
  state.mode ≠ .display →
    (state.escaped = true ↔ count.grip = .waiting) ∧
      count.dollars = 2 * state.formulas + if state.mode = .text then 0 else 1

/-- Scan and count go on in agreement. -/
theorem Agrees.next {state : MathState} {count : DollarState} (h : Agrees state count) (c : Char) :
    Agrees (state.next c) (count.next c) := by
  obtain ⟨mode, escaped, n⟩ := state
  obtain ⟨dollars, grip⟩ := count
  by_cases hdisplay : mode = .display
  · -- A display is not left.
    subst hdisplay
    exact fun hmode => absurd rfl hmode
  obtain ⟨hescaped, hdollars⟩ := h hdisplay
  simp only at hescaped hdollars
  intro hmode
  cases escaped with
  | true =>
    have hgrip : grip = .waiting := hescaped.1 rfl
    subst hgrip hdollars
    cases mode <;> cases hblank :
        Text.isBlank c <;> simp [MathState.next, DollarState.next, MathMode.settle, hblank] at hdisplay ⊢
  | false =>
    have hgrip : grip ≠ .waiting := fun hwaiting => Bool.false_ne_true (hescaped.2 hwaiting)
    subst hdollars
    by_cases hback : c = '\\'
    · subst hback
      have hblank : Text.isBlank '\\' = false := rfl
      cases mode <;> cases grip <;> simp [MathState.next, DollarState.next, MathMode.settle, hblank] at hdisplay hgrip ⊢
    · by_cases hdollar : c = '$'
      · subst hdollar
        have hblank : Text.isBlank '$' = false := rfl
        cases mode <;> cases grip <;>
          simp [MathState.next, DollarState.next, hblank, Nat.mul_add] at hmode hdisplay hgrip ⊢
      · cases mode <;> cases grip <;> cases hblank : Text.isBlank c <;>
          simp [MathState.next, DollarState.next, MathMode.settle, hback, hdollar, hblank] at hdisplay hgrip ⊢

/-- Scan and count agree behind every text that is counted. -/
theorem agrees_of_read {s : List Char} {count : DollarState} (h : dollarReader.read {} s = some count) :
    Agrees (scanMath s) count := by
  induction s using List.reverseRecOn generalizing count with
  | nil =>
    obtain rfl := Option.some.inj h
    exact fun _ => ⟨by decide, rfl⟩
  | append_singleton front c ih =>
    rw [Reader.read_append] at h
    obtain ⟨before, hread, hstep⟩ := Option.bind_eq_some_iff.1 h
    have hscan : scanMath (front ++ [c]) = (scanMath front).next c := by rw [scanMath, List.foldl_append]; rfl
    rw [Reader.read_singleton] at hstep
    simp only [dollarReader] at hstep
    split at hstep
    · cases hstep
    · obtain rfl := Option.some.inj hstep
      rw [hscan]
      exact (ih hread).next c

/-- The dollar signs of formulas add up. -/
theorem foldl_dollars (bodies : List (List Char)) (n : Nat) :
    bodies.foldl (fun (state : DollarState) body => { state with dollars := state.dollars + cost body }) ⟨n, .free⟩ =
      ⟨n + (bodies.map cost).sum, .free⟩ := by
  induction bodies generalizing n with
  | nil => rfl
  | cons body rest ih => rw [List.foldl_cons, ih, List.map_cons, List.sum_cons, Nat.add_assoc]

/-- There are two dollar signs to each formula only if none of them is taken. -/
theorem sum_cost_eq_iff (bodies : List (List Char)) :
    (bodies.map cost).sum = 2 * bodies.length ↔ ∀ body ∈ bodies, ¬Odd (backslashes body) := by
  have hle : ∀ l : List (List Char), (l.map cost).sum ≤ 2 * l.length := by
    intro l
    induction l with
    | nil => exact Nat.le_refl 0
    | cons body rest ih =>
      have hbody : cost body ≤ 2 := by
        unfold cost
        split_ifs <;> omega
      rw [List.map_cons, List.sum_cons, List.length_cons]
      omega
  induction bodies with
  | nil => simp
  | cons body rest ih =>
    have hrest := hle rest
    rw [List.map_cons, List.sum_cons, List.length_cons, List.forall_mem_cons, cost]
    split_ifs with hodd
    · refine ⟨fun hsum => ?_, fun h => absurd hodd h.1⟩
      omega
    · rw [and_iff_right hodd]
      refine Iff.trans ?_ ih
      omega

/-- Formulas behind a display change nothing. -/
theorem foldl_behind_display {state : MathState} (h : state.mode = .display) (bodies : List (List Char)) :
    bodies.foldl MathState.behind state = state := by
  induction bodies with
  | nil => rfl
  | cons body rest ih => rw [List.foldl_cons, MathState.behind, if_pos h, ih]

/-- Behind a formula in text the scan is in text, or in a display when the formula has no body. -/
theorem behind_text (n : Nat) (body : List Char) :
    MathState.behind ⟨.text, false, n⟩ body = if body = [] then ⟨.display, false, n⟩ else ⟨.text, false, n + 1⟩ :=
  if_neg nofun

/-- Behind formulas with bodies the scan is in text. -/
theorem foldl_behind {bodies : List (List Char)} (h : ∀ body ∈ bodies, body ≠ []) (n : Nat) :
    bodies.foldl MathState.behind ⟨.text, false, n⟩ = ⟨.text, false, n + bodies.length⟩ := by
  induction bodies generalizing n with
  | nil => rfl
  | cons body rest ih =>
    rw [List.forall_mem_cons] at h
    rw [List.foldl_cons, behind_text, if_neg h.1, ih h.2, List.length_cons, Nat.add_assoc, Nat.add_comm 1]

/-- Behind a formula without a body the scan is in a display. -/
theorem foldl_behind_of_nil_mem {bodies : List (List Char)} (h : [] ∈ bodies) (n : Nat) :
    (bodies.foldl MathState.behind ⟨.text, false, n⟩).mode = .display := by
  induction bodies generalizing n with
  | nil => exact absurd h List.not_mem_nil
  | cons body rest ih =>
    rw [List.foldl_cons, behind_text]
    by_cases hbody : body = []
    · rw [if_pos hbody, foldl_behind_display rfl]
    · rw [if_neg hbody]
      exact ih ((List.mem_cons.1 h).resolve_left (fun hnil => hbody hnil.symm)) (n + 1)

/-- The formulas of a text come out as inline formulas, one for each body, with text behind the last and without any
display, exactly when no body is empty and none ends in a backslash that takes the dollar sign behind it. -/
theorem scanMath_tidy_iff {bodies : List (List Char)} {s : List Char} (hs : WithFormulas bodies s)
    (hbodies : ∀ body ∈ bodies, Admitted body) :
    ((scanMath (tidy s)).mode = .text ∧ (scanMath (tidy s)).formulas = bodies.length) ↔
      ∀ body ∈ bodies, body ≠ [] ∧ ¬Odd (backslashes body) := by
  have hmath : (∀ body ∈ bodies, ¬Odd (backslashes body)) → scanMath (tidy s) = bodies.foldl MathState.behind {} := by
    intro hodd
    exact foldl_next_of_read (mathLaw.read_tidy hs (fun body hbody => ⟨hbodies body hbody, hodd body hbody⟩)
      ⟨rfl, Or.inl rfl⟩)
  constructor
  · rintro ⟨htext, hformulas⟩
    have hcount := agrees_of_read (dollarLaw.read_tidy hs hbodies (q := {}) rfl)
    obtain ⟨-, hdollars⟩ := hcount (by rw [htext]; decide)
    rw [foldl_dollars, htext, hformulas, if_pos rfl, Nat.add_zero, Nat.zero_add] at hdollars
    have hodd := (sum_cost_eq_iff bodies).1 hdollars
    rw [hmath hodd] at htext
    refine fun body hbody => ⟨fun hnil => ?_, hodd body hbody⟩
    rw [foldl_behind_of_nil_mem (hnil ▸ hbody)] at htext
    cases htext
  · intro h
    rw [hmath (fun body hbody => (h body hbody).2), foldl_behind (fun body hbody => (h body hbody).1)]
    exact ⟨rfl, Nat.zero_add _⟩

end Tex

end Manuscript
