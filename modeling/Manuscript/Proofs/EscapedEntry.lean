import Mathlib.Algebra.Ring.Parity
import Mathlib.Data.List.DropRight
import Manuscript.Bibtex.Escape

/-!
# Escaped entries

Escaping puts backslashes into an entry and does nothing else to it. What is written for a character (`Sign`)
depends on the state in which the scanner meets it. A backslash that was put in is met when the escaped entry is
scanned, but it counts for the next character only, which is no brace and no quote. So both scans go through the
same states, and escaping a second time changes nothing (`escape_inserts`).

TeX takes a character for an escaped one when an odd number of backslashes stands directly before it, the scanner
when there is one at all. The two disagree behind an even number, and there an ampersand or a percent sign stays
what it was (`disarmed_escape_iff`).
-/

namespace Manuscript.Bibtex

namespace State

variable {p q state : State} {c : Char} {s t : List Char}

/-- The state after a text. -/
def scan (state : State) (s : List Char) : State :=
  s.foldl next state

/-- Two states with as many open braces, and both inside quotes or both outside. -/
def SameNesting (p q : State) : Prop :=
  p.depth = q.depth ∧ p.quoted = q.quoted

@[simp]
theorem scan_nil (state : State) : state.scan [] = state := rfl

@[simp]
theorem scan_cons (state : State) (c : Char) (s : List Char) : state.scan (c :: s) = (state.next c).scan s := rfl

@[simp]
theorem scan_append (state : State) (s t : List Char) : state.scan (s ++ t) = (state.scan s).scan t :=
  List.foldl_append

/-- The scanner remembers whether the last character was a backslash. -/
@[simp]
theorem afterBackslash_next (state : State) (c : Char) : (state.next c).afterBackslash = (c == '\\') := rfl

/-- What the scanner remembers of the last character. -/
theorem afterBackslash_scan (s : List Char) : (scan {} s).afterBackslash = (s.getLast? == some '\\') := by
  rcases List.eq_nil_or_concat s with rfl | ⟨front, c, rfl⟩
  · rfl
  · simp

/-- The characters that may have to be escaped. -/
theorem special_of_escapes (h : state.escapes c = true) :
    state.afterBackslash = false ∧ (c = '&' ∨ c = '%' ∨ c = '#') := by
  unfold escapes at h
  simp only [Bool.and_eq_true, Bool.not_eq_true', Bool.or_eq_true, beq_iff_eq] at h
  obtain ⟨hafter, hc⟩ := h
  refine ⟨hafter, ?_⟩
  rcases hc with (hc | hc) | ⟨hc, -⟩
  · exact Or.inl hc
  · exact Or.inr (Or.inl hc)
  · exact Or.inr (Or.inr hc)

/-- A character that may have to be escaped opens nothing and closes nothing. -/
theorem enter_of_special (state : State) (hc : c = '&' ∨ c = '%' ∨ c = '#') : state.enter c = state := by
  rcases hc with rfl | rfl | rfl <;> simp [enter]

/-- Whether a character is escaped is decided by the state in which it is met. -/
theorem escapes_eq (state : State) (c : Char) :
    state.escapes c = (!state.afterBackslash && (c == '&' || c == '%' || (c == '#' && state.inValue))) := by
  unfold escapes
  by_cases hhash : c = '#'
  · rw [enter_of_special state (Or.inr (Or.inr hhash))]
  · rw [beq_eq_false_iff_ne.2 hhash, Bool.false_and, Bool.false_and]

/-- An ampersand or a percent sign is escaped when no backslash stands directly before it. -/
theorem escapes_of_mark (state : State) (hc : c = '&' ∨ c = '%') : state.escapes c = !state.afterBackslash := by
  rcases hc with rfl | rfl <;> simp [escapes]

/-- A backslash opens nothing and closes nothing. -/
theorem next_backslash (state : State) : state.next '\\' = { state with afterBackslash := true } := by
  simp [next, enter]

/-- A backslash that is put in leaves no trace behind the character for which it stands. -/
theorem next_next_of_escapes (h : state.escapes c = true) : (state.next '\\').next c = state.next c := by
  obtain ⟨-, hc⟩ := special_of_escapes h
  rw [next_backslash, next, next, enter_of_special _ hc, enter_of_special _ hc]

end State

/-! ## Signs -/

/-- A character of an entry and how it is written: with a backslash put in front of it, or as it stands. -/
structure Sign where
  char : Char
  escaped : Bool
  deriving DecidableEq

namespace Sign

/-- What is put in front of the character. -/
def lead (sign : Sign) : List Char :=
  if sign.escaped then ['\\'] else []

/-- What is written for the character. -/
def text (sign : Sign) : List Char :=
  sign.lead ++ [sign.char]

end Sign

/-- The characters of an entry. -/
def chars (signs : List Sign) : List Char :=
  signs.map Sign.char

/-- What is written for an entry. -/
def written (signs : List Sign) : List Char :=
  signs.flatMap Sign.text

/-- The characters of a text with how they are written from a state on. -/
def signsFrom (state : State) : List Char → List Sign
  | [] => []
  | c :: rest => ⟨c, state.escapes c⟩ :: signsFrom (state.next c) rest

variable {state : State} {sign : Sign} {signs before after : List Sign} {c : Char} {s : List Char}

@[simp]
theorem chars_append (signs others : List Sign) : chars (signs ++ others) = chars signs ++ chars others :=
  List.map_append

@[simp]
theorem chars_singleton (sign : Sign) : chars [sign] = [sign.char] := rfl

@[simp]
theorem written_append (signs others : List Sign) : written (signs ++ others) = written signs ++ written others :=
  List.flatMap_append

theorem written_cons (sign : Sign) (signs : List Sign) :
    written (sign :: signs) = sign.lead ++ sign.char :: written signs := by
  simp [written, Sign.text]

@[simp]
theorem written_singleton (sign : Sign) : written [sign] = sign.lead ++ [sign.char] :=
  List.flatMap_singleton ..

/-- The signs of a text have its characters. -/
@[simp]
theorem chars_signsFrom (state : State) (s : List Char) : chars (signsFrom state s) = s := by
  induction s generalizing state with
  | nil => rfl
  | cons c rest ih => exact congrArg (List.cons c) (ih (state.next c))

theorem escapeFrom_cons (state : State) (c : Char) (s : List Char) :
    escapeFrom state (c :: s) = Sign.text ⟨c, state.escapes c⟩ ++ escapeFrom (state.next c) s := by
  rw [escapeFrom]
  unfold Sign.text Sign.lead
  cases state.escapes c <;> rfl

/-- What is written for the signs of a text is the escaped text. -/
@[simp]
theorem written_signsFrom (state : State) (s : List Char) : written (signsFrom state s) = escapeFrom state s := by
  induction s generalizing state with
  | nil => rfl
  | cons c rest ih => rw [escapeFrom_cons, ← ih (state.next c), signsFrom, written, List.flatMap_cons, written]

theorem signsFrom_append (state : State) (s t : List Char) :
    signsFrom state (s ++ t) = signsFrom state s ++ signsFrom (state.scan s) t := by
  induction s generalizing state with
  | nil => rfl
  | cons c rest ih => exact congrArg (List.cons _) (ih (state.next c))

/-- How characters are written is decided in the state after the characters before them. -/
theorem eq_signsFrom_of_append (h : signsFrom state s = before ++ after) :
    before = signsFrom state (chars before) ∧ after = signsFrom (state.scan (chars before)) (chars after) := by
  have hs : s = chars before ++ chars after := by
    have hchars := congrArg chars h
    rwa [chars_signsFrom, chars_append] at hchars
  rw [hs, signsFrom_append] at h
  obtain ⟨hbefore, hafter⟩ := List.append_inj h (by
    have hlength := congrArg List.length (chars_signsFrom state (chars before))
    simpa [chars] using hlength)
  exact ⟨hbefore.symm, hafter.symm⟩

/-- Whether a sign is escaped is decided in the state behind the characters before it. -/
theorem escaped_of_signsFrom (h : signsFrom state s = before ++ sign :: after) :
    sign.escaped = (state.scan (chars before)).escapes sign.char := by
  obtain ⟨-, hsign⟩ := eq_signsFrom_of_append h
  obtain ⟨hsign, -⟩ := List.cons.inj hsign
  exact congrArg Sign.escaped hsign

/-! ## Scanning what was written -/

/-- Scanning what is written for a character comes to the same state as scanning the character. -/
theorem scan_text (state : State) (c : Char) : state.scan (Sign.text ⟨c, state.escapes c⟩) = state.next c := by
  unfold Sign.text Sign.lead
  cases h : state.escapes c with
  | false => rfl
  | true => exact State.next_next_of_escapes h

/-- An escaped text is scanned as the text. -/
theorem scan_escapeFrom (state : State) (s : List Char) : state.scan (escapeFrom state s) = state.scan s := by
  induction s generalizing state with
  | nil => rfl
  | cons c rest ih => rw [escapeFrom_cons, State.scan_append, scan_text, ih, State.scan_cons]

theorem escapeFrom_append (state : State) (s t : List Char) :
    escapeFrom state (s ++ t) = escapeFrom state s ++ escapeFrom (state.scan s) t := by
  induction s generalizing state with
  | nil => rfl
  | cons c rest ih => rw [List.cons_append, escapeFrom_cons, escapeFrom_cons, ih, List.append_assoc, State.scan_cons]

/-- What is written for the first characters is scanned as they are. -/
theorem scan_written (h : signsFrom state s = before ++ after) :
    state.scan (written before) = state.scan (chars before) := by
  obtain ⟨hbefore, -⟩ := eq_signsFrom_of_append h
  conv => lhs; rw [hbefore, written_signsFrom, scan_escapeFrom]

/-- What is written for a character is written for it as it is. -/
theorem escapeFrom_text (state : State) (c : Char) :
    escapeFrom state (Sign.text ⟨c, state.escapes c⟩) = Sign.text ⟨c, state.escapes c⟩ := by
  have hback : state.escapes '\\' = false := by simp [State.escapes]
  unfold Sign.text Sign.lead
  cases h : state.escapes c with
  | false => simp [escapeFrom, h]
  | true =>
    have hquiet : (state.next '\\').escapes c = false := by simp [State.escapes]
    simp [escapeFrom, hback, hquiet]

/-- Escaping leaves escaped text as it is. The two scans go through the same states, character by character. -/
theorem escapeFrom_escapeFrom (state : State) (s : List Char) :
    escapeFrom state (escapeFrom state s) = escapeFrom state s := by
  induction s generalizing state with
  | nil => rfl
  | cons c rest ih => rw [escapeFrom_cons, escapeFrom_append, escapeFrom_text, scan_text, ih]

/-- Escaping only puts in single backslashes, each directly before an ampersand, a percent sign or a hash that has
no backslash directly before it. At each character of the entry the depth of braces and the quotes are the same in
the escaped entry, both when the character is reached, with the backslash put in before it, and behind it. Escaping
again changes nothing. -/
theorem escape_inserts (s : List Char) :
    (∃ signs, chars signs = s ∧ written signs = escape s ∧
      ∀ before sign after, signs = before ++ sign :: after →
        (sign.escaped = true →
          (sign.char = '&' ∨ sign.char = '%' ∨ sign.char = '#') ∧ (chars before).getLast? ≠ some '\\') ∧
        (State.scan {} (written before ++ sign.lead)).SameNesting (State.scan {} (chars before)) ∧
        (State.scan {} (written (before ++ [sign]))).SameNesting (State.scan {} (chars (before ++ [sign])))) ∧
      escape (escape s) = escape s := by
  refine ⟨⟨signsFrom {} s, chars_signsFrom {} s, written_signsFrom {} s, ?_⟩, escapeFrom_escapeFrom {} s⟩
  intro before sign after hsplit
  have hescaped := escaped_of_signsFrom hsplit
  have hbefore := scan_written hsplit
  have hbehind := scan_written (List.append_cons before sign after ▸ hsplit)
  refine ⟨fun h => ?_, ?_, ?_⟩
  · rw [hescaped] at h
    obtain ⟨hafter, hspecial⟩ := State.special_of_escapes h
    rw [State.afterBackslash_scan, beq_eq_false_iff_ne] at hafter
    exact ⟨hspecial, hafter⟩
  · rw [State.scan_append, hbefore]
    unfold Sign.lead
    split
    · rw [State.scan_cons, State.scan_nil, State.next_backslash]
      exact ⟨rfl, rfl⟩
    · exact ⟨rfl, rfl⟩
  · rw [hbehind]
    exact ⟨rfl, rfl⟩

/-- A record in which a value is opened and closed too often, a quote is left open, and a percent sign and a hash
have a backslash already. -/
def brokenEntry : List Char :=
  "@misc\x7bk, a = \x7b50% \\%\x7d\x7d # \x7d \"R&D \\# #".toList

/-- The broken record gets a backslash where none stands, keeps its nesting, and is left alone the second time. -/
theorem brokenEntry_escape_inserts :
    (∃ signs, chars signs = brokenEntry ∧
      written signs = "@misc\x7bk, a = \x7b50\\% \\%\x7d\x7d # \x7d \"R\\&D \\# \\#".toList ∧
      ∀ before after, signs = before ++ ⟨'#', true⟩ :: after →
        (chars before).getLast? ≠ some '\\' ∧
        (State.scan {} (written (before ++ [⟨'#', true⟩]))).SameNesting
          (State.scan {} (chars (before ++ [⟨'#', true⟩])))) ∧
      escape (escape brokenEntry) = "@misc\x7bk, a = \x7b50\\% \\%\x7d\x7d # \x7d \"R\\&D \\# \\#".toList := by
  obtain ⟨⟨signs, hchars, hwritten, hsigns⟩, hagain⟩ := escape_inserts brokenEntry
  have hescape : escape brokenEntry =
    "@misc\x7bk, a = \x7b50\\% \\%\x7d\x7d # \x7d \"R\\&D \\# \\#".toList := by decide +kernel
  refine ⟨⟨signs, hchars, hwritten.trans hescape, fun before after hsplit => ?_⟩, hagain.trans hescape⟩
  obtain ⟨hput, -, hbehind⟩ := hsigns before ⟨'#', true⟩ after hsplit
  exact ⟨(hput rfl).2, hbehind⟩

/-! ## Runs of backslashes -/

/-- The number of backslashes at the end of a text. -/
def backslashes (s : List Char) : Nat :=
  (s.rtakeWhile (· == '\\')).length

/-- Each ampersand and each percent sign stands directly behind an odd number of backslashes, so that TeX takes it
for an escaped one. -/
def Disarmed (s : List Char) : Prop :=
  ∀ before c after, s = before ++ c :: after → c = '&' ∨ c = '%' → Odd (backslashes before)

/-- A backslash at the end is one more, and any other character ends the run. -/
theorem backslashes_concat (s : List Char) (c : Char) :
    backslashes (s ++ [c]) = if c = '\\' then backslashes s + 1 else 0 := by
  unfold backslashes
  rw [List.rtakeWhile_concat]
  by_cases hc : c = '\\' <;> simp [hc]

/-- No backslash stands at the end when the last character is none. -/
theorem backslashes_eq_zero_iff : backslashes s = 0 ↔ s.getLast? ≠ some '\\' := by
  rcases List.eq_nil_or_concat s with rfl | ⟨front, c, rfl⟩
  · simp [backslashes]
  · rw [List.concat_eq_append, backslashes_concat]
    simp

/-- A backslash is never escaped, so the runs of backslashes at which a character ends stay as long as they were. -/
theorem backslashes_written (h : ∀ sign ∈ signs, sign.escaped = true → sign.char ≠ '\\') :
    backslashes (written signs) = backslashes (chars signs) := by
  induction signs using List.reverseRecOn with
  | nil => rfl
  | append_singleton others sign ih =>
    have hothers := ih (fun other hmem => h other (List.mem_append_left _ hmem))
    have hsign := h sign (List.mem_append_right _ (List.mem_singleton.2 rfl))
    rw [written_append, chars_append, written_singleton, chars_singleton, ← List.append_assoc, backslashes_concat,
      backslashes_concat]
    by_cases hc : sign.char = '\\'
    · have hlead : sign.lead = [] := by
        unfold Sign.lead
        rw [if_neg (fun hescaped => hsign hescaped hc)]
      rw [if_pos hc, if_pos hc, hlead, List.append_nil, hothers]
    · rw [if_neg hc, if_neg hc]

/-- Where a character that is no backslash stands in what was written, it was written for that character. -/
theorem exists_sign_of_written (hc : c ≠ '\\') {lead trail : List Char} (h : written signs = lead ++ c :: trail) :
    ∃ before sign after, signs = before ++ sign :: after ∧ sign.char = c ∧ lead = written before ++ sign.lead := by
  induction signs generalizing lead with
  | nil => exact absurd h.symm (by simp [written])
  | cons sign others ih =>
    obtain ⟨char, escaped⟩ := sign
    -- Either it stands in what was written for this character, or in what was written for the others.
    have hlater : ∀ rest, lead = Sign.text ⟨char, escaped⟩ ++ rest → written others = rest ++ c :: trail →
        ∃ before sign after, ⟨char, escaped⟩ :: others = before ++ sign :: after ∧ sign.char = c ∧
          lead = written before ++ sign.lead := by
      intro rest hlead hrest
      obtain ⟨before, next, after, rfl, hnext, hbefore⟩ := ih hrest
      refine ⟨⟨char, escaped⟩ :: before, next, after, rfl, hnext, ?_⟩
      rw [hlead, hbefore, ← List.append_assoc]
      rfl
    cases escaped with
    | false =>
      rcases lead with _ | ⟨d, rest⟩
      · obtain ⟨hchar, -⟩ := List.cons.inj h
        exact ⟨[], ⟨char, false⟩, others, rfl, hchar, rfl⟩
      · obtain ⟨rfl, hrest⟩ := List.cons.inj h
        exact hlater rest rfl hrest
    | true =>
      rcases lead with _ | ⟨d, _ | ⟨e, rest⟩⟩
      · obtain ⟨hback, -⟩ := List.cons.inj h
        exact absurd hback.symm hc
      · obtain ⟨rfl, hchar⟩ := List.cons.inj h
        obtain ⟨hchar, -⟩ := List.cons.inj hchar
        exact ⟨[], ⟨char, true⟩, others, rfl, hchar, rfl⟩
      · obtain ⟨rfl, htail⟩ := List.cons.inj h
        obtain ⟨rfl, hrest⟩ := List.cons.inj htail
        exact hlater rest rfl hrest

/-- Before an ampersand or a percent sign stand as many backslashes as before escaping, or one where there was none. -/
theorem backslashes_before (h : signsFrom {} s = before ++ sign :: after) (hc : sign.char = '&' ∨ sign.char = '%') :
    backslashes (written before ++ sign.lead) = if backslashes (chars before) = 0 then 1 else backslashes
      (chars before) := by
  have hruns : backslashes (written before) = backslashes (chars before) := by
    refine backslashes_written (fun other hmem hescaped => ?_)
    obtain ⟨front, back, rfl⟩ := List.append_of_mem hmem
    rw [List.append_assoc, List.cons_append] at h
    rw [escaped_of_signsFrom h] at hescaped
    rcases (State.special_of_escapes hescaped).2 with hchar | hchar | hchar <;> rw [hchar] <;> decide
  have hescaped : sign.escaped = !((chars before).getLast? == some '\\') := by
    rw [escaped_of_signsFrom h, State.escapes_of_mark _ hc, State.afterBackslash_scan]
  unfold Sign.lead
  by_cases hzero : backslashes (chars before) = 0
  · have hlast := backslashes_eq_zero_iff.1 hzero
    rw [if_pos hzero, hescaped, beq_eq_false_iff_ne.2 hlast, Bool.not_false, if_pos rfl, backslashes_concat,
      if_pos rfl, hruns, hzero]
  · have hlast : (chars before).getLast? = some '\\' := by
      by_contra hne
      exact hzero (backslashes_eq_zero_iff.2 hne)
    rw [if_neg hzero, hescaped, hlast, beq_self_eq_true, if_neg (by decide), List.append_nil, hruns]

/-- Behind every ampersand and every percent sign of an escaped entry stands an odd number of backslashes, exactly
when none of them stands behind an even number of backslashes, other than nought, in the entry. -/
theorem disarmed_escape_iff (s : List Char) :
    Disarmed (escape s) ↔
      ∀ before c after, s = before ++ c :: after → c = '&' ∨ c = '%' → backslashes before = 0 ∨
        Odd (backslashes before) := by
  have hsigns : ∀ before sign after, signsFrom {} s = before ++ sign :: after → sign.char = '&' ∨ sign.char = '%' →
      (Odd (backslashes (written before ++ sign.lead)) ↔ backslashes (chars before) = 0 ∨
        Odd (backslashes (chars before))) := by
    intro before sign after hsplit hc
    rw [backslashes_before hsplit hc]
    split
    · rename_i hzero
      simp [hzero]
    · rename_i hzero
      simp [hzero]
  constructor
  · intro h before c after hsplit hc
    obtain ⟨sign, others, hsign, hchar⟩ :
        ∃ sign others, signsFrom {} s = signsFrom {} before ++ sign :: others ∧ sign.char = c := by
      rw [hsplit, signsFrom_append]
      exact ⟨_, _, rfl, rfl⟩
    have hwritten := congrArg written hsign
    rw [written_signsFrom, written_append, written_cons, hchar, ← List.append_assoc] at hwritten
    have hodd := (hsigns _ sign others hsign (hchar ▸ hc)).1 (h _ c _ hwritten hc)
    rwa [chars_signsFrom] at hodd
  · intro h lead c trail hsplit hc
    have hback : c ≠ '\\' := by rcases hc with rfl | rfl <;> decide
    rw [escape, ← written_signsFrom] at hsplit
    obtain ⟨before, sign, after, hsign, rfl, rfl⟩ := exists_sign_of_written hback hsplit
    refine (hsigns before sign after hsign hc).2 (h (chars before) sign.char (chars after) ?_ hc)
    have hchars := congrArg chars hsign
    rwa [chars_signsFrom, chars_append] at hchars

/-- An ampersand behind a line break is not escaped, so it starts a new column. -/
theorem ampersand_left_armed :
    escape "a \\\\& b".toList = "a \\\\& b".toList ∧ ¬Disarmed (escape "a \\\\& b".toList) := by
  refine ⟨by decide, fun h => ?_⟩
  have hodd := h "a \\\\".toList '&' " b".toList (by decide) (Or.inl rfl)
  exact absurd hodd (by decide +kernel)

end Manuscript.Bibtex
