import Mathlib.Data.List.Infix
import Manuscript.Proofs.Calls

/-!
# Balanced braces

A text is balanced when a scan from left to right, for which a backslash takes the next character with it, closes
every brace that it opens and no other. Texts that a formatter writes pass a stricter scan, in which neither a blank
nor a marker comes after a backslash (`read_markup`): such a scan is not disturbed when blanks and markers are taken
away.
-/

namespace Manuscript

/-- The scan for braces: the number of open ones, and whether a backslash takes the next character. It refuses a
closing brace when none is open, and the given characters after a backslash. -/
def braceReader (refused : Char → Bool) : Reader (Nat × Bool) where
  step
    | (depth, true), c => if refused c then none else some (depth, false)
    | (depth, false), c =>
      if c = '\\' then some (depth, true)
      else if c = '{' then some (depth + 1, false)
      else if c = '}' then
        match depth with
        | 0 => none
        | outer + 1 => some (outer, false)
      else some (depth, false)

namespace Tex

/-- Every brace that a text opens is closed, and no other. -/
def Balanced (s : List Char) : Prop :=
  ((braceReader fun _ => false).read (0, false) s).map (·.1) = some 0

instance (s : List Char) : Decidable (Balanced s) :=
  inferInstanceAs (Decidable (_ = _))

/-- A text that is read back to depth nought is balanced. -/
theorem balanced_of_read {s : List Char} {escaped : Bool}
    (h : (braceReader fun _ => false).read (0, false) s = some (0, escaped)) : Balanced s := by
  rw [Balanced, h]
  rfl

/-- Whether no backslash is the last character of a text or stands in front of a blank. -/
def backslashesBound : List Char → Bool
  | [] => true
  | c :: rest => (c != '\\' || rest.head?.any (fun d => !Text.isBlank d)) && backslashesBound rest

/-- Text that may go in unescaped: its braces are balanced, it begins and ends no environment, each backslash has a
character to take, and there are no markers. -/
structure Harmless (s : List Char) : Prop where
  balanced : Balanced s
  noBegin : ¬"\\begin".toList <:+: s
  noEnd : ¬"\\end".toList <:+: s
  bound : backslashesBound s = true
  noMarker : ∀ c ∈ s, isMarker c = false

/-- A name that may go in unescaped: without backslashes, braces and markers. -/
structure Bare (s : List Char) : Prop where
  noBackslash : '\\' ∉ s
  noOpening : '{' ∉ s
  noClosing : '}' ∉ s
  noMarker : ∀ c ∈ s, isMarker c = false

instance (s : List Char) : Decidable (Harmless s) :=
  decidable_of_iff
    (Balanced s ∧ ¬"\\begin".toList <:+: s ∧ ¬"\\end".toList <:+: s ∧ backslashesBound s = true ∧
      ∀ c ∈ s, isMarker c = false)
    ⟨fun ⟨h₁, h₂, h₃, h₄, h₅⟩ => ⟨h₁, h₂, h₃, h₄, h₅⟩, fun h => ⟨h.1, h.2, h.3, h.4, h.5⟩⟩

instance (s : List Char) : Decidable (Bare s) :=
  decidable_of_iff ('\\' ∉ s ∧ '{' ∉ s ∧ '}' ∉ s ∧ ∀ c ∈ s, isMarker c = false)
    ⟨fun ⟨h₁, h₂, h₃, h₄⟩ => ⟨h₁, h₂, h₃, h₄⟩, fun h => ⟨h.1, h.2, h.3, h.4⟩⟩

theorem Bare.subset {s t : List Char} (h : Bare s) (ht : ∀ c ∈ t, c ∈ s) : Bare t where
  noBackslash hc := h.noBackslash (ht _ hc)
  noOpening hc := h.noOpening (ht _ hc)
  noClosing hc := h.noClosing (ht _ hc)
  noMarker c hc := h.noMarker c (ht c hc)

/-- The characters that the strict scan refuses after a backslash. -/
def breaksEscape (c : Char) : Bool :=
  Text.isBlank c || isMarker c

end Tex

/-! ## The scan -/

section Scan

variable {refused : Char → Bool}

/-- A character that is neither a brace nor a backslash changes nothing. -/
theorem braceReader_step_other {c : Char} (hback : c ≠ '\\') (hopening : c ≠ '{') (hclosing : c ≠ '}') (depth : Nat) :
    (braceReader refused).step (depth, false) c = some (depth, false) := by
  simp only [braceReader, if_neg hback, if_neg hopening, if_neg hclosing]

/-- A text without braces and backslashes changes nothing. -/
theorem braceReader_read_bare {s : List Char} (h : Tex.Bare s) (depth : Nat) :
    (braceReader refused).read (depth, false) s = some (depth, false) := by
  induction s with
  | nil => rfl
  | cons c rest ih =>
    have hne : c ≠ '\\' ∧ c ≠ '{' ∧ c ≠ '}' :=
      ⟨fun hc => h.noBackslash (hc ▸ List.mem_cons_self), fun hc => h.noOpening (hc ▸ List.mem_cons_self),
        fun hc => h.noClosing (hc ▸ List.mem_cons_self)⟩
    rw [Reader.read_cons, braceReader_step_other hne.1 hne.2.1 hne.2.2, Option.bind_some]
    exact ih (h.subset (fun d hd => List.mem_cons_of_mem c hd))

/-- A scan that refuses less reads as well what a stricter one reads. -/
theorem braceReader_read_weaken {q p : Nat × Bool} {s : List Char} (h : (braceReader refused).read q s = some p) :
    (braceReader fun _ => false).read q s = some p := by
  induction s generalizing q with
  | nil => exact h
  | cons c rest ih =>
    rw [Reader.read_cons] at h ⊢
    obtain ⟨q₁, hstep, hrest⟩ := Option.bind_eq_some_iff.1 h
    have hstep' : (braceReader fun _ => false).step q c = some q₁ := by
      obtain ⟨depth, _ | _⟩ := q
      · exact hstep
      · simp only [braceReader] at hstep ⊢
        split at hstep
        · cases hstep
        · exact hstep
    rw [hstep']
    exact ih hrest

/-- A step goes the same way at a greater depth. -/
theorem braceReader_step_shift {q p : Nat × Bool} {c : Char} (h : (braceReader refused).step q c = some p) (k : Nat) :
    (braceReader refused).step (q.1 + k, q.2) c = some (p.1 + k, p.2) := by
  obtain ⟨depth, escaped⟩ := q
  cases escaped with
  | true =>
    simp only [braceReader] at h ⊢
    split at h
    · cases h
    · rename_i hc
      rw [if_neg hc, ← Option.some.inj h]
  | false =>
    simp only [braceReader] at h ⊢
    by_cases hback : c = '\\'
    · rw [if_pos hback] at h ⊢
      rw [← Option.some.inj h]
    · rw [if_neg hback] at h ⊢
      by_cases hopening : c = '{'
      · rw [if_pos hopening] at h ⊢
        rw [← Option.some.inj h, Nat.add_right_comm]
      · rw [if_neg hopening] at h ⊢
        by_cases hclosing : c = '}'
        · rw [if_pos hclosing] at h ⊢
          cases depth with
          | zero => cases h
          | succ outer =>
            rw [← Option.some.inj h, Nat.add_right_comm]
        · rw [if_neg hclosing] at h ⊢
          rw [← Option.some.inj h]

/-- With more braces open before a text, as many more are open after it. -/
theorem braceReader_read_shift {q p : Nat × Bool} {s : List Char} (h : (braceReader refused).read q s = some p)
    (k : Nat) : (braceReader refused).read (q.1 + k, q.2) s = some (p.1 + k, p.2) := by
  induction s generalizing q with
  | nil =>
    rw [Reader.read_nil, Option.some.injEq] at h
    rw [h, Reader.read_nil]
  | cons c rest ih =>
    rw [Reader.read_cons] at h ⊢
    obtain ⟨q₁, hstep, hrest⟩ := Option.bind_eq_some_iff.1 h
    rw [braceReader_step_shift hstep k, Option.bind_some]
    exact ih hrest

end Scan

/-! ## The strict scan -/

/-- The scan that refuses blanks and markers after a backslash. -/
abbrev strictReader : Reader (Nat × Bool) :=
  braceReader Tex.breaksEscape

/-- Blanks leave the strict reader where it is. -/
theorem strictReader_blankLaw : strictReader.BlankLaw where
  same := by
    rintro ⟨depth, escaped⟩ c hc
    cases escaped with
    | true => simp [braceReader, Tex.breaksEscape, hc, show Text.isBlank '\n' = true from rfl]
    | false =>
      have hne : ∀ d : Char, Text.isBlank d = false → c ≠ d := by
        rintro d hd rfl
        rw [hc] at hd
        cases hd
      rw [braceReader_step_other (hne _ rfl) (hne _ rfl) (hne _ rfl)]
      rfl
  again := by
    rintro ⟨depth, escaped⟩ p hp
    cases escaped with
    | true => cases hp
    | false =>
      obtain rfl := Option.some.inj hp
      rfl

/-- Markers leave the strict reader where it is. -/
theorem strictReader_markerLaw : strictReader.MarkerLaw Eq where
  refl _ := rfl
  trans _ _ _ := Eq.trans
  step := by
    rintro q p q' c rfl hstep
    exact ⟨q', hstep, rfl⟩
  mark := by
    rintro ⟨depth, escaped⟩ q' c hc hstep
    cases escaped with
    | true => rcases hc with rfl | rfl <;> cases hstep
    | false => rcases hc with rfl | rfl <;> exact (Option.some.inj hstep).symm

/-- Blanks are read only where no backslash waits, and change nothing. -/
theorem eq_of_strictReader_read_blanks {q : Nat × Bool} {depth : Nat} {s : List Char}
    (h : strictReader.read q s = some (depth, false)) (hs : Text.allBlank s = true) : q = (depth, false) := by
  by_cases hne : s = []
  · rw [hne, Reader.read_nil, Option.some.injEq] at h
    exact h
  · rw [strictReader_blankLaw.read_blanks q hs hne] at h
    obtain ⟨d, escaped⟩ := q
    cases escaped with
    | true => cases h
    | false => exact Option.some.inj h

/-- What the plain scan reads, the strict one reads when each backslash has a character to take. -/
theorem strictReader_read_of_bound {s : List Char} {q p : Nat × Bool}
    (h : (braceReader fun _ => false).read q s = some p)
    (hq : q.2 = true → s.head?.any (fun c => !Text.isBlank c) = true) (hbound : Tex.backslashesBound s = true)
    (hmarker : ∀ c ∈ s, Tex.isMarker c = false) : strictReader.read q s = some (p.1, false) := by
  induction s generalizing q with
  | nil =>
    rw [Reader.read_nil, Option.some.injEq] at h
    rw [← h, Reader.read_nil]
    obtain ⟨depth, escaped⟩ := q
    cases escaped with
    | true => cases hq rfl
    | false => rfl
  | cons c rest ih =>
    rw [Reader.read_cons] at h ⊢
    obtain ⟨q₁, hstep, hrest⟩ := Option.bind_eq_some_iff.1 h
    rw [Tex.backslashesBound, Bool.and_eq_true, Bool.or_eq_true, bne_iff_ne] at hbound
    have hmarker' : ∀ d ∈ rest, Tex.isMarker d = false := fun d hd => hmarker d (List.mem_cons_of_mem c hd)
    obtain ⟨depth, escaped⟩ := q
    cases escaped with
    | true =>
      have hblank : Text.isBlank c = false := by simpa using hq rfl
      have hkept : strictReader.step (depth, true) c = some (depth, false) := by
        simp [braceReader, Tex.breaksEscape, hblank, hmarker c List.mem_cons_self]
      obtain rfl := Option.some.inj hstep
      rw [hkept]
      exact ih hrest (fun hescaped => absurd hescaped Bool.false_ne_true) hbound.2 hmarker'
    | false =>
      have hsame : strictReader.step (depth, false) c = (braceReader fun _ => false).step (depth, false) c := rfl
      rw [hsame, hstep]
      refine ih hrest (fun hescaped => ?_) hbound.2 hmarker'
      -- Only a backslash leaves the scan waiting for a character.
      by_cases hback : c = '\\'
      · exact hbound.1.resolve_left (fun hne => hne hback)
      · exfalso
        simp only [braceReader, if_neg hback] at hstep
        split at hstep
        · obtain rfl := Option.some.inj hstep
          cases hescaped
        · split at hstep
          · cases depth with
            | zero => cases hstep
            | succ outer =>
              obtain rfl := Option.some.inj hstep
              cases hescaped
          · obtain rfl := Option.some.inj hstep
            cases hescaped

/-- Harmless text leaves the strict scan as it was. -/
theorem strictReader_read_harmless {s : List Char} (h : Tex.Harmless s) (depth : Nat) :
    strictReader.read (depth, false) s = some (depth, false) := by
  obtain ⟨⟨_, escaped⟩, hread, rfl⟩ := Option.map_eq_some_iff.1 h.balanced
  have hshift := braceReader_read_shift hread depth
  rw [Nat.zero_add] at hshift
  exact strictReader_read_of_bound hshift nofun h.bound h.noMarker

/-! ## Markup -/

/-- What the strict scan makes of a text at no depth it makes of it at every depth. -/
theorem strictReader_read_at {s : List Char} {k : Nat} (h : strictReader.read (0, false) s = some (k, false))
    (depth : Nat) : strictReader.read (depth, false) s = some (depth + k, false) := by
  have hshift := braceReader_read_shift h depth
  rwa [Nat.zero_add, Nat.add_comm k] at hshift

/-- An escaped text leaves the strict reader where it is. -/
theorem strictReader_read_escape (s : List Char) (depth : Nat) :
    strictReader.read (depth, false) (Tex.escape s) = some (depth, false) := by
  have hall : ∀ e ∈ Tex.escapes, strictReader.read (0, false) e.2 = some (0, false) := by decide
  induction s with
  | nil => rfl
  | cons c rest ih =>
    have hchar : strictReader.read (depth, false) (Tex.escapeChar c) = some (depth, false) := by
      rw [Tex.escapeChar]
      cases hc : Tex.escapes.lookup c with
      | some sequence =>
        obtain ⟨l₁, l₂, heq, -⟩ := List.lookup_eq_some_iff.1 hc
        exact strictReader_read_at (hall (c, sequence) (by rw [heq]; simp)) depth
      | none =>
        have hne : ∀ d : Char, (Tex.escapes.lookup d).isSome = true → c ≠ d := by
          rintro d hd rfl
          rw [hc] at hd
          cases hd
        rw [Option.getD_none, Reader.read_singleton]
        exact braceReader_step_other (hne _ rfl) (hne _ rfl) (hne _ rfl) depth
    rw [Tex.escape, List.flatMap_cons, strictReader.read_append_of_eq hchar]
    exact ih

/-- Text between braces, when the text itself changes nothing. -/
theorem strictReader_read_group {s : List Char} (h : ∀ depth, strictReader.read (depth, false) s = some (depth, false))
    (depth : Nat) : strictReader.read (depth + 1, false) (s ++ ['}']) = some (depth, false) := by
  rw [strictReader.read_append_of_eq (h (depth + 1))]
  rfl

/-- A command whose argument leaves the strict reader where it is does so too. -/
theorem strictReader_read_command {name : String} {s : List Char} (hname : name ∈ "label" :: Tex.commandNames)
    (h : ∀ depth, strictReader.read (depth, false) s = some (depth, false)) (depth : Nat) :
    strictReader.read (depth, false) (Tex.command name s) = some (depth, false) := by
  have hall : ∀ name ∈ "label" :: Tex.commandNames,
      strictReader.read (0, false) ('\\' :: (name.toList ++ ['{'])) = some (1, false) := by decide
  have htext : Tex.command name s = '\\' :: (name.toList ++ ['{']) ++ (s ++ ['}']) := by
    simp [Tex.command]
  rw [htext, strictReader.read_append_of_eq (strictReader_read_at (hall name hname) depth)]
  exact strictReader_read_group h depth

/-- Markup leaves the strict scan as it was, sealed or not. The induction is on the grammar. -/
theorem strictReader_read_markup {e : Ending} {s : List Char} {l : List Label}
    (hs : Markup Tex.Harmless (fun id => Tex.Bare id.toList) e s l) :
    ∀ depth, strictReader.read (depth, false) s = some (depth, false) := by
  induction hs with
  | nil => exact fun _ => rfl
  | append _ _ ihs iht =>
    intro depth
    rw [strictReader.read_append_of_eq (ihs depth), iht depth]
  | loosen _ ih => exact ih
  | close hc _ ih =>
    intro depth
    have hall : ∀ c ∈ Tex.seals, strictReader.read (0, false) [c] = some (0, false) := by decide
    rw [strictReader.read_append_of_eq (ih depth)]
    exact strictReader_read_at (hall _ hc) depth
  | escape s => exact strictReader_read_escape s
  | phrase hp =>
    have hall : ∀ p ∈ Tex.phrases, strictReader.read (0, false) p = some (0, false) := by decide
    exact strictReader_read_at (hall _ hp)
  | plain hs => exact strictReader_read_harmless hs
  | verbatim hs htrail =>
    intro depth
    have hread := strictReader_read_harmless hs depth
    rw [Reader.read_append] at hread
    obtain ⟨q, hread, hend⟩ := Option.bind_eq_some_iff.1 hread
    rw [eq_of_strictReader_read_blanks hend htrail] at hread
    have hopening : strictReader.step (depth, false) Tex.verbatimOpen = some (depth, false) := rfl
    rw [Tex.verbatim, Reader.read_cons, hopening, Option.bind_some, strictReader.read_append_of_eq hread]
    rfl
  | group _ ih =>
    intro depth
    have hopening : strictReader.step (depth, false) '{' = some (depth + 1, false) := rfl
    rw [Reader.read_cons, hopening, Option.bind_some]
    exact strictReader_read_group ih depth
  | command hname _ ih => exact strictReader_read_command (List.mem_cons_of_mem _ hname) ih
  | environment hname _ ih =>
    intro depth
    have hbegin : ∀ name ∈ Tex.environmentNames,
        strictReader.read (0, false) (Tex.command "begin" name.toList) = some (0, false) := by decide
    have hend : ∀ name ∈ Tex.environmentNames,
        strictReader.read (0, false) (Tex.command "end" name.toList) = some (0, false) := by decide
    rw [strictReader.read_append_of_eq (strictReader_read_at (hbegin _ hname) depth), Nat.add_zero,
      strictReader.read_append_of_eq (ih depth)]
    exact strictReader_read_at (hend _ hname) depth
  | @label kind id hid =>
    refine strictReader_read_command List.mem_cons_self (fun depth => ?_)
    have hpre : strictReader.read (0, false) (kind.labelPrefix.toList ++ [':']) = some (0, false) := by
      cases kind <;> decide
    have htext : Tex.labelName kind id = kind.labelPrefix.toList ++ [':'] ++ id.toList := by
      simp [Tex.labelName]
    rw [htext, strictReader.read_append_of_eq (strictReader_read_at hpre depth)]
    exact braceReader_read_bare hid depth
  | trimStart _ ih =>
    intro depth
    rw [strictReader_blankLaw.read_trimStart rfl]
    exact ih depth
  | trimEnd _ ih =>
    intro depth
    obtain ⟨trail, q, htrail, hread, hend⟩ := Reader.exists_read_trimEnd (ih depth)
    rwa [eq_of_strictReader_read_blanks hend htrail] at hread
  | tidy _ ih =>
    intro depth
    obtain ⟨trail, p, htrail, hread, rfl⟩ :=
      Reader.exists_read_tidy strictReader_blankLaw strictReader_markerLaw rfl (ih depth)
    rw [Reader.read_append] at hread
    obtain ⟨q, hread, hend⟩ := Option.bind_eq_some_iff.1 hread
    rwa [eq_of_strictReader_read_blanks hend htrail] at hread
  | drop _ _ _ => exact fun _ => rfl

/-- The braces of markup are balanced, when those of the texts are that go in unescaped. -/
theorem balanced_of_markup {e : Ending} {s : List Char} {l : List Label}
    (hs : Markup Tex.Harmless (fun id => Tex.Bare id.toList) e s l) : Tex.Balanced s :=
  Tex.balanced_of_read (braceReader_read_weaken (strictReader_read_markup hs 0))

end Manuscript
