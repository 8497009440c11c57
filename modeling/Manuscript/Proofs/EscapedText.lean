import Mathlib.Data.List.Infix
import Manuscript.Tex.Escape

/-!
# Escaped text

Escaped text is made of the sequences of the table and of characters without a meaning of their own (`Escaped`). No
sequence of the table is the beginning of another, and none begins with a character that stands for itself, so there
is one way to take escaped text apart. Escaping is therefore one to one, and its results are the escaped texts and
no others (`escape_bijection`).
-/

namespace Manuscript.Tex

/-- Text made of sequences of the table and of characters without a meaning in LaTeX. -/
inductive Escaped : List Char → Prop
  | nil : Escaped []
  | plain {c : Char} {s : List Char} : isSpecial c = false → Escaped s → Escaped (c :: s)
  | sequence {e : Char × List Char} {s : List Char} : e ∈ escapes → Escaped s → Escaped (e.2 ++ s)

variable {c : Char} {e : Char × List Char} {s t : List Char}

/-! ## The table -/

/-- What is written for a character: itself, or the sequence that the table has for it. -/
theorem escapeChar_cases (c : Char) :
    (isSpecial c = false ∧ escapeChar c = [c]) ∨ ∃ e ∈ escapes, e.1 = c ∧ escapeChar c = e.2 := by
  rw [isSpecial, escapeChar]
  cases hlookup : escapes.lookup c with
  | none => exact Or.inl ⟨rfl, rfl⟩
  | some sequence =>
    obtain ⟨before, after, hsplit, -⟩ := List.lookup_eq_some_iff.1 hlookup
    exact Or.inr ⟨(c, sequence), by rw [hsplit]; simp, rfl, rfl⟩

/-- A character of the table is replaced by its sequence. -/
theorem escapeChar_of_mem (he : e ∈ escapes) : escapeChar e.1 = e.2 := by
  have hall : ∀ e ∈ escapes, escapeChar e.1 = e.2 := by decide
  exact hall e he

theorem escape_cons (c : Char) (s : List Char) : escape (c :: s) = escapeChar c ++ escape s :=
  List.flatMap_cons

theorem escape_append (s t : List Char) : escape (s ++ t) = escape s ++ escape t :=
  List.flatMap_append

/-- No sequence of the table is the beginning of another. -/
theorem eq_of_begins {e' : Char × List Char} (he : e ∈ escapes) (he' : e' ∈ escapes) (h : e.2 <+: e'.2) : e = e' := by
  have hall : ∀ e ∈ escapes, ∀ e' ∈ escapes, e.2 <+: e'.2 → e = e' := by decide
  exact hall e he e' he' h

/-! ## Reading back -/

/-- A text has one sequence of the table at its beginning, if any. -/
theorem sequenceAt?_append (he : e ∈ escapes) (s : List Char) : sequenceAt? (e.2 ++ s) = some e := by
  rw [sequenceAt?]
  cases hfound : escapes.find? (fun other => other.2.isPrefixOf (e.2 ++ s)) with
  | none =>
    have hnot := List.find?_eq_none.1 hfound e he
    exact absurd (List.isPrefixOf_iff_prefix.2 (List.prefix_append e.2 s)) hnot
  | some other =>
    have hmem := List.mem_of_find?_eq_some hfound
    have hother : other.2 <+: e.2 ++ s := List.isPrefixOf_iff_prefix.1 (by simpa using List.find?_some hfound)
    rcases List.prefix_or_prefix_of_prefix hother (List.prefix_append e.2 s) with h | h
    · rw [eq_of_begins hmem he h]
    · rw [eq_of_begins he hmem h]

/-- No sequence begins with a character that stands for itself. -/
theorem sequenceAt?_cons (hc : isSpecial c = false) (s : List Char) : sequenceAt? (c :: s) = none := by
  have hall : ∀ e ∈ escapes, e.2.head? = some '\\' := by decide
  refine List.find?_eq_none.2 (fun e he hbegins => ?_)
  obtain ⟨rest, hrest⟩ := List.isPrefixOf_iff_prefix.1 hbegins
  have hhead := congrArg List.head? hrest
  rw [List.head?_append, hall e he, List.head?_cons, Option.some_or, Option.some.injEq] at hhead
  rw [← hhead] at hc
  exact absurd hc (by decide)

theorem unescapeFrom_append (s t : List Char) : unescapeFrom s.length (s ++ t) = unescapeFrom 0 t := by
  induction s with
  | nil => rfl
  | cons c rest ih => exact ih

/-- A sequence at the beginning of a text is read back as the character that it prints. -/
theorem unescape_append (he : e ∈ escapes) (s : List Char) : unescape (e.2 ++ s) = e.1 :: unescape s := by
  have hsequence := sequenceAt?_append he s
  obtain ⟨c, rest, hcons⟩ : ∃ c rest, e.2 = c :: rest := by
    have hall : ∀ e ∈ escapes, e.2 ≠ [] := by decide
    exact List.exists_cons_of_ne_nil (hall e he)
  rw [hcons, List.cons_append] at hsequence ⊢
  rw [unescape, unescapeFrom, hsequence]
  simp only
  rw [hcons, List.length_cons, Nat.add_sub_cancel, unescapeFrom_append, unescape]

theorem unescape_cons (hc : isSpecial c = false) (s : List Char) : unescape (c :: s) = c :: unescape s := by
  rw [unescape, unescapeFrom, sequenceAt?_cons hc, unescape]

/-- An escaped text is read back. -/
theorem unescape_escape (t : List Char) : unescape (escape t) = t := by
  induction t with
  | nil => rfl
  | cons c rest ih =>
    rw [escape_cons]
    rcases escapeChar_cases c with ⟨hc, hself⟩ | ⟨e, he, rfl, hsequence⟩
    · rw [hself, List.singleton_append, unescape_cons hc, ih]
    · rw [hsequence, unescape_append he, ih]

/-! ## The texts that escaping gives -/

/-- What is escaped is escaped text. -/
theorem escaped_escape (t : List Char) : Escaped (escape t) := by
  induction t with
  | nil => exact .nil
  | cons c rest ih =>
    rw [escape_cons]
    rcases escapeChar_cases c with ⟨hc, hself⟩ | ⟨e, he, -, hsequence⟩
    · rw [hself]
      exact .plain hc ih
    · rw [hsequence]
      exact .sequence he ih

/-- Escaped text is what escaping makes of what it is read back as. -/
theorem Escaped.escape_unescape (h : Escaped s) : escape (unescape s) = s := by
  induction h with
  | nil => rfl
  | @plain c s hc _ ih =>
    have hself : escapeChar c = [c] := by
      rcases escapeChar_cases c with ⟨-, hself⟩ | ⟨e, he, rfl, -⟩
      · exact hself
      · have hall : ∀ e ∈ escapes, isSpecial e.1 = true := by decide
        rw [hall e he] at hc
        cases hc
    rw [unescape_cons hc, escape_cons, hself, ih, List.singleton_append]
  | @sequence e s he _ ih => rw [unescape_append he, escape_cons, escapeChar_of_mem he, ih]

/-- A special character in what was written for a text stands in the sequence for some character of the text. -/
theorem exists_sequence_of_escape (before after : List Char) (h : escape t = before ++ c :: after)
    (hc : isSpecial c = true) :
    ∃ e ∈ escapes, ∃ front back lead trail, t = front ++ e.1 :: back ∧ before = escape front ++ lead ∧
      e.2 = lead ++ c :: trail ∧ after = trail ++ escape back := by
  induction t generalizing before with
  | nil => exact absurd h.symm (by simp [escape])
  | cons d rest ih =>
    rw [escape_cons] at h
    -- The character stands behind what is written for the first one, or in it.
    rcases List.append_eq_append_iff.1 h with ⟨tail, hbefore, hrest⟩ | ⟨tail, hwritten, htail⟩
    · obtain ⟨e, he, front, back, lead', trail, rfl, rfl, hsequence, hafter⟩ := ih tail hrest
      exact ⟨e, he, d :: front, back, lead', trail, rfl, by rw [hbefore, escape_cons, List.append_assoc], hsequence,
        hafter⟩
    · cases tail with
      | nil =>
        rw [List.nil_append] at htail
        obtain ⟨e, he, front, back, lead', trail, rfl, hlead, hsequence, hafter⟩ := ih [] htail.symm
        refine ⟨e, he, d :: front, back, lead', trail, rfl, ?_, hsequence, hafter⟩
        rw [List.append_nil] at hwritten
        rw [escape_cons, List.append_assoc, ← hlead, List.append_nil, hwritten]
      | cons c' trail =>
        rw [List.cons_append, List.cons.injEq] at htail
        obtain ⟨rfl, rfl⟩ := htail
        rcases escapeChar_cases d with ⟨hd, hself⟩ | ⟨e, he, rfl, hsequence⟩
        · -- A character that stands for itself is not special.
          rw [hself] at hwritten
          have hmem : c ∈ [d] := by rw [hwritten]; simp
          rw [List.mem_singleton.1 hmem, hd] at hc
          cases hc
        · exact ⟨e, he, [], rest, before, trail, rfl, rfl, hsequence ▸ hwritten, rfl⟩

/-- Escaping is one to one onto the texts made of sequences of the table and of characters without a meaning, and
its inverse is reading back. No special character of a text is written outside the sequence for a character of the
text. -/
theorem escape_bijection :
    (∀ t, Escaped (escape t) ∧ unescape (escape t) = t) ∧ (∀ s, Escaped s ↔ escape (unescape s) = s) ∧
      (∀ t before after c, escape t = before ++ c :: after → isSpecial c = true →
        ∃ e ∈ escapes, ∃ front back lead trail, t = front ++ e.1 :: back ∧ before = escape front ++ lead ∧
          e.2 = lead ++ c :: trail ∧ after = trail ++ escape back) ∧
      Function.Injective escape := by
  refine ⟨fun t => ⟨escaped_escape t, unescape_escape t⟩, fun s => ⟨Escaped.escape_unescape, fun h => ?_⟩, ?_, ?_⟩
  · rw [← h]
    exact escaped_escape (unescape s)
  · exact fun _ before after _ h hc => exists_sequence_of_escape before after h hc
  · exact Function.LeftInverse.injective unescape_escape

/-- The backslash and the percent sign of `5\%` are both written in sequences, the first with braces that are no
characters of the text. -/
theorem escape_bijection_percent :
    escape "5\\%".toList = "5\\textbackslash\x7b\x7d\\%".toList ∧
    unescape "5\\textbackslash\x7b\x7d\\%".toList = "5\\%".toList ∧
      Escaped "5\\textbackslash\x7b\x7d\\%".toList ∧
      ∃ e ∈ escapes, ∃ front back lead trail, "5\\%".toList = front ++ e.1 :: back ∧
        "5\\textbackslash\x7b\x7d\\".toList = escape front ++ lead ∧ e.2 = lead ++ '%' :: trail ∧
        [] = trail ++ escape back := by
  have hescape : escape "5\\%".toList = "5\\textbackslash\x7b\x7d\\%".toList := by decide
  obtain ⟨hround, honto, hsequence, -⟩ := escape_bijection
  refine ⟨hescape, ?_, ?_, hsequence _ _ [] '%' (hescape.trans (by decide)) (by decide)⟩
  · rw [← hescape]
    exact (hround _).2
  · exact (honto _).2 (by decide)

end Manuscript.Tex
