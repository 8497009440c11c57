import Mathlib.Data.List.Chain
import Mathlib.Data.List.Infix
import Manuscript.Proofs.EscapedEntry

/-!
# Records of a bibliography

A hash joins strings between the values of a record, and stands for itself inside a value. The scanner knows the
grammar of records only by the depth of braces and by quotes, and a quote counts at depth nought and one alone. For
a well-formed record this is enough. What is still to come of a value (`State.Inside`) keeps the scanner inside it,
whatever braces and quotes it has; behind a value the scanner is back in the body, and behind a record it is where
it began. So the marks of values are escaped, and no hash outside (`escape_records`).
-/

namespace Manuscript.Bibtex

/-! ## Records -/

/-- A character that may stand outside values. -/
def IsBare (c : Char) : Prop :=
  c ≠ '{' ∧ c ≠ '}' ∧ c ≠ '"' ∧ c ≠ '\\'

instance (c : Char) : Decidable (IsBare c) :=
  inferInstanceAs (Decidable (_ ∧ _))

/-- No backslash stands directly before a brace or a quote. -/
def SparesBraces (s : List Char) : Prop :=
  s.IsChain (fun before c => before = '\\' → c ≠ '{' ∧ c ≠ '}' ∧ c ≠ '"')

instance (s : List Char) : Decidable (SparesBraces s) :=
  inferInstanceAs (Decidable (List.IsChain _ _))

/-- The text of a value: its braces are balanced, and no backslash stands directly before a brace or a quote or at
the end. -/
structure IsValue (s : List Char) : Prop where
  nested : ∀ p ∈ s.inits, p.count '}' ≤ p.count '{'
  closed : s.count '{' = s.count '}'
  spares : SparesBraces s
  ended : s.getLast? ≠ some '\\'

/-- The grammar of a value, in four parts. -/
theorem isValue_iff {s : List Char} : IsValue s ↔
    (∀ p ∈ s.inits, p.count '}' ≤ p.count '{') ∧ s.count '{' = s.count '}' ∧ SparesBraces s ∧ s.getLast? ≠ some '\\' :=
  ⟨fun h => ⟨h.nested, h.closed, h.spares, h.ended⟩, fun h => ⟨h.1, h.2.1, h.2.2.1, h.2.2.2⟩⟩

instance (s : List Char) : Decidable (IsValue s) :=
  decidable_of_iff _ isValue_iff.symm

/-- Each quote of a text stands inside its braces. -/
def QuotesNested (s : List Char) : Prop :=
  ∀ p ∈ s.inits, p.getLast? = some '"' → p.count '}' < p.count '{'

instance (s : List Char) : Decidable (QuotesNested s) :=
  inferInstanceAs (Decidable (∀ p ∈ _, _))

/-- A part of the body of a record: a bare character, the hash that joins strings among them, or a value in braces
or in quotes. -/
inductive Part where
  | bare (c : Char) (isBare : IsBare c)
  | braced (value : List Char) (isValue : IsValue value)
  | quoted (value : List Char) (isValue : IsValue value) (quotesNested : QuotesNested value)

/-- A record: bare characters, such as its type and what stands between it and the record before, and a body in
braces. -/
structure Record where
  head : List Char
  isBare : ∀ c ∈ head, IsBare c
  body : List Part

/-- The text with a backslash put before each mark that has none directly before it. The character `before` stands
in front of the text. -/
def guard (isMark : Char → Bool) (before : Char) : List Char → List Char
  | [] => []
  | c :: rest => (if isMark c = true ∧ before ≠ '\\' then ['\\', c] else [c]) ++ guard isMark c rest

/-- A bare character as it is to be written: a hash joins strings and stays. -/
def bareText (c : Char) : List Char :=
  if c = '&' ∨ c = '%' then ['\\', c] else [c]

/-- The characters to be escaped inside a value. -/
def isValueMark (c : Char) : Bool :=
  c == '&' || c == '%' || c == '#'

namespace Part

/-- A part as it is given. -/
def text : Part → List Char
  | bare c _ => [c]
  | braced value _ => '{' :: (value ++ ['}'])
  | quoted value _ _ => '"' :: (value ++ ['"'])

/-- A part as it is to be written. -/
def escaped : Part → List Char
  | bare c _ => bareText c
  | braced value _ => '{' :: (guard isValueMark '{' value ++ ['}'])
  | quoted value _ _ => '"' :: (guard isValueMark '"' value ++ ['"'])

end Part

namespace Record

/-- A record as it is given. -/
def text (record : Record) : List Char :=
  record.head ++ '{' :: (record.body.flatMap Part.text ++ ['}'])

/-- A record as it is to be written. -/
def escaped (record : Record) : List Char :=
  record.head.flatMap bareText ++ '{' :: (record.body.flatMap Part.escaped ++ ['}'])

end Record

/-! ## Outside values -/

variable {state : State} {c before : Char} {s value : List Char}

/-- Outside values a bare character changes nothing. -/
theorem next_of_isBare (hc : IsBare c) (hstate : state.afterBackslash = false) : state.next c = state := by
  obtain ⟨hopening, hclosing, hquote, hback⟩ := hc
  obtain ⟨afterBackslash, depth, quoted⟩ := state
  cases hstate
  simp [State.next, State.enter, hopening, hclosing, hquote, hback]

/-- Outside values ampersands and percent signs are escaped, and nothing else. -/
theorem escapeFrom_of_isBare (state : State) (hs : ∀ c ∈ s, IsBare c) (hback : state.afterBackslash = false)
    (hvalue : state.inValue = false) : escapeFrom state s = s.flatMap bareText ∧ state.scan s = state := by
  induction s with
  | nil => exact ⟨rfl, rfl⟩
  | cons c rest ih =>
    rw [List.forall_mem_cons] at hs
    obtain ⟨hrest, hscan⟩ := ih hs.2
    have hnext := next_of_isBare hs.1 hback
    refine ⟨?_, by rw [State.scan_cons, hnext, hscan]⟩
    have hone : Sign.text ⟨c, state.escapes c⟩ = bareText c := by
      unfold Sign.text Sign.lead bareText
      rw [State.escapes_eq, hback, hvalue]
      by_cases hmark : c = '&' ∨ c = '%' <;> simp [hmark]
    rw [escapeFrom_cons, hnext, hrest, hone, List.flatMap_cons]

/-! ## Inside a value -/

namespace State

/-- What is still to come of a value when the scanner is in a state: no more braces are closed than leave `base` of
them open, at each quote two are open, and no backslash stands directly before a brace or a quote. -/
structure Inside (base : Nat) (state : State) (s : List Char) : Prop where
  nested : ∀ p ∈ s.inits, base + p.count '}' ≤ state.depth + p.count '{'
  quotes : ∀ p ∈ s.inits, p.getLast? = some '"' → 2 + p.count '}' ≤ state.depth + p.count '{'
  spares : SparesBraces s
  first : state.afterBackslash = true → ∀ c ∈ s.head?, c ≠ '{' ∧ c ≠ '}' ∧ c ≠ '"'

variable {base : Nat}

/-- Inside a value the depth is not below its base. -/
theorem Inside.base_le (h : Inside base state s) : base ≤ state.depth := by
  have hnil := h.nested [] (by simp)
  simpa using hnil

/-- A character of a value moves the depth as braces do, and leaves the quotes. -/
theorem Inside.depth_next (h : Inside base state (c :: s)) :
    (state.next c).depth + [c].count '}' = state.depth + [c].count '{' ∧ (state.next c).quoted = state.quoted := by
  have hone : [c] ∈ (c :: s).inits := by simp
  have hnested := h.nested [c] hone
  have hquotes := h.quotes [c] hone
  unfold next enter
  by_cases hback : state.afterBackslash = true
  · obtain ⟨hopening, hclosing, -⟩ := h.first hback c rfl
    simp [hback, hopening, hclosing]
  · by_cases hopening : c = '{'
    · simp [hback, hopening]
    by_cases hclosing : c = '}'
    · simp [hclosing] at hnested
      simp [hback, hclosing]
      omega
    by_cases hquote : c = '"'
    · -- At depth one the quote would count, but the quotes of a value stand deeper.
      simp [hquote] at hquotes
      have hdeep : ¬state.depth ≤ 1 := by omega
      simp [hback, hquote, hdeep]
    · simp [hback, hopening, hclosing, hquote]

/-- The scanner stays inside a value. -/
theorem Inside.next (h : Inside base state (c :: s)) : Inside base (state.next c) s := by
  obtain ⟨hdepth, -⟩ := h.depth_next
  refine ⟨fun p hp => ?_, fun p hp hlast => ?_, ?_, ?_⟩
  · have hprefix := h.nested (c :: p) (by simpa using hp)
    rw [← List.singleton_append, List.count_append, List.count_append] at hprefix
    omega
  · have hprefix := h.quotes (c :: p) (by simpa using hp) (by rw [List.getLast?_cons, hlast]; rfl)
    rw [← List.singleton_append, List.count_append, List.count_append] at hprefix
    omega
  · exact h.spares.of_cons
  · intro hback d hd
    rw [afterBackslash_next, beq_iff_eq] at hback
    exact h.spares.rel_head? hd hback

/-- Over the whole of a value the depth moves as its braces do. -/
theorem Inside.scan (h : Inside base state s) :
    (state.scan s).depth + s.count '}' = state.depth + s.count '{' ∧ (state.scan s).quoted = state.quoted := by
  induction s generalizing state with
  | nil => exact ⟨rfl, rfl⟩
  | cons c rest ih =>
    obtain ⟨hdepth, hquoted⟩ := h.depth_next
    obtain ⟨hrest, hrestQuoted⟩ := ih h.next
    rw [scan_cons, hrestQuoted, hquoted, ← List.singleton_append, List.count_append, List.count_append]
    exact ⟨by omega, rfl⟩

end State

/-- Inside a value each mark is escaped that has no backslash directly before it. -/
theorem escapeFrom_of_inside {base : Nat} (before : Char) (h : State.Inside base state s)
    (hvalue : 2 ≤ base ∨ state.quoted = true) (hbefore : state.afterBackslash = (before == '\\')) :
    escapeFrom state s = guard isValueMark before s := by
  induction s generalizing state before with
  | nil => rfl
  | cons c rest ih =>
    have hquoted := h.depth_next.2
    have hin : state.inValue = true := by
      have hbase := h.base_le
      unfold State.inValue
      rw [Bool.or_eq_true, decide_eq_true_eq]
      exact hvalue.imp (fun hdeep => Nat.le_trans hdeep hbase) id
    have hrest := ih c h.next (by rwa [hquoted]) (State.afterBackslash_next state c)
    have hone : Sign.text ⟨c, state.escapes c⟩ = if isValueMark c = true ∧ before ≠ '\\' then ['\\', c] else [c] := by
      have hmarks : state.escapes c = (!(before == '\\') && isValueMark c) := by
        rw [State.escapes_eq, hbefore, hin, Bool.and_true, isValueMark]
      unfold Sign.text Sign.lead
      rw [hmarks]
      by_cases hmark : isValueMark c = true <;> by_cases hback : before = '\\' <;> simp [hmark, hback]
    rw [escapeFrom_cons, hrest, hone, guard]

/-- The end of a value is met in the depth and the quotes in which its beginning was. -/
theorem scan_value {depth : Nat} {quoted : Bool} (h : IsValue value)
    (hinside : State.Inside depth ⟨false, depth, quoted⟩ value) :
    State.scan ⟨false, depth, quoted⟩ value = ⟨false, depth, quoted⟩ := by
  obtain ⟨hdepth, hquoted⟩ := hinside.scan
  have hback : (State.scan ⟨false, depth, quoted⟩ value).afterBackslash = false := by
    rcases List.eq_nil_or_concat value with rfl | ⟨front, c, rfl⟩
    · rfl
    · have hended := h.ended
      rw [List.concat_eq_append, List.getLast?_concat] at hended
      simpa using hended
  have hclosed := h.closed
  cases hscan : State.scan ⟨false, depth, quoted⟩ value with
  | mk afterBackslash deep inQuotes =>
    rw [hscan] at hback hdepth hquoted
    cases hback
    cases hquoted
    have hdeep : deep = depth := by
      simp only at hdepth
      omega
    rw [hdeep]

/-- Between the braces of a record, outside values. -/
def inBody : State where
  depth := 1

/-- The scanner stays inside a braced value. -/
theorem inside_braced (h : IsValue value) : State.Inside 2 ⟨false, 2, false⟩ value where
  nested p hp := Nat.add_le_add_left (h.nested p hp) 2
  quotes p hp _ := Nat.add_le_add_left (h.nested p hp) 2
  spares := h.spares
  first := nofun

/-- The scanner stays inside a quoted value. -/
theorem inside_quoted (h : IsValue value) (hquotes : QuotesNested value) : State.Inside 1 ⟨false, 1, true⟩ value where
  nested p hp := Nat.add_le_add_left (h.nested p hp) 1
  quotes p hp hlast := by
    have hopen := hquotes p hp hlast
    simp only
    omega
  spares := h.spares
  first := nofun

/-- A value between the characters that open and close it is written with its marks escaped, and behind it the
scanner is back in the body. -/
theorem escapeFrom_enclosed {depth : Nat} {quoted : Bool} {opening closing : Char} (hvalue : IsValue value)
    (hinside : State.Inside depth ⟨false, depth, quoted⟩ value) (hin : 2 ≤ depth ∨ quoted = true)
    (hopening : inBody.next opening = ⟨false, depth, quoted⟩)
    (hclosing : State.next ⟨false, depth, quoted⟩ closing = inBody)
    (hquiet : inBody.escapes opening = false ∧ State.escapes ⟨false, depth, quoted⟩ closing = false) :
    escapeFrom inBody (opening :: (value ++ [closing])) = opening :: (guard isValueMark opening value ++ [closing]) ∧
      inBody.scan (opening :: (value ++ [closing])) = inBody := by
  have hwritten := escapeFrom_of_inside opening hinside hin (congrArg State.afterBackslash hopening).symm
  have hscan := scan_value hvalue hinside
  refine ⟨?_, ?_⟩
  · rw [escapeFrom_cons, hopening, escapeFrom_append, hwritten, hscan, escapeFrom_cons, hquiet.1, hquiet.2]
    rfl
  · rw [State.scan_cons, hopening, State.scan_append, hscan, State.scan_cons, hclosing, State.scan_nil]

/-- A part of a body is written as it is to be, and behind it the scanner is back in the body. -/
theorem escapeFrom_part (part : Part) :
    escapeFrom inBody part.text = part.escaped ∧ inBody.scan part.text = inBody := by
  cases part with
  | bare c hc =>
    have hbare := escapeFrom_of_isBare inBody (s := [c]) (by simpa using hc) rfl rfl
    simpa [Part.text, Part.escaped] using hbare
  | braced value hvalue =>
    exact escapeFrom_enclosed hvalue (inside_braced hvalue) (Or.inl (Nat.le_refl 2)) (by decide) (by decide) (by decide)
  | quoted value hvalue hquotes =>
    exact escapeFrom_enclosed hvalue (inside_quoted hvalue hquotes) (Or.inr rfl) (by decide) (by decide) (by decide)

/-! ## Records one after another -/

/-- What is written for pieces one after another, each of which leaves the scanner as it was. -/
theorem escapeFrom_flatMap {α : Type} {text escaped : α → List Char} {pieces : List α}
    (h : ∀ piece ∈ pieces, escapeFrom state (text piece) = escaped piece ∧ state.scan (text piece) = state) :
    escapeFrom state (pieces.flatMap text) = pieces.flatMap escaped ∧ state.scan (pieces.flatMap text) = state := by
  induction pieces with
  | nil => exact ⟨rfl, rfl⟩
  | cons piece rest ih =>
    rw [List.forall_mem_cons] at h
    obtain ⟨⟨hwritten, hscan⟩, hrest⟩ := h
    obtain ⟨hrestWritten, hrestScan⟩ := ih hrest
    rw [List.flatMap_cons, List.flatMap_cons, escapeFrom_append, State.scan_append, hwritten, hscan, hrestWritten,
      hrestScan]
    exact ⟨rfl, rfl⟩

/-- A record is written as it is to be, and behind it the scanner is where it was. -/
theorem escapeFrom_record (record : Record) :
    escapeFrom {} record.text = record.escaped ∧ State.scan {} record.text = {} := by
  obtain ⟨hhead, hheadScan⟩ := escapeFrom_of_isBare {} record.isBare rfl rfl
  obtain ⟨hbody, hbodyScan⟩ := escapeFrom_flatMap (fun part (_ : part ∈ record.body) => escapeFrom_part part)
  have hopening : State.next {} '{' = inBody := by decide
  have hclosing : inBody.next '}' = {} := by decide
  refine ⟨?_, ?_⟩
  · rw [Record.text, escapeFrom_append, hhead, hheadScan, escapeFrom_cons, hopening, escapeFrom_append, hbody,
      hbodyScan]
    rfl
  · rw [Record.text, State.scan_append, hheadScan, State.scan_cons, hopening, State.scan_append, hbodyScan,
      State.scan_cons, hclosing, State.scan_nil]

/-- In records one after another a backslash is put before each ampersand, percent sign and hash of a value that has
none directly before it, and outside values before ampersands and percent signs alone: a hash that joins strings
stays. Between records and behind the last one the scanner is at depth nought and outside quotes. -/
theorem escape_records (records : List Record) :
    escape (records.flatMap Record.text) = records.flatMap Record.escaped ∧
      ∀ count, (State.scan {} ((records.take count).flatMap Record.text)).depth = 0 ∧
        (State.scan {} ((records.take count).flatMap Record.text)).quoted = false := by
  refine ⟨(escapeFrom_flatMap (fun record _ => escapeFrom_record record)).1, fun count => ?_⟩
  obtain ⟨-, hscan⟩ := escapeFrom_flatMap (fun record (_ : record ∈ records.take count) => escapeFrom_record record)
  rw [hscan]
  exact ⟨rfl, rfl⟩

/-- A hash between two values, in quotes and in braces. -/
example :
    escape (Record.text ⟨"@misc".toList, by simp [IsBare],
      [.quoted "\x7b\"\x7d#".toList (by decide) (by decide), .bare '#' (by decide),
        .braced "\\#\"#".toList (by decide)]⟩) =
      "@misc\x7b\"\x7b\"\x7d\\#\"#\x7b\\#\"\\#\x7d\x7d".toList := by
  decide

end Manuscript.Bibtex
