import Manuscript.Proofs.Form

/-!
# The tokens inside a tag

What is read inside a tag, from its end to its start: `Reads` says which tokens come up to the end of the tag and
what follows the tag, and there is one lemma for each kind of token that a form has in its tags.
-/

namespace Manuscript.Template

namespace Scan

variable {close s rest : List Char} {depth : Int} {behindDot : Bool} {tokens : List Token}

/-- Inside a tag a text is read up to the end of the tag: the tokens that are met, and what follows the tag. -/
structure Reads (close : List Char) (depth : Int) (behindDot : Bool) (s : List Char) (tokens : List Token)
    (rest : List Char) : Prop where
  tagTokens? : ∀ fuel, s.length < fuel →
    Scan.tagTokens? close fuel depth behindDot s = some (tokens, some (.usual, rest))
  length_le : rest.length ≤ s.length

/-- The two delimiters that end tags. -/
def IsClose (close : List Char) : Prop :=
  close = ['>', '>'] ∨ close = ['%', '>']

/-- The delimiter that ends a value ends tags. -/
theorem isClose_closeValue : IsClose Delimiters.standard.closeValue :=
  Or.inl (by decide)

/-- The delimiter that ends a statement ends tags. -/
theorem isClose_closeStatement : IsClose Delimiters.closeStatement :=
  Or.inr rfl

/-! ## Blanks and the end of a tag -/

/-- A blank inside a tag is passed over. -/
theorem Reads.gap (h : Reads close depth behindDot s tokens rest) :
    Reads close depth behindDot (' ' :: s) tokens rest where
  tagTokens? := by
    intro fuel hfuel
    obtain ⟨fuel, rfl⟩ := Nat.exists_eq_add_one_of_ne_zero (Nat.ne_zero_of_lt hfuel)
    have hread := h.tagTokens? (fuel + 1) (Nat.lt_of_succ_lt hfuel)
    rw [Scan.tagTokens?] at hread ⊢
    rwa [List.dropWhile_cons_of_pos (by rfl)]
  length_le := Nat.le_succ_of_le h.length_le

/-- The delimiter ends the tag. -/
theorem reads_close (hclose : IsClose close) (rest : List Char) : Reads close 0 behindDot (close ++ rest) [] rest where
  tagTokens? := by
    intro fuel hfuel
    obtain ⟨fuel, rfl⟩ := Nat.exists_eq_add_one_of_ne_zero (Nat.ne_zero_of_lt hfuel)
    rcases hclose with rfl | rfl <;> rfl
  length_le := by rw [List.length_append]; exact Nat.le_add_left _ _

/-- Only a minus and a plus sign say something about blanks. -/
theorem takeBlanks_cons {c : Char} (hminus : c ≠ '-') (hplus : c ≠ '+') : takeBlanks (c :: s) = (.usual, c :: s) := by
  unfold takeBlanks
  split
  · rename_i heq
    exact absurd (List.cons.inj heq).1 hminus
  · rename_i heq
    exact absurd (List.cons.inj heq).1 hplus
  · rfl

/-- A tag ends neither with a word nor with a sign other than the four. -/
theorem close?_eq_none (hclose : IsClose close) {c : Char} (hc : c ∉ ['-', '+', '>', '%']) :
    close? close (c :: s) = none := by
  simp only [List.mem_cons, List.not_mem_nil, or_false, not_or] at hc
  obtain ⟨hminus, hplus, hgreater, hpercent⟩ := hc
  rw [close?, takeBlanks_cons hminus hplus]
  rcases hclose with rfl | rfl
  · simp [after?, List.isPrefixOf, Ne.symm hgreater]
  · simp [after?, List.isPrefixOf, Ne.symm hpercent]

/-- A token in front of what is read. -/
theorem Reads.cons {c : Char} {token : Token} {left : List Char} (hgap : isGap c = false)
    (hclose : depth = 0 → close? close (c :: s) = none) (htoken : token? behindDot (c :: s) = some (token, left))
    (hlength : left.length ≤ s.length) (h : Reads close (depth + depthChange token) (isDot token) left tokens rest) :
    Reads close depth behindDot (c :: s) (token :: tokens) rest where
  tagTokens? := by
    intro fuel hfuel
    obtain ⟨fuel, rfl⟩ := Nat.exists_eq_add_one_of_ne_zero (Nat.ne_zero_of_lt hfuel)
    have hopen : (if depth = 0 then close? close (c :: s) else none) = none := by
      split
      · rename_i hdepth
        exact hclose hdepth
      · rfl
    have hread := h.tagTokens? fuel (by rw [List.length_cons] at hfuel; omega)
    rw [Scan.tagTokens?, List.dropWhile_cons_of_neg (by simp [hgap])]
    simp [hopen, htoken, hread]
  length_le := by
    have := h.length_le
    rw [List.length_cons]
    omega

/-! ## Signs -/

/-- The signs that a form has in its tags. -/
theorem token?_sign {c : Char} {symbol : Symbol}
    (h : (c, symbol) ∈ [('.', Symbol.dot), ('|', .pipe), ('(', .openParen), (')', .closeParen)]) :
    token? behindDot (c :: s) = some (.symbol symbol, s) := by
  simp only [List.mem_cons, Prod.mk.injEq, List.not_mem_nil, or_false] at h
  rcases h with ⟨rfl, rfl⟩ | ⟨rfl, rfl⟩ | ⟨rfl, rfl⟩ | ⟨rfl, rfl⟩ <;> rfl

/-- One of the four signs is read as a token. -/
theorem Reads.sign {c : Char} {symbol : Symbol} (hclose : IsClose close)
    (hsign : (c, symbol) ∈ [('.', Symbol.dot), ('|', .pipe), ('(', .openParen), (')', .closeParen)])
    (h : Reads close (depth + depthChange (.symbol symbol)) (isDot (.symbol symbol)) s tokens rest) :
    Reads close depth behindDot (c :: s) (.symbol symbol :: tokens) rest := by
  have hc : isGap c = false ∧ c ∉ ['-', '+', '>', '%'] := by
    simp only [List.mem_cons, Prod.mk.injEq, List.not_mem_nil, or_false] at hsign
    rcases hsign with ⟨rfl, -⟩ | ⟨rfl, -⟩ | ⟨rfl, -⟩ | ⟨rfl, -⟩ <;> decide
  exact Reads.cons hc.1 (fun _ => close?_eq_none hclose hc.2) (token?_sign hsign) (Nat.le_refl _) h

/-! ## Names -/

/-- What a name may start with is none of the characters that it may not start with. -/
theorem not_mem_of_startsName {c : Char} (h : Token.startsName c = true) (others : List Char)
    (hothers : others.any Token.startsName = false) : c ∉ others := fun hmem =>
  Bool.eq_false_iff.1 hothers (List.any_eq_true.2 ⟨c, hmem, h⟩)

/-- A name starts with no digit. -/
theorem isDigit_of_startsName {c : Char} (h : Token.startsName c = true) : Token.isDigit c = false := by
  rw [Token.isDigit, Bool.and_eq_false_iff, decide_eq_false_iff_not, decide_eq_false_iff_not]
  simp only [Token.startsName, Token.isLetter, Bool.or_eq_true, Bool.and_eq_true, decide_eq_true_eq, beq_iff_eq] at h
  refine Or.inr (fun hle => ?_)
  rcases h with (h | h) | rfl
  · exact absurd (Char.le_trans h.1 hle) (by decide)
  · exact absurd (Char.le_trans h.1 hle) (by decide)
  · exact absurd hle (by decide)

/-- No sign starts like a name. -/
theorem find?_longSymbols_eq_none {c : Char} (h : Token.startsName c = true) :
    longSymbols.find? (fun e => e.1.isPrefixOf (c :: s)) = none := by
  have hall : ∀ e ∈ longSymbols, e.1.head?.map Token.startsName = some false := by decide
  refine List.find?_eq_none.2 (fun e he hfits => ?_)
  obtain ⟨t, ht⟩ := List.isPrefixOf_iff_prefix.1 hfits
  obtain ⟨d, hd, hsign⟩ := Option.map_eq_some_iff.1 (hall e he)
  have hstart : (c :: s).head? = some d := by
    rw [← ht, List.head?_append, hd]
    rfl
  cases hstart
  rw [h] at hsign
  cases hsign

/-- A name starts with no sign. -/
theorem lookup_shortSymbols_eq_none {c : Char} (h : Token.startsName c = true) : shortSymbols.lookup c = none := by
  have hall : ∀ e ∈ shortSymbols, Token.startsName e.1 = false := by decide
  refine List.lookup_eq_none_iff.2 (fun e he => bne_iff_ne.2 ?_)
  rintro rfl
  rw [hall e he] at h
  cases h

/-- A name is read to its end. -/
theorem token?_name {c : Char} {word : List Char} (hstart : Token.startsName c = true)
    (hword : ∀ d ∈ c :: word, Token.isNameChar d = true) (hs : ∀ d ∈ s.head?, Token.isNameChar d = false) :
    token? behindDot (c :: (word ++ s)) = some (.name (String.ofList (c :: word)), s) := by
  have hquote : ¬(c = '\'' ∨ c = '"') := by
    have := not_mem_of_startsName hstart ['\'', '"'] (by decide)
    simpa using this
  have htake : (c :: (word ++ s)).takeWhile Token.isNameChar = c :: word := by
    rw [← List.cons_append, List.takeWhile_append_of_pos hword]
    cases s with
    | nil => simp
    | cons d ds => simp [hs d rfl]
  have hdrop : (c :: (word ++ s)).dropWhile Token.isNameChar = s := by
    rw [← List.cons_append, List.dropWhile_append_of_pos hword]
    cases s with
    | nil => rfl
    | cons d ds => simp [hs d rfl]
  unfold token?
  rw [find?_longSymbols_eq_none hstart]
  dsimp only
  rw [lookup_shortSymbols_eq_none hstart, htake, hdrop]
  simp [hquote, isDigit_of_startsName hstart, hstart]

/-- A word starts as a name does and goes on as one. -/
theorem exists_of_isWord {name : String} (h : Ref.isWord name = true) :
    ∃ c word, name.toList = c :: word ∧ Token.startsName c = true ∧ ∀ d ∈ c :: word, Token.isNameChar d = true := by
  rw [Ref.isWord, Bool.and_eq_true, List.all_eq_true] at h
  obtain ⟨hstart, hall⟩ := h
  cases hname : name.toList with
  | nil =>
    rw [hname] at hstart
    cases hstart
  | cons c word =>
    rw [hname] at hstart hall
    exact ⟨c, word, rfl, hstart, hall⟩

/-- Words are read when no further character of a name follows. -/
theorem Reads.word {name : String} (hclose : IsClose close) (hname : Ref.isWord name = true)
    (hs : ∀ d ∈ s.head?, Token.isNameChar d = false) (h : Reads close depth false s tokens rest) :
    Reads close depth behindDot (name.toList ++ s) (.name name :: tokens) rest := by
  obtain ⟨c, word, htext, hstart, hall⟩ := exists_of_isWord hname
  have hgap : isGap c = false := by
    have := not_mem_of_startsName hstart [' ', '\t', '\n', '\r', '\x0c'] (by decide)
    simpa [isGap, and_assoc] using this
  have htoken : token? behindDot (c :: (word ++ s)) = some (.name name, s) := by
    rw [token?_name hstart hall hs, ← htext, String.ofList_toList]
  rw [htext, List.cons_append]
  refine Reads.cons hgap (fun _ => close?_eq_none hclose (not_mem_of_startsName hstart _ (by decide))) htoken ?_ ?_
  · rw [List.length_append]
    exact Nat.le_add_left _ _
  · simpa [depthChange, isDot] using h

/-- References are read when no further character of a name follows. -/
theorem Reads.ref {ref : Ref} (hclose : IsClose close) (href : ref.isSound = true)
    (hs : ∀ d ∈ s.head?, Token.isNameChar d = false) (h : Reads close depth false s tokens rest) :
    Reads close depth behindDot (ref.source ++ s) (ref.tokens ++ tokens) rest := by
  cases ref with
  | field name => exact Reads.word hclose (Bool.and_eq_true_iff.1 href).1 hs h
  | member object name =>
    obtain ⟨hobject, hname⟩ := Bool.and_eq_true_iff.1 href
    rw [Ref.source, List.append_assoc, List.cons_append]
    refine Reads.word hclose (Bool.and_eq_true_iff.1 hobject).1 (by rintro d ⟨⟩; rfl) ?_
    refine Reads.sign hclose (by decide) (Reads.word hclose (Bool.and_eq_true_iff.1 hname).1 hs ?_)
    simpa [depthChange] using h

/-! ## Strings -/

/-- A text without quotes and backslashes is read up to the quote. -/
theorem stringBody?_plain {text : List Char} (hquote : '"' ∉ text) (hback : '\\' ∉ text) :
    Token.stringBody? '"' false (text ++ '"' :: s) = some (text, s) := by
  induction text with
  | nil => rfl
  | cons c rest ih =>
    rw [List.mem_cons, not_or] at hquote hback
    simp [Token.stringBody?, Ne.symm hquote.1, Ne.symm hback.1, ih hquote.2 hback.2]

/-- A text without backslashes stands for itself. -/
theorem unescape?_plain {text : List Char} (hback : '\\' ∉ text) {fuel : Nat} (hfuel : text.length < fuel) :
    Token.unescape? fuel none text = some text := by
  induction text generalizing fuel with
  | nil =>
    obtain ⟨fuel, rfl⟩ := Nat.exists_eq_add_one_of_ne_zero (Nat.ne_zero_of_lt hfuel)
    rfl
  | cons c rest ih =>
    obtain ⟨fuel, rfl⟩ := Nat.exists_eq_add_one_of_ne_zero (Nat.ne_zero_of_lt hfuel)
    rw [List.mem_cons, not_or] at hback
    rw [Token.unescape?]
    · rw [if_neg (Ne.symm hback.1), ih hback.2 (Nat.lt_of_succ_lt_succ hfuel)]
      rfl
    · intro d ds heq _
      exact hback.1 heq.symm

/-- A text without quotes and backslashes stands for itself between quotes. -/
theorem string?_plain {text : List Char} (hquote : '"' ∉ text) (hback : '\\' ∉ text) :
    Token.string? '"' (text ++ '"' :: s) = some (.string text, s) := by
  rw [Token.string?, stringBody?_plain hquote hback]
  simp [unescape?_plain hback (Nat.lt_succ_self _)]

/-- A text between quotes is read as a token. -/
theorem Reads.string {text : List Char} (hclose : IsClose close) (hquote : '"' ∉ text) (hback : '\\' ∉ text)
    (h : Reads close depth false s tokens rest) :
    Reads close depth behindDot ('"' :: (text ++ '"' :: s)) (.string text :: tokens) rest := by
  have htoken : token? behindDot ('"' :: (text ++ '"' :: s)) = some (.string text, s) := string?_plain hquote hback
  refine Reads.cons (by decide) (fun _ => close?_eq_none hclose (by decide)) htoken ?_ ?_
  · rw [List.length_append, List.length_cons]
    omega
  · simpa [depthChange, isDot] using h

/-! ## What forms have in their tags -/

/-- A text is read as tokens in a tag, outside of brackets, when no further character of a name follows. -/
def Spells (inside : List Char) (insideTokens : List Token) : Prop :=
  ∀ close s tokens rest, IsClose close → (∀ d ∈ s.head?, Token.isNameChar d = false) →
    Reads close 0 false s tokens rest →
    Reads close 0 false (inside ++ s) (insideTokens ++ tokens) rest

variable {inside behind : List Char} {insideTokens behindTokens : List Token}

/-- A word is read as a name. -/
theorem spells_word {name : String} (hname : Ref.isWord name = true) : Spells name.toList [.name name] :=
  fun _ _ _ _ hclose hs h => Reads.word hclose hname hs h

/-- A sound reference is read as its tokens. -/
theorem spells_ref {ref : Ref} (href : ref.isSound = true) : Spells ref.source ref.tokens :=
  fun _ _ _ _ hclose hs h => Reads.ref hclose href hs h

/-- Two spellings with a blank between them are read one after the other. -/
theorem Spells.gap (h : Spells inside insideTokens) (hbehind : Spells behind behindTokens) :
    Spells (inside ++ ' ' :: behind) (insideTokens ++ behindTokens) := by
  intro close s tokens rest hclose hs hread
  rw [List.append_assoc, List.append_assoc, List.cons_append]
  exact h _ _ _ _ hclose (by rintro d ⟨⟩; rfl) (Reads.gap (hbehind _ _ _ _ hclose hs hread))

/-- The filter that joins is read with its separator. -/
theorem spells_join {separator : List Char} (hquote : '"' ∉ separator) (hback : '\\' ∉ separator) :
    Spells ('|' :: ' ' :: ("join".toList ++ '(' :: '"' :: (separator ++ ['"', ')'])))
      [.symbol .pipe, .name "join", .symbol .openParen, .string separator, .symbol .closeParen] := by
  intro close s tokens rest hclose hs hread
  simp only [List.cons_append, List.append_assoc, List.nil_append]
  refine Reads.sign hclose (by decide) (Reads.gap (Reads.word hclose (by decide) (by rintro d ⟨⟩; rfl) ?_))
  refine Reads.sign hclose (by decide) (Reads.string hclose hquote hback (Reads.sign hclose (by decide) ?_))
  simpa [depthChange, isDot] using hread

end Scan

end Manuscript.Template
