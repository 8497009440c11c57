import Manuscript.Proofs.TagTokens

/-!
# The tokens of forms

The spelling of a sound form is cut into the tokens of the form (`Form.tokens?_source`). A template is cut from tag
to tag, and the text in front of a tag is known only when the tag is met: so it is said of each part that starts
with a tag what is cut when some text stands in front of it (`Awaits`), and of a part that starts with a text what
is cut as it stands (`Cuts`).
-/

namespace Manuscript.Template

namespace Scan

open Delimiters (standard)

variable {flush : Bool} {s inside lead : List Char} {tokens insideTokens : List Token}

/-! ## Finding tags -/

/-- A tag starts with an angle bracket. -/
theorem tagAt?_eq_none {c : Char} (hc : c ≠ '<') : tagAt? standard (c :: s) = none := by
  have hopen : standard.openValue = ['<', '<'] := by decide
  simp [tagAt?, after?, hopen, Delimiters.openStatement, Delimiters.openComment, List.isPrefixOf, Ne.symm hc]

/-- The tag is found behind a text without angle brackets. -/
theorem findTag_append (hlead : '<' ∉ lead) {found : Tag × List Char} (hs : tagAt? standard s = some found) :
    findTag standard (lead ++ s) = (lead, some found) := by
  induction lead with
  | nil =>
    cases s with
    | nil => cases hs
    | cons c rest =>
      rw [List.nil_append, findTag, hs]
  | cons c rest ih =>
    rw [List.mem_cons, not_or] at hlead
    rw [List.cons_append, findTag, tagAt?_eq_none (Ne.symm hlead.1)]
    simp [ih hlead.2]

/-- A text without angle brackets has no tag. -/
theorem findTag_of_not_mem (hs : '<' ∉ s) : findTag standard s = (s, none) := by
  induction s with
  | nil => rfl
  | cons c rest ih =>
    rw [List.mem_cons, not_or] at hs
    rw [findTag, tagAt?_eq_none (Ne.symm hs.1)]
    simp [ih hs.2]

/-! ## Cutting -/

/-- A text is cut into tokens, whatever stands before it on its line. -/
def Cuts (s : List Char) (tokens : List Token) : Prop :=
  ∀ fuel blank, s.length < fuel → tokens? standard fuel blank s = some tokens

/-- With some text in front, a text is cut into a token for that and the tokens. It may be asked for that no blanks
would be taken from the end of the text in front. -/
def Awaits (flush : Bool) (s : List Char) (tokens : List Token) : Prop :=
  ∀ lead, '<' ∉ lead → (flush = true → dropBlankLine lead = lead) → Cuts (lead ++ s) (textToken lead ++ tokens)

/-- A text that waits for another in front is cut without one too. -/
theorem Awaits.cuts (h : Awaits flush s tokens) : Cuts s tokens :=
  h [] nofun (fun _ => rfl)

/-- The end of a template leaves what stands in front as it is. -/
theorem awaits_nil : Awaits flush [] [] := by
  intro lead hlead _ fuel blank hfuel
  obtain ⟨fuel, rfl⟩ := Nat.exists_eq_add_one_of_ne_zero (Nat.ne_zero_of_lt hfuel)
  rw [List.append_nil, List.append_nil, tokens?, findTag_of_not_mem hlead]

/-- A tag takes no blanks from a line that has none to take. -/
theorem trimLead_usual {tag : Tag} {blank : Bool} (h : dropBlankLine lead = lead) :
    trimLead tag .usual blank lead = lead := by
  simp [trimLead, h]

/-- The tag of a value ends the text in front of it and leaves that as it is. -/
theorem awaits_value (hinside : Reads standard.closeValue 0 false inside insideTokens s)
    (hblanks : takeBlanks inside = (.usual, inside)) (h : Cuts s tokens) :
    Awaits false ('<' :: '<' :: inside) (.openValue :: (insideTokens ++ .closeValue :: tokens)) := by
  intro lead hlead _ fuel blank hfuel
  obtain ⟨fuel, rfl⟩ := Nat.exists_eq_add_one_of_ne_zero (Nat.ne_zero_of_lt hfuel)
  have htag : tagAt? standard ('<' :: '<' :: inside) = some (.value, inside) := by rfl
  have hlength := hinside.length_le
  rw [List.length_append, List.length_cons, List.length_cons] at hfuel
  rw [tokens?, findTag_append hlead htag]
  simp only [hblanks, hinside.tagTokens? _ (Nat.lt_succ_self _)]
  have htail : dropTail (if Blanks.usual = .drop then .drop else .keep) s = s := rfl
  rw [htail, h fuel _ (by omega)]
  simp [trimLead]

/-- Behind a statement one end of line is dropped. -/
theorem dropLineEnd_lineEnd {ownLine : Bool} (hs : ownLine = false → ∀ c ∈ s.head?, isLineEnd c = false) :
    dropLineEnd ((if ownLine then ['\n'] else []) ++ s) = s := by
  cases ownLine with
  | true => rfl
  | false =>
    cases s with
    | nil => rfl
    | cons c rest =>
      have hc : ¬c = '\n' ∧ ¬c = '\r' := by simpa [isLineEnd] using hs rfl c rfl
      simp [dropLineEnd, hc]

/-- The tag of a statement ends the text in front of it, and takes the end of its own line. -/
theorem awaits_statement {ownLine : Bool}
    (hinside : Reads Delimiters.closeStatement 0 false inside insideTokens ((if ownLine then ['\n'] else []) ++ s))
    (hblanks : takeBlanks inside = (.usual, inside)) (hraw : word? "raw" inside = none)
    (hs : ownLine = false → ∀ c ∈ s.head?, isLineEnd c = false) (h : Cuts s tokens) :
    Awaits true ('<' :: '%' :: inside) (.openStatement :: (insideTokens ++ .closeStatement :: tokens)) := by
  intro lead hlead hflush fuel blank hfuel
  obtain ⟨fuel, rfl⟩ := Nat.exists_eq_add_one_of_ne_zero (Nat.ne_zero_of_lt hfuel)
  have htag : tagAt? standard ('<' :: '%' :: inside) = some (.statement, inside) := by rfl
  have hlength := hinside.length_le
  rw [List.length_append] at hlength
  rw [List.length_append, List.length_cons, List.length_cons] at hfuel
  rw [tokens?, findTag_append hlead htag]
  simp only [hblanks, hraw, hinside.tagTokens? _ (Nat.lt_succ_self _), trimLead_usual (hflush rfl), dropTail,
    dropLineEnd_lineEnd hs]
  rw [h fuel _ (by omega)]
  simp

/-! ## Comments -/

/-- A comment goes up to the first sign that closes it. -/
theorem cutAt?_closeComment {text rest : List Char} (htext : '#' ∉ text) :
    cutAt? Delimiters.closeComment (text ++ '#' :: '>' :: rest) = some (text, rest) := by
  induction text with
  | nil => rfl
  | cons c others ih =>
    rw [List.mem_cons, not_or] at htext
    have hc : after? Delimiters.closeComment (c :: (others ++ '#' :: '>' :: rest)) = none := by
      simp [after?, Delimiters.closeComment, List.isPrefixOf, htext.1]
    rw [List.cons_append, cutAt?, hc]
    simp [ih htext.2]

/-- A comment leaves no token. -/
theorem awaits_commentTag {text : List Char} (htext : '#' ∉ text) (hs : ∀ c ∈ s.head?, Text.isBlank c = false)
    (h : Cuts s tokens) : Awaits true (Form.commentTag text s) tokens := by
  intro lead hlead hflush fuel blank hfuel
  obtain ⟨fuel, rfl⟩ := Nat.exists_eq_add_one_of_ne_zero (Nat.ne_zero_of_lt hfuel)
  have htag : tagAt? standard (Form.commentTag text s) =
      some (.comment, ' ' :: (text ++ ' ' :: '-' :: '#' :: '>' :: '\n' :: s)) := by
    rfl
  have hcut : cutAt? Delimiters.closeComment (' ' :: (text ++ ' ' :: '-' :: '#' :: '>' :: '\n' :: s)) =
      some (' ' :: (text ++ [' ', '-']), '\n' :: s) := by
    have hmem : '#' ∉ ' ' :: (text ++ [' ', '-']) := by simpa using htext
    simpa using cutAt?_closeComment hmem
  have hblanks : commentBlanks (' ' :: (text ++ [' ', '-'])) = .drop := by
    rw [commentBlanks, show ' ' :: (text ++ [' ', '-']) = ' ' :: (text ++ [' ']) ++ ['-'] by simp, List.getLast?_concat]
    rfl
  have htail : dropTail .drop ('\n' :: s) = s := by
    rw [dropTail, Text.trimStart, List.dropWhile_cons_of_pos (by rfl)]
    cases s with
    | nil => rfl
    | cons c rest => exact List.dropWhile_cons_of_neg (by rw [hs c rfl]; exact Bool.false_ne_true)
  simp only [Form.commentTag, List.length_append, List.length_cons] at hfuel
  rw [tokens?, findTag_append hlead htag]
  simp only [takeBlanks_cons (by decide : ' ' ≠ '-') (by decide), hcut, hblanks, htail, trimLead_usual (hflush rfl)]
  rw [h fuel _ (by omega)]
  simp

/-! ## The tags of forms -/

/-- What stands in a tag is not the word for raw text. -/
def IsNotRaw (inside : List Char) : Prop :=
  ∃ c ∈ inside.head?, isGap c = false ∧ c ≠ 'r'

/-- A tag with the spelling of a value is cut into the tokens of the value. -/
theorem Spells.awaits_valueTag (hinside : Spells inside insideTokens) (h : Cuts s tokens) :
    Awaits false (Form.valueTag inside s) (.openValue :: (insideTokens ++ .closeValue :: tokens)) := by
  have hread := hinside _ _ _ _ isClose_closeValue (by rintro d ⟨⟩; rfl) (Reads.gap (reads_close isClose_closeValue s))
  rw [List.append_nil] at hread
  exact awaits_value hread.gap rfl h

/-- A tag with the spelling of a statement is cut into the tokens of the statement. -/
theorem Spells.awaits_statementTag {ownLine : Bool} (hinside : Spells inside insideTokens) (hraw : IsNotRaw inside)
    (hs : ownLine = false → ∀ c ∈ s.head?, isLineEnd c = false) (h : Cuts s tokens) :
    Awaits true (Form.statementTag ownLine inside s)
      (.openStatement :: (insideTokens ++ .closeStatement :: tokens)) := by
  have hread := hinside _ _ _ _ isClose_closeStatement (by rintro d ⟨⟩; rfl)
    (Reads.gap (reads_close isClose_closeStatement ((if ownLine then ['\n'] else []) ++ s)))
  rw [List.append_nil] at hread
  rw [Form.statementTag, Delimiters.openStatement, List.cons_append, List.cons_append, List.nil_append]
  refine awaits_statement hread.gap rfl ?_ hs h
  obtain ⟨c, hc, hgap, hne⟩ := hraw
  obtain ⟨others, rfl⟩ := List.head?_eq_some_iff.1 hc
  rw [word?, List.dropWhile_cons_of_pos (by rfl), List.cons_append, List.dropWhile_cons_of_neg (by simp [hgap])]
  simp [after?, List.isPrefixOf, Ne.symm hne]

end Scan

namespace Form

open Scan

variable {s : List Char} {tokens : List Token}

/-- A text behind the tag of a value stands behind what follows it. -/
theorem valueTag_append (inside rest s : List Char) : valueTag inside rest ++ s = valueTag inside (rest ++ s) := by
  simp [valueTag]

/-- So it is with the tag of a statement. -/
theorem statementTag_append (ownLine : Bool) (inside rest s : List Char) :
    statementTag ownLine inside rest ++ s = statementTag ownLine inside (rest ++ s) := by
  simp [statementTag]

/-- So it is with a comment. -/
theorem commentTag_append (inside rest s : List Char) :
    commentTag inside rest ++ s = commentTag inside (rest ++ s) := by
  simp [commentTag]

/-- No character of a kind comes first when none leads the form, nor starts a tag. -/
theorem head?_source {kind : Char → Bool} (hkind : kind '<' = false) {form : Form} (hsound : form.isSound = true)
    (hleads : form.leadsWith kind = false) (hs : ∀ c ∈ s.head?, c = '<') :
    ∀ c ∈ (form.source ++ s).head?, kind c = false := by
  intro c hc
  cases form with
  | done => rw [hs c hc, hkind]
  | text lead rest =>
    cases lead with
    | nil => cases hsound
    | cons d others =>
      obtain rfl := Option.some.inj hc
      exact hleads
  | comment | value | joined | branch | loop =>
    obtain rfl := Option.some.inj hc
    exact hkind

/-- Whether the ends of line behind the tags of a block stay. -/
def KeepsLineEnds (ownLines : Bool) (body rest : Form) : Prop :=
  ownLines = true ∨ body.leadsWith isLineEnd = false ∧ rest.leadsWith isLineEnd = false

/-- A block is its tags around its body. -/
theorem awaits_block {inside : List Char} {insideTokens behind : List Token} {ownLines : Bool} {word : String}
    {body rest : Form} (hinside : Spells inside insideTokens) (hraw : IsNotRaw inside) (hword : Ref.isWord word = true)
    (hwordRaw : IsNotRaw word.toList) (hends : KeepsLineEnds ownLines body rest) (hbody : body.isSound = true)
    (hrest : rest.isSound = true) (hs : ∀ c ∈ s.head?, c = '<')
    (hcutsBody : ∀ {s behind}, (∀ c ∈ s.head?, c = '<') → Awaits true s behind →
      Cuts (body.source ++ s) (body.tokens ++ behind))
    (hcutsRest : Cuts (rest.source ++ s) behind) :
    Awaits true (statementTag ownLines inside (body.source ++ statementTag ownLines word.toList rest.source) ++ s)
      (.openStatement :: (insideTokens ++ .closeStatement ::
        (body.tokens ++ .openStatement :: .name word :: .closeStatement :: behind))) := by
  have hkept : ∀ {form : Form}, (ownLines = true ∨ form.leadsWith isLineEnd = false) → ownLines = false →
      form.leadsWith isLineEnd = false := fun h hown => h.resolve_left (by rw [hown]; exact Bool.false_ne_true)
  rw [statementTag_append, List.append_assoc, statementTag_append]
  have hclosing : Awaits true (statementTag ownLines word.toList (rest.source ++ s))
      (.openStatement :: .name word :: .closeStatement :: behind) :=
    (spells_word hword).awaits_statementTag hwordRaw
      (fun hown => head?_source (by decide) hrest (hkept (hends.imp_right And.right) hown) hs) hcutsRest
  have hfirst : ∀ c ∈ (statementTag ownLines word.toList (rest.source ++ s)).head?, c = '<' := by
    rintro c ⟨⟩
    rfl
  exact hinside.awaits_statementTag hraw
    (fun hown => head?_source (by decide) hbody (hkept (hends.imp_right And.left) hown) hfirst)
      (hcutsBody hfirst hclosing)

/-- The spelling of a sound form in front of a tag, or of the end. Every part that is no text is a tag itself. -/
theorem cuts_source (form : Form) {behind : List Token} (hsound : form.isSound = true) (hs : ∀ c ∈ s.head?, c = '<')
    (h : Awaits true s behind) :
    Cuts (form.source ++ s) (form.tokens ++ behind) ∧
      (form.startsWithText = false → Awaits (!form.startsWithValue) (form.source ++ s) (form.tokens ++ behind)) := by
  induction form generalizing s behind with
  | done => exact ⟨h.cuts, fun _ => h⟩
  | text lead rest ih =>
    refine ⟨?_, nofun⟩
    simp only [isSound, Bool.and_eq_true, Bool.or_eq_true, Bool.not_eq_true', beq_iff_eq] at hsound
    obtain ⟨⟨⟨⟨hne, hopen⟩, htext⟩, hflush⟩, hrest⟩ := hsound
    have hawaits := (ih hrest hs h).2 htext lead (by simpa using hopen) ?_
    · rw [textToken, hne, if_neg Bool.false_ne_true] at hawaits
      rw [source, tokens, List.append_assoc]
      exact hawaits
    · intro hvalue
      exact hflush.resolve_left (by simpa using hvalue)
  | comment text rest ih =>
    simp only [isSound, Bool.and_eq_true, Bool.not_eq_true'] at hsound
    obtain ⟨⟨htext, hleads⟩, hrest⟩ := hsound
    have hawaits := awaits_commentTag (by simpa using htext) (head?_source (by decide) hrest hleads hs)
      (ih hrest hs h).1
    rw [source, commentTag_append, tokens]
    exact ⟨hawaits.cuts, fun _ => hawaits⟩
  | value ref rest ih =>
    obtain ⟨href, hrest⟩ := Bool.and_eq_true_iff.1 hsound
    have hawaits := (spells_ref href).awaits_valueTag (ih hrest hs h).1
    rw [source, valueTag_append, tokens]
    simp only [List.cons_append, List.append_assoc]
    exact ⟨hawaits.cuts, fun _ => hawaits⟩
  | joined items separator rest ih =>
    simp only [isSound, Bool.and_eq_true, Bool.not_eq_true'] at hsound
    obtain ⟨⟨⟨hitems, hquote⟩, hback⟩, hrest⟩ := hsound
    have hspells := (spells_ref hitems).gap (spells_join (by simpa using hquote) (by simpa using hback))
    have hawaits := hspells.awaits_valueTag (ih hrest hs h).1
    rw [source, valueTag_append, tokens]
    simp only [List.cons_append, List.append_assoc, List.nil_append] at hawaits ⊢
    exact ⟨hawaits.cuts, fun _ => hawaits⟩
  | branch ownLines condition body rest ihbody ihrest =>
    simp only [isSound, Bool.and_eq_true, Bool.or_eq_true, Bool.not_eq_true'] at hsound
    obtain ⟨⟨⟨hcondition, hends⟩, hbody⟩, hrest⟩ := hsound
    have hspells := (spells_word (by decide : Ref.isWord "if" = true)).gap (spells_ref hcondition)
    have hawaits := awaits_block hspells ⟨'i', rfl, by decide⟩ (by decide : Ref.isWord "endif" = true)
      ⟨'e', rfl, by decide⟩ hends hbody
      hrest hs (fun hs h => (ihbody hbody hs h).1) (ihrest hrest hs h).1
    rw [source, tokens]
    simp only [List.cons_append, List.append_assoc, List.nil_append] at hawaits ⊢
    exact ⟨hawaits.cuts, fun _ => hawaits⟩
  | loop ownLines item items body rest ihbody ihrest =>
    simp only [isSound, Bool.and_eq_true, Bool.or_eq_true, Bool.not_eq_true'] at hsound
    obtain ⟨⟨⟨⟨hitem, hitems⟩, hends⟩, hbody⟩, hrest⟩ := hsound
    have hspells := (spells_word (by decide : Ref.isWord "for" = true)).gap
      ((spells_word (Bool.and_eq_true_iff.1 hitem).1).gap
        ((spells_word (by decide : Ref.isWord "in" = true)).gap (spells_ref hitems)))
    have hawaits := awaits_block hspells ⟨'f', rfl, by decide⟩ (by decide : Ref.isWord "endfor" = true)
      ⟨'e', rfl, by decide⟩ hends
      hbody hrest hs (fun hs h => (ihbody hbody hs h).1) (ihrest hrest hs h).1
    rw [source, tokens]
    simp only [List.cons_append, List.append_assoc, List.nil_append] at hawaits ⊢
    exact ⟨hawaits.cuts, fun _ => hawaits⟩

/-- The spelling of a sound form is cut into the tokens of the form. -/
theorem tokens?_source (form : Form) (hsound : form.isSound = true) :
    tokens? .standard form.source = some form.tokens := by
  have hcuts := (cuts_source form hsound (by rintro c ⟨⟩) awaits_nil).1
  rw [List.append_nil, List.append_nil] at hcuts
  rw [Template.tokens?, if_pos (by decide)]
  exact hcuts _ true (Nat.lt_succ_self _)

end Form

end Manuscript.Template
