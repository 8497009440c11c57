import Manuscript.Proofs.CarriedText

/-!
# Tidying part by part

What tidying makes of a text is put together from what it makes of its parts. Blank lines are collapsed on either
side of a character that is not blank independently (`collapseBlankLines_append`), and so a text may be cut where no
blanks meet: what is in front is tidied with more to follow (`tidyAhead`), what is behind is tidied to the end
(`tidyToEnd`), each from inside or outside a part that stays as it is (`tidyToEnd_append`). Tidying takes blanks
away and the markers that it comes upon. It takes none away exactly when no opening marker stands in the text
(`solid_tidy_iff`), and a part between markers comes through whole exactly when, after its first closing marker, it
has nothing but closing markers (`tidyToEnd_verbatim_iff`).
-/

namespace Manuscript

/-! ## Cutting and trimming -/

namespace Text

/-- Trimming the end stops at a character that is not blank. -/
theorem trimEnd_append_cons {c : Char} (hc : isBlank c = false) (s t : List Char) :
    trimEnd (s ++ c :: t) = s ++ c :: trimEnd t := by
  have hreverse : (s ++ c :: t).reverse = t.reverse ++ c :: s.reverse := by simp
  rw [trimEnd, trimEnd, hreverse, List.dropWhile_append]
  split
  · rename_i hempty
    rw [List.isEmpty_iff.1 hempty, List.dropWhile_cons_of_neg (by simp [hc])]
    simp
  · simp

/-- A text that does not end in a blank is left as it is when its end is trimmed. -/
theorem trimEnd_append_of_getLast? {s : List Char} (h : ∀ c ∈ s.getLast?, isBlank c = false) (t : List Char) :
    trimEnd (s ++ t) = s ++ trimEnd t := by
  rcases List.eq_nil_or_concat s with rfl | ⟨before, last, rfl⟩
  · rfl
  · have hlast : isBlank last = false := h last (by simp)
    rw [List.concat_eq_append, List.append_assoc, List.append_assoc]
    exact trimEnd_append_cons hlast before t

/-- Blanks in front of a text go when its start is trimmed. -/
theorem trimStart_append_of_allBlank {s : List Char} (h : allBlank s = true) (t : List Char) :
    trimStart (s ++ t) = trimStart t :=
  List.dropWhile_append_of_pos ((allBlank_iff s).1 h)

/-- A text that does not begin with a blank is left as it is when its start is trimmed. -/
theorem trimStart_of_head? {s : List Char} (h : ∀ c ∈ s.head?, isBlank c = false) : trimStart s = s := by
  cases s with
  | nil => rfl
  | cons c rest => exact List.dropWhile_cons_of_neg (by simp [h c rfl])

/-- Trimming the start stops at a text that does not begin with a blank. -/
theorem trimStart_append_of_head? {t : List Char} (h : ∀ c ∈ t.head?, isBlank c = false) (s : List Char) :
    trimStart (s ++ t) = trimStart s ++ t := by
  rw [trimStart, trimStart, List.dropWhile_append]
  split
  · rename_i hempty
    rw [List.isEmpty_iff.1 hempty, List.nil_append]
    exact trimStart_of_head? h
  · rfl

/-- A text with its start trimmed does not begin with a blank. -/
theorem isBlank_head?_trimStart (s : List Char) : ∀ c ∈ (trimStart s).head?, isBlank c = false := by
  intro c hc
  have hnot := List.head?_dropWhile_not isBlank s
  rw [Option.mem_def, trimStart] at hc
  rw [hc] at hnot
  simpa using hnot

/-- A text with its end trimmed does not end in a blank. -/
theorem isBlank_getLast?_trimEnd (s : List Char) : ∀ c ∈ (trimEnd s).getLast?, isBlank c = false := by
  intro c hc
  rw [trimEnd, List.getLast?_reverse] at hc
  exact isBlank_head?_trimStart s.reverse c hc

/-- A trimmed text does not begin with a blank. -/
theorem isBlank_head?_trim (s : List Char) : ∀ c ∈ (trim s).head?, isBlank c = false := by
  intro c hc
  obtain ⟨trail, hs, -⟩ := exists_trimEnd (trimStart s)
  refine isBlank_head?_trimStart s c ?_
  rw [hs, List.head?_append, ← trim, Option.mem_def.1 hc]
  rfl

/-- A trimmed text does not end in a blank. -/
theorem isBlank_getLast?_trim (s : List Char) : ∀ c ∈ (trim s).getLast?, isBlank c = false :=
  isBlank_getLast?_trimEnd _

/-- A text is what trimming leaves of it, which neither begins nor ends in a blank, between blanks. -/
theorem exists_trimmed (s : List Char) :
    ∃ lead text trail, s = lead ++ (text ++ trail) ∧ trim s = text ∧ allBlank lead = true ∧
    allBlank trail = true ∧ (∀ c ∈ text.head?, isBlank c = false) ∧ ∀ c ∈ text.getLast?, isBlank c = false := by
  obtain ⟨lead, trail, hs, hlead, htrail⟩ := exists_trim s
  exact ⟨lead, trim s, trail, hs, rfl, hlead, htrail, isBlank_head?_trim s, isBlank_getLast?_trim s⟩

/-- Trimming takes the blanks around a text away and stops at its ends. -/
theorem trim_append {s lead trail : List Char} (hlead : allBlank lead = true) (htrail : allBlank trail = true)
    (hhead : ∀ c ∈ s.head?, isBlank c = false) (hlast : ∀ c ∈ s.getLast?, isBlank c = false) :
    trim (lead ++ (s ++ trail)) = s := by
  cases s with
  | nil => rw [List.nil_append, trim_eq_nil_iff, allBlank_append, hlead, htrail, Bool.and_self]
  | cons c rest =>
    have hend : trimEnd trail = [] := by
      rw [trimEnd, List.reverse_eq_nil_iff, List.dropWhile_eq_nil_iff]
      exact fun c hc => (allBlank_iff trail).1 htrail c (List.mem_reverse.1 hc)
    have hstart : trimStart (c :: rest ++ trail) = c :: rest ++ trail := trimStart_of_head? hhead
    rw [trim, trimStart_append_of_allBlank hlead, hstart, trimEnd_append_of_getLast? hlast, hend, List.append_nil]

/-- A character that is not blank is kept. -/
theorem solid_cons {c : Char} (hc : isBlank c = false) (s : List Char) : solid (c :: s) = c :: solid s :=
  List.filter_cons_of_pos (by simp [hc])

end Text

namespace Tex

/-! ## Collapsing blank lines -/

/-- A line with others behind it loses the blanks at its end; without anything left it only adds an end of line. -/
theorem collapseLines_cons {rest : List (List Char)} (hrest : rest ≠ []) (newlines : Nat) (line : List Char) :
    collapseLines newlines (line :: rest) =
      if (Text.trimEnd line).isEmpty then collapseLines (newlines + 1) rest
      else breaks newlines ++ (Text.trimEnd line ++ collapseLines 1 rest) :=
  collapseLines.eq_3 newlines line rest hrest

/-- Lines are joined again up to a character that is not blank, and from there on as if nothing stood in front. -/
theorem collapseLines_append_cons {c : Char} (hc : Text.isBlank c = false) (newlines : Nat) (before : List (List Char))
    (last first : List Char) (after : List (List Char)) :
    collapseLines newlines (before ++ (last ++ c :: first) :: after) =
      collapseLines newlines (before ++ [last]) ++ c :: collapseLines 0 (first :: after) := by
  induction before generalizing newlines with
  | nil =>
    rw [List.nil_append, List.nil_append]
    cases after with
    | nil => cases last <;> cases first <;> simp [collapseLines, breaks]
    | cons next rest =>
      rw [collapseLines_cons (List.cons_ne_nil next rest), collapseLines_cons (List.cons_ne_nil next rest),
        collapseLines, Text.trimEnd_append_cons hc]
      cases last <;> cases Text.trimEnd first <;> simp [breaks]
  | cons line lines ih =>
    rw [List.cons_append, List.cons_append, collapseLines_cons (by simp), collapseLines_cons (by simp)]
    split
    · exact ih _
    · rw [ih, List.append_assoc, List.append_assoc]

/-- At a character that is not blank a text can be cut: blank lines are collapsed on either side of it independently. -/
theorem collapseBlankLines_append_cons {c : Char} (hc : Text.isBlank c = false) (s t : List Char) :
    collapseBlankLines (s ++ c :: t) = collapseBlankLines s ++ c :: collapseBlankLines t := by
  have hcut : (c == '\n') = false := by
    rw [beq_eq_false_iff_ne]
    rintro rfl
    exact absurd hc (by decide)
  obtain ⟨before, last, hs⟩ := Text.exists_splitWhere_concat (· == '\n') s
  cases ht : Text.splitWhere (· == '\n') t with
  | nil => exact absurd ht (Text.splitWhere_ne_nil _ _)
  | cons first after =>
    have hct : Text.splitWhere (· == '\n') (c :: t) = (c :: first) :: after := by
      rw [Text.splitWhere, ht]
      simp [hcut]
    rw [collapseBlankLines, collapseBlankLines, collapseBlankLines, Text.splitWhere_append hs hct, hs, ht,
      collapseLines_append_cons hc]

theorem collapseBlankLines_nil : collapseBlankLines [] = [] := rfl

/-- At a seam where no blanks meet a text can be cut. -/
theorem collapseBlankLines_append {s t : List Char}
    (h : (∀ c ∈ s.getLast?, Text.isBlank c = false) ∨ ∀ c ∈ t.head?, Text.isBlank c = false) :
    collapseBlankLines (s ++ t) = collapseBlankLines s ++ collapseBlankLines t := by
  rcases h with h | h
  · rcases List.eq_nil_or_concat s with rfl | ⟨before, last, rfl⟩
    · rfl
    · have hlast : Text.isBlank last = false := h last (by simp)
      rw [List.concat_eq_append, List.append_assoc, List.singleton_append, collapseBlankLines_append_cons hlast,
        collapseBlankLines_append_cons hlast, collapseBlankLines_nil, List.append_assoc, List.singleton_append]
  · cases t with
    | nil => rw [collapseBlankLines_nil, List.append_nil, List.append_nil]
    | cons c rest =>
      have hc : Text.isBlank c = false := h c rfl
      rw [collapseBlankLines_append_cons hc, ← List.nil_append (c :: rest), collapseBlankLines_append_cons hc,
        collapseBlankLines_nil, List.nil_append]

/-- Joining lines again only takes characters away. -/
theorem collapseLines_sublist (lines : List (List Char)) (newlines : Nat) (hne : lines ≠ []) :
    (collapseLines newlines lines).Sublist (List.replicate newlines '\n' ++ Text.joinWith ['\n'] lines) := by
  have hbreaks : ∀ n, (breaks n).Sublist (List.replicate n '\n') :=
    fun n => (List.replicate_sublist_replicate _).2 (Nat.min_le_left n 2)
  induction lines generalizing newlines with
  | nil => exact absurd rfl hne
  | cons line rest ih =>
    cases rest with
    | nil =>
      rw [collapseLines, Text.joinWith_singleton]
      split
      · exact (hbreaks newlines).trans (List.sublist_append_left _ _)
      · exact (hbreaks newlines).append (List.Sublist.refl line)
    | cons next others =>
      have hkept : (Text.trimEnd line).Sublist line := by
        obtain ⟨trail, hline, -⟩ := Text.exists_trimEnd line
        have hprefix := List.sublist_append_left (Text.trimEnd line) trail
        rwa [← hline] at hprefix
      rw [collapseLines_cons (List.cons_ne_nil next others), Text.joinWith_cons_cons]
      split
      · refine (ih (newlines + 1) (List.cons_ne_nil next others)).trans ?_
        rw [List.replicate_succ', List.append_assoc]
        exact (List.Sublist.refl _).append (List.sublist_append_right line _)
      · exact (hbreaks newlines).append (hkept.append (ih 1 (List.cons_ne_nil next others)))

/-- Collapsing blank lines only takes characters away. -/
theorem collapseBlankLines_sublist (s : List Char) : (collapseBlankLines s).Sublist s := by
  have h := collapseLines_sublist (Text.splitWhere (· == '\n') s) 0 (Text.splitWhere_ne_nil _ _)
  rwa [List.replicate_zero, List.nil_append, Text.joinWith_splitWhere] at h

/-- Collapsing leaves a blank text blank. -/
theorem allBlank_collapseBlankLines {s : List Char} (h : Text.allBlank s = true) :
    Text.allBlank (collapseBlankLines s) = true := by
  rw [Text.allBlank_iff] at h ⊢
  exact fun c hc => h c ((collapseBlankLines_sublist s).subset hc)

/-- Collapsing blank lines takes only blanks away. The induction goes from one character that is not blank to the
next. -/
theorem solid_collapseBlankLines (s : List Char) : Text.solid (collapseBlankLines s) = Text.solid s := by
  obtain ⟨lead, hs, hlead⟩ := Text.exists_trimStart s
  have hnone := Text.solid_of_allBlank (allBlank_collapseBlankLines hlead)
  cases hrest : Text.trimStart s with
  | nil =>
    rw [hrest, List.append_nil] at hs
    rw [hs, hnone, Text.solid_of_allBlank hlead]
  | cons c rest =>
    have hc : Text.isBlank c = false := Text.isBlank_head?_trimStart s c (by rw [hrest]; rfl)
    have hshorter : rest.length < s.length := by
      rw [hs, hrest, List.length_append, List.length_cons]
      omega
    rw [hs, hrest, collapseBlankLines_append_cons hc, Text.solid_append, Text.solid_append, hnone,
      Text.solid_of_allBlank hlead, Text.solid_cons hc, Text.solid_cons hc, solid_collapseBlankLines rest]
termination_by s.length

/-! ## Parts between markers -/

/-- The marker that counts inside or outside a part that stays as it is. -/
def nextMarker (inside : Bool) : Char :=
  if inside then verbatimClose else verbatimOpen

/-- The marker that counts is not blank. -/
theorem isBlank_nextMarker (inside : Bool) : Text.isBlank (nextMarker inside) = false := by
  cases inside <;> decide

/-- A blank text has no markers. -/
theorem not_mem_of_allBlank {s : List Char} (h : Text.allBlank s = true) (inside : Bool) : nextMarker inside ∉ s := by
  intro hmem
  have hblank := (Text.allBlank_iff s).1 h _ hmem
  rw [isBlank_nextMarker] at hblank
  cases hblank

/-- Whether a text that begins inside or outside a part that stays as it is ends inside one. -/
def insideAfter (inside : Bool) (s : List Char) : Bool :=
  s.foldl (fun inside c => if c = nextMarker inside then !inside else inside) inside

/-- Each text either has no marker that counts or is cut at the first one. -/
@[elab_as_elim]
theorem marker_induction {motive : Bool → List Char → Prop} (free : ∀ inside s, nextMarker inside ∉ s → motive inside s)
    (cut : ∀ inside s t, nextMarker inside ∉ s → motive (!inside) t → motive inside (s ++ nextMarker inside :: t))
    (inside : Bool) (s : List Char) : motive inside s := by
  by_cases hmem : nextMarker inside ∈ s
  · obtain ⟨before, after, hs, hfree⟩ := List.eq_append_cons_of_mem hmem
    have hshorter : after.length < s.length := by
      rw [hs, List.length_append, List.length_cons]
      omega
    rw [hs]
    exact cut inside before after hfree (marker_induction free cut (!inside) after)
  · exact free inside s hmem
termination_by s.length

section Markers

variable {inside : Bool} {s : List Char}

/-- Where the second of two texts ends is told by where the first ends. -/
theorem insideAfter_append (inside : Bool) (s t : List Char) :
    insideAfter inside (s ++ t) = insideAfter (insideAfter inside s) t :=
  List.foldl_append

/-- Without a marker that counts a text ends where it begins. -/
theorem insideAfter_of_not_mem (h : nextMarker inside ∉ s) : insideAfter inside s = inside := by
  induction s with
  | nil => rfl
  | cons c rest ih =>
    rw [List.mem_cons, not_or] at h
    rw [insideAfter, List.foldl_cons, if_neg (fun hc => h.1 hc.symm)]
    exact ih h.2

/-- Behind the first marker that counts it is the other way round. -/
theorem insideAfter_append_cons (h : nextMarker inside ∉ s) (t : List Char) :
    insideAfter inside (s ++ nextMarker inside :: t) = insideAfter (!inside) t := by
  rw [insideAfter_append, insideAfter_of_not_mem h, insideAfter, List.foldl_cons, if_pos rfl, insideAfter]

/-- No marker is blank, so trimming leaves a text inside or outside as it was. -/
theorem insideAfter_trimStart (inside : Bool) (s : List Char) :
    insideAfter inside (Text.trimStart s) = insideAfter inside s := by
  obtain ⟨lead, hs, hlead⟩ := Text.exists_trimStart s
  have hfree : nextMarker inside ∉ lead := not_mem_of_allBlank hlead inside
  conv => rhs; rw [hs, insideAfter_append, insideAfter_of_not_mem hfree]

/-- Without a marker that counts a text is one part. -/
theorem segments_of_not_mem (h : nextMarker inside ∉ s) : segments inside s = [s] := by
  induction s with
  | nil => rfl
  | cons c rest ih =>
    rw [List.mem_cons, not_or] at h
    rw [segments, ih h.2]
    exact if_neg (fun hc => h.1 hc.symm)

/-- The first marker that counts ends the first part. -/
theorem segments_append_cons (h : nextMarker inside ∉ s) (t : List Char) :
    segments inside (s ++ nextMarker inside :: t) = s :: segments (!inside) t := by
  induction s with
  | nil => exact if_pos rfl
  | cons c rest ih =>
    rw [List.mem_cons, not_or] at h
    rw [List.cons_append, segments, ih h.2]
    exact if_neg (fun hc => h.1 hc.symm)

end Markers

/-! ## Tidying in parts -/

/-- No blanks meet where a text is followed by another: it does not end in one, or the other begins with something
else. -/
def Apart (s t : List Char) : Prop :=
  (∀ c ∈ s.getLast?, Text.isBlank c = false) ∨ ∃ c ∈ t.head?, Text.isBlank c = false

/-- A part with more text behind it. -/
def partAhead (inside : Bool) (part : List Char) : List Char :=
  if inside then part else collapseBlankLines part

/-- The last part of a text. -/
def partToEnd (inside : Bool) (part : List Char) : List Char :=
  if inside then part else Text.trimEnd (collapseBlankLines part)

/-- The parts of a text, the first inside or outside one that stays as it is; `final` says what becomes of the last. -/
def tidyParts (final : Bool → List Char → List Char) : Bool → List (List Char) → List Char
  | _, [] => []
  | inside, [part] => final inside part
  | inside, part :: next :: rest => partAhead inside part ++ tidyParts final (!inside) (next :: rest)

/-- What tidying makes of a text that begins inside or outside a part that stays as it is. -/
def tidyFrom (final : Bool → List Char → List Char) (inside : Bool) (s : List Char) : List Char :=
  tidyParts final inside (segments inside s)

/-- What tidying makes of a text that has more text behind it. -/
def tidyAhead (inside : Bool) (s : List Char) : List Char :=
  tidyFrom partAhead inside s

/-- What tidying makes of a text up to its end. -/
def tidyToEnd (inside : Bool) (s : List Char) : List Char :=
  tidyFrom partToEnd inside s

section Parts

variable {final : Bool → List Char → List Char} {inside : Bool} {s t : List Char}

/-- Without a marker that counts a text is tidied as one part. -/
theorem tidyFrom_of_not_mem (h : nextMarker inside ∉ s) : tidyFrom final inside s = final inside s := by
  rw [tidyFrom, segments_of_not_mem h, tidyParts]

/-- The part in front of the first marker that counts is tidied by itself. -/
theorem tidyFrom_append_cons (h : nextMarker inside ∉ s) (t : List Char) :
    tidyFrom final inside (s ++ nextMarker inside :: t) = partAhead inside s ++ tidyFrom final (!inside) t := by
  rw [tidyFrom, segments_append_cons h, tidyFrom]
  cases hparts : segments (!inside) t with
  | nil => exact absurd hparts (Reader.segments_ne_nil _ _)
  | cons next rest => rw [tidyParts]

/-- A part can be tidied in two pieces where no blanks meet. -/
theorem partAhead_append (inside : Bool)
    (h : (∀ c ∈ s.getLast?, Text.isBlank c = false) ∨ ∀ c ∈ t.head?, Text.isBlank c = false) :
    partAhead inside (s ++ t) = partAhead inside s ++ partAhead inside t := by
  cases inside with
  | true => rfl
  | false => exact collapseBlankLines_append h

/-- What was collapsed ends as the text did when that does not end in a blank. -/
theorem isBlank_getLast?_collapseBlankLines (h : ∀ c ∈ s.getLast?, Text.isBlank c = false) :
    ∀ c ∈ (collapseBlankLines s).getLast?, Text.isBlank c = false := by
  rcases List.eq_nil_or_concat s with rfl | ⟨before, last, rfl⟩
  · exact h
  · have hlast : Text.isBlank last = false := h last (by simp)
    rw [List.concat_eq_append, collapseBlankLines_append_cons hlast, collapseBlankLines_nil]
    simpa using hlast

/-- So can the last part, of which only the second piece is tidied to the end. -/
theorem partToEnd_append (inside : Bool) (h : Apart s t) :
    partToEnd inside (s ++ t) = partAhead inside s ++ partToEnd inside t := by
  cases inside with
  | true => rfl
  | false =>
    simp only [partToEnd, partAhead, Bool.false_eq_true, if_false]
    rcases h with h | ⟨c, hhead, hc⟩
    · rw [collapseBlankLines_append (Or.inl h), Text.trimEnd_append_of_getLast? (isBlank_getLast?_collapseBlankLines h)]
    · obtain ⟨rest, rfl⟩ := List.head?_eq_some_iff.1 hhead
      rw [collapseBlankLines_append_cons hc, Text.trimEnd_append_cons hc, ← List.nil_append (c :: rest),
        collapseBlankLines_append_cons hc, collapseBlankLines_nil, Text.trimEnd_append_cons hc]
      rfl

/-- A text can be tidied in two parts where no blanks meet. The second part begins inside or outside as the first
ends. -/
theorem tidyFrom_append
    (hfinal : ∀ inside s t, Apart s t → final inside (s ++ t) = partAhead inside s ++ final inside t) (h : Apart s t) :
    tidyFrom final inside (s ++ t) = tidyAhead inside s ++ tidyFrom final (insideAfter inside s) t := by
  induction inside, s using marker_induction with
  | free inside s hs =>
    rw [insideAfter_of_not_mem hs, tidyAhead, tidyFrom_of_not_mem hs]
    by_cases hmem : nextMarker inside ∈ t
    · -- The first marker of the second text ends a part that begins in the first.
      obtain ⟨before, after, rfl, hbefore⟩ := List.eq_append_cons_of_mem hmem
      have hseam : (∀ c ∈ s.getLast?, Text.isBlank c = false) ∨ ∀ c ∈ before.head?, Text.isBlank c = false := by
        rcases h with h | ⟨c, hhead, hc⟩
        · exact Or.inl h
        · refine Or.inr (fun d hd => ?_)
          rw [List.head?_append, Option.mem_def.1 hd] at hhead
          cases hhead
          exact hc
      rw [← List.append_assoc, tidyFrom_append_cons (by simp [hs, hbefore]), tidyFrom_append_cons hbefore,
        partAhead_append inside hseam, List.append_assoc]
    · rw [tidyFrom_of_not_mem (by simp [hs, hmem]), tidyFrom_of_not_mem hmem, hfinal inside s t h]
  | cut inside s rest hs ih =>
    have hrest : Apart rest t := by
      refine h.imp_left (fun h c hc => h c ?_)
      rw [List.getLast?_append, List.getLast?_cons, Option.mem_def.1 hc]
      rfl
    rw [insideAfter_append_cons hs, tidyAhead, tidyFrom_append_cons hs, List.append_assoc, List.cons_append,
      tidyFrom_append_cons hs, ih hrest, List.append_assoc, tidyAhead]

/-- A text with more behind it is tidied in two parts where no blanks meet. -/
theorem tidyAhead_append (h : Apart s t) :
    tidyAhead inside (s ++ t) = tidyAhead inside s ++ tidyAhead (insideAfter inside s) t :=
  tidyFrom_append (fun inside _ _ h => partAhead_append inside (h.imp_right (fun ⟨_, hhead, hc⟩ _ hd =>
    Option.mem_unique hhead hd ▸ hc))) h

/-- A text is tidied to its end in two parts where no blanks meet. -/
theorem tidyToEnd_append (h : Apart s t) :
    tidyToEnd inside (s ++ t) = tidyAhead inside s ++ tidyToEnd (insideAfter inside s) t :=
  tidyFrom_append (fun inside _ _ h => partToEnd_append inside h) h

/-- The last parts, as the text is finished, are tidied to the end. -/
theorem tidyRest_eq (parts : List (List Char)) : tidyRest parts = tidyParts partToEnd true parts := by
  induction parts using tidyRest.induct with
  | case1 => rfl
  | case2 kept => rfl
  | case3 kept last => rfl
  | case4 kept plain rest hne ih =>
    cases rest with
    | nil => exact absurd rfl hne
    | cons next others =>
      rw [tidyRest, ih, tidyParts, tidyParts]
      · rfl
      · exact List.cons_ne_nil _ _

/-- A text is finished by tidying what is left without the blanks at its start. -/
theorem tidy_eq (s : List Char) : tidy s = tidyToEnd false (Text.trimStart s) := by
  obtain ⟨lead, hs, hlead⟩ := Text.exists_trimStart s
  have hfree := not_mem_of_allBlank hlead
  -- What stands in front of the first marker, without the blanks at the start of the text.
  have hfirst : ∀ first, (∀ c ∈ first.head?, Text.isBlank c = false) →
      Text.trimStart (collapseBlankLines (lead ++ first)) = collapseBlankLines first := by
    intro first hhead
    rw [collapseBlankLines_append (Or.inr hhead), Text.trimStart_append_of_allBlank (allBlank_collapseBlankLines hlead)]
    cases first with
    | nil => rfl
    | cons c rest =>
      rw [← List.nil_append (c :: rest), collapseBlankLines_append_cons (hhead c rfl), collapseBlankLines_nil]
      exact Text.trimStart_of_head? hhead
  have hhead := Text.isBlank_head?_trimStart s
  generalize Text.trimStart s = rest at hs hhead
  subst hs
  by_cases hmem : nextMarker false ∈ rest
  · obtain ⟨first, after, rfl, hbefore⟩ := List.eq_append_cons_of_mem hmem
    have hfirstHead : ∀ c ∈ first.head?, Text.isBlank c = false := by
      intro c hc
      refine hhead c ?_
      rw [List.head?_append, Option.mem_def.1 hc]
      rfl
    rw [tidyToEnd, tidyFrom_append_cons hbefore, tidy, ← List.append_assoc,
      segments_append_cons (by simp [hfree, hbefore])]
    cases hparts : segments (!false) after with
    | nil => exact absurd hparts (Reader.segments_ne_nil _ _)
    | cons next others =>
      simp only
      rw [hfirst first hfirstHead, tidyRest_eq, ← hparts]
      rfl
  · rw [tidyToEnd, tidyFrom_of_not_mem hmem, tidy, segments_of_not_mem (by simp [hfree, hmem])]
    simp only [Text.trim]
    rw [hfirst rest hhead]
    rfl

/-- The blank line behind a text that neither begins nor ends in a blank is taken away. -/
theorem tidy_append_blankLine (hhead : ∃ c ∈ s.head?, Text.isBlank c = false)
    (hlast : ∀ c ∈ s.getLast?, Text.isBlank c = false)
    (hclosed : insideAfter false s = false) : tidy (s ++ "\n\n".toList) = tidyAhead false s := by
  have hstart : Text.trimStart (s ++ "\n\n".toList) = s ++ "\n\n".toList := by
    obtain ⟨c, hc, hblank⟩ := hhead
    obtain ⟨rest, rfl⟩ := List.head?_eq_some_iff.1 hc
    exact List.dropWhile_cons_of_neg (by simp [hblank])
  rw [tidy_eq, hstart, tidyToEnd_append (Or.inl hlast), hclosed]
  exact List.append_nil _

/-! ## What is lost -/

/-- Tidying only takes characters away, if finishing the last part does. -/
theorem tidyFrom_sublist (hfinal : ∀ inside s, (final inside s).Sublist s) (inside : Bool) (s : List Char) :
    (tidyFrom final inside s).Sublist s := by
  induction inside, s using marker_induction with
  | free inside s hs =>
    rw [tidyFrom_of_not_mem hs]
    exact hfinal inside s
  | cut inside s t hs ih =>
    have hpart : (partAhead inside s).Sublist s := by
      cases inside with
      | true => exact List.Sublist.refl s
      | false => exact collapseBlankLines_sublist s
    rw [tidyFrom_append_cons hs]
    exact hpart.append (ih.cons _)

/-- Tidying a text with more behind it only takes characters away. -/
theorem tidyAhead_sublist (inside : Bool) (s : List Char) : (tidyAhead inside s).Sublist s := by
  refine tidyFrom_sublist (fun inside s => ?_) inside s
  cases inside with
  | true => exact List.Sublist.refl s
  | false => exact collapseBlankLines_sublist s

/-- Tidying a text to its end only takes characters away. -/
theorem tidyToEnd_sublist (inside : Bool) (s : List Char) : (tidyToEnd inside s).Sublist s := by
  refine tidyFrom_sublist (fun inside s => ?_) inside s
  cases inside with
  | true => exact List.Sublist.refl s
  | false =>
    obtain ⟨trail, hs, -⟩ := Text.exists_trimEnd (collapseBlankLines s)
    have hkept := List.sublist_append_left (Text.trimEnd (collapseBlankLines s)) trail
    rw [← hs] at hkept
    exact hkept.trans (collapseBlankLines_sublist s)

/-- The opening marker is not blank, so it is among what is not. -/
theorem verbatimOpen_mem_solid {s : List Char} : verbatimOpen ∈ Text.solid s ↔ verbatimOpen ∈ s := by
  have hmarker : Text.isBlank verbatimOpen = false := isBlank_nextMarker false
  rw [Text.solid, List.mem_filter]
  simp [hmarker]

/-- Finishing a text takes nothing but blanks away exactly when no opening marker stands in it. -/
theorem solid_tidy_iff (s : List Char) : Text.solid (tidy s) = Text.solid s ↔ verbatimOpen ∉ s := by
  obtain ⟨lead, hs, hlead⟩ := Text.exists_trimStart s
  have hmarker : Text.isBlank verbatimOpen = false := isBlank_nextMarker false
  have hsolid : Text.solid s = Text.solid (Text.trimStart s) := by
    conv => lhs; rw [hs, Text.solid_append, Text.solid_of_allBlank hlead, List.nil_append]
  have hmem : verbatimOpen ∈ s ↔ verbatimOpen ∈ Text.trimStart s := by
    rw [← verbatimOpen_mem_solid, hsolid, verbatimOpen_mem_solid]
  rw [tidy_eq, hsolid, hmem]
  generalize Text.trimStart s = rest
  constructor
  · intro hsame hopen
    obtain ⟨before, after, rfl, hbefore⟩ := List.eq_append_cons_of_mem hopen
    -- The first opening marker is gone, and nothing takes its place.
    have hshorter : (tidyToEnd false (before ++ verbatimOpen :: after)).Sublist (before ++ after) := by
      have hcut : tidyToEnd false (before ++ verbatimOpen :: after) = collapseBlankLines before ++
          tidyToEnd true after :=
        tidyFrom_append_cons hbefore after
      rw [hcut]
      exact (collapseBlankLines_sublist before).append (tidyToEnd_sublist true after)
    have hle := (hshorter.filter (fun c => !Text.isBlank c)).length_le
    have hlength := congrArg List.length hsame
    rw [Text.solid_append, Text.solid_cons hmarker] at hlength
    simp only [Text.solid, List.filter_append, List.length_append, List.length_cons] at hle hlength
    omega
  · intro hfree
    obtain ⟨trail, hend, htrail⟩ := Text.exists_trimEnd (collapseBlankLines rest)
    have hkept : Text.solid (collapseBlankLines rest) = Text.solid (Text.trimEnd (collapseBlankLines rest)) := by
      conv => lhs; rw [hend, Text.solid_append, Text.solid_of_allBlank htrail, List.append_nil]
    rw [tidyToEnd, tidyFrom_of_not_mem hfree]
    exact hkept.symm.trans (solid_collapseBlankLines rest)

/-! ## Marked parts -/

/-- No closing marker stands in the text but at its end: what follows the first one are closing markers only. -/
def ClosesAtEnd (s : List Char) : Prop :=
  ∀ c ∈ s.dropWhile (fun c => c != verbatimClose), c = verbatimClose

instance (s : List Char) : Decidable (ClosesAtEnd s) :=
  inferInstanceAs (Decidable (∀ c ∈ _, _))

/-- A text without a closing marker has none but at its end. -/
theorem closesAtEnd_of_not_mem (h : verbatimClose ∉ s) : ClosesAtEnd s := by
  have hnone : s.dropWhile (fun c => c != verbatimClose) = [] := by
    rw [List.dropWhile_eq_nil_iff]
    intro c hc
    exact bne_iff_ne.2 (fun heq => h (heq ▸ hc))
  rw [ClosesAtEnd, hnone]
  exact List.forall_mem_nil _

/-- Behind the first closing marker there are only others of its kind. -/
theorem closesAtEnd_append_cons (h : verbatimClose ∉ s) (t : List Char) :
    ClosesAtEnd (s ++ verbatimClose :: t) ↔ ∀ c ∈ t, c = verbatimClose := by
  have hall : ∀ c ∈ s, (c != verbatimClose) = true := fun c hc => bne_iff_ne.2 (fun heq => h (heq ▸ hc))
  rw [ClosesAtEnd, List.dropWhile_append_of_pos hall, List.dropWhile_cons_of_neg (by simp), List.forall_mem_cons]
  exact and_iff_right rfl

/-- After a closing marker a text is outside a part that stays as it is. -/
theorem insideAfter_concat_close (inside : Bool) (s : List Char) :
    insideAfter inside (s ++ [verbatimClose]) = false := by
  rw [insideAfter_append]
  cases insideAfter inside s <;> decide

/-- A text without blanks has no blank lines. -/
theorem collapseBlankLines_of_forall (h : ∀ c ∈ s, Text.isBlank c = false) : collapseBlankLines s = s := by
  induction s with
  | nil => rfl
  | cons c rest ih =>
    rw [List.forall_mem_cons] at h
    rw [← List.nil_append (c :: rest), collapseBlankLines_append_cons h.1, ih h.2, collapseBlankLines_nil]

/-- Outside a marked part, a closing marker behind a text comes to stand in front of it only among others of its
kind. -/
theorem tidyAhead_concat_close_iff (s : List Char) :
    tidyAhead false (s ++ [verbatimClose]) = verbatimClose :: s ↔ ∀ c ∈ s, c = verbatimClose := by
  constructor
  · intro h
    have hsublist := tidyAhead_sublist false (s ++ [verbatimClose])
    rw [h] at hsublist
    have hsame := hsublist.eq_of_length (by simp)
    clear h hsublist
    induction s with
    | nil => exact List.forall_mem_nil _
    | cons c rest ih =>
      rw [List.cons_append, List.cons.injEq] at hsame
      obtain ⟨rfl, hrest⟩ := hsame
      exact List.forall_mem_cons.2 ⟨rfl, ih hrest⟩
  · intro h
    have hall : ∀ c ∈ s ++ [verbatimClose], c = verbatimClose := by simpa [or_imp, forall_and] using h
    have hopen : nextMarker false ∉ s ++ [verbatimClose] := fun hmem => absurd (hall _ hmem) (by decide)
    rw [tidyAhead, tidyFrom_of_not_mem hopen]
    have hcollapse := collapseBlankLines_of_forall (fun c hc => (hall c hc).symm ▸ isBlank_nextMarker true)
    rw [partAhead, if_neg Bool.false_ne_true, hcollapse, List.eq_replicate_of_mem h]
    exact (List.replicate_succ' ..).symm

/-- A marked part comes through whole exactly when no closing marker stands in it but at its end. -/
theorem tidyToEnd_verbatim_iff (s t : List Char) :
    tidyToEnd true (s ++ verbatimClose :: t) = s ++ tidyToEnd false t ↔ ClosesAtEnd s := by
  by_cases hmem : verbatimClose ∈ s
  · obtain ⟨kept, rest, rfl, hkept⟩ := List.eq_append_cons_of_mem hmem
    have hcut : kept ++ verbatimClose :: rest ++ verbatimClose :: t =
        kept ++ nextMarker true :: (rest ++ [verbatimClose] ++ t) := by
      simp [nextMarker]
    have hmarker : Text.isBlank verbatimClose = false := isBlank_nextMarker true
    have hseam : Apart (rest ++ [verbatimClose]) t := Or.inl (by simpa using hmarker)
    rw [closesAtEnd_append_cons hkept, ← tidyAhead_concat_close_iff, hcut, tidyToEnd, tidyFrom_append_cons hkept]
    have htail : tidyFrom partToEnd (!true) (rest ++ [verbatimClose] ++ t) =
        tidyAhead false (rest ++ [verbatimClose]) ++ tidyToEnd false t := by
      have happend : tidyToEnd false (rest ++ [verbatimClose] ++ t) = _ := tidyToEnd_append hseam
      rwa [insideAfter_concat_close] at happend
    rw [htail, partAhead, if_pos rfl, List.append_assoc, List.append_cancel_left_eq, List.append_cancel_right_eq]
  · refine iff_of_true ?_ (closesAtEnd_of_not_mem hmem)
    exact tidyFrom_append_cons hmem t

/-- A marked part of a text whose front has no marked part left open comes through whole exactly when no closing
marker stands in it but at its end. -/
theorem tidy_verbatim_iff (h : insideAfter false s = false) (v t : List Char) :
    tidy (s ++ (verbatim v ++ t)) = tidyAhead false (Text.trimStart s) ++ (v ++ tidyToEnd false t) ↔ ClosesAtEnd v := by
  have hmarker : Text.isBlank verbatimOpen = false := isBlank_nextMarker false
  have htext : verbatim v ++ t = verbatimOpen :: (v ++ verbatimClose :: t) := by simp [verbatim]
  have hopen : tidyToEnd false (verbatimOpen :: (v ++ verbatimClose :: t)) = tidyToEnd true (v ++ verbatimClose :: t) :=
    tidyFrom_append_cons (s := []) List.not_mem_nil (v ++ verbatimClose :: t)
  rw [htext, tidy_eq, Text.trimStart_append_of_head? (by simpa using hmarker),
    tidyToEnd_append (Or.inr ⟨verbatimOpen, rfl, hmarker⟩), insideAfter_trimStart, h, hopen, List.append_cancel_left_eq,
    tidyToEnd_verbatim_iff]

end Parts

end Tex

end Manuscript
