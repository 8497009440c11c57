import Manuscript.Proofs.Braces
import Manuscript.Proofs.EscapedText
import Manuscript.Proofs.Tidying

/-!
# Brackets behind items and rows

TeX takes an opening bracket for the start of an optional argument when it is the first thing to be seen behind the
command of an item or behind a doubled backslash, which ends a row (`KeepsBrackets`). Only little of a text counts
for this: which of its characters are blanks, markers and brackets, and where items and rows open (`Mark`). A text
that is read as its marks (`Reads`) may be put together with others, trimmed and put into commands (`Shows`).
Tidying takes markers away, so a bracket is taken where blanks alone stand before it, and none is taken where
something else than blanks and markers does (`keepsBrackets_tidy`).
-/

namespace Manuscript

namespace Text

variable {s t : List Char}

/-- A text that is not blank begins, behind its first blanks, with a character that is none. -/
theorem exists_first (h : allBlank t = false) :
    ∃ lead c rest, t = lead ++ c :: rest ∧ trimStart t = c :: rest ∧ allBlank lead = true ∧ isBlank c = false := by
  obtain ⟨lead, ht, hlead⟩ := exists_trimStart t
  cases hstart : trimStart t with
  | nil =>
    rw [hstart, List.append_nil] at ht
    rw [ht, hlead] at h
    cases h
  | cons c rest =>
    rw [hstart] at ht
    exact ⟨lead, c, rest, ht, rfl, hlead, isBlank_head?_trimStart t c (by rw [hstart]; rfl)⟩

/-- Behind something that is not blank, only the second of two texts is trimmed. -/
theorem trimEnd_append (h : allBlank t = false) (s : List Char) : trimEnd (s ++ t) = s ++ trimEnd t := by
  obtain ⟨lead, c, rest, rfl, -, -, hc⟩ := exists_first h
  rw [← List.append_assoc, trimEnd_append_cons hc, trimEnd_append_cons hc, List.append_assoc]

/-- Blanks behind a text go when its end is trimmed. -/
theorem trimEnd_append_of_allBlank (h : allBlank t = true) (s : List Char) : trimEnd (s ++ t) = trimEnd s := by
  have hreverse : ∀ c ∈ t.reverse, isBlank c = true := fun c hc => (allBlank_iff t).1 h c (List.mem_reverse.1 hc)
  rw [trimEnd, trimEnd, List.reverse_append, List.dropWhile_append_of_pos hreverse]

end Text

namespace Tex

/-! ## What looks for an argument -/

/-- The commands that look for an optional argument: that of an item, and the end of a row. -/
def seekers : List (List Char) :=
  ["\\item".toList, "\\\\".toList]

/-- A text in which no bracket is the first thing to be seen behind an item's command or the end of a row. -/
def KeepsBrackets (s : List Char) : Prop :=
  ∀ before after, ∀ seeker ∈ seekers, s = before ++ (seeker ++ after) → (Text.trimStart after).head? ≠ some '['

/-- Where a scan for optional arguments stands: in text, behind a backslash and letters with which the name of an
item begins, right behind the end of a row, behind blanks where a bracket would be taken, or behind a bracket that
was taken. -/
inductive Spot where
  | text
  | name (letters : List Char)
  | rowEnd
  | ready
  | taken
  deriving DecidableEq

/-- The scan for optional arguments. It refuses blanks and markers in a name, and anything but a blank at the end of
a row. A marker is a thing to be seen, or none. -/
def argumentReader (shown : Bool) : Reader Spot where
  step
    | .text, c => some (if c = '\\' then .name [] else .text)
    | .name letters, c =>
      if breaksEscape c then none
      else if c = '\\' then some (if letters = [] then .rowEnd else .name [])
      else if letters ++ [c] = "item".toList then some .ready
      else some (if (letters ++ [c]).isPrefixOf "item".toList then .name (letters ++ [c]) else .text)
    | .rowEnd, c => if Text.isBlank c then some .ready else none
    | .ready, c =>
      some (if Text.isBlank c || !shown && isMarker c then .ready
        else if c = '[' then .taken
        else if c = '\\' then .name []
        else .text)
    | .taken, _ => some .taken

variable {shown : Bool} {s t : List Char}

/-- In text only a backslash makes a difference. -/
@[simp]
theorem argumentReader_step_text (c : Char) :
    (argumentReader shown).step .text c = some (if c = '\\' then .name [] else .text) := rfl

/-- Behind the end of a row a blank has to come. -/
@[simp]
theorem argumentReader_step_rowEnd (c : Char) :
    (argumentReader shown).step .rowEnd c = if Text.isBlank c then some .ready else none := by
  simp only [argumentReader]

/-- A name is not broken by blanks and markers. -/
theorem argumentReader_step_name (letters : List Char) {c : Char} (h : breaksEscape c = true) :
    (argumentReader shown).step (.name letters) c = none := by
  simp only [argumentReader, h, if_true]

/-- Where an argument is looked for, blanks are passed over, and so are markers that are not seen. -/
@[simp]
theorem argumentReader_step_ready (c : Char) : (argumentReader shown).step .ready c =
    some (if Text.isBlank c || !shown && isMarker c then .ready
      else if c = '[' then .taken
      else if c = '\\' then .name []
      else .text) := rfl

/-- Once a bracket is taken, that stays so. -/
@[simp]
theorem argumentReader_step_taken (c : Char) : (argumentReader shown).step .taken c = some .taken := rfl

/-- A taken bracket stays taken, whatever comes. -/
theorem argumentReader_read_taken (s : List Char) : (argumentReader shown).read .taken s = some .taken := by
  induction s with
  | nil => rfl
  | cons c rest ih => exact ih

/-- A blank leaves a spot between two pieces of a text as it is. -/
theorem argumentReader_step_of_isBlank (q : Spot) {c : Char} (hc : Text.isBlank c = true) :
    (argumentReader shown).step q c =
      match q with
      | .name _ => none
      | .rowEnd => some .ready
      | q => some q := by
  have hback : c ≠ '\\' := by
    rintro rfl
    exact absurd hc (by decide)
  cases q with
  | name letters => exact argumentReader_step_name letters (by rw [breaksEscape, hc, Bool.true_or])
  | _ => simp [hc, hback]

/-- One blank more makes no difference to the scan. -/
theorem argumentReader_blankLaw : (argumentReader shown).BlankLaw where
  same q c hc := by rw [argumentReader_step_of_isBlank q hc, argumentReader_step_of_isBlank q rfl]
  again q p hp := by
    rw [argumentReader_step_of_isBlank q rfl] at hp
    rw [argumentReader_step_of_isBlank p rfl]
    cases q <;> cases hp <;> rfl

/-- A marker that is not seen leaves no trace. -/
theorem argumentReader_markerLaw : (argumentReader false).MarkerLaw Eq where
  refl _ := rfl
  trans _ _ _ := Eq.trans
  step q p q' c hqp hstep := ⟨q', hqp ▸ hstep, rfl⟩
  mark q q' c hc hstep := by
    have hmarker : isMarker c = true := by rwa [isMarker, Bool.or_eq_true, beq_iff_eq, beq_iff_eq]
    have hback : c ≠ '\\' := by
      rintro rfl
      exact absurd hmarker (by decide)
    have hblank : Text.isBlank c = false := by
      rcases hc with rfl | rfl <;> decide
    cases q with
    | text | ready =>
      simp [hback, hmarker] at hstep
      exact hstep.symm
    | taken => exact (Option.some.inj hstep).symm
    | name letters =>
      rw [argumentReader_step_name letters (by rw [breaksEscape, hmarker, Bool.or_true])] at hstep
      cases hstep
    | rowEnd => simp [hblank] at hstep

/-! ## What the scan says of a text -/

/-- From whatever comes before, the scan goes on to look for a bracket behind an item's command and behind the end
of a row. -/
theorem argumentReader_read_seeker {q p : Spot} {seeker : List Char} (hseeker : seeker ∈ seekers)
    (h : (argumentReader shown).read q seeker = some p) : p = .rowEnd ∨ p = .ready ∨ p = .taken := by
  simp only [seekers, List.mem_cons, List.not_mem_nil, or_false] at hseeker
  cases q with
  | taken =>
    rw [argumentReader_read_taken] at h
    exact Or.inr (Or.inr (Option.some.inj h).symm)
  | text | ready =>
    rcases hseeker with rfl | rfl <;>
    · cases shown <;>
      · obtain rfl := Option.some.inj h
        decide
  | rowEnd => rcases hseeker with rfl | rfl <;> cases h
  | name letters =>
    by_cases hnil : letters = []
    · -- The end of a row, behind which neither command may stand.
      subst hnil
      rcases hseeker with rfl | rfl <;> cases h
    · have hstep : (argumentReader shown).step (.name letters) '\\' = some (.name []) := by
        simp only [argumentReader, show breaksEscape '\\' = false from rfl, hnil, Bool.false_eq_true, if_false, if_true]
      rcases hseeker with rfl | rfl <;>
      · change ((argumentReader shown).step (.name letters) '\\').bind
          (fun p => (argumentReader shown).read p _) = _ at h
        rw [hstep] at h
        obtain rfl := Option.some.inj h
        decide

/-- A bracket behind blanks is taken. -/
theorem eq_taken_of_read {q p : Spot} (hq : q = .rowEnd ∨ q = .ready ∨ q = .taken)
    (hhead : (Text.trimStart t).head? = some '[') (h : (argumentReader shown).read q t = some p) :
    p = .taken := by
  obtain ⟨lead, ht, hlead⟩ := Text.exists_trimStart t
  obtain ⟨rest, hrest⟩ := List.head?_eq_some_iff.1 hhead
  rw [hrest] at ht
  rw [ht, Reader.read_append] at h
  obtain ⟨m, hm, hbracket⟩ := Option.bind_eq_some_iff.1 h
  have hready : (argumentReader shown).read .ready ('[' :: rest) = some .taken := by
    cases shown <;> exact argumentReader_read_taken rest
  have htaken : (argumentReader shown).read .taken ('[' :: rest) = some .taken := argumentReader_read_taken _
  have hidle : ∀ q ∈ [Spot.ready, .taken], (argumentReader shown).step q '\n' = some q := by
    cases shown <;> decide
  rcases hq with rfl | rfl | rfl
  · by_cases hnil : lead = []
    · -- Right behind the end of a row no bracket may stand.
      rw [hnil, Reader.read_nil] at hm
      obtain rfl := Option.some.inj hm
      cases hbracket
    · rw [argumentReader_blankLaw.read_blanks _ hlead hnil, argumentReader_step_of_isBlank _ rfl] at hm
      obtain rfl := Option.some.inj hm
      exact Option.some.inj (hbracket.symm.trans hready)
  · rw [argumentReader_blankLaw.read_blanks_idle (hidle _ (by decide)) hlead] at hm
    obtain rfl := Option.some.inj hm
    exact Option.some.inj (hbracket.symm.trans hready)
  · rw [argumentReader_blankLaw.read_blanks_idle (hidle _ (by decide)) hlead] at hm
    obtain rfl := Option.some.inj hm
    exact Option.some.inj (hbracket.symm.trans htaken)

/-- A text that is read without a bracket that is taken has none. -/
theorem keepsBrackets_of_read {p : Spot} (h : (argumentReader shown).read .text s = some p) (hp : p ≠ .taken) :
    KeepsBrackets s := by
  rintro before after seeker hseeker rfl hhead
  rw [Reader.read_append] at h
  obtain ⟨q, -, h⟩ := Option.bind_eq_some_iff.1 h
  rw [Reader.read_append] at h
  obtain ⟨m, hm, h⟩ := Option.bind_eq_some_iff.1 h
  exact hp (eq_taken_of_read (argumentReader_read_seeker hseeker hm) hhead h)

/-- What was read to come to a spot. -/
def Spot.Left (s : List Char) : Spot → Prop
  | .text => True
  | .name letters => ∃ before, s = before ++ '\\' :: letters
  | .rowEnd => ∃ before, s = before ++ "\\\\".toList
  | .ready => ∃ before lead, ∃ seeker ∈ seekers, s = before ++ (seeker ++ lead) ∧ Text.allBlank lead = true
  | .taken =>
    ∃ before lead after, ∃ seeker ∈ seekers, s = before ++ (seeker ++ (lead ++ '[' :: after)) ∧
      Text.allBlank lead = true

/-- A character that is read is added to what was read to come to a spot. -/
theorem Spot.Left.step {q p : Spot} {c : Char} (h : q.Left s) (hstep : (argumentReader true).step q c = some p) :
    p.Left (s ++ [c]) := by
  cases q with
  | text =>
    obtain rfl := Option.some.inj hstep
    split
    · rename_i hback
      exact ⟨s, by rw [hback]⟩
    · trivial
  | name letters =>
    obtain ⟨before, rfl⟩ := h
    simp only [argumentReader] at hstep
    split_ifs at hstep with _ hback hnil hitem hbegins <;> cases hstep
    · exact ⟨before, by simp [hback, hnil]⟩
    · exact ⟨before ++ '\\' :: letters, by simp [hback]⟩
    · refine ⟨before, [], "\\item".toList, by decide, ?_, rfl⟩
      rw [List.append_nil, List.append_assoc, List.cons_append, hitem]
      rfl
    · exact ⟨before, by simp⟩
    · trivial
  | rowEnd =>
    obtain ⟨before, rfl⟩ := h
    simp only [argumentReader] at hstep
    split_ifs at hstep with hblank
    obtain rfl := Option.some.inj hstep
    exact ⟨before, [c], "\\\\".toList, by decide, by simp, by simp [Text.allBlank, hblank]⟩
  | ready =>
    obtain ⟨before, lead, seeker, hseeker, rfl, hlead⟩ := h
    obtain rfl := Option.some.inj hstep
    split_ifs with hblank hbracket hback
    · have hblank : Text.isBlank c = true := by simpa using hblank
      exact ⟨before, lead ++ [c], seeker, hseeker, by simp,
        by rw [Text.allBlank_append, hlead]; simp [Text.allBlank, hblank]⟩
    · exact ⟨before, lead, [], seeker, hseeker, by simp [hbracket], hlead⟩
    · exact ⟨before ++ (seeker ++ lead), by rw [hback]⟩
    · trivial
  | taken =>
    obtain ⟨before, lead, after, seeker, hseeker, rfl, hlead⟩ := h
    obtain rfl := Option.some.inj hstep
    exact ⟨before, lead, after ++ [c], seeker, hseeker, by simp, hlead⟩

/-- The induction is on the text from its end. -/
theorem Spot.left_of_read {p : Spot} (h : (argumentReader true).read .text s = some p) : p.Left s := by
  induction s using List.reverseRecOn generalizing p with
  | nil =>
    obtain rfl := Option.some.inj h
    trivial
  | append_singleton front c ih =>
    rw [Reader.read_append] at h
    obtain ⟨q, hq, hstep⟩ := Option.bind_eq_some_iff.1 h
    rw [Reader.read_singleton] at hstep
    exact (ih hq).step hstep

/-! ## Tidying -/

/-- Text without blanks and markers is not touched. -/
theorem tidyAhead_of_forall {inside : Bool} (h : ∀ c ∈ s, Text.isBlank c = false ∧ isMarker c = false) :
    tidyAhead inside s = s := by
  have hfree : nextMarker inside ∉ s := by
    intro hmem
    have hmarker := (h _ hmem).2
    cases inside <;> cases hmarker
  rw [tidyAhead, tidyFrom_of_not_mem hfree, partAhead]
  split
  · rfl
  · exact collapseBlankLines_of_forall (fun c hc => (h c hc).1)

/-- Tidying leaves a blank text blank. -/
theorem allBlank_tidyAhead {inside : Bool} (h : Text.allBlank s = true) :
    Text.allBlank (tidyAhead inside s) = true := by
  rw [tidyAhead, tidyFrom_of_not_mem (not_mem_of_allBlank h inside), partAhead]
  split
  · exact h
  · exact allBlank_collapseBlankLines h

/-- A bracket that stands behind blanks alone stands so in the tidied text. -/
theorem not_keepsBrackets_tidy {before lead after seeker : List Char} (hseeker : seeker ∈ seekers)
    (hlead : Text.allBlank lead = true) :
    ¬KeepsBrackets (tidy (before ++ (seeker ++ (lead ++ '[' :: after)))) := by
  have hall : ∀ seeker ∈ seekers, (∀ c ∈ seeker, Text.isBlank c = false ∧ isMarker c = false) ∧
    seeker.head? = some '\\' := by decide
  obtain ⟨hplain, hc⟩ := hall seeker hseeker
  obtain ⟨rest, hhead⟩ := List.head?_eq_some_iff.1 hc
  have hfirst : ∀ u : List Char, ∃ d ∈ (seeker ++ u).head?, Text.isBlank d = false :=
    fun u => ⟨'\\', by rw [hhead]; rfl, rfl⟩
  have hlast : ∀ c ∈ seeker.getLast?, Text.isBlank c = false := fun c hc => (hplain c (List.mem_of_mem_getLast? hc)).1
  have hstart : Text.trimStart (before ++ (seeker ++ (lead ++ '[' :: after))) =
      Text.trimStart before ++ (seeker ++ (lead ++ '[' :: after)) := by
    refine Text.trimStart_append_of_head? (fun d hd => ?_) before
    rw [hhead, List.cons_append, List.head?_cons, Option.mem_some_iff] at hd
    rw [← hd]
    rfl
  have htidy : ∃ front rest inside, tidy (before ++ (seeker ++ (lead ++ '[' :: after))) =
      front ++ (seeker ++ (tidyAhead inside lead ++ '[' :: rest)) := by
    have hbracket : ∀ inside, tidyToEnd inside ('[' :: after) = '[' :: tidyToEnd (insideAfter inside ['[']) after := by
      intro inside
      have hend : ∀ c ∈ ['['].getLast?, Text.isBlank c = false := by simp [Text.isBlank]
      have hcut : tidyToEnd inside (['['] ++ after) = _ := tidyToEnd_append (Or.inl hend)
      rw [tidyAhead_of_forall (by decide)] at hcut
      exact hcut
    rw [tidy_eq, hstart, tidyToEnd_append (Or.inr (hfirst _)), tidyToEnd_append (Or.inl hlast),
      tidyToEnd_append (Or.inr ⟨'[', rfl, by decide⟩), hbracket, tidyAhead_of_forall hplain]
    exact ⟨_, _, _, rfl⟩
  obtain ⟨front, rest, inside, htidy⟩ := htidy
  intro h
  refine h _ _ seeker hseeker htidy ?_
  rw [Text.trimStart_append_of_allBlank (allBlank_tidyAhead hlead)]
  rfl

/-! ## Marks -/

/-- What counts of a text: a blank, a marker, an opening bracket, anything else that is seen, and where an item or a
row opens. -/
inductive Mark where
  | space
  | hidden
  | bracket
  | visible
  | opening
  deriving DecidableEq

namespace Mark

/-- What a character of ordinary text counts for. -/
def of (c : Char) : Mark :=
  if Text.isBlank c then .space else if isMarker c then .hidden else if c = '[' then .bracket else .visible

/-- Whether something is seen; of markers this has to be said. -/
def isSeen (shown : Bool) : Mark → Bool
  | .space => false
  | .hidden => shown
  | .bracket | .visible | .opening => true

end Mark

/-- A bracket is the first thing to be seen where an item or a row opens. -/
def Opened (shown : Bool) (marks : List Mark) : Prop :=
  [.opening, .bracket] <:+: marks.filter (Mark.isSeen shown)

instance (shown : Bool) (marks : List Mark) : Decidable (Opened shown marks) :=
  inferInstanceAs (Decidable (_ <:+: _))

/-- What a mark makes of a spot between two pieces of a text. -/
def Spot.after (shown : Bool) (q : Spot) (mark : Mark) : Spot :=
  if q = .taken then .taken
  else
    match mark with
    | .space => q
    | .hidden => if shown then .text else q
    | .bracket => if q = .ready then .taken else .text
    | .visible => .text
    | .opening => .ready

/-- The spots between two pieces of a text. -/
def Spot.settled : List Spot :=
  [.text, .ready, .taken]

/-- Marks lead from one spot between two pieces to another. -/
theorem Spot.after_mem {q : Spot} (hq : q ∈ settled) (mark : Mark) : q.after shown mark ∈ settled := by
  have hall : ∀ q ∈ settled, ∀ shown mark, q.after shown mark ∈ settled := by
    intro q hq shown mark
    revert q
    cases shown <;> cases mark <;> decide
  exact hall q hq shown mark

/-- So do marks one after another. -/
theorem Spot.foldl_after_mem {q : Spot} (hq : q ∈ settled) (marks : List Mark) :
    marks.foldl (Spot.after shown) q ∈ settled := by
  induction marks generalizing q with
  | nil => exact hq
  | cons mark rest ih => exact ih (Spot.after_mem hq mark)

/-- A bracket is taken where it is the first thing to be seen behind an opening. -/
theorem Spot.foldl_after_eq_taken {q : Spot} (hq : q ∈ settled) (marks : List Mark) :
    marks.foldl (Spot.after shown) q = .taken ↔
    q = .taken ∨ (q = .ready ∧ (marks.filter (Mark.isSeen shown)).head? = some .bracket) ∨ Opened shown marks := by
  induction marks generalizing q with
  | nil => simp [Opened]
  | cons mark rest ih =>
    rw [List.foldl_cons, ih (Spot.after_mem hq mark), Opened, Opened, List.filter_cons]
    simp only [settled, List.mem_cons, List.not_mem_nil, or_false] at hq
    by_cases hseen : mark.isSeen shown = true
    · rw [if_pos hseen, List.infix_cons_iff, List.cons_prefix_cons]
      have hnext : [Mark.bracket] <+: rest.filter (Mark.isSeen shown) ↔
          (rest.filter (Mark.isSeen shown)).head? = some .bracket := by
        cases rest.filter (Mark.isSeen shown) with
        | nil => simp
        | cons next others => simp [eq_comm]
      rw [hnext]
      rcases hq with rfl | rfl | rfl <;> cases mark <;> simp_all [Spot.after, Mark.isSeen]
    · rw [if_neg hseen]
      rcases hq with rfl | rfl | rfl <;> cases mark <;> simp_all [Spot.after, Mark.isSeen]

/-! ## Texts and their marks -/

/-- A text is read as its marks. -/
def Reads (shown : Bool) (marks : List Mark) (s : List Char) : Prop :=
  ∀ q ∈ Spot.settled, (argumentReader shown).read q s = some (marks.foldl (Spot.after shown) q)

instance (shown : Bool) (marks : List Mark) (s : List Char) : Decidable (Reads shown marks s) :=
  inferInstanceAs (Decidable (∀ q ∈ _, _))

/-- A text with its marks, of which none is lost when its end is trimmed. The marks also tell whether it is empty,
and whether it is blank. -/
structure Shows (shown : Bool) (marks : List Mark) (s : List Char) : Prop where
  reads : Reads shown marks s
  trimmed : Reads shown marks (Text.trimEnd s)
  blank : Text.allBlank s = marks.all (· == .space)
  empty : s = [] ↔ marks = []

/-- An end of line makes no difference between two pieces. -/
theorem idle_of_settled {q : Spot} (hq : q ∈ Spot.settled) : (argumentReader shown).step q '\n' = some q := by
  have hall : ∀ q ∈ Spot.settled, (argumentReader shown).step q '\n' = some q := by
    cases shown <;> decide
  exact hall q hq

/-- The marks of what trimming leaves of a text. -/
def trimmedMarks (marks : List Mark) : List Mark :=
  if marks.all (· == .space) then [] else marks

section Marked

variable {marks others : List Mark}

namespace Reads

theorem nil : Reads shown [] [] :=
  fun _ _ => rfl

theorem append (hs : Reads shown marks s) (ht : Reads shown others t) : Reads shown (marks ++ others) (s ++ t) := by
  intro q hq
  rw [(argumentReader shown).read_append_of_eq (hs q hq), List.foldl_append]
  exact ht _ (Spot.foldl_after_mem hq marks)

/-- Marks of a blank text have no effect. -/
theorem foldl_of_allBlank (h : Reads shown marks s) (hs : Text.allBlank s = true) {q : Spot} (hq : q ∈ Spot.settled) :
    marks.foldl (Spot.after shown) q = q := by
  have hread := h q hq
  rw [argumentReader_blankLaw.read_blanks_idle (idle_of_settled hq) hs] at hread
  exact (Option.some.inj hread).symm

/-- A blank text counts for nothing, so the empty one has its marks too. -/
theorem of_allBlank (h : Reads shown marks s) (hs : Text.allBlank s = true) : Reads shown marks [] :=
  fun _ hq => congrArg some (h.foldl_of_allBlank hs hq).symm

/-- Text that goes on behind something to be seen. -/
theorem before (hs : Reads shown [.visible] s) (ht : (argumentReader shown).read .text t = some .text) :
    Reads shown [.visible] (s ++ t) := by
  have htext : ∀ q ∈ Spot.settled, [Mark.visible].foldl (Spot.after shown) q = .text ∨ q = .taken := by
    cases shown <;> decide
  intro q hq
  rw [(argumentReader shown).read_append_of_eq (hs q hq)]
  rcases htext q hq with hseen | rfl
  · rw [hseen, ht]
  · exact argumentReader_read_taken t

end Reads

/-- Text without backslashes goes on as text. -/
theorem argumentReader_read_plain (h : ∀ c ∈ s, c ≠ '\\') : (argumentReader shown).read .text s = some .text := by
  induction s with
  | nil => rfl
  | cons c rest ih =>
    have hstep : (argumentReader shown).step .text c = some .text := by simp [h c List.mem_cons_self]
    rw [Reader.read_cons, hstep]
    exact ih (fun d hd => h d (List.mem_cons_of_mem c hd))

/-- Text that goes in unescaped and opens nothing: without opening brackets and backslashes. -/
def Tame (s : List Char) : Prop :=
  ∀ c ∈ s, c ≠ '[' ∧ c ≠ '\\'

instance (s : List Char) : Decidable (Tame s) :=
  inferInstanceAs (Decidable (∀ c ∈ s, _))

namespace Tame

/-- Text that opens nothing has no backslashes. -/
theorem plain (h : Tame s) : ∀ c ∈ s, c ≠ '\\' :=
  fun c hc => (h c hc).2

/-- Text that opens nothing takes no bracket. -/
theorem foldl_eq_taken (h : Tame s) (q : Spot) : (s.map Mark.of).foldl (Spot.after shown) q = .taken ↔ q = .taken := by
  induction s generalizing q with
  | nil => rfl
  | cons c rest ih =>
    rw [List.map_cons, List.foldl_cons, ih (fun d hd => h d (List.mem_cons_of_mem c hd))]
    have hbracket := (h c List.mem_cons_self).1
    unfold Spot.after Mark.of
    split_ifs <;> simp_all

end Tame

namespace Shows

theorem nil : Shows shown [] [] :=
  ⟨.nil, .nil, rfl, by simp⟩

theorem append (hs : Shows shown marks s) (ht : Shows shown others t) : Shows shown (marks ++ others) (s ++ t) where
  reads := hs.reads.append ht.reads
  trimmed := by
    cases hblank : Text.allBlank t with
    | false =>
      rw [Text.trimEnd_append hblank]
      exact hs.reads.append ht.trimmed
    | true =>
      rw [Text.trimEnd_append_of_allBlank hblank]
      intro q hq
      rw [hs.trimmed q hq, List.foldl_append, ht.reads.foldl_of_allBlank hblank (Spot.foldl_after_mem hq marks)]
  blank := by rw [Text.allBlank_append, List.all_append, hs.blank, ht.blank]
  empty := by rw [List.append_eq_nil_iff, List.append_eq_nil_iff, hs.empty, ht.empty]

theorem flatMap {α : Type} {l : List α} {g : α → List Char} {m : α → List Mark} (h : ∀ a ∈ l, Shows shown (m a) (g a)) :
    Shows shown (l.flatMap m) (l.flatMap g) := by
  induction l with
  | nil => exact nil
  | cons a rest ih =>
    rw [List.flatMap_cons, List.flatMap_cons]
    exact append (h a List.mem_cons_self) (ih (fun b hb => h b (List.mem_cons_of_mem a hb)))

/-- A character that is no backslash. -/
theorem single {c : Char} (hc : c ≠ '\\') : Shows shown [Mark.of c] [c] := by
  have hreads : Reads shown [Mark.of c] [c] := by
    intro q hq
    rw [Reader.read_singleton]
    simp only [Spot.settled, List.mem_cons, List.not_mem_nil, or_false] at hq
    by_cases hblank : Text.isBlank c = true
    · rcases hq with rfl | rfl | rfl <;> simp [Spot.after, Mark.of, hblank, hc]
    by_cases hmarker : isMarker c = true
    · have hbracket : c ≠ '[' := by
        rintro rfl
        exact absurd hmarker (by decide)
      rcases hq with rfl | rfl | rfl <;> cases shown <;> simp [Spot.after, Mark.of, hblank, hmarker, hc, hbracket]
    by_cases hbracket : c = '[' <;> rcases hq with rfl | rfl | rfl <;>
      simp_all [Spot.after, Mark.of]
  cases hblank : Text.isBlank c with
  | true =>
    have hmark : Mark.of c = .space := by simp [Mark.of, hblank]
    rw [hmark] at hreads ⊢
    refine ⟨hreads, ?_, by simp [Text.allBlank, hblank], by simp⟩
    rw [Text.trimEnd, List.reverse_singleton, List.dropWhile_cons_of_pos hblank]
    exact hreads.of_allBlank (by simp [Text.allBlank, hblank])
  | false =>
    refine ⟨hreads, ?_, ?_, by simp⟩
    · rwa [Text.trimEnd, List.reverse_singleton, List.dropWhile_cons_of_neg (by simp [hblank])]
    · simp only [Text.allBlank, List.all_cons, List.all_nil, hblank, Bool.and_true]
      rw [Mark.of, if_neg (by simp [hblank])]
      split_ifs <;> rfl

/-- Text without backslashes. -/
theorem plain (h : ∀ c ∈ s, c ≠ '\\') : Shows shown (s.map Mark.of) s := by
  have hall : Shows shown (s.flatMap (fun c => [Mark.of c])) (s.flatMap (fun c => [c])) :=
    flatMap (fun c hc => single (h c hc))
  rwa [← List.map_eq_flatMap, List.flatMap_singleton'] at hall

/-- Escaped text has the marks of the text. -/
theorem escape (s : List Char) : Shows shown (s.map Mark.of) (escape s) := by
  rw [List.map_eq_flatMap]
  refine flatMap (fun c _ => ?_)
  have hsequences : ∀ e ∈ escapes, Reads shown [Mark.of e.1] e.2 ∧ Reads shown [Mark.of e.1] (Text.trimEnd e.2) ∧
      Text.allBlank e.2 = [Mark.of e.1].all (· == .space) ∧ e.2 ≠ [] := by
    cases shown <;> decide
  rcases escapeChar_cases c with ⟨hc, hself⟩ | ⟨e, he, rfl, hsequence⟩
  · rw [hself]
    refine single ?_
    rintro rfl
    exact absurd hc (by decide)
  · rw [hsequence]
    obtain ⟨hreads, htrimmed, hblank, hempty⟩ := hsequences e he
    exact ⟨hreads, htrimmed, hblank, iff_of_false hempty (List.cons_ne_nil _ _)⟩

/-- What trimming leaves of a text is read as its marks. -/
theorem reads_trim (h : Shows shown marks s) : Reads shown marks (Text.trim s) := by
  cases hblank : Text.allBlank s with
  | true =>
    rw [Text.trim_eq_nil_iff.2 hblank]
    exact h.reads.of_allBlank hblank
  | false =>
    obtain ⟨lead, c, rest, rfl, hstart, hlead, hc⟩ := Text.exists_first hblank
    intro q hq
    have hread := h.trimmed q hq
    have htrim : Text.trimEnd (lead ++ c :: rest) = lead ++ Text.trim (lead ++ c :: rest) := by
      have hend : Text.trimEnd (c :: rest) = c :: Text.trimEnd rest := Text.trimEnd_append_cons hc [] rest
      rw [Text.trim, hstart, hend, Text.trimEnd_append_cons hc]
    rwa [htrim, (argumentReader shown).read_append_of_eq
      (argumentReader_blankLaw.read_blanks_idle (idle_of_settled hq) hlead)] at hread

/-- Trimming a text leaves the marks of what is seen. -/
theorem trim (h : Shows shown marks s) : Shows shown (trimmedMarks marks) (Text.trim s) := by
  have hend : Text.trimEnd (Text.trim s) = Text.trim s := by
    have hcut := Text.trimEnd_append_of_getLast? (Text.isBlank_getLast?_trim s) []
    rwa [List.append_nil, show Text.trimEnd [] = [] from rfl, List.append_nil] at hcut
  have hall := h.blank
  rw [trimmedMarks, ← hall]
  cases hblank : Text.allBlank s with
  | true =>
    rw [Text.trim_eq_nil_iff.2 hblank, if_pos rfl]
    exact nil
  | false =>
    have hne : Text.trim s ≠ [] := by
      intro hnil
      rw [Text.trim_eq_nil_iff.1 hnil] at hblank
      cases hblank
    obtain ⟨lead, trail, hs, hlead, htrail⟩ := Text.exists_trim s
    rw [if_neg Bool.false_ne_true]
    refine ⟨h.reads_trim, ?_, ?_, iff_of_false hne ?_⟩
    · rw [hend]
      exact h.reads_trim
    · rw [← hall]
      conv => rhs; rw [hs, Text.allBlank_append, Text.allBlank_append, hlead, htrail, Bool.true_and, Bool.and_true]
    · rintro rfl
      rw [hblank] at hall
      cases hall

/-- Blanks behind a text that is not blank. -/
theorem blanks (h : Shows shown marks s) (hs : Text.allBlank s = false) (ht : Text.allBlank t = true) :
    Shows shown marks (s ++ t) where
  reads := by
    intro q hq
    rw [(argumentReader shown).read_append_of_eq (h.reads q hq)]
    exact argumentReader_blankLaw.read_blanks_idle (idle_of_settled (Spot.foldl_after_mem hq marks)) ht
  trimmed := by
    rw [Text.trimEnd_append_of_allBlank ht]
    exact h.trimmed
  blank := by rw [Text.allBlank_append, ht, Bool.and_true, h.blank]
  empty := by
    have hne : s ≠ [] := by
      rintro rfl
      cases hs
    exact iff_of_false (by simp [hne]) (fun hnil => hne (h.empty.2 hnil))

/-- A text that ends with something to be seen. -/
theorem close (hs : Reads shown marks s) (ht : Shows shown [.visible] t) :
    Shows shown (marks ++ [.visible]) (s ++ t) := by
  have hblank : Text.allBlank t = false := ht.blank
  refine ⟨hs.append ht.reads, ?_, ?_, ?_⟩
  · rw [Text.trimEnd_append hblank]
    exact hs.append ht.trimmed
  · rw [Text.allBlank_append, hblank, Bool.and_false, List.all_append]
    exact (Bool.and_false _).symm
  · refine iff_of_false (fun hnil => ?_) (by simp)
    rw [(List.append_eq_nil_iff.1 hnil).2] at hblank
    cases hblank

/-- What is seen behind something that is seen makes no difference. -/
theorem close_visible (hs : Reads shown (marks ++ [.visible]) s) (ht : Shows shown [.visible] t) :
    Shows shown (marks ++ [.visible]) (s ++ t) := by
  have hall := close hs ht
  have hfold : ∀ q, (marks ++ [Mark.visible] ++ [Mark.visible]).foldl (Spot.after shown) q =
      (marks ++ [Mark.visible]).foldl (Spot.after shown) q := by
    intro q
    rw [List.foldl_append, List.foldl_append]
    cases marks.foldl (Spot.after shown) q <;> rfl
  refine ⟨fun q hq => ?_, fun q hq => ?_, ?_, ?_⟩
  · rw [hall.reads q hq, hfold]
  · rw [hall.trimmed q hq, hfold]
  · rw [hall.blank, List.all_append]
    simp
  · rw [hall.empty]
    simp

/-- Two texts that are seen are seen as one. -/
theorem behind (hs : Reads shown [.visible] s) (ht : Shows shown [.visible] t) : Shows shown [.visible] (s ++ t) := by
  have hnone : Reads shown ([] ++ [.visible]) s := hs
  exact close_visible hnone ht

/-- Something to be seen behind text that opens nothing. -/
theorem tame (hs : Tame s) (ht : Shows shown [.visible] t) : Shows shown [.visible] (s ++ t) := by
  have hblank : Text.allBlank t = false := ht.blank
  have hread : ∀ u, Reads shown [.visible] u → Reads shown [.visible] (s ++ u) := by
    intro u hu q hq
    have hmem : (s.map Mark.of).foldl (Spot.after shown) q ∈ Spot.settled := Spot.foldl_after_mem hq _
    rw [(argumentReader shown).read_append_of_eq ((plain hs.plain).reads q hq), hu _ hmem]
    simp only [List.foldl_cons, List.foldl_nil, Spot.after, hs.foldl_eq_taken]
  refine ⟨hread t ht.reads, ?_, ?_, ?_⟩
  · rw [Text.trimEnd_append hblank]
    exact hread _ ht.trimmed
  · rw [Text.allBlank_append, hblank, Bool.and_false]
    rfl
  · refine iff_of_false (fun hnil => ?_) (by simp)
    rw [(List.append_eq_nil_iff.1 hnil).2] at hblank
    cases hblank

/-- A text on a line of its own is seen. -/
theorem line (ht : Shows shown [.visible] t) : Shows shown [.visible] ('\n' :: t) :=
  tame (s := ['\n']) (by decide) ht

end Shows

end Marked

/-- A bracket is taken in the tidied text where it is the first thing to be seen behind an opening, if markers are
things to be seen; and none is taken where something else is, if they are not. -/
theorem keepsBrackets_tidy {marks : List Mark} {s : List Char} (h : ∀ shown, Reads shown marks s) :
    (¬Opened false marks → KeepsBrackets (tidy s)) ∧ (Opened true marks → ¬KeepsBrackets (tidy s)) := by
  have htaken : ∀ shown, marks.foldl (Spot.after shown) .text = .taken ↔ Opened shown marks := by
    intro shown
    rw [Spot.foldl_after_eq_taken (by decide)]
    simp
  have hread := fun shown => h shown .text (by decide)
  constructor
  · intro hclosed
    obtain ⟨trail, p, -, hp, rfl⟩ :=
      Reader.exists_read_tidy argumentReader_blankLaw argumentReader_markerLaw rfl (hread false)
    rw [Reader.read_append] at hp
    obtain ⟨m, hm, hend⟩ := Option.bind_eq_some_iff.1 hp
    refine keepsBrackets_of_read hm ?_
    rintro rfl
    rw [argumentReader_read_taken] at hend
    exact hclosed ((htaken false).1 (Option.some.inj hend).symm)
  · intro hopened
    have hleft := Spot.left_of_read (hread true)
    rw [(htaken true).2 hopened] at hleft
    obtain ⟨before, lead, after, seeker, hseeker, rfl, hlead⟩ := hleft
    exact not_keepsBrackets_tidy hseeker hlead

end Tex

end Manuscript
