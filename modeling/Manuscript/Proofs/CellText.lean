import Mathlib.Data.List.Chain
import Manuscript.Proofs.BlankRuns
import Manuscript.Proofs.EscapedText

/-!
# The text of cells

TeX cuts a tabular at doubled backslashes into rows (`Tex.cutRows`) and a row at ampersands into cells
(`Tex.cutCells`). Which character may stand directly behind which decides whether a text is cut (`Tex.Linked`).
Escaped text, styles, paragraphs and what trimming leaves of them can stand in a cell (`Tex.cellLink`): they are cut
nowhere, and they cannot be taken for a rule. So cells joined by ampersands are cut again where they were joined
(`Tex.map_trim_cutCells`), a row where it ends (`Tex.cutRows_append_of_isChain`), and the rules above a row are all
that is taken off it (`Tex.belowRules_ruled`, `Tex.no_rules_trim`).
-/

namespace Manuscript

/-- Blanks behind a text are of no account when it is trimmed. -/
theorem Text.trim_append_blanks {trail : List Char} (s : List Char) (htrail : allBlank trail = true) :
    trim (s ++ trail) = trim s := by
  obtain ⟨lead, text, rest, hs, htrim, hlead, hrest, hhead, hlast⟩ := exists_trimmed s
  rw [htrim, hs, List.append_assoc, List.append_assoc]
  refine trim_append hlead ?_ hhead hlast
  rw [allBlank_append, hrest, htrail, Bool.and_self]

namespace Tex

variable {R : Char → Char → Prop} {s t : List Char} {before c : Char}

/-! ## Neighbours -/

/-- Each character of a text may stand behind the one before it. The blanks stand for what comes before the text and
behind it. -/
def Linked (R : Char → Char → Prop) (s : List Char) : Prop :=
  (' ' :: (s ++ [' '])).IsChain R

instance [DecidableRel R] (s : List Char) : Decidable (Linked R s) :=
  inferInstanceAs (Decidable (List.IsChain _ _))

/-- What may stand before a blank and what may stand behind one may stand together, and all blanks are alike in this. -/
structure Seams (R : Char → Char → Prop) : Prop where
  join : ∀ b c, R b ' ' → R ' ' c → R b c
  front : ∀ b c, Text.isBlank b = true → R b c → R ' ' c
  back : ∀ b c, Text.isBlank c = true → R b c → R b ' '

/-- Two texts are linked as one, for what may stand before a blank and behind one may stand together. -/
theorem Linked.append (hR : Seams R) (hs : Linked R s) (ht : Linked R t) : Linked R (s ++ t) := by
  unfold Linked at hs ht ⊢
  rw [← List.cons_append] at hs
  rw [List.append_assoc, ← List.cons_append]
  obtain ⟨hfront, -, hlast⟩ := List.isChain_append.1 hs
  refine List.isChain_append.2 ⟨hfront, ht.of_cons, fun b hb c hc => ?_⟩
  exact hR.join b c (hlast b hb ' ' rfl) (ht.rel_head? hc)

theorem Linked.flatMap {α : Type} {l : List α} {g : α → List Char} (hR : Seams R) (hnil : Linked R [])
    (h : ∀ a ∈ l, Linked R (g a)) : Linked R (l.flatMap g) := by
  induction l with
  | nil => exact hnil
  | cons a rest ih =>
    rw [List.flatMap_cons]
    exact (h a List.mem_cons_self).append hR (ih (fun b hb => h b (List.mem_cons_of_mem a hb)))

/-- So are pieces with a separator between them. -/
theorem Linked.joinWith {separator : List Char} {l : List (List Char)} (hR : Seams R) (hnil : Linked R [])
    (hseparator : Linked R separator) (h : ∀ piece ∈ l, Linked R piece) : Linked R (Text.joinWith separator l) := by
  induction l with
  | nil => exact hnil
  | cons piece rest ih =>
    rw [List.forall_mem_cons] at h
    cases rest with
    | nil => exact (Text.joinWith_singleton separator piece).symm ▸ h.1
    | cons next others =>
      rw [Text.joinWith_cons_cons]
      exact h.1.append hR (hseparator.append hR (ih h.2))

/-- What is left without blanks at the ends. -/
theorem Linked.trim (hR : Seams R) (h : Linked R s) : Linked R (Text.trim s) := by
  obtain ⟨lead, trail, hs, hlead, htrail⟩ := Text.exists_trim s
  have hblank : ∀ {text : List Char}, Text.allBlank text = true → ∀ c ∈ text, Text.isBlank c = true :=
    fun h => (Text.allBlank_iff _).1 h
  unfold Linked at h ⊢
  generalize Text.trim s = text at hs ⊢
  subst hs
  -- The character before the text is a blank, and so is the one behind it.
  have hstart : (' ' :: (text ++ (trail ++ [' ']))).IsChain R := by
    rw [List.append_assoc, List.append_assoc, ← List.cons_append] at h
    obtain ⟨-, hrest, hseam⟩ := List.isChain_append.1 h
    refine List.isChain_cons.2 ⟨fun c hc => ?_, hrest⟩
    obtain ⟨b, hb⟩ := Option.ne_none_iff_exists'.1 (mt List.getLast?_eq_none_iff.1 (List.cons_ne_nil ' ' lead))
    refine hR.front b c ?_ (hseam b hb c hc)
    rcases List.mem_cons.1 (List.mem_of_mem_getLast? hb) with rfl | hmem
    · rfl
    · exact hblank hlead b hmem
  rw [← List.cons_append] at hstart ⊢
  obtain ⟨hfront, -, hseam⟩ := List.isChain_append.1 hstart
  refine List.isChain_append.2 ⟨hfront, List.isChain_singleton _, fun b hb c hc => ?_⟩
  obtain rfl : ' ' = c := Option.some.inj hc
  cases trail with
  | nil => exact hseam b hb ' ' rfl
  | cons d rest => exact hR.back b d (hblank htrail d List.mem_cons_self) (hseam b hb d rfl)

/-! ## Cells and rows -/

/-- No backslash stands before another, or before a blank, which trimming may take away. -/
def rowLink (before c : Char) : Prop :=
  before = '\\' → c ≠ '\\' ∧ Text.isBlank c = false

/-- Besides, a backslash stands before each ampersand, and none before the first letter of the command for a rule. -/
def cellLink (before c : Char) : Prop :=
  rowLink before c ∧ (before = '\\' → c ≠ 'h') ∧ (c = '&' → before = '\\')

instance : DecidableRel rowLink :=
  fun _ _ => inferInstanceAs (Decidable (_ → _))

instance : DecidableRel cellLink :=
  fun _ _ => inferInstanceAs (Decidable (_ ∧ _ ∧ _))

/-- Blanks may be taken out or put in between rows. -/
theorem rowLink_seams : Seams rowLink where
  join b c hb _ hback := absurd (hb hback).2 (by decide)
  front _ c _ _ hblank := absurd hblank (by decide)
  back b c hblank h hback := by
    rw [(h hback).2] at hblank
    cases hblank

/-- Blanks may be taken out or put in between cells. -/
theorem cellLink_seams : Seams cellLink where
  join b c hb hc := by
    refine ⟨rowLink_seams.join b c hb.1 hc.1, fun hback => ?_, fun hamp => ?_⟩
    · exact absurd (hb.1 hback).2 (by decide)
    · exact absurd (hc.2.2 hamp) (by decide)
  front b c hblank h := by
    refine ⟨rowLink_seams.front b c hblank h.1, fun hback => absurd hback (by decide), fun hamp => ?_⟩
    rw [h.2.2 hamp] at hblank
    exact absurd hblank (by decide)
  back b c hblank h := ⟨rowLink_seams.back b c hblank h.1, fun _ => by decide, fun hamp => absurd hamp (by decide)⟩

/-- What is linked in a cell is linked in a row. -/
theorem linked_rowLink (h : Linked cellLink s) : Linked rowLink s :=
  List.IsChain.imp (fun _ _ hlink => hlink.1) h

/-- Escaped text is linked. -/
theorem linked_escape (s : List Char) : Linked cellLink (escape s) := by
  have hall : ∀ e ∈ escapes, Linked cellLink e.2 := by decide
  refine Linked.flatMap cellLink_seams (by decide) (fun c _ => ?_)
  rcases escapeChar_cases c with ⟨hc, hself⟩ | ⟨e, he, -, hsequence⟩
  · have hback : c ≠ '\\' := by
      rintro rfl
      exact absurd hc (by decide)
    have hamp : c ≠ '&' := by
      rintro rfl
      exact absurd hc (by decide)
    rw [hself]
    unfold Linked cellLink rowLink
    simp [hback, hamp]
  · rw [hsequence]
    exact hall e he

/-- The commands for styles. -/
theorem linked_command {name : String} (hname : name ∈ styleCommands.map Prod.snd) (h : Linked cellLink s) :
    Linked cellLink (command name s) := by
  have hall : ∀ name ∈ styleCommands.map Prod.snd, Linked cellLink ('\\' :: (name.toList ++ ['{'])) := by decide
  have htext : command name s = '\\' :: (name.toList ++ ['{']) ++ (s ++ ['}']) := by simp [command]
  rw [htext]
  exact (hall name hname).append cellLink_seams (h.append cellLink_seams (by decide))

/-- Style commands leave a text linked. -/
theorem linked_styled (classes : List String) (h : Linked cellLink s) : Linked cellLink (styled classes s) :=
  Markup.styled_of_style (P := Linked cellLink) (fun _ hname _ h => linked_command hname h) classes h

/-- A block of linked text is linked. -/
theorem linked_block (h : Linked cellLink s) : Linked cellLink (block s) := by
  unfold block
  split
  · decide
  · exact h.append cellLink_seams (by decide)

/-! ## Cutting -/

/-- The pieces of a text between the ends of rows, which are doubled backslashes. -/
def cutRows : List Char → List (List Char)
  | [] => [[]]
  | [c] => [[c]]
  | c :: d :: rest => if c = '\\' ∧ d = '\\' then [] :: cutRows rest else (cutRows (d :: rest)).modifyHead (c :: ·)

/-- The pieces of a text between the ampersands that have no backslash directly before them; `before` stands in
front of the text. -/
def cutCells (before : Char) : List Char → List (List Char)
  | [] => [[]]
  | c :: rest => if c = '&' ∧ before ≠ '\\' then [] :: cutCells c rest else (cutCells c rest).modifyHead (c :: ·)

/-- No row ends between two characters of which the second may stand behind the first. -/
theorem cutRows_cons {d : Char} (h : rowLink c d) (t : List Char) :
    cutRows (c :: d :: t) = (cutRows (d :: t)).modifyHead (c :: ·) := by
  have hnot : ¬(c = '\\' ∧ d = '\\') := fun hboth => (h hboth.1).1 hboth.2
  rw [cutRows, if_neg hnot]

/-- A text of a row has no end of a row in it. -/
theorem cutRows_of_isChain (h : (s ++ [' ']).IsChain rowLink) : cutRows s = [s] := by
  induction s with
  | nil => rfl
  | cons c rest ih =>
    cases rest with
    | nil => rfl
    | cons d others => rw [cutRows_cons (h.rel_head? rfl), ih h.of_cons, List.modifyHead_cons]

/-- A text that may stand before a blank is one piece up to the end of the row behind it. -/
theorem cutRows_append_of_isChain (h : (s ++ [' ']).IsChain rowLink) (t : List Char) :
    cutRows (s ++ '\\' :: '\\' :: t) = s :: cutRows t := by
  induction s with
  | nil => rw [List.nil_append, cutRows, if_pos ⟨rfl, rfl⟩]
  | cons c rest ih =>
    have hrest := ih h.of_cons
    cases rest with
    | nil =>
      -- The last character is no backslash, for a blank may stand behind it.
      have hlink : rowLink c ' ' := h.rel_head? rfl
      have hend : rowLink c '\\' := fun hback => absurd (hlink hback).2 (by decide)
      rw [List.nil_append] at hrest
      rw [List.singleton_append, cutRows_cons hend, hrest, List.modifyHead_cons]
    | cons d others =>
      rw [List.cons_append] at hrest
      rw [List.cons_append, List.cons_append, cutRows_cons (h.rel_head? rfl), hrest, List.modifyHead_cons]

/-- No cell ends at a character that may stand behind the one before it. -/
theorem cutCells_cons (h : cellLink before c) (t : List Char) :
    cutCells before (c :: t) = (cutCells c t).modifyHead (c :: ·) := by
  have hnot : ¬(c = '&' ∧ before ≠ '\\') := fun hcut => hcut.2 (h.2.2 hcut.1)
  rw [cutCells, if_neg hnot]

/-- A text of a cell has no end of a cell in it. -/
theorem cutCells_of_isChain (h : (before :: (s ++ [' '])).IsChain cellLink) : cutCells before s = [s] := by
  induction s generalizing before with
  | nil => rfl
  | cons c rest ih => rw [cutCells_cons (h.rel_head? rfl), ih h.of_cons, List.modifyHead_cons]

/-- A text that may stand before a blank is one piece up to the ampersand behind it. -/
theorem cutCells_append_of_isChain (h : (before :: (s ++ [' '])).IsChain cellLink) (t : List Char) :
    cutCells before (s ++ '&' :: t) = s :: cutCells '&' t := by
  induction s generalizing before with
  | nil =>
    have hlink : cellLink before ' ' := h.rel_head? rfl
    have hback : before ≠ '\\' := fun hback => absurd (hlink.1 hback).2 (by decide)
    rw [List.nil_append, cutCells, if_pos ⟨rfl, hback⟩]
  | cons c rest ih => rw [List.cons_append, cutCells_cons (h.rel_head? rfl), ih h.of_cons, List.modifyHead_cons]

/-! ## Cells in a row -/

/-- A text goes on behind anything but a backslash as it does behind a blank. -/
theorem Linked.isChain (h : Linked cellLink s) (hbefore : before ≠ '\\') :
    (before :: (s ++ [' '])).IsChain cellLink := by
  refine List.IsChain.imp_head (fun {c} hlink => ?_) h
  exact ⟨fun hback => absurd hback hbefore, fun hback => absurd hback hbefore,
    fun hamp => absurd (hlink.2.2 hamp) (by decide)⟩

/-- A blank in front of the first cell is of no account. -/
theorem map_trim_cutCells_blank (before : Char) (s : List Char) :
    (cutCells before (' ' :: s)).map Text.trim = (cutCells ' ' s).map Text.trim := by
  have hnot : ¬(' ' = '&' ∧ before ≠ '\\') := fun hcut => absurd hcut.1 (by decide)
  rw [cutCells, if_neg hnot]
  cases cutCells ' ' s with
  | nil => rfl
  | cons cell rest =>
    have htrim : Text.trim (' ' :: cell) = Text.trim cell := rfl
    rw [List.modifyHead_cons, List.map_cons, List.map_cons, htrim]

/-- Cells joined by ampersands are cut again where they were joined. The induction is on the cells, with what stands
before the first of them. -/
theorem map_trim_cutCells {cells : List (List Char)} (hne : cells ≠ []) (h : ∀ cell ∈ cells, Linked cellLink cell)
    (hbefore : before ≠ '\\') :
    (cutCells before (Text.joinWith " & ".toList cells ++ [' '])).map Text.trim = cells.map Text.trim := by
  induction cells generalizing before with
  | nil => exact absurd rfl hne
  | cons cell rest ih =>
    rw [List.forall_mem_cons] at h
    have hcell : Linked cellLink (cell ++ [' ']) := h.1.append cellLink_seams (by decide)
    have htrim : Text.trim (cell ++ [' ']) = Text.trim cell := Text.trim_append_blanks cell (by decide)
    cases rest with
    | nil =>
      rw [Text.joinWith_singleton, cutCells_of_isChain (hcell.isChain hbefore), List.map_singleton,
        List.map_singleton, htrim]
    | cons next others =>
      have htext : Text.joinWith " & ".toList (cell :: next :: others) ++ [' '] =
          (cell ++ [' ']) ++ '&' :: (' ' :: (Text.joinWith " & ".toList (next :: others) ++ [' '])) := by
        rw [Text.joinWith_cons_cons]
        simp
      have hrest := ih (List.cons_ne_nil next others) h.2 (by decide : ' ' ≠ '\\')
      rw [htext, cutCells_append_of_isChain (hcell.isChain hbefore), List.map_cons, map_trim_cutCells_blank, hrest,
        htrim]
      rfl

/-! ## Rules -/

/-- A line of a tabular that has no more than a rule. What is left of the line on which a row ends is empty. -/
def isRuleLine (line : List Char) : Bool :=
  line.isEmpty || line == "\\hline".toList

/-- The number of rules at the beginning of a text. -/
def rulesAbove (s : List Char) : Nat :=
  ((Text.splitWhere (· == '\n') s).takeWhile isRuleLine).count "\\hline".toList

/-- A text without the rules at its beginning. -/
def belowRules (s : List Char) : List Char :=
  Text.joinWith ['\n'] ((Text.splitWhere (· == '\n') s).dropWhile isRuleLine)

/-- The end of a line and so many rules, each on a line of its own. -/
def ruled : Nat → List Char
  | 0 => ['\n']
  | count + 1 => ruled count ++ "\\hline\n".toList

/-- Rules are linked. -/
theorem linked_ruled (count : Nat) : Linked rowLink (ruled count) := by
  induction count with
  | zero => decide
  | succ count ih => exact ih.append rowLink_seams (by decide)

/-- Rules are lines of their own. -/
theorem splitWhere_ruled (count : Nat) (t : List Char) :
    Text.splitWhere (· == '\n') (ruled count ++ t) =
      [] :: List.replicate count "\\hline".toList ++ Text.splitWhere (· == '\n') t := by
  induction count generalizing t with
  | zero => simp [ruled, Text.splitWhere]
  | succ count ih =>
    have hline : Text.splitWhere (· == '\n') ("\\hline\n".toList ++ t) = "\\hline".toList ::
        Text.splitWhere (· == '\n') t :=
      Text.splitWhere_append_cons (c := '\n') rfl "\\hline".toList t
    rw [ruled, List.append_assoc, ih, hline, List.replicate_succ']
    simp

/-- The lines of rules are told as such. -/
theorem isRuleLine_of_mem {count : Nat} {line : List Char} (h : line ∈ [] :: List.replicate count "\\hline".toList) :
    isRuleLine line = true := by
  rcases List.mem_cons.1 h with rfl | hmem
  · rfl
  · rw [List.eq_of_mem_replicate hmem]
    decide

/-- Rules in front of a text are counted with those of the text. -/
theorem rulesAbove_ruled (count : Nat) (t : List Char) : rulesAbove (ruled count ++ t) = count + rulesAbove t := by
  have hcount : ([] :: List.replicate count "\\hline".toList).count "\\hline".toList = count := by
    rw [List.count_cons_of_ne (by decide), List.count_replicate_self]
  rw [rulesAbove, splitWhere_ruled, List.takeWhile_append_of_pos (fun _ => isRuleLine_of_mem), List.count_append,
    hcount, rulesAbove]

/-- Below rules comes what is below the rules of the text. -/
theorem belowRules_ruled (count : Nat) (t : List Char) : belowRules (ruled count ++ t) = belowRules t := by
  rw [belowRules, splitWhere_ruled, List.dropWhile_append_of_pos (fun _ => isRuleLine_of_mem), belowRules]

/-- No rule stands above a text that begins neither with an end of line nor as the command for a rule does. -/
theorem no_rules {c : Char} (hend : c ≠ '\n') (hcommand : c = '\\' → t.head? ≠ some 'h') :
    rulesAbove (c :: t) = 0 ∧ belowRules (c :: t) = c :: t := by
  obtain ⟨line, lines, hsplit⟩ := List.exists_cons_of_ne_nil (Text.splitWhere_ne_nil (· == '\n') t)
  have hfirst : Text.splitWhere (· == '\n') (c :: t) = (c :: line) :: lines := by
    rw [Text.splitWhere, if_neg (by simpa using hend), hsplit]
  have htext : Text.joinWith ['\n'] (line :: lines) = t := hsplit ▸ Text.joinWith_splitWhere '\n' t
  have hline : ¬isRuleLine (c :: line) = true := by
    intro hrule
    have heq : c :: line = "\\hline".toList := by simpa [isRuleLine] using hrule
    obtain ⟨hback, hrest⟩ := List.cons.inj heq
    refine hcommand hback ?_
    rw [← htext, hrest]
    cases lines with
    | nil => rfl
    | cons next others => rw [Text.joinWith_cons_cons]; rfl
  unfold rulesAbove belowRules
  rw [hfirst, List.takeWhile_cons_of_neg hline, List.dropWhile_cons_of_neg hline, ← hfirst, Text.joinWith_splitWhere]
  exact ⟨rfl, rfl⟩

/-- A trimmed text that can stand in a cell has no rule above it, whatever stands behind the blank after it. -/
theorem no_rules_trim (h : Linked cellLink s) (t : List Char) :
    rulesAbove (Text.trim s ++ ' ' :: t) = 0 ∧ belowRules (Text.trim s ++ ' ' :: t) = Text.trim s ++ ' ' :: t := by
  have htrim := h.trim cellLink_seams
  have hhead := Text.isBlank_head?_trim s
  cases hs : Text.trim s with
  | nil => exact no_rules (by decide) (fun hback => absurd hback (by decide))
  | cons c rest =>
    rw [hs] at htrim hhead
    refine no_rules ?_ (fun hback => ?_)
    · rintro rfl
      exact absurd (hhead '\n' rfl) (by decide)
    · -- What stands behind the backslash is a character of the text or the blank.
      have hlink : ∀ d ∈ (rest ++ ' ' :: t).head?, cellLink c d := by
        cases rest with
        | nil => exact fun d hd => htrim.of_cons.rel_head? hd
        | cons e others => exact fun d hd => htrim.of_cons.rel_head? hd
      exact fun hh => (hlink 'h' hh).2.1 hback rfl

end Tex

end Manuscript
