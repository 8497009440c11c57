import Manuscript.Proofs.Tidying
import Manuscript.Tex.Markup

/-!
# Words in a frame

Texts that differ in a word only are framed: the same text stands in front of the word of each, and the same text
behind it (`Framed`). Where the words are firm, so that neither trimming nor tidying has anything to take away from
them, framed texts stay framed when more text is put around them, when their ends are trimmed, and when they are
tidied (`Framed.tidy`).
-/

namespace Manuscript.Tex

/-- A text that tidying leaves alone: it is not empty, and it has neither blanks nor markers. -/
structure Firm (w : List Char) : Prop where
  ne_nil : w ≠ []
  solid : ∀ c ∈ w, Text.isBlank c = false
  unmarked : ∀ inside, nextMarker inside ∉ w

namespace Firm

variable {w : List Char}

/-- A firm text begins with a character that is not blank. -/
theorem head? (h : Firm w) (s : List Char) : ∃ c ∈ (w ++ s).head?, Text.isBlank c = false := by
  obtain ⟨c, rest, rfl⟩ := List.exists_cons_of_ne_nil h.ne_nil
  exact ⟨c, by simp, h.solid c List.mem_cons_self⟩

/-- A firm text ends in a character that is not blank. -/
theorem getLast? (h : Firm w) : ∀ c ∈ w.getLast?, Text.isBlank c = false := by
  intro c hc
  exact h.solid c (List.mem_of_mem_getLast? hc)

/-- A firm text with more text on either side is not blank. -/
theorem allBlank_eq (h : Firm w) (s t : List Char) : Text.allBlank (s ++ (w ++ t)) = false := by
  rw [Bool.eq_false_iff]
  intro hblank
  obtain ⟨c, hc⟩ := List.exists_mem_of_ne_nil w h.ne_nil
  have hcblank := (Text.allBlank_iff _).1 hblank c (by simp [hc])
  rw [h.solid c hc] at hcblank
  cases hcblank

/-- Trimming the start of a text stops at a firm part. -/
theorem trimStart_eq (h : Firm w) (s t : List Char) :
    Text.trimStart (s ++ (w ++ t)) = Text.trimStart s ++ (w ++ t) := by
  refine Text.trimStart_append_of_head? ?_ s
  obtain ⟨c, hhead, hc⟩ := h.head? t
  intro d hd
  rw [Option.mem_unique hd hhead]
  exact hc

/-- Trimming the end of a text stops at a firm part. -/
theorem trimEnd_eq (h : Firm w) (s t : List Char) : Text.trimEnd (s ++ (w ++ t)) = s ++ (w ++ Text.trimEnd t) := by
  have hlast : ∀ c ∈ (s ++ w).getLast?, Text.isBlank c = false := by
    intro c hc
    rw [List.getLast?_append, List.getLast?_eq_some_getLast h.ne_nil, Option.some_or,
      ← List.getLast?_eq_some_getLast h.ne_nil] at hc
    exact h.getLast? c hc
  rw [← List.append_assoc, Text.trimEnd_append_of_getLast? hlast, List.append_assoc]

/-- Tidying leaves a firm text alone. -/
theorem tidyAhead_eq (h : Firm w) (inside : Bool) : tidyAhead inside w = w := by
  unfold tidyAhead
  rw [tidyFrom_of_not_mem (h.unmarked inside)]
  unfold partAhead
  split
  · rfl
  · exact collapseBlankLines_of_forall h.solid

/-- Tidying works on either side of a firm part by itself. -/
theorem tidy_eq (h : Firm w) (s t : List Char) :
    tidy (s ++ (w ++ t)) =
      tidyAhead false (Text.trimStart s) ++ (w ++ tidyToEnd (insideAfter false (Text.trimStart s)) t) := by
  rw [Tex.tidy_eq, h.trimStart_eq, tidyToEnd_append (Or.inr (h.head? t)), tidyToEnd_append (Or.inl h.getLast?),
    h.tidyAhead_eq, insideAfter_of_not_mem (h.unmarked _)]

end Firm

/-- Texts with words of their own, which the same text stands in front of and the same text behind. -/
def Framed {ι : Type} (words texts : ι → List Char) : Prop :=
  ∃ before after, ∀ i, texts i = before ++ (words i ++ after)

namespace Framed

variable {ι : Type} {words texts : ι → List Char}

/-- The words with a text behind them. -/
theorem before (words : ι → List Char) (s : List Char) : Framed words (fun i => words i ++ s) := by
  refine ⟨[], s, ?_⟩
  intro i
  rfl

/-- Framed texts with the same text in front are framed. -/
theorem prepend (h : Framed words texts) (s : List Char) : Framed words (fun i => s ++ texts i) := by
  obtain ⟨before, after, htexts⟩ := h
  refine ⟨s ++ before, after, ?_⟩
  intro i
  simp only [htexts, List.append_assoc]

theorem append (h : Framed words texts) (s : List Char) : Framed words (fun i => texts i ++ s) := by
  obtain ⟨before, after, htexts⟩ := h
  refine ⟨before, after ++ s, ?_⟩
  intro i
  simp only [htexts, List.append_assoc]

/-- To be framed is a matter of the texts themselves. -/
theorem congr {texts' : ι → List Char} (h : Framed words texts) (heq : ∀ i, texts' i = texts i) :
    Framed words texts' := by
  obtain ⟨before, after, htexts⟩ := h
  refine ⟨before, after, ?_⟩
  intro i
  rw [heq, htexts]

/-! ## Markup around the words -/

/-- Commands with the same argument differ in their beginnings. -/
theorem opening (names : ι → String) (argument s : List Char) :
    Framed (fun i => '\\' :: ((names i).toList ++ ['{'])) (fun i => Tex.command (names i) argument ++ s) := by
  refine (before _ (argument ++ '}' :: s)).congr ?_
  intro i
  simp [Tex.command]

/-- The arguments of one command may be framed texts. -/
theorem command (h : Framed words texts) (name : String) : Framed words (fun i => Tex.command name (texts i)) := by
  have hargument := (h.append ['}']).prepend ('\\' :: (name.toList ++ ['{']))
  refine hargument.congr ?_
  intro i
  simp [Tex.command]

/-- The bodies of one environment may be framed texts. -/
theorem environment (h : Framed words texts) (name : String) (placement : Option String) :
    Framed words (fun i => Tex.environment name placement (texts i)) := by
  have hbody := (h.append ('\n' :: (Tex.command "end" name.toList ++ "\n\n".toList))).prepend
    (Tex.command "begin" name.toList ++ (placementText placement ++ ['\n']))
  refine hbody.congr ?_
  intro i
  simp [Tex.environment]

/-- Style commands leave texts framed. -/
theorem styled (h : Framed words texts) (classes : List String) :
    Framed words (fun i => Tex.styled classes (texts i)) := by
  unfold Tex.styled
  generalize classes.filterMap styleCommand? = names
  induction names generalizing texts with
  | nil => exact h
  | cons name rest ih => exact ih (h.command name)

/-! ## Trimming and tidying -/

section

variable (hwords : ∀ i, Firm (words i))
include hwords

/-- Framed texts are not blank. -/
theorem allBlank_eq (h : Framed words texts) (i : ι) : Text.allBlank (texts i) = false := by
  obtain ⟨before, after, htexts⟩ := h
  rw [htexts]
  exact (hwords i).allBlank_eq before after

/-- Framed texts are not empty. -/
theorem ne_nil (h : Framed words texts) (i : ι) : texts i ≠ [] := by
  intro hnil
  have hblank := h.allBlank_eq hwords i
  rw [hnil] at hblank
  cases hblank

/-- Trimming the end leaves texts framed. -/
theorem trimEnd (h : Framed words texts) : Framed words (fun i => Text.trimEnd (texts i)) := by
  obtain ⟨before, after, htexts⟩ := h
  refine ⟨before, Text.trimEnd after, ?_⟩
  intro i
  simp only [htexts, (hwords i).trimEnd_eq]

/-- Trimming leaves texts framed. -/
theorem trim (h : Framed words texts) : Framed words (fun i => Text.trim (texts i)) := by
  have hstart : Framed words (fun i => Text.trimStart (texts i)) := by
    obtain ⟨before, after, htexts⟩ := h
    refine ⟨Text.trimStart before, after, ?_⟩
    intro i
    simp only [htexts, (hwords i).trimStart_eq]
  exact hstart.trimEnd hwords

/-- The texts of blocks may be framed texts. -/
theorem block (h : Framed words texts) : Framed words (fun i => Tex.block (texts i)) := by
  refine (h.append "\n\n".toList).congr ?_
  intro i
  unfold Tex.block
  rw [if_neg]
  rw [List.isEmpty_iff]
  exact h.ne_nil hwords i

/-- Framed texts are framed when they are tidied. -/
theorem tidy (h : Framed words texts) : Framed words (fun i => Tex.tidy (texts i)) := by
  obtain ⟨before, after, htexts⟩ := h
  refine ⟨tidyAhead false (Text.trimStart before), tidyToEnd (insideAfter false (Text.trimStart before)) after, ?_⟩
  intro i
  simp only [htexts, (hwords i).tidy_eq]

end

end Framed

end Manuscript.Tex
