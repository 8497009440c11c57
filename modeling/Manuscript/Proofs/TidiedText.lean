import Manuscript.Proofs.BlankRuns

/-!
# What tidying makes of a text

Collapsing blank lines is thinning, run by run (`collapseBlankLines_eq`). So a text without marked parts is thinned
and trimmed, and a text with marked parts has its ordinary parts thinned, and trimmed where it begins and where it
ends (`tidied_text`).
-/

namespace Manuscript

namespace Tex

/-! ## Collapsing is thinning -/

/-- There is one piece more than there are marks. -/
theorem length_splitWhere (mark : Char) (s : List Char) :
    (Text.splitWhere (· == mark) s).length = s.count mark + 1 := by
  induction s with
  | nil => rfl
  | cons c rest ih =>
    rw [Text.splitWhere, List.count_cons]
    split
    · rw [List.length_cons, ih]
    · cases hs : Text.splitWhere (· == mark) rest with
      | nil => exact absurd hs (Text.splitWhere_ne_nil _ _)
      | cons piece pieces =>
        rw [hs] at ih
        exact ih

/-- Blank lines only add ends of line, up to the last line. -/
theorem collapseLines_of_allBlank {lines : List (List Char)} (h : ∀ line ∈ lines, Text.allBlank line = true)
    (newlines : Nat) (last : List Char) :
    collapseLines newlines (lines ++ [last]) = breaks (newlines + lines.length) ++ last := by
  induction lines generalizing newlines with
  | nil => cases last <;> simp [collapseLines]
  | cons line rest ih =>
    have hline : Text.trimEnd line = [] := by
      rw [Text.trimEnd, List.reverse_eq_nil_iff, List.dropWhile_eq_nil_iff]
      exact fun c hc => (Text.allBlank_iff line).1 (h line List.mem_cons_self) c (List.mem_reverse.1 hc)
    rw [List.cons_append, collapseLines_cons (by simp), hline, List.isEmpty_nil, if_pos rfl,
      ih (fun other hother => h other (List.mem_cons_of_mem _ hother)), List.length_cons, Nat.add_right_comm,
      Nat.add_assoc]

/-- In a run, collapsing blank lines is thinning. -/
theorem collapseBlankLines_run {run : List Char} (h : Text.Uniform run) :
    collapseBlankLines run = Text.thinRun run := by
  cases hblank : Text.allBlank run with
  | false =>
    rw [Text.thinRun_of_not_allBlank hblank]
    exact collapseBlankLines_of_forall (fun c hc => (h.2 c hc).trans hblank)
  | true =>
    by_cases hmem : '\n' ∈ run
    · obtain ⟨front, tail, rfl, hfree⟩ := Text.exists_last_newline hmem
      have hlast : Text.splitWhere (· == '\n') tail = [tail] :=
        Text.splitWhere_of_forall (fun c hc => beq_eq_false_iff_ne.2 (fun heq => hfree (heq ▸ hc)))
      have hlines : ∀ line ∈ Text.splitWhere (· == '\n') front, Text.allBlank line = true := by
        intro line hline
        refine (Text.allBlank_iff line).2 (fun c hc => (Text.allBlank_iff _).1 hblank c (List.mem_append_left _ ?_))
        exact Text.mem_of_mem_splitWhere hline c hc
      rw [Text.thinRun_append_cons hblank hfree, collapseBlankLines, Text.splitWhere_append_cons rfl, hlast,
        collapseLines_of_allBlank hlines, length_splitWhere, Nat.zero_add]
      rfl
    · have hone : Text.splitWhere (· == '\n') run = [run] :=
        Text.splitWhere_of_forall (fun c hc => beq_eq_false_iff_ne.2 (fun heq => hmem (heq ▸ hc)))
      rw [Text.thinRun_of_not_mem hmem, collapseBlankLines, hone]
      exact collapseLines_of_allBlank (List.forall_mem_nil _) 0 run

/-- Blank lines are collapsed in each run by itself. -/
theorem collapseBlankLines_flatten {l : List (List Char)} (h : Text.InTurn l) :
    collapseBlankLines l.flatten = l.flatMap collapseBlankLines := by
  induction l with
  | nil => rfl
  | cons run rest ih =>
    have hrun := h.uniform run List.mem_cons_self
    rw [List.flatten_cons, List.flatMap_cons,
      ← ih ⟨fun other hother => h.uniform other (List.mem_cons_of_mem _ hother), h.alternate.tail⟩]
    refine collapseBlankLines_append ?_
    cases hblank : Text.allBlank run with
    | false => exact Or.inl (fun c hc => (hrun.2 c (List.mem_of_mem_getLast? hc)).trans hblank)
    | true =>
      refine Or.inr (fun c hc => ?_)
      cases rest with
      | nil => cases hc
      | cons next others =>
        -- Behind a run of blanks stands a word.
        have hnext := h.uniform next (List.mem_cons_of_mem _ List.mem_cons_self)
        have hne := (List.isChain_cons_cons.1 h.alternate).1
        rw [List.flatten_cons, List.head?_append_of_ne_nil _ hnext.1] at hc
        rw [hnext.2 c (List.mem_of_mem_head? hc)]
        rw [hblank] at hne
        exact (Bool.not_eq_true _).mp hne.symm

/-- Collapsing blank lines is thinning. -/
theorem collapseBlankLines_eq (s : List Char) : collapseBlankLines s = Text.thin s := by
  conv => lhs; rw [← Text.flatten_runs s]
  rw [collapseBlankLines_flatten (Text.inTurn_runs s), Text.thin, List.flatMap_def, List.flatMap_def,
    List.map_congr_left (fun run hrun => collapseBlankLines_run ((Text.inTurn_runs s).uniform run hrun))]

/-! ## Tidying -/

/-- A text without marked parts is thinned and trimmed. -/
theorem tidy_of_not_mem {s : List Char} (h : verbatimOpen ∉ s) : tidy s = Text.trim (Text.thin s) := by
  have hone : segments false s = [s] := segments_of_not_mem h
  rw [tidy, hone]
  simp only
  rw [collapseBlankLines_eq]

/-- A marked part and the ordinary text behind it. -/
def markedPart (part : List Char × List Char) : List Char :=
  verbatim part.1 ++ part.2

/-- The markers that count are those around the marked parts. -/
theorem segments_markedParts {first : List Char} {parts : List (List Char × List Char)}
    (hfirst : nextMarker false ∉ first)
    (hparts : ∀ part ∈ parts, nextMarker true ∉ part.1 ∧ nextMarker false ∉ part.2) :
    segments false (first ++ parts.flatMap markedPart) = first :: parts.flatMap (fun part => [part.1, part.2]) := by
  induction parts generalizing first with
  | nil =>
    rw [List.flatMap_nil, List.append_nil]
    exact segments_of_not_mem hfirst
  | cons part rest ih =>
    have hpart := hparts part List.mem_cons_self
    have htext : first ++ (part :: rest).flatMap markedPart =
        first ++ nextMarker false :: (part.1 ++ nextMarker true :: (part.2 ++ rest.flatMap markedPart)) := by
      simp [markedPart, verbatim, nextMarker]
    rw [htext, segments_append_cons hfirst, Bool.not_false, segments_append_cons hpart.1, Bool.not_true,
      ih hpart.2 (fun other hother => hparts other (List.mem_cons_of_mem _ hother))]
    rfl

/-- Behind the first part, marked parts stay as they are, and ordinary ones are thinned. -/
theorem tidyRest_markedParts (parts : List (List Char × List Char)) (kept last : List Char) :
    tidyRest (parts.flatMap (fun part => [part.1, part.2]) ++ [kept, last]) =
      parts.flatMap (fun part => part.1 ++ Text.thin part.2) ++ (kept ++ Text.trimEnd (Text.thin last)) := by
  induction parts with
  | nil => rw [← collapseBlankLines_eq]; rfl
  | cons part rest ih =>
    rw [List.flatMap_cons, List.flatMap_cons, List.append_assoc, List.append_assoc, ← ih, List.append_assoc,
      ← collapseBlankLines_eq]
    exact tidyRest.eq_4 _ _ _ (by simp)

end Tex

/-- Tidying in terms of runs. A text without marked parts is thinned and trimmed. With marked parts, each of them
stays as it is, and the ordinary text around them is thinned; it loses the blanks at the start of the first part and
at the end of the last. So without marked parts only blanks are taken away, all words and paragraphs stay what they
are, and tidying again changes nothing. -/
theorem tidied_text :
    (∀ s : List Char, Tex.verbatimOpen ∉ s → Tex.tidy s = Text.trim (Text.thin s)) ∧
      (∀ (first : List Char) (parts : List (List Char × List Char)) (kept last : List Char), Tex.verbatimOpen ∉ first →
        (∀ part ∈ parts ++ [(kept, last)], Tex.verbatimClose ∉ part.1 ∧ Tex.verbatimOpen ∉ part.2) →
          Tex.tidy (first ++ (parts ++ [(kept, last)]).flatMap Tex.markedPart) =
            Text.trimStart (Text.thin first) ++ (parts.flatMap (fun part => part.1 ++ Text.thin part.2) ++
              (kept ++ Text.trimEnd (Text.thin last)))) ∧
      ∀ s : List Char, Tex.verbatimOpen ∉ s →
        (Tex.tidy s).Sublist s ∧ Text.solid (Tex.tidy s) = Text.solid s ∧
          Text.words Text.isBlank (Tex.tidy s) = Text.words Text.isBlank s ∧
          Text.paragraphs (Tex.tidy s) = Text.paragraphs s ∧
            Tex.tidy (Tex.tidy s) = Tex.tidy s := by
  refine ⟨fun s => Tex.tidy_of_not_mem, fun first parts kept last hfirst hparts => ?_, fun s hs => ?_⟩
  · have hsegments := Tex.segments_markedParts hfirst hparts
    have hpieces : (parts ++ [(kept, last)]).flatMap (fun part => [part.1, part.2]) =
        parts.flatMap (fun part => [part.1, part.2]) ++ [kept, last] := by
      rw [List.flatMap_append, List.flatMap_singleton]
    rw [← Tex.tidyRest_markedParts, ← Tex.collapseBlankLines_eq first, Tex.tidy, hsegments, hpieces]
    cases hrest : parts.flatMap (fun part => [part.1, part.2]) ++ [kept, last] with
    | nil => exact absurd hrest (by simp)
    | cons next others => rfl
  · have hsublist : (Tex.tidy s).Sublist s := by
      rw [Tex.tidy_eq]
      exact (Tex.tidyToEnd_sublist false _).trans (List.dropWhile_sublist _)
    have hfree : Tex.verbatimOpen ∉ Tex.tidy s := fun hmem => hs (hsublist.subset hmem)
    refine ⟨hsublist, (Tex.solid_tidy_iff s).2 hs, ?_, ?_, ?_⟩
    · rw [Tex.tidy_of_not_mem hs, Text.words_trim, Text.words_thin]
    · rw [Tex.tidy_of_not_mem hs, Text.paragraphs_trim, Text.paragraphs_thin]
    · rw [Tex.tidy_of_not_mem hfree, Tex.tidy_of_not_mem hs, Text.thin_trim_thin, Text.trim_trim]

/-- Runs of blanks at the seams of a marked part, around it and in it, and two paragraphs that stay two. -/
theorem tidied_text_listing :
    Tex.tidy (" \n\tOne. \n \n\n ".toList ++ [("  x \n\n\n".toList, "\n\n\u00a0 and  \n\n".toList),
        ([], "\n \n\n  y\n\n\n ".toList)].flatMap Tex.markedPart) =
      "One.\n\n   x \n\n\n\n\n\u00a0 and\n\n\n\n  y".toList ∧
    Tex.tidy " One  two.\n \n\n Three.\n".toList = "One  two.\n\n Three.".toList ∧
      Text.paragraphs (Tex.tidy " One  two.\n \n\n Three.\n".toList) =
          [["One".toList, "two.".toList], ["Three.".toList]] ∧
        Tex.tidy (Tex.tidy " One  two.\n \n\n Three.\n".toList) = "One  two.\n\n Three.".toList := by
  have hplain : Tex.verbatimOpen ∉ " One  two.\n \n\n Three.\n".toList := by decide
  have hparts := tidied_text.2.1 " \n\tOne. \n \n\n ".toList [("  x \n\n\n".toList, "\n\n\u00a0 and  \n\n".toList)] []
    "\n \n\n  y\n\n\n ".toList (by decide) (by decide)
  have htidy := tidied_text.1 _ hplain
  obtain ⟨-, -, -, hparagraphs, hagain⟩ := tidied_text.2.2 _ hplain
  refine ⟨hparts.trans (by decide +kernel), htidy.trans (by decide +kernel), hparagraphs.trans (by decide +kernel), ?_⟩
  rw [hagain, htidy]
  decide +kernel

end Manuscript
