import Mathlib.Data.List.DropRight
import Mathlib.Data.List.SplitBy
import Manuscript.Proofs.Tidying

/-!
# Runs of blanks

A text is read here as its maximal runs, of blanks and of other characters in turn (`InTurn`, `runs_eq_iff`). The
runs of other characters are its words, and the runs of blanks with two ends of line or more part its paragraphs. To
thin a text is to leave no more than two ends of line in a run, and what stands after the last. Thinning and
trimming keep the words and the paragraphs (`words_thin`, `paragraphs_thin`), and a text that was thinned and
trimmed stays as it is (`thin_trim_thin`).
-/

namespace Manuscript

namespace Text

/-! ## Maximal runs -/

/-- The maximal runs of a text: of blanks, and of characters that are not blank. -/
def runs (s : List Char) : List (List Char) :=
  s.splitBy (fun a b => isBlank a == isBlank b)

/-- A text that is no more than one run: with something in it, and blank throughout or nowhere. -/
def Uniform (run : List Char) : Prop :=
  run ≠ [] ∧ ∀ c ∈ run, isBlank c = allBlank run

/-- Texts that are the maximal runs of what they make up together. -/
structure InTurn (l : List (List Char)) : Prop where
  uniform : ∀ run ∈ l, Uniform run
  alternate : l.IsChain (fun a b => allBlank a ≠ allBlank b)

variable {s t run : List Char} {l : List (List Char)}

/-- A text is one run when any two neighbours in it are both blank or both not. -/
theorem uniform_iff : Uniform run ↔ run ≠ [] ∧ run.IsChain (fun a b => (isBlank a == isBlank b) = true) := by
  refine and_congr_right (fun hne => ⟨fun h => ?_, fun h => ?_⟩)
  · refine List.Pairwise.isChain (List.pairwise_of_forall_mem_list (fun a ha b hb => ?_))
    rw [h a ha, h b hb, beq_self_eq_true]
  · induction run with
    | nil => exact absurd rfl hne
    | cons a rest ih =>
      cases rest with
      | nil => simp [allBlank]
      | cons b others =>
        rw [List.isChain_cons_cons, beq_iff_eq] at h
        have hrest := ih (List.cons_ne_nil b others) h.2
        have hb := hrest b List.mem_cons_self
        have hwhole : allBlank (a :: b :: others) = isBlank a := by
          rw [allBlank, List.all_cons, ← allBlank, ← hb, ← h.1, Bool.and_self]
        rw [hwhole, List.forall_mem_cons]
        exact ⟨rfl, fun c hc => by rw [hrest c hc, ← hb, h.1]⟩

/-- Runs in turn are the pieces of a text that is cut wherever blanks begin or end. -/
theorem inTurn_iff : InTurn l ↔ [] ∉ l ∧ (∀ run ∈ l, run.IsChain (fun a b => (isBlank a == isBlank b) = true)) ∧
    l.IsChain (fun a b => ∃ ha hb, (isBlank (a.getLast ha) == isBlank (b.head hb)) = false) := by
  have hseam : ∀ a b : List Char, Uniform a → Uniform b →
      (allBlank a ≠ allBlank b ↔ ∃ ha hb, (isBlank (a.getLast ha) == isBlank (b.head hb)) = false) := by
    intro a b ha hb
    rw [← ha.2 _ (List.getLast_mem ha.1), ← hb.2 _ (List.head_mem hb.1)]
    simp only [beq_eq_false_iff_ne]
    exact ⟨fun h => ⟨ha.1, hb.1, h⟩, fun ⟨_, _, h⟩ => h⟩
  constructor
  · intro h
    refine ⟨fun hnil => (h.uniform [] hnil).1 rfl, fun run hrun => (uniform_iff.1 (h.uniform run hrun)).2, ?_⟩
    exact h.alternate.imp_of_mem_imp (fun a b ha hb => (hseam a b (h.uniform a ha) (h.uniform b hb)).1)
  · rintro ⟨hnil, hchain, hturn⟩
    have huniform : ∀ run ∈ l, Uniform run :=
      fun run hrun => uniform_iff.2 ⟨fun heq => hnil (heq ▸ hrun), hchain run hrun⟩
    exact ⟨huniform, hturn.imp_of_mem_imp (fun a b ha hb => (hseam a b (huniform a ha) (huniform b hb)).2)⟩

/-- A text has one list of maximal runs: those that make it up and that are in turn. -/
theorem runs_eq_iff : runs s = l ↔ s = l.flatten ∧ InTurn l := by
  rw [inTurn_iff]
  exact List.splitBy_eq_iff

/-- The runs of a text make it up. -/
theorem flatten_runs (s : List Char) : (runs s).flatten = s :=
  (runs_eq_iff.1 rfl).1.symm

/-- The runs of a text are in turn. -/
theorem inTurn_runs (s : List Char) : InTurn (runs s) :=
  (runs_eq_iff.1 rfl).2

/-- Runs in turn are the runs of what they make up. -/
theorem InTurn.runs_flatten (h : InTurn l) : runs l.flatten = l :=
  runs_eq_iff.2 ⟨rfl, h⟩

/-- Runs stay in turn when each is replaced by one of its kind. -/
theorem InTurn.map {g : List Char → List Char} (h : InTurn l)
    (hg : ∀ run ∈ l, Uniform run → Uniform (g run) ∧ allBlank (g run) = allBlank run) : InTurn (l.map g) where
  uniform run hrun := by
    obtain ⟨before, hbefore, rfl⟩ := List.mem_map.1 hrun
    exact (hg before hbefore (h.uniform before hbefore)).1
  alternate := by
    rw [List.isChain_map]
    refine h.alternate.imp_of_mem_imp (fun a b ha hb hne => ?_)
    rwa [(hg a ha (h.uniform a ha)).2, (hg b hb (h.uniform b hb)).2]

theorem runs_append (h : ∀ a ∈ s.getLast?, ∀ b ∈ t.head?, isBlank a ≠ isBlank b) : runs (s ++ t) = runs s ++ runs t :=
  List.splitBy_append (fun a ha b hb => beq_eq_false_iff_ne.2 (h a ha b hb))

/-- A run has characters of the text only. -/
theorem subset_of_mem_runs (h : run ∈ runs s) : ∀ c ∈ run, c ∈ s := by
  intro c hc
  rw [← flatten_runs s]
  exact List.mem_flatten_of_mem h hc

/-- The runs of a blank text are blank. -/
theorem allBlank_of_mem_runs (hs : allBlank s = true) : ∀ run ∈ runs s, allBlank run = true :=
  fun run hrun => (allBlank_iff run).2 (fun c hc => (allBlank_iff s).1 hs c (subset_of_mem_runs hrun c hc))

/-- Trimming takes away runs of blanks. -/
theorem exists_runs_trim (s : List Char) : ∃ lead trail, runs s = lead ++ (runs (trim s) ++ trail) ∧
    (∀ run ∈ lead, allBlank run = true) ∧ ∀ run ∈ trail, allBlank run = true := by
  obtain ⟨lead, text, trail, hs, htrim, hlead, htrail, hhead, hlast⟩ := exists_trimmed s
  by_cases hnil : trim s = []
  · -- Nothing is left, so all that there was is blank.
    refine ⟨runs s, [], ?_, allBlank_of_mem_runs (trim_eq_nil_iff.1 hnil), List.forall_mem_nil _⟩
    rw [hnil]
    exact (List.append_nil _).symm
  · refine ⟨runs lead, runs trail, ?_, allBlank_of_mem_runs hlead, allBlank_of_mem_runs htrail⟩
    rw [htrim] at hnil ⊢
    rw [hs, runs_append, runs_append]
    · intro a ha b hb
      rw [hlast a ha, (allBlank_iff trail).1 htrail b (List.mem_of_mem_head? hb)]
      exact Bool.false_ne_true
    · intro a ha b hb
      rw [List.head?_append_of_ne_nil _ hnil] at hb
      rw [(allBlank_iff lead).1 hlead a (List.mem_of_mem_getLast? ha), hhead b hb]
      exact Bool.false_ne_true.symm

/-- A text that is trimmed already can be trimmed together with blanks behind it. -/
theorem trim_trim_append {trail : List Char} (s : List Char) (htrail : allBlank trail = true) :
    trim (trim s ++ trail) = trim s := by
  have hshown : trim ([] ++ (trim s ++ trail)) = trim s :=
    trim_append rfl htrail (isBlank_head?_trim s) (isBlank_getLast?_trim s)
  exact hshown

/-- A trimmed text has nothing to be trimmed. -/
theorem trim_trim (s : List Char) : trim (trim s) = trim s := by
  have hshown : trim (trim s ++ []) = trim s := trim_trim_append s rfl
  rwa [List.append_nil] at hshown

/-! ## Words and paragraphs -/

/-- A gap ends a word. -/
theorem words_append_cons {isGap : Char → Bool} {c : Char} (hc : isGap c = true) (s t : List Char) :
    words isGap (s ++ c :: t) = words isGap s ++ words isGap t := by
  rw [words, words, words, splitWhere_append_cons hc, List.filter_append]

/-- Blanks in front of a text are no words. -/
theorem words_append_of_allBlank (hs : allBlank s = true) (t : List Char) :
    words isBlank (s ++ t) = words isBlank t := by
  induction s with
  | nil => rfl
  | cons c rest ih =>
    rw [allBlank, List.all_cons, Bool.and_eq_true] at hs
    have hcut := words_append_cons hs.1 [] (rest ++ t)
    rw [List.cons_append, ← ih hs.2]
    exact hcut

/-- The words of a text are its runs of other characters than blanks. -/
theorem words_flatten (h : InTurn l) : words isBlank l.flatten = l.filter (fun run => !allBlank run) := by
  induction l with
  | nil => rfl
  | cons run rest ih =>
    have hrest := ih ⟨fun run hrun => h.uniform run (List.mem_cons_of_mem _ hrun), h.alternate.tail⟩
    have hrun := h.uniform run List.mem_cons_self
    rw [List.flatten_cons, List.filter_cons]
    cases hblank : allBlank run with
    | true => rw [words_append_of_allBlank hblank, hrest]; rfl
    | false =>
      have hword : words isBlank run = [run] := by
        rw [words, splitWhere_of_forall (fun c hc => (hrun.2 c hc).trans hblank)]
        exact List.filter_cons_of_pos (by simp [hrun.1])
      cases rest with
      | nil =>
        rw [List.flatten_nil, List.append_nil, hword]
        rfl
      | cons next others =>
        -- The run after a word is blank, and a text can be cut at its first blank.
        have hnext := h.uniform next (List.mem_cons_of_mem _ List.mem_cons_self)
        have hgap : allBlank next = true := by
          have hne := (List.isChain_cons_cons.1 h.alternate).1
          rw [hblank] at hne
          exact (Bool.not_eq_false _).mp hne.symm
        obtain ⟨c, tail, rfl⟩ := List.exists_cons_of_ne_nil hnext.1
        have hc : isBlank c = true := (allBlank_iff _).1 hgap c List.mem_cons_self
        have hbehind : words isBlank ((c :: tail) :: others).flatten = words isBlank (tail ++ others.flatten) :=
          words_append_cons hc [] _
        rw [← hrest, hbehind, List.flatten_cons, List.cons_append, words_append_cons hc, hword]
        rfl

/-- The words of a text are its runs that are not blank. -/
theorem words_eq (s : List Char) : words isBlank s = (runs s).filter (fun run => !allBlank run) := by
  conv => lhs; rw [← flatten_runs s]
  exact words_flatten (inTurn_runs s)

/-- Whether a run parts two paragraphs: it is blank and has a blank line in it. -/
def isBreak (run : List Char) : Bool :=
  allBlank run && decide (2 ≤ run.count '\n')

/-- The words of the paragraphs that runs make up. -/
def paragraphsOf (l : List (List Char)) : List (List (List Char)) :=
  ((l.filter (fun run => isBreak run || !allBlank run)).splitOnP isBreak).filter (fun words => !words.isEmpty)

/-- The paragraphs of a text, each as the list of its words. -/
def paragraphs (s : List Char) : List (List (List Char)) :=
  paragraphsOf (runs s)

/-- A run of blanks at the start or the end belongs to no paragraph. -/
theorem paragraphsOf_gap (hrun : allBlank run = true) (l k : List (List Char)) (h : l = [] ∨ k = []) :
    paragraphsOf (l ++ run :: k) = paragraphsOf (l ++ k) := by
  rw [paragraphsOf, paragraphsOf, List.filter_append, List.filter_append, List.filter_cons]
  cases hbreak : isBreak run with
  | false => rw [hrun]; rfl
  | true =>
    rw [Bool.true_or, if_pos rfl, List.splitOnP_append_cons _ _ hbreak, List.filter_append]
    rcases h with rfl | rfl <;> simp

/-- Blanks at both ends make no paragraph. -/
theorem paragraphsOf_append_gaps {lead trail : List (List Char)} (hlead : ∀ run ∈ lead, allBlank run = true)
    (htrail : ∀ run ∈ trail, allBlank run = true) (l : List (List Char)) :
    paragraphsOf (lead ++ (l ++ trail)) = paragraphsOf l := by
  have hend : paragraphsOf (l ++ trail) = paragraphsOf l := by
    induction trail using List.reverseRecOn with
    | nil => rw [List.append_nil]
    | append_singleton front run ih =>
      rw [← List.append_assoc, paragraphsOf_gap (htrail run (by simp)) _ _ (Or.inr rfl), List.append_nil]
      exact ih (fun gap hgap => htrail gap (List.mem_append_left _ hgap))
  induction lead with
  | nil => exact hend
  | cons run rest ih =>
    have hcut := paragraphsOf_gap (hlead run List.mem_cons_self) [] (rest ++ (l ++ trail)) (Or.inl rfl)
    rw [List.cons_append, ← ih (fun gap hgap => hlead gap (List.mem_cons_of_mem _ hgap))]
    exact hcut

/-- Trimming keeps the paragraphs. -/
theorem paragraphs_trim (s : List Char) : paragraphs (trim s) = paragraphs s := by
  obtain ⟨lead, trail, hruns, hlead, htrail⟩ := exists_runs_trim s
  rw [paragraphs, paragraphs, hruns, paragraphsOf_append_gaps hlead htrail]

/-- Trimming keeps the words. -/
theorem words_trim (s : List Char) : words isBlank (trim s) = words isBlank s := by
  obtain ⟨lead, trail, hruns, hlead, htrail⟩ := exists_runs_trim s
  have hgaps : ∀ gaps : List (List Char), (∀ run ∈ gaps, allBlank run = true) →
      gaps.filter (fun run => !allBlank run) = [] := by
    intro gaps hgaps
    rw [List.filter_eq_nil_iff]
    intro run hrun
    rw [hgaps run hrun]
    decide
  rw [words_eq, words_eq, hruns, List.filter_append, List.filter_append, hgaps lead hlead, hgaps trail htrail,
    List.nil_append, List.append_nil]

/-! ## Thinning -/

/-- A run with its blank lines thinned: where it is blank and has ends of line, no more than two of them, and what
stands after the last. -/
def thinRun (run : List Char) : List Char :=
  if allBlank run && run.contains '\n' then
    List.replicate (min (run.count '\n') 2) '\n' ++ run.rtakeWhile (· != '\n')
  else run

/-- A text with each of its runs thinned. -/
def thin (s : List Char) : List Char :=
  (runs s).flatMap thinRun

/-- A run that is not blank stays as it is. -/
theorem thinRun_of_not_allBlank (h : allBlank run = false) : thinRun run = run := by
  rw [thinRun, h]
  rfl

/-- A run without ends of line stays as it is. -/
theorem thinRun_of_not_mem (h : '\n' ∉ run) : thinRun run = run := by
  rw [thinRun, if_neg]
  simp [h]

/-- What stands behind the last end of line of a run. -/
theorem rtakeWhile_append_cons {front tail : List Char} (h : '\n' ∉ tail) :
    (front ++ '\n' :: tail).rtakeWhile (· != '\n') = tail := by
  have hreverse : ∀ c ∈ tail.reverse, (c != '\n') = true :=
    fun c hc => bne_iff_ne.2 (fun heq => h (heq ▸ List.mem_reverse.1 hc))
  rw [List.rtakeWhile, List.reverse_append, List.reverse_cons, List.append_assoc, List.takeWhile_append_of_pos hreverse]
  simp

/-- A run of blanks with ends of line, cut at the last of them. -/
theorem thinRun_append_cons {front tail : List Char} (hblank : allBlank (front ++ '\n' :: tail) = true)
    (h : '\n' ∉ tail) :
    thinRun (front ++ '\n' :: tail) = List.replicate (min (front.count '\n' + 1) 2) '\n' ++ tail := by
  have hmem : (front ++ '\n' :: tail).contains '\n' = true := by simp
  rw [thinRun, hblank, hmem, Bool.and_self, if_pos rfl, rtakeWhile_append_cons h, List.count_append,
    List.count_cons_self, List.count_eq_zero.2 h]

/-- A text with an end of line is cut at the last one. -/
theorem exists_last_newline (h : '\n' ∈ run) : ∃ front tail, run = front ++ '\n' :: tail ∧ '\n' ∉ tail := by
  obtain ⟨before, after, hreverse, hfree⟩ := List.eq_append_cons_of_mem (List.mem_reverse.2 h)
  refine ⟨after.reverse, before.reverse, ?_, fun hmem => hfree (List.mem_reverse.1 hmem)⟩
  have hrun := congrArg List.reverse hreverse
  simpa using hrun

/-- Thinning a run leaves a run of its kind, which is thin and parts paragraphs if it did before. -/
theorem thinRun_spec (h : Uniform run) : Uniform (thinRun run) ∧ allBlank (thinRun run) = allBlank run ∧
    thinRun (thinRun run) = thinRun run ∧ isBreak (thinRun run) = isBreak run := by
  cases hblank : allBlank run with
  | false =>
    rw [thinRun_of_not_allBlank hblank]
    exact ⟨h, hblank, thinRun_of_not_allBlank hblank, rfl⟩
  | true =>
    by_cases hmem : '\n' ∈ run
    · obtain ⟨front, tail, rfl, hfree⟩ := exists_last_newline hmem
      -- One end of line or two are left, and what follows them has none.
      obtain ⟨lines, hlines, hcount⟩ : ∃ n, min (front.count '\n' + 1) 2 = n + 1 ∧
          (2 ≤ n + 1 ↔ 2 ≤ front.count '\n' + 1) :=
        ⟨min (front.count '\n' + 1) 2 - 1, by omega, by omega⟩
      have hthin : thinRun (front ++ '\n' :: tail) = List.replicate lines '\n' ++ '\n' :: tail := by
        rw [thinRun_append_cons hblank hfree, hlines, List.replicate_succ', List.append_assoc, List.singleton_append]
      have htail : allBlank tail = true := by
        rw [allBlank_append, Bool.and_eq_true, allBlank, allBlank, List.all_cons, Bool.and_eq_true] at hblank
        exact hblank.2.2
      have hall : allBlank (List.replicate lines '\n' ++ '\n' :: tail) = true := by
        rw [allBlank_append, Reader.allBlank_replicate, allBlank, List.all_cons, ← allBlank, htail]
        rfl
      rw [hthin]
      refine ⟨⟨by simp, fun c hc => by rw [hall, (allBlank_iff _).1 hall c hc]⟩, hall, ?_, ?_⟩
      · rw [thinRun_append_cons hall hfree, List.count_replicate_self, ← hlines, Nat.min_assoc, Nat.min_self, hlines,
          List.replicate_succ', List.append_assoc, List.singleton_append]
      · rw [isBreak, isBreak, hall, hblank, List.count_append, List.count_append, List.count_cons_self,
          List.count_replicate_self, List.count_eq_zero.2 hfree, decide_eq_decide.2 hcount]
    · rw [thinRun_of_not_mem hmem]
      exact ⟨h, hblank, thinRun_of_not_mem hmem, rfl⟩

/-- The runs of a thinned text are the runs of the text, thinned. -/
theorem runs_thin (s : List Char) : runs (thin s) = (runs s).map thinRun := by
  have hturn : InTurn ((runs s).map thinRun) :=
    (inTurn_runs s).map (fun run _ hrun => ⟨(thinRun_spec hrun).1, (thinRun_spec hrun).2.1⟩)
  rw [thin, List.flatMap_def]
  exact hturn.runs_flatten

/-- A text is thin when each of its runs is. -/
theorem thin_eq_self (h : ∀ run ∈ runs s, thinRun run = run) : thin s = s := by
  conv => rhs; rw [← flatten_runs s]
  rw [thin, List.flatMap_def, List.map_congr_left h, List.map_id']

/-- Trimming leaves a thinned text thin. -/
theorem thin_trim_thin (s : List Char) : thin (trim (thin s)) = trim (thin s) := by
  refine thin_eq_self (fun run hrun => ?_)
  obtain ⟨lead, trail, hruns, -, -⟩ := exists_runs_trim (thin s)
  have hmem : run ∈ runs (thin s) := by
    rw [hruns]
    exact List.mem_append_right _ (List.mem_append_left _ hrun)
  rw [runs_thin] at hmem
  obtain ⟨before, hbefore, rfl⟩ := List.mem_map.1 hmem
  exact (thinRun_spec ((inTurn_runs s).uniform before hbefore)).2.2.1

/-- Thinning keeps the words. -/
theorem words_thin (s : List Char) : words isBlank (thin s) = words isBlank s := by
  rw [words_eq, words_eq, runs_thin, List.filter_map]
  have hkind : ∀ run ∈ runs s, ((fun run => !allBlank run) ∘ thinRun) run = !allBlank run :=
    fun run hrun => congrArg not (thinRun_spec ((inTurn_runs s).uniform run hrun)).2.1
  rw [List.filter_congr hkind]
  conv => rhs; rw [← List.map_id ((runs s).filter (fun run => !allBlank run))]
  refine List.map_congr_left (fun run hrun => thinRun_of_not_allBlank ?_)
  simpa using (List.mem_filter.1 hrun).2

/-- What splits a list at the same members, and changes no others, leaves the pieces. -/
theorem splitOnP_map_of_forall {g : List Char → List Char} (h : ∀ run ∈ l, isBreak (g run) = isBreak run ∧
    (isBreak run = false → g run = run)) : (l.map g).splitOnP isBreak = l.splitOnP isBreak := by
  induction l with
  | nil => rfl
  | cons run rest ih =>
    have hrun := h run List.mem_cons_self
    rw [List.map_cons, List.splitOnP_cons_eq_if_modifyHead, List.splitOnP_cons_eq_if_modifyHead, hrun.1,
      ih (fun other hother => h other (List.mem_cons_of_mem _ hother))]
    cases hbreak : isBreak run with
    | true => rfl
    | false => rw [hrun.2 hbreak]

/-- Thinning keeps the paragraphs. -/
theorem paragraphs_thin (s : List Char) : paragraphs (thin s) = paragraphs s := by
  have hspec := fun run (hrun : run ∈ runs s) => thinRun_spec ((inTurn_runs s).uniform run hrun)
  have hkind : ∀ run ∈ runs s,
      ((fun run => isBreak run || !allBlank run) ∘ thinRun) run = (isBreak run || !allBlank run) := by
    intro run hrun
    rw [Function.comp_apply, (hspec run hrun).2.1, (hspec run hrun).2.2.2]
  rw [paragraphs, paragraphs, paragraphsOf, paragraphsOf, runs_thin, List.filter_map, List.filter_congr hkind,
    splitOnP_map_of_forall]
  intro run hrun
  obtain ⟨hmem, hkept⟩ := List.mem_filter.1 hrun
  refine ⟨(hspec run hmem).2.2.2, fun hbreak => thinRun_of_not_allBlank ?_⟩
  simpa [hbreak] using hkept

end Text

end Manuscript
