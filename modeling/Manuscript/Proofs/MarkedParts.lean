import Manuscript.Proofs.Tidying

/-!
# Texts with marked parts, and blocks

A text spans its marked parts when it leaves none open and does not begin with an empty one (`Spanned`). Such texts
may be put one after another, trimmed, and put into commands and environments. Each of them, tidied with more to
follow, still shows something where it began with something (`Spanned.tidyAhead_ne_nil`). A block is a text between
two characters that are not blank, with a blank line behind it. Blocks one after another are tidied one by one, and
between them one blank line is left (`tidy_flatten`).
-/

namespace Manuscript.Tex

variable {s t v body : List Char}

/-! ## Texts with marked parts -/

/-- A text that leaves no marked part open and, apart from blanks, does not begin with an empty one. -/
structure Spanned (s : List Char) : Prop where
  closed : insideAfter false s = false
  opening : ¬[verbatimOpen, verbatimClose] <+: Text.trimStart s

/-- A text without markers has none that counts. -/
theorem not_mem_of_unmarked (h : Unmarked s) (inside : Bool) : nextMarker inside ∉ s := by
  intro hmem
  have hmarker := h _ hmem
  cases inside <;> cases hmarker

/-- The blanks at the start of a text end where another text begins that has something to be seen. -/
theorem trimStart_append (s t : List Char) :
    Text.trimStart (s ++ t) = Text.trimStart t ∧ Text.allBlank s = true ∨
      Text.trimStart (s ++ t) = Text.trimStart s ++ t ∧ Text.trimStart s ≠ [] := by
  rw [Text.trimStart, List.dropWhile_append]
  cases hstart : Text.trimStart s with
  | nil =>
    refine Or.inl ⟨?_, (Text.allBlank_iff s).2 (List.dropWhile_eq_nil_iff.1 hstart)⟩
    rw [Text.trimStart] at hstart
    rw [hstart]
    rfl
  | cons c rest =>
    rw [Text.trimStart] at hstart
    rw [hstart]
    exact Or.inr ⟨rfl, List.cons_ne_nil c rest⟩

/-- A text without markers spans its marked parts, of which there are none. -/
theorem spanned_of_unmarked (h : Unmarked s) : Spanned s where
  closed := insideAfter_of_not_mem (not_mem_of_unmarked h false)
  opening hpair := by
    obtain ⟨lead, hs, -⟩ := Text.exists_trimStart s
    have hmem : verbatimOpen ∈ s := by
      rw [hs]
      exact List.mem_append_right _ (hpair.subset List.mem_cons_self)
    exact not_mem_of_unmarked h false hmem

theorem spanned_nil : Spanned [] :=
  spanned_of_unmarked unmarked_nil

namespace Spanned

theorem append (hs : Spanned s) (ht : Spanned t) : Spanned (s ++ t) where
  closed := by rw [insideAfter_append, hs.closed, ht.closed]
  opening := by
    rcases trimStart_append s t with ⟨hstart, -⟩ | ⟨hstart, hne⟩
    · rw [hstart]
      exact ht.opening
    · rw [hstart]
      intro hpair
      have hclosed := hs.closed
      rw [← insideAfter_trimStart] at hclosed
      -- The two markers stand in the first text, for it does not end with a part left open.
      cases hshown : Text.trimStart s with
      | nil => exact hne hshown
      | cons c rest =>
        rw [hshown] at hpair hclosed
        cases rest with
        | nil =>
          have hopen : verbatimOpen = c := (List.cons_prefix_cons.1 hpair).1
          rw [← hopen] at hclosed
          cases hclosed
        | cons d rest =>
          obtain ⟨hopen, htail⟩ := List.cons_prefix_cons.1 hpair
          obtain ⟨hclose, -⟩ := List.cons_prefix_cons.1 htail
          refine hs.opening ?_
          rw [hshown, hopen, hclose]
          exact List.prefix_append [c, d] rest

/-- A text without markers may stand in front. -/
theorem after (hs : Unmarked s) (ht : Spanned t) : Spanned (s ++ t) :=
  (spanned_of_unmarked hs).append ht

/-- A text without markers may stand behind. -/
theorem before (hs : Spanned s) (ht : Unmarked t) : Spanned (s ++ t) :=
  hs.append (spanned_of_unmarked ht)

/-- A line in front. -/
theorem line (hs : Unmarked s) (ht : Spanned t) : Spanned (s ++ '\n' :: t) :=
  after hs (after (s := ['\n']) (by decide) ht)

/-- Trimming the start takes no marker away. -/
theorem trimStart (h : Spanned s) : Spanned (Text.trimStart s) where
  closed := by rw [insideAfter_trimStart, h.closed]
  opening := by
    rw [Text.trimStart_of_head? (Text.isBlank_head?_trimStart s)]
    exact h.opening

/-- Trimming the end takes no marker away. -/
theorem trimEnd (h : Spanned s) : Spanned (Text.trimEnd s) := by
  obtain ⟨trail, hs, htrail⟩ := Text.exists_trimEnd s
  generalize Text.trimEnd s = kept at hs
  subst hs
  constructor
  · have hclosed := h.closed
    rwa [insideAfter_append, insideAfter_of_not_mem (not_mem_of_allBlank htrail _)] at hclosed
  · intro hpair
    rcases trimStart_append kept trail with ⟨-, hblank⟩ | ⟨hstart, -⟩
    · rw [Text.trimStart, List.dropWhile_eq_nil_iff.2 ((Text.allBlank_iff kept).1 hblank)] at hpair
      exact absurd (List.prefix_nil.1 hpair) (List.cons_ne_nil _ _)
    · refine h.opening ?_
      rw [hstart]
      exact hpair.trans (List.prefix_append _ trail)

/-- Trimming takes no marker away. -/
theorem trim (h : Spanned s) : Spanned (Text.trim s) :=
  h.trimStart.trimEnd

theorem flatMap {α : Type} {l : List α} {g : α → List Char} (h : ∀ a ∈ l, Spanned (g a)) : Spanned (l.flatMap g) := by
  induction l with
  | nil => exact spanned_nil
  | cons a rest ih =>
    rw [List.flatMap_cons]
    exact (h a List.mem_cons_self).append (ih (fun b hb => h b (List.mem_cons_of_mem a hb)))

/-- So do pieces with a separator between them. -/
theorem joinWith {separator : List Char} (hseparator : Unmarked separator) {l : List (List Char)}
    (h : ∀ piece ∈ l, Spanned piece) : Spanned (Text.joinWith separator l) := by
  induction l with
  | nil => exact spanned_nil
  | cons piece rest ih =>
    rw [List.forall_mem_cons] at h
    cases rest with
    | nil =>
      rw [Text.joinWith_singleton]
      exact h.1
    | cons next others =>
      rw [Text.joinWith_cons_cons]
      exact h.1.append (after hseparator (ih h.2))

/-- A command spans the marked parts of its argument. -/
theorem command {name : String} (hname : name ∈ commandNames) (h : Spanned s) : Spanned (command name s) := by
  obtain ⟨front, back, hfront, hback, htext⟩ := exists_command hname
  rw [htext]
  exact after hfront (h.before hback)

/-- An environment spans the marked parts of its body. -/
theorem environment {name : String} {placement : Option String} (hname : name ∈ environmentNames)
    (hplacement : ∀ text ∈ placement, Unmarked text.toList) (h : Spanned s) :
    Spanned (environment name placement s) := by
  obtain ⟨front, back, hfront, hback, htext⟩ := exists_environment hname hplacement
  rw [htext]
  exact after hfront (h.before hback)

/-- Style commands leave the marked parts spanned. -/
theorem styled (classes : List String) (h : Spanned s) : Spanned (styled classes s) :=
  Markup.styled_of_command (P := Spanned) (fun _ hname _ h => h.command hname) classes h

/-- A block spans the marked parts of its text. -/
theorem block (h : Spanned s) : Spanned (block s) := by
  rw [Tex.block]
  split
  · exact spanned_nil
  · exact h.before (by decide)

end Spanned

/-- A marked part closes itself. -/
theorem insideAfter_verbatim (h : Unmarked v) : insideAfter false (verbatim v) = false := by
  have htext : verbatim v = [] ++ nextMarker false :: (v ++ nextMarker true :: []) := rfl
  rw [htext, insideAfter_append_cons List.not_mem_nil, Bool.not_false,
    insideAfter_append_cons (not_mem_of_unmarked h true)]
  rfl

/-- A marked part with something in it. -/
theorem spanned_verbatim (h : Unmarked v) (hne : v ≠ []) : Spanned (verbatim v) where
  closed := insideAfter_verbatim h
  opening hpair := by
    obtain ⟨c, rest, rfl⟩ := List.exists_cons_of_ne_nil hne
    have hstart : Text.trimStart (verbatim (c :: rest)) = verbatimOpen :: c :: (rest ++ [verbatimClose]) :=
      List.dropWhile_cons_of_neg (by decide)
    rw [hstart] at hpair
    have hclose := (List.cons_prefix_cons.1 (List.cons_prefix_cons.1 hpair).2).1
    rw [unmarked_cons, ← hclose] at h
    exact absurd h.1 (by decide)

/-- Program text may be empty, for it does not stand at the start of its environment. -/
theorem spanned_listing (h : Unmarked v) : Spanned (environment "verbatim" none (verbatim v)) where
  closed := by
    obtain ⟨front, back, hfront, hback, htext⟩ : ∃ front back, Unmarked front ∧ Unmarked back ∧
        ∀ s, environment "verbatim" none s = front ++ (s ++ back) :=
      exists_environment (by decide) (by simp)
    rw [htext, insideAfter_append, insideAfter_of_not_mem (not_mem_of_unmarked hfront _), insideAfter_append,
      insideAfter_verbatim h, insideAfter_of_not_mem (not_mem_of_unmarked hback _)]
  opening hpair := by
    have hopen := (List.cons_prefix_cons.1 hpair).1
    exact absurd hopen (by decide)

/-- A text that begins with something shows something when it is tidied with more to follow. -/
theorem Spanned.tidyAhead_ne_nil (h : Spanned s) (hhead : ∃ c ∈ s.head?, Text.isBlank c = false) :
    tidyAhead false s ≠ [] := by
  obtain ⟨c, hc, hblank⟩ := hhead
  obtain ⟨rest, rfl⟩ := List.head?_eq_some_iff.1 hc
  have hstart : Text.trimStart (c :: rest) = c :: rest := List.dropWhile_cons_of_neg (by simp [hblank])
  have hopening := h.opening
  rw [hstart] at hopening
  by_cases hopen : c = verbatimOpen
  · -- Something stands between the marker and the one that closes the part.
    subst hopen
    have hcut : tidyAhead false (verbatimOpen :: rest) = tidyAhead true rest :=
      tidyFrom_append_cons (s := []) List.not_mem_nil rest
    have hclosed : insideAfter true rest = false := h.closed
    have hmem : verbatimClose ∈ rest := by
      by_contra hnot
      have hopen : insideAfter true rest = true := insideAfter_of_not_mem hnot
      rw [hopen] at hclosed
      cases hclosed
    obtain ⟨kept, behind, rfl, hkept⟩ := List.eq_append_cons_of_mem hmem
    have hpart : tidyAhead true (kept ++ verbatimClose :: behind) = kept ++ tidyAhead false behind :=
      tidyFrom_append_cons hkept behind
    rw [hcut, hpart]
    intro hnil
    rw [(List.append_eq_nil_iff.1 hnil).1] at hopening
    exact hopening (List.prefix_append [verbatimOpen, verbatimClose] behind)
  · have hsingle : tidyAhead false [c] = [c] := by
      have hfree : nextMarker false ∉ [c] := fun hmem => hopen (List.mem_singleton.1 hmem).symm
      rw [tidyAhead, tidyFrom_of_not_mem hfree]
      exact collapseBlankLines_of_forall (by simpa using hblank)
    have hseam : Apart [c] rest := Or.inl (by simpa using hblank)
    have hcut : tidyAhead false ([c] ++ rest) = tidyAhead false [c] ++ tidyAhead (insideAfter false [c]) rest :=
      tidyAhead_append hseam
    rw [hsingle] at hcut
    rw [← List.singleton_append, hcut]
    exact List.cons_ne_nil _ _

/-! ## Blocks -/

/-- A block: a text that neither begins nor ends in a blank, and a blank line. -/
def IsBlock (s : List Char) : Prop :=
  ∃ body, s = body ++ "\n\n".toList ∧ (∃ c ∈ body.head?, Text.isBlank c = false) ∧
    ∀ c ∈ body.getLast?, Text.isBlank c = false

/-- A command ends in a brace. -/
theorem getLast?_command (name : String) (argument : List Char) : (command name argument).getLast? = some '}' := by
  have htext : command name argument = '\\' :: (name.toList ++ '{' :: argument) ++ ['}'] := by simp [command]
  rw [htext, List.getLast?_concat]

/-- From one command to another, and a blank line. -/
theorem isBlock_of_command (first last : String) (argument label mid : List Char) :
    IsBlock (command first argument ++ (mid ++ command last label) ++ "\n\n".toList) := by
  refine ⟨_, rfl, ⟨'\\', rfl, by decide⟩, fun c hc => ?_⟩
  have hlast : (command first argument ++ (mid ++ command last label)).getLast? = some '}' := by
    rw [List.getLast?_append, List.getLast?_append, getLast?_command]
    rfl
  rw [hlast, Option.mem_some_iff] at hc
  rw [← hc]
  decide

/-- An environment is a block, whatever its body. -/
theorem isBlock_environment (name : String) (placement : Option String) (s : List Char) :
    IsBlock (environment name placement s) := by
  have htext : environment name placement s = command "begin" name.toList ++
      ((placementText placement ++ '\n' :: (s ++ ['\n'])) ++ command "end" name.toList) ++ "\n\n".toList := by
    simp [environment]
  rw [htext]
  exact isBlock_of_command ..

/-- A paragraph is a block, unless there is nothing in it. -/
theorem block_trim_cases (s : List Char) : block (Text.trim s) = [] ∨ IsBlock (block (Text.trim s)) := by
  have hhead := Text.isBlank_head?_trim s
  have hlast := Text.isBlank_getLast?_trim s
  generalize Text.trim s = text at hhead hlast
  cases text with
  | nil => exact Or.inl rfl
  | cons c rest => exact Or.inr ⟨c :: rest, rfl, ⟨c, rfl, hhead c rfl⟩, hlast⟩

/-- What tidying makes of a block: its text tidied with more to follow, and that is not nothing. -/
theorem IsBlock.exists_tidy (h : IsBlock s) (hspanned : Spanned s) :
    ∃ body, s = body ++ "\n\n".toList ∧ (∃ c ∈ body.head?, Text.isBlank c = false) ∧
      (∀ c ∈ body.getLast?, Text.isBlank c = false) ∧ insideAfter false body = false ∧
      tidy s = tidyAhead false body ∧ tidy s ≠ [] := by
  obtain ⟨body, rfl, hhead, hlast⟩ := h
  have hbody : Spanned body := by
    have htrim := hspanned.trimEnd
    rwa [Text.trimEnd_append_of_getLast? hlast, show Text.trimEnd "\n\n".toList = [] by decide,
      List.append_nil] at htrim
  have htidy := tidy_append_blankLine hhead hlast hbody.closed
  exact ⟨body, rfl, hhead, hlast, hbody.closed, htidy, htidy ▸ hbody.tidyAhead_ne_nil hhead⟩

/-- Blocks one after another begin as the first of them. -/
theorem exists_head?_flatten {l : List (List Char)} (h : ∀ s ∈ l, IsBlock s) (hne : l ≠ []) :
    ∃ c ∈ l.flatten.head?, Text.isBlank c = false := by
  obtain ⟨s, rest, rfl⟩ := List.exists_cons_of_ne_nil hne
  obtain ⟨body, rfl, ⟨c, hc, hblank⟩, -⟩ := h s List.mem_cons_self
  obtain ⟨others, rfl⟩ := List.head?_eq_some_iff.1 hc
  exact ⟨c, rfl, hblank⟩

/-- Blocks are tidied one by one. Of the blank line behind each of them, that behind the last is left out. -/
theorem tidyToEnd_flatten {l : List (List Char)} (hblocks : ∀ s ∈ l, IsBlock s) (hspanned : ∀ s ∈ l, Spanned s) :
    tidyToEnd false l.flatten = Text.joinWith "\n\n".toList (l.map tidy) := by
  induction l with
  | nil => rfl
  | cons s rest ih =>
    rw [List.forall_mem_cons] at hblocks hspanned
    have hrest := ih hblocks.2 hspanned.2
    obtain ⟨body, rfl, -, hlast, hclosed, htidy, -⟩ := hblocks.1.exists_tidy hspanned.1
    rw [List.flatten_cons, List.append_assoc, tidyToEnd_append (Or.inl hlast), hclosed, List.map_cons, htidy]
    cases rest with
    | nil =>
      rw [List.map_nil, Text.joinWith_singleton]
      exact List.append_nil _
    | cons next others =>
      have hseam : Apart "\n\n".toList (next :: others).flatten :=
        Or.inr (exists_head?_flatten hblocks.2 (List.cons_ne_nil next others))
      rw [tidyToEnd_append hseam, insideAfter_of_not_mem (not_mem_of_allBlank (by decide) _), hrest, List.map_cons,
        Text.joinWith_cons_cons]
      rfl

/-- Texts that are blocks or empty, one after another: each is tidied by itself, and between those of which
something is left stands one blank line. -/
theorem tidy_flatten {l : List (List Char)} (hblocks : ∀ s ∈ l, s = [] ∨ IsBlock s) (hspanned : ∀ s ∈ l, Spanned s) :
    tidy l.flatten = Text.joinWith "\n\n".toList ((l.map tidy).filter (fun text => !text.isEmpty)) := by
  have hshown : ∀ s ∈ l.filter (fun s => !s.isEmpty), IsBlock s := by
    intro s hs
    obtain ⟨hs, hne⟩ := List.mem_filter.1 hs
    refine (hblocks s hs).resolve_left (fun hnil => ?_)
    rw [hnil] at hne
    cases hne
  have hkept : ∀ s ∈ l, ((fun text => !text.isEmpty) ∘ tidy) s = !s.isEmpty := by
    intro s hs
    rcases hblocks s hs with rfl | hblock
    · rfl
    · obtain ⟨body, rfl, ⟨c, hc, -⟩, -, -, -, hne⟩ := hblock.exists_tidy (hspanned s hs)
      obtain ⟨rest, rfl⟩ := List.head?_eq_some_iff.1 hc
      rw [Function.comp_apply, List.isEmpty_eq_false_iff.2 hne]
      rfl
  rw [List.filter_map, List.filter_congr hkept, ← List.flatten_filter_not_isEmpty,
    ← tidyToEnd_flatten hshown (fun s hs => hspanned s (List.mem_filter.1 hs).1), tidy_eq]
  by_cases hnil : l.filter (fun s => !s.isEmpty) = []
  · rw [hnil]
    rfl
  · obtain ⟨c, hc, hblank⟩ := exists_head?_flatten hshown hnil
    rw [Text.trimStart_of_head? (fun d hd => Option.mem_unique hc hd ▸ hblank)]

end Manuscript.Tex
