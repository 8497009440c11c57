import Mathlib.Data.List.TakeWhile
import Manuscript.Text.Blank
import Manuscript.Text.Lines

/-!
# Blank ends and joined pieces

What trimming takes away: a text is what trimming leaves of it with blanks put back at the ends (`exists_trimStart`,
`exists_trimEnd`). And how cutting goes with the parts of a text (`splitWhere_append`), and joining with the list of
the pieces.
-/

namespace Manuscript.Text

/-- Whether all characters of a text have a property is decided along the text, not over all characters that there
are. -/
instance decidableForallMem {p : Char → Prop} [DecidablePred p] (s : List Char) : Decidable (∀ c ∈ s, p c) :=
  List.decidableBAll p s

/-- A text is blank when each of its characters is. -/
theorem allBlank_iff (s : List Char) : allBlank s = true ↔ ∀ c ∈ s, isBlank c = true := by
  rw [allBlank, List.all_eq_true]

theorem allBlank_append (s t : List Char) : allBlank (s ++ t) = (allBlank s && allBlank t) := by
  rw [allBlank, allBlank, allBlank, List.all_append]

/-- A text is what is left after its first blanks, after those blanks. -/
theorem dropWhile_blank (s : List Char) : ∃ lead, s = lead ++ s.dropWhile isBlank ∧ allBlank lead = true := by
  refine ⟨s.takeWhile isBlank, (List.takeWhile_append_dropWhile).symm, ?_⟩
  rw [allBlank_iff]
  intro c hc
  exact List.mem_takeWhile_imp hc

/-- A text is what is left without the blanks at its start, after those blanks. -/
theorem exists_trimStart (s : List Char) : ∃ lead, s = lead ++ trimStart s ∧ allBlank lead = true :=
  dropWhile_blank s

/-- A text is what is left without the blanks at its end, in front of those blanks. -/
theorem exists_trimEnd (s : List Char) : ∃ trail, s = trimEnd s ++ trail ∧ allBlank trail = true := by
  obtain ⟨lead, hs, hb⟩ := dropWhile_blank s.reverse
  refine ⟨lead.reverse, ?_, ?_⟩
  · have h := congrArg List.reverse hs
    rw [List.reverse_reverse, List.reverse_append] at h
    exact h
  · rw [allBlank_iff] at hb ⊢
    intro c hc
    exact hb c (List.mem_reverse.1 hc)

/-- A text of which trimming the end leaves nothing is blank. -/
theorem allBlank_of_trimEnd_eq_nil {s : List Char} (h : trimEnd s = []) : allBlank s = true := by
  obtain ⟨trail, hs, hb⟩ := exists_trimEnd s
  rw [h, List.nil_append] at hs
  rw [hs]
  exact hb

/-- What stands before the first closing brace. -/
theorem takeWhile_closing {s : List Char} (h : '}' ∉ s) (rest : List Char) :
    (s ++ '}' :: rest).takeWhile (· ≠ '}') = s := by
  rw [List.takeWhile_append_of_pos, List.takeWhile_cons_of_neg, List.append_nil]
  · simp
  · intro c hc
    rw [decide_eq_true_eq]
    rintro rfl
    exact h hc

/-- Trimming leaves nothing of a blank text, and of no other. -/
theorem trim_eq_nil_iff {s : List Char} : trim s = [] ↔ allBlank s = true := by
  constructor
  · intro h
    obtain ⟨lead, hs, hlead⟩ := exists_trimStart s
    rw [hs, allBlank_append, hlead, allBlank_of_trimEnd_eq_nil h, Bool.and_self]
  · intro h
    have hstart : trimStart s = [] := List.dropWhile_eq_nil_iff.2 ((allBlank_iff s).1 h)
    rw [trim, hstart]
    rfl

/-! ## Pieces -/

/-- A text without marks is one piece. -/
theorem splitWhere_of_forall {isMark : Char → Bool} {s : List Char} (h : ∀ c ∈ s, isMark c = false) :
    splitWhere isMark s = [s] := by
  induction s with
  | nil => rfl
  | cons c rest ih =>
    have hc : isMark c = false := h c (by simp)
    simp [splitWhere, hc, ih (fun d hd => h d (by simp [hd]))]

/-- Each piece is made of characters of the text. -/
theorem mem_of_mem_splitWhere {isMark : Char → Bool} {s piece : List Char} (h : piece ∈ splitWhere isMark s) :
    ∀ c ∈ piece, c ∈ s := by
  induction s generalizing piece with
  | nil =>
    rw [splitWhere, List.mem_singleton] at h
    rw [h]
    exact fun c hc => hc
  | cons d rest ih =>
    intro c hc
    rw [splitWhere] at h
    split at h
    · rcases List.mem_cons.1 h with rfl | h
      · exact absurd hc List.not_mem_nil
      · exact List.mem_cons_of_mem d (ih h c hc)
    · split at h
      · rw [List.mem_singleton.1 h] at hc
        exact List.mem_singleton.1 hc ▸ List.mem_cons_self
      · rename_i first others hsplit
        rcases List.mem_cons.1 h with rfl | h
        · rcases List.mem_cons.1 hc with rfl | hc
          · exact List.mem_cons_self
          · exact List.mem_cons_of_mem d (ih (hsplit ▸ List.mem_cons_self) c hc)
        · exact List.mem_cons_of_mem d (ih (hsplit ▸ List.mem_cons_of_mem _ h) c hc)

/-- There is a last piece. -/
theorem exists_splitWhere_concat (isMark : Char → Bool) (s : List Char) :
    ∃ pieces last, splitWhere isMark s = pieces ++ [last] :=
  ⟨_, _, (List.dropLast_concat_getLast (splitWhere_ne_nil isMark s)).symm⟩

/-- The last piece of a text and the first piece of what follows it are one piece of the whole. -/
theorem splitWhere_append {isMark : Char → Bool} {s t last first : List Char} {before after : List (List Char)}
    (hs : splitWhere isMark s = before ++ [last]) (ht : splitWhere isMark t = first :: after) :
    splitWhere isMark (s ++ t) = before ++ (last ++ first) :: after := by
  induction s generalizing before last with
  | nil =>
    cases before with
    | nil =>
      cases hs
      exact ht
    | cons piece pieces =>
      have hlength := congrArg List.length hs
      simp [splitWhere] at hlength
  | cons c rest ih =>
    obtain ⟨pieces, final, hrest⟩ := exists_splitWhere_concat isMark rest
    have hwhole := ih hrest
    rw [splitWhere, hrest] at hs
    rw [List.cons_append, splitWhere, hwhole]
    by_cases hc : isMark c = true
    · rw [if_pos hc] at hs ⊢
      have hs : [] :: pieces ++ [final] = before ++ [last] := hs
      obtain ⟨rfl, hlast⟩ := List.append_inj' hs rfl
      cases hlast
      rfl
    · rw [if_neg hc] at hs ⊢
      cases pieces with
      | nil =>
        have hs : [] ++ [c :: final] = before ++ [last] := hs
        obtain ⟨rfl, hlast⟩ := List.append_inj' hs rfl
        cases hlast
        rfl
      | cons piece pieces =>
        have hs : (c :: piece) :: pieces ++ [final] = before ++ [last] := hs
        obtain ⟨rfl, hlast⟩ := List.append_inj' hs rfl
        cases hlast
        rfl

/-- Where a text is cut, the pieces of the two parts are those of the whole. -/
theorem splitWhere_append_cons {isMark : Char → Bool} {c : Char} (hc : isMark c = true) (s t : List Char) :
    splitWhere isMark (s ++ c :: t) = splitWhere isMark s ++ splitWhere isMark t := by
  obtain ⟨before, last, hs⟩ := exists_splitWhere_concat isMark s
  have ht : splitWhere isMark (c :: t) = [] :: splitWhere isMark t := by rw [splitWhere, if_pos hc]
  rw [splitWhere_append hs ht, hs, List.append_nil, List.append_assoc, List.singleton_append]

/-- Joining follows the pieces. -/
theorem joinWith_cons_cons (separator piece next : List Char) (rest : List (List Char)) :
    joinWith separator (piece :: next :: rest) = piece ++ (separator ++ joinWith separator (next :: rest)) := by
  simp only [joinWith, List.intercalate_cons_cons, List.append_assoc]

theorem joinWith_singleton (separator piece : List Char) : joinWith separator [piece] = piece := by
  simp only [joinWith, List.intercalate_singleton]

theorem joinWith_append (separator : List Char) {pieces others : List (List Char)} (h : pieces ≠ [])
    (hothers : others ≠ []) :
    joinWith separator (pieces ++ others) = joinWith separator pieces ++ (separator ++ joinWith separator others) := by
  induction pieces with
  | nil => exact absurd rfl h
  | cons first rest ih =>
    cases rest with
    | nil =>
      obtain ⟨next, behind, rfl⟩ := List.exists_cons_of_ne_nil hothers
      rw [List.singleton_append, joinWith_cons_cons, joinWith_singleton]
    | cons next behind =>
      have hrest := ih (List.cons_ne_nil next behind)
      rw [List.cons_append] at hrest
      rw [List.cons_append, List.cons_append, joinWith_cons_cons, joinWith_cons_cons, hrest, List.append_assoc,
        List.append_assoc]

theorem joinWith_concat (separator piece : List Char) {pieces : List (List Char)} (h : pieces ≠ []) :
    joinWith separator (pieces ++ [piece]) = joinWith separator pieces ++ (separator ++ piece) := by
  rw [joinWith_append separator h (List.cons_ne_nil _ _), joinWith_singleton]

end Manuscript.Text
