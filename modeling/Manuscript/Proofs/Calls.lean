import Manuscript.Proofs.Markup
import Manuscript.Proofs.Reader

/-!
# Calls of commands

A call is a backslash, the name of a command, and an argument between braces, as in `\label{fig:cat}`. `calls` lists
the calls of some commands wherever they stand in a text. A text is generated piece by piece, so the calls are found
here by a reader that keeps what it has seen of a call, and that does some bookkeeping for each call that is
complete. The bookkeeping of a text that the reader accepts is that of its calls (`foldlM_calls_of_read`).

The reader is strict where a text may still change: it refuses to have a call put together by a marker that goes
away, and an argument with blanks in it.
-/

namespace Manuscript

namespace Tex

/-- A call: the name of the command and the argument. -/
abbrev Call := List Char × List Char

/-- The call of one of the given commands that a text starts with. -/
def callAt? (names : List (List Char)) : List Char → Option Call
  | '\\' :: rest =>
    match rest.dropWhile Char.isAlpha with
    | '{' :: more =>
      if names.contains (rest.takeWhile Char.isAlpha) && more.contains '}' then
        some (rest.takeWhile Char.isAlpha, more.takeWhile (· ≠ '}'))
      else none
    | _ => none
  | _ => none

/-- The calls of the given commands in a text, at whatever place they start. -/
def calls (names : List (List Char)) : List Char → List Call
  | [] => []
  | c :: rest => (callAt? names (c :: rest)).toList ++ calls names rest

/-- The commands that begin and end an environment. -/
def environmentCalls : List (List Char) :=
  ["begin".toList, "end".toList]

/-- The command that sets a label. -/
def labelCalls : List (List Char) :=
  ["label".toList]

/-- Whether a character is one of the markers around text that stays as it is. -/
def isMarker (c : Char) : Bool :=
  c == verbatimOpen || c == verbatimClose

variable {names : List (List Char)}

/-- A call begins with a backslash. -/
theorem calls_cons_of_ne {c : Char} (h : c ≠ '\\') (s : List Char) : calls names (c :: s) = calls names s := by
  rw [calls, callAt?]
  · rfl
  · rintro rest heq
    exact h (List.cons.inj heq).1

/-- Text without a backslash in front has no call. -/
theorem calls_append_of_not_mem {w : List Char} (h : '\\' ∉ w) (s : List Char) :
    calls names (w ++ s) = calls names s := by
  induction w with
  | nil => rfl
  | cons c rest ih =>
    rw [List.mem_cons, not_or] at h
    rw [List.cons_append, calls_cons_of_ne (Ne.symm h.1), ih h.2]

/-- A name has no backslash. -/
theorem backslash_not_mem_of_letters {w : List Char} (h : ∀ c ∈ w, c.isAlpha = true) : '\\' ∉ w :=
  fun hmem => absurd (h _ hmem) (by decide)

/-- The name of a command is what stands before the first other character. -/
theorem takeWhile_letters {w : List Char} (hw : ∀ c ∈ w, c.isAlpha = true) {c : Char} (hc : c.isAlpha = false)
    (s : List Char) : (w ++ c :: s).takeWhile Char.isAlpha = w := by
  rw [List.takeWhile_append_of_pos hw, List.takeWhile_cons_of_neg (by rw [hc]; exact Bool.false_ne_true),
    List.append_nil]

/-- Behind the name of a command comes the first other character. -/
theorem dropWhile_letters {w : List Char} (hw : ∀ c ∈ w, c.isAlpha = true) {c : Char} (hc : c.isAlpha = false)
    (s : List Char) : (w ++ c :: s).dropWhile Char.isAlpha = c :: s := by
  rw [List.dropWhile_append_of_pos hw, List.dropWhile_cons_of_neg (by rw [hc]; exact Bool.false_ne_true)]

/-- A name that no letter follows, and that is not one of the names or has no argument, starts no call. -/
theorem calls_name {w : List Char} (hw : ∀ c ∈ w, c.isAlpha = true) {c : Char} (hc : c.isAlpha = false)
    (hcall : c = '{' → names.contains w = false) (s : List Char) :
    calls names ('\\' :: (w ++ c :: s)) = calls names (c :: s) := by
  have hnone : callAt? names ('\\' :: (w ++ c :: s)) = none := by
    simp only [callAt?, dropWhile_letters hw hc, takeWhile_letters hw hc]
    split
    · rename_i more heq
      rw [hcall (List.cons.inj heq).1]
      rfl
    · rfl
  rw [calls, hnone, calls_append_of_not_mem (backslash_not_mem_of_letters hw)]
  rfl

/-- A name at the end of a text starts no call. -/
theorem calls_name_end {w : List Char} (hw : ∀ c ∈ w, c.isAlpha = true) : calls names ('\\' :: w) = [] := by
  have hdrop : w.dropWhile Char.isAlpha = [] := List.dropWhile_eq_nil_iff.2 hw
  have hrest : calls names (w ++ []) = calls names [] := calls_append_of_not_mem (backslash_not_mem_of_letters hw) []
  rw [List.append_nil] at hrest
  rw [calls, hrest]
  simp only [callAt?, hdrop]
  rfl

/-- A text that starts with a name and an argument starts with a call. -/
theorem callAt?_call {w a : List Char} (hw : ∀ c ∈ w, c.isAlpha = true) (hmem : names.contains w = true) (hend : '}' ∉
    a) (s : List Char) : callAt? names ('\\' :: (w ++ '{' :: (a ++ '}' :: s))) = some (w, a) := by
  have hbrace : Char.isAlpha '{' = false := by decide
  simp only [callAt?, dropWhile_letters hw hbrace, takeWhile_letters hw hbrace, hmem, Text.takeWhile_closing hend]
  simp

/-- A name with an argument is one call. -/
theorem calls_call {w a : List Char} (hw : ∀ c ∈ w, c.isAlpha = true) (hmem : names.contains w = true) (ha : '\\' ∉ a)
    (hend : '}' ∉ a) (s : List Char) :
    calls names ('\\' :: (w ++ '{' :: (a ++ '}' :: s))) = (w, a) :: calls names s := by
  rw [calls, callAt?_call hw hmem hend, calls_append_of_not_mem (backslash_not_mem_of_letters hw),
    calls_cons_of_ne (by decide), calls_append_of_not_mem ha, calls_cons_of_ne (by decide)]
  rfl

end Tex

/-! ## The reader -/

/-- What has been seen of a call: nothing, the name up to here, or the name and the argument up to here. After a
marker behind a name it is not sure whether the name goes on. -/
inductive CallMode where
  | plain
  | name (letters : List Char)
  | argument (letters text : List Char)
  | unsure

namespace CallMode

/-- Whether a call may still break off here. -/
def isOpen : CallMode → Bool
  | .argument _ _ => false
  | _ => true

/-- The text that the mode remembers. -/
def text : CallMode → List Char
  | .plain | .unsure => []
  | .name w => '\\' :: w
  | .argument w a => '\\' :: (w ++ '{' :: a)

/-- What is being read of a call, written out. -/
theorem text_argument (w a s : List Char) : (argument w a).text ++ s = '\\' :: (w ++ '{' :: (a ++ s)) := by
  rw [text, List.cons_append, List.append_assoc, List.cons_append]

/-- What holds of the text that the mode remembers. -/
def Sound (names : List (List Char)) : CallMode → Prop
  | .plain | .unsure => True
  | .name w => ∀ c ∈ w, c.isAlpha = true
  | .argument w a => (∀ c ∈ w, c.isAlpha = true) ∧ names.contains w = true ∧ '\\' ∉ a ∧ '}' ∉ a

/-- The mode after a character, outside of an argument. -/
def next (names : List (List Char)) (mode : CallMode) (c : Char) : CallMode :=
  match mode with
  | .name w =>
    if c.isAlpha then .name (w ++ [c])
    else if c = '{' then if names.contains w then .argument w [] else .plain
    else if c = '\\' then .name []
    else if Tex.isMarker c then .unsure
    else .plain
  | .unsure => if c = '\\' then .name [] else if Tex.isMarker c then .unsure else .plain
  | _ => if c = '\\' then .name [] else .plain

end CallMode

/-- The reader of the calls of some commands, which keeps account of each call. -/
def callReader {τ : Type} (names : List (List Char)) (enter : τ → Tex.Call → Option τ) : Reader (CallMode × τ) where
  step
    | (.argument w a, t), c =>
      if c = '}' then (enter t (w, a)).map (fun t' => (.plain, t'))
      else if c = '\\' || c = '{' || Text.isBlank c || Tex.isMarker c then none
      else some (.argument w (a ++ [c]), t)
    | (.unsure, t), c => if c.isAlpha || c = '{' then none else some (CallMode.unsure.next names c, t)
    | (mode, t), c => some (mode.next names c, t)

section Reader

variable {τ : Type} {names : List (List Char)} {enter : τ → Tex.Call → Option τ}

/-- The character behind plain text leaves a state that can occur. -/
theorem sound_plainNext (c : Char) : (CallMode.plain.next names c).Sound names := by
  simp only [CallMode.next]
  split
  · exact fun _ hmem => absurd hmem List.not_mem_nil
  · trivial

/-- Outside of a name and an argument, nothing but a backslash starts a call. -/
theorem calls_plainNext (c : Char) (s : List Char) :
    Tex.calls names (c :: s) = Tex.calls names ((CallMode.plain.next names c).text ++ s) := by
  simp only [CallMode.next]
  split
  · rename_i hc
    rw [hc]
    rfl
  · rename_i hc
    exact Tex.calls_cons_of_ne hc s

/-- In a name, the calls of what is remembered and what is still to come stay the same. -/
theorem calls_nameNext {w : List Char} (hw : ∀ c ∈ w, c.isAlpha = true) (c : Char) :
    ((CallMode.name w).next names c).Sound names ∧
      ∀ s, Tex.calls names ('\\' :: (w ++ c :: s)) = Tex.calls names (((CallMode.name w).next names c).text ++ s) := by
  simp only [CallMode.next]
  by_cases hletter : c.isAlpha = true
  · rw [if_pos hletter]
    refine ⟨?_, fun s => by rw [CallMode.text, List.cons_append, List.append_assoc]; rfl⟩
    intro d hd
    rcases List.mem_append.1 hd with hd | hd
    · exact hw d hd
    · rw [List.mem_singleton.1 hd]
      exact hletter
  rw [if_neg hletter]
  rw [Bool.not_eq_true] at hletter
  by_cases hbrace : c = '{'
  · subst hbrace
    rw [if_pos rfl]
    by_cases hmem : names.contains w = true
    · rw [if_pos hmem]
      refine ⟨⟨hw, hmem, List.not_mem_nil, List.not_mem_nil⟩, fun s => ?_⟩
      rw [CallMode.text, List.cons_append, List.append_assoc]
      rfl
    · rw [if_neg hmem]
      refine ⟨trivial, fun s => ?_⟩
      rw [Tex.calls_name hw hletter (fun _ => by rwa [Bool.not_eq_true] at hmem), Tex.calls_cons_of_ne (by decide)]
      rfl
  rw [if_neg hbrace]
  have hdone : ∀ s, Tex.calls names ('\\' :: (w ++ c :: s)) = Tex.calls names (c :: s) :=
    Tex.calls_name hw hletter (fun h => absurd h hbrace)
  by_cases hback : c = '\\'
  · rw [if_pos hback]
    refine ⟨fun _ hmem => absurd hmem List.not_mem_nil, fun s => ?_⟩
    rw [hdone, hback]
    rfl
  · rw [if_neg hback]
    split
    · exact ⟨trivial, fun s => by rw [hdone, Tex.calls_cons_of_ne hback]; rfl⟩
    · exact ⟨trivial, fun s => by rw [hdone, Tex.calls_cons_of_ne hback]; rfl⟩

/-- One step of the reader: what it remembers stays sound, and the account of the calls that are still to come stays
the same. -/
theorem foldlM_calls_of_step {mode mode' : CallMode} {t t' : τ} {c : Char}
    (h : (callReader names enter).step (mode, t) c = some (mode', t')) (hmode : mode.Sound names) :
    mode'.Sound names ∧ ∀ s, (Tex.calls names (mode.text ++ c :: s)).foldlM enter t =
      (Tex.calls names (mode'.text ++ s)).foldlM enter t' := by
  cases mode with
  | plain =>
    obtain ⟨rfl, rfl⟩ := Prod.mk.inj (Option.some.inj h)
    exact ⟨sound_plainNext c, fun s => by rw [CallMode.text, List.nil_append, calls_plainNext]⟩
  | name w =>
    obtain ⟨rfl, rfl⟩ := Prod.mk.inj (Option.some.inj h)
    have hnext : ((CallMode.name w).next names c).Sound names ∧ _ := calls_nameNext hmode c
    exact ⟨hnext.1, fun s => by rw [← hnext.2 s]; rfl⟩
  | argument w a =>
    obtain ⟨hw, hmem, ha, hend⟩ := hmode
    simp only [callReader] at h
    by_cases hc : c = '}'
    · subst hc
      rw [if_pos rfl] at h
      obtain ⟨t₁, ht₁, heq⟩ := Option.map_eq_some_iff.1 h
      obtain ⟨rfl, rfl⟩ := Prod.mk.inj heq
      refine ⟨trivial, fun s => ?_⟩
      have hcall := Tex.calls_call hw hmem ha hend s
      rw [CallMode.text_argument, hcall, List.foldlM_cons, ht₁]
      rfl
    · rw [if_neg hc] at h
      split at h
      · cases h
      · rename_i hplain
        obtain ⟨rfl, rfl⟩ := Prod.mk.inj (Option.some.inj h)
        simp only [Bool.or_eq_true, decide_eq_true_eq, not_or] at hplain
        refine ⟨⟨hw, hmem, ?_, ?_⟩, fun s => ?_⟩
        · rw [List.mem_append, List.mem_singleton, not_or]
          exact ⟨ha, Ne.symm hplain.1.1.1⟩
        · rw [List.mem_append, List.mem_singleton, not_or]
          exact ⟨hend, Ne.symm hc⟩
        · rw [CallMode.text_argument, CallMode.text_argument, List.append_assoc]
          rfl
  | unsure =>
    simp only [callReader] at h
    split at h
    · cases h
    · rename_i hc
      obtain ⟨rfl, rfl⟩ := Prod.mk.inj (Option.some.inj h)
      rw [CallMode.text, CallMode.next]
      by_cases hback : c = '\\'
      · rw [if_pos hback, hback]
        exact ⟨fun _ hmem => absurd hmem List.not_mem_nil, fun s => rfl⟩
      · rw [if_neg hback]
        split <;> exact ⟨trivial, fun s => by rw [List.nil_append, Tex.calls_cons_of_ne hback]; rfl⟩

/-- Reading enters the calls of the text, those still open counted with what is behind. -/
theorem foldlM_calls_of_readFrom {mode mode' : CallMode} {t t' : τ} {s : List Char}
    (h : (callReader names enter).read (mode, t) s = some (mode', t')) (hmode : mode.Sound names) :
    mode'.Sound names ∧ (Tex.calls names (mode.text ++ s)).foldlM enter t =
      (Tex.calls names mode'.text).foldlM enter t' := by
  induction s generalizing mode t with
  | nil =>
    obtain ⟨rfl, rfl⟩ := Prod.mk.inj (Option.some.inj h)
    exact ⟨hmode, by rw [List.append_nil]⟩
  | cons c rest ih =>
    rw [Reader.read_cons] at h
    obtain ⟨⟨mode₁, t₁⟩, hstep, hrest⟩ := Option.bind_eq_some_iff.1 h
    obtain ⟨hsound, hcalls⟩ := foldlM_calls_of_step hstep hmode
    obtain ⟨hsound', hcalls'⟩ := ih hrest hsound
    exact ⟨hsound', by rw [hcalls, hcalls']⟩

/-- The account that the reader has of a text at whose end no argument is open is that of its calls. -/
theorem foldlM_calls_of_read {mode : CallMode} {t t' : τ} {s : List Char}
    (h : (callReader names enter).read (.plain, t) s = some (mode, t')) (hopen : mode.isOpen = true) :
    (Tex.calls names s).foldlM enter t = some t' := by
  obtain ⟨hsound, hcalls⟩ := foldlM_calls_of_readFrom h trivial
  have hnone : Tex.calls names mode.text = [] := by
    cases mode with
    | plain => rfl
    | unsure => rfl
    | name w => exact Tex.calls_name_end hsound
    | argument w a => cases hopen
  rw [hnone] at hcalls
  exact hcalls

end Reader

end Manuscript
