import Mathlib.Data.List.Count
import Manuscript.Proofs.CallLaw
import Manuscript.Proofs.Rendering

/-!
# Labels in generated text

The labels that stand in the text of a document are those that its rendering lists. So to count how often a label is
set it is enough to count in the lists, whatever else the text holds (`occurrences_label_eq_count`).
-/

namespace Manuscript

namespace Text

/-- The number of places in a text at which the given text starts. -/
def occurrences (needle : List Char) : List Char → Nat
  | [] => 0
  | c :: rest => (if needle.isPrefixOf (c :: rest) then 1 else 0) + occurrences needle rest

end Text

namespace Tex

/-- The call that sets a label. -/
def labelCall (l : Label) : Call :=
  ("label".toList, labelName l.1 l.2)

/-- An id that a label can hold: no blank, no brace, no backslash and no marker. -/
def LabelId (id : String) : Prop :=
  ∀ c ∈ id.toList, Text.isBlank c = false ∧ c ≠ '\\' ∧ c ≠ '{' ∧ c ≠ '}' ∧ isMarker c = false

/-! ## Calls and occurrences -/

/-- A text starts with a call when it starts with the backslash, the name, and the argument between braces. -/
theorem callAt?_eq_some_iff {names : List (List Char)} {s w a : List Char} :
    callAt? names s = some (w, a) ↔
      (∀ c ∈ w, c.isAlpha = true) ∧ names.contains w = true ∧ '}' ∉ a ∧
      ∃ t, s = '\\' :: (w ++ '{' :: (a ++ '}' :: t)) := by
  constructor
  · intro h
    unfold callAt? at h
    split at h
    · rename_i rest
      split at h
      · rename_i more hdrop
        split at h
        · rename_i hcond
          obtain ⟨rfl, rfl⟩ := Prod.mk.inj (Option.some.inj h)
          rw [Bool.and_eq_true] at hcond
          obtain ⟨inner, t, rfl, hinner⟩ := List.eq_append_cons_of_mem (List.contains_iff_mem.1 hcond.2)
          rw [Text.takeWhile_closing hinner]
          refine ⟨fun c hc => List.mem_takeWhile_imp hc, hcond.1, hinner, t, ?_⟩
          rw [← hdrop, List.takeWhile_append_dropWhile]
        · cases h
      · cases h
    · cases h
  · rintro ⟨hw, hmem, hend, t, rfl⟩
    exact callAt?_call hw hmem hend t

/-- A character that is in neither part of a label is not in the label. -/
theorem not_mem_labelName {kind : ReferenceKind} {id : String} {c : Char} (hpre : c ∉ kind.labelPrefix.toList)
    (hcolon : c ≠ ':') (hid : c ∉ id.toList) : c ∉ labelName kind id := by
  rw [labelName, List.mem_append, List.mem_cons, not_or, not_or]
  exact ⟨hpre, hcolon, hid⟩

/-- A text starts with a label when it starts with the call for it. -/
theorem label_prefix_iff {kind : ReferenceKind} {id : String} (hid : '}' ∉ id.toList) (s : List Char) :
    (label kind id).isPrefixOf s = true ↔ callAt? labelCalls s = some (labelCall (kind, id)) := by
  have hname : '}' ∉ labelName kind id := not_mem_labelName (by cases kind <;> decide) (by decide) hid
  have htext : ∀ t, label kind id ++ t = '\\' :: ("label".toList ++ '{' :: (labelName kind id ++ '}' :: t)) := by
    intro t
    simp [label, command]
  rw [List.isPrefixOf_iff_prefix, labelCall, callAt?_eq_some_iff]
  constructor
  · rintro ⟨t, rfl⟩
    exact ⟨by decide, by decide, hname, t, htext t⟩
  · rintro ⟨-, -, -, t, rfl⟩
    exact ⟨t, htext t⟩

/-- A label occurs as often as it is called for. -/
theorem occurrences_label {kind : ReferenceKind} {id : String} (hid : '}' ∉ id.toList) (s : List Char) :
    Text.occurrences (label kind id) s = (calls labelCalls s).count (labelCall (kind, id)) := by
  induction s with
  | nil => rfl
  | cons c rest ih =>
    rw [Text.occurrences, calls, List.count_append, ih]
    congr 1
    by_cases h : (label kind id).isPrefixOf (c :: rest) = true
    · rw [if_pos h, (label_prefix_iff hid _).1 h, Option.toList_some, List.count_singleton_self]
    · rw [if_neg h]
      rw [label_prefix_iff hid] at h
      cases hcall : callAt? labelCalls (c :: rest) with
      | none => rfl
      | some call =>
        rw [hcall, Option.some.injEq] at h
        rw [Option.toList_some, List.count_singleton, if_neg (by simpa using h)]

/-! ## The law of labels -/

/-- The account of labels: the calls so far. -/
def noteCall (noted : List Call) (call : Call) : Option (List Call) :=
  some (noted ++ [call])

/-- Noting calls adds them in order. -/
theorem foldlM_noteCall (l noted : List Call) : l.foldlM noteCall noted = some (noted ++ l) := by
  induction l generalizing noted with
  | nil => rw [List.append_nil]; rfl
  | cons call rest ih =>
    rw [List.foldlM_cons, noteCall, Option.bind_eq_bind, Option.bind_some, ih, List.append_assoc, List.singleton_append]

/-- An argument that may stand in a call is read to its end. -/
theorem callReader_read_argument {τ : Type} {names : List (List Char)} {enter : τ → Call → Option τ} {w a b : List Char}
    (hb : ∀ c ∈ b, Text.isBlank c = false ∧ c ≠ '\\' ∧ c ≠ '{' ∧ c ≠ '}' ∧ isMarker c = false) (t : τ) :
    (callReader names enter).read (.argument w a, t) b = some (.argument w (a ++ b), t) := by
  induction b generalizing a with
  | nil => rw [List.append_nil, Reader.read_nil]
  | cons c rest ih =>
    obtain ⟨hblank, hback, hopening, hclosing, hmarker⟩ := hb c List.mem_cons_self
    have hstep : (callReader names enter).step (.argument w a, t) c = some (.argument w (a ++ [c]), t) := by
      simp [callReader, hblank, hback, hopening, hclosing, hmarker]
    rw [Reader.read_cons, hstep, Option.bind_some, ih (fun d hd => hb d (List.mem_cons_of_mem c hd)), List.append_assoc]
    rfl

/-- Markup is read with its labels added to the account. -/
theorem labelLaw :
    CallLaw labelCalls noteCall (fun l noted => noted ++ l.map labelCall) (Quiet labelCalls) LabelId where
  effect_nil := List.append_nil
  effect_append l k noted := by rw [List.map_append, List.append_assoc]
  known := List.mem_cons_of_mem _ List.mem_cons_self
  environment := by
    intro name hname noted
    refine ⟨noted, ?_⟩
    simp only [environmentNames, List.mem_cons, List.not_mem_nil, or_false] at hname
    rcases hname with rfl | rfl | rfl | rfl | rfl | rfl | rfl | rfl | rfl | rfl <;> exact ⟨rfl, fun _ => rfl⟩
  label := by
    intro kind id hid noted
    have hopening : (callReader labelCalls noteCall).read (.plain, noted) "\\label\x7b".toList =
        some (.argument "label".toList [], noted) := rfl
    have hpre : ∀ c ∈ kind.labelPrefix.toList ++ [':'],
        Text.isBlank c = false ∧ c ≠ '\\' ∧ c ≠ '{' ∧ c ≠ '}' ∧ isMarker c = false := by
      cases kind <;> decide
    have hname : ∀ c ∈ labelName kind id, Text.isBlank c = false ∧ c ≠ '\\' ∧ c ≠ '{' ∧ c ≠ '}' ∧
        isMarker c = false := by
      intro c hc
      have hsplit : labelName kind id = kind.labelPrefix.toList ++ [':'] ++ id.toList := by
        simp [labelName]
      rw [hsplit, List.mem_append] at hc
      exact hc.elim (hpre c) (hid c)
    have htext : label kind id = "\\label\x7b".toList ++ (labelName kind id ++ ['}']) := by
      simp [label, command]
    rw [htext, (callReader labelCalls noteCall).read_append_of_eq hopening,
      (callReader labelCalls noteCall).read_append_of_eq (callReader_read_argument hname noted)]
    rfl
  plain _ h := h

/-- The labels of markup are those that its derivation lists, in the same order. -/
theorem calls_of_markup {e : Ending} {s : List Char} {l : List Label} (hs : Markup (Quiet labelCalls) LabelId e s l) :
    calls labelCalls s = l.map labelCall := by
  have h := labelLaw.foldlM_calls hs []
  rw [foldlM_noteCall, Option.some.injEq] at h
  exact h

/-- Two labels are set by one command only if they are one. -/
theorem labelCall_injective : Function.Injective labelCall := by
  rintro ⟨kind, id⟩ ⟨kind', id'⟩ h
  have hname : labelName kind id = labelName kind' id' := (Prod.mk.inj h).2
  -- The namespaces differ in a character before the colon, or are the same.
  have hids : kind = kind' ∧ id.toList = id'.toList := by
    cases kind <;> cases kind' <;> simp_all [labelName, ReferenceKind.labelPrefix]
  rw [hids.1, String.toList_injective hids.2]

/-- In markup a label occurs as often as its derivation lists it. -/
theorem occurrences_label_eq_count {e : Ending} {s : List Char} {l : List Label}
    (hs : Markup (Quiet labelCalls) LabelId e s l) {kind : ReferenceKind} {id : String} (hid : LabelId id) :
    Text.occurrences (label kind id) s = l.count (kind, id) := by
  have hclosing : '}' ∉ id.toList := fun hc => (hid _ hc).2.2.2.1 rfl
  rw [occurrences_label hclosing, calls_of_markup hs, List.count_map_of_injective _ _ labelCall_injective]

end Tex

end Manuscript
