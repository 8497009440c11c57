/-!
# Lines and pieces

Cutting a text at the characters of a class and putting the pieces together again. Main statements: no piece holds a
character of the class (`not_mem_of_mem_splitWhere`), and the pieces at one character, joined by it, are the text
(`joinWith_splitWhere`).
-/

namespace Manuscript.Text

/-- The pieces of a text between the characters of a class: one more than there are such characters. -/
def splitWhere (isMark : Char → Bool) : List Char → List (List Char)
  | [] => [[]]
  | c :: rest =>
    if isMark c then [] :: splitWhere isMark rest
    else
      match splitWhere isMark rest with
      | [] => [[c]]
      | piece :: pieces => (c :: piece) :: pieces

/-- The non-empty pieces of a text between the characters of a class. -/
def words (isGap : Char → Bool) (s : List Char) : List (List Char) :=
  (splitWhere isGap s).filter (fun word => !word.isEmpty)

/-- The pieces, each followed by the separator but the last. -/
def joinWith (separator : List Char) (pieces : List (List Char)) : List Char :=
  separator.intercalate pieces

/-- A line without the carriage return at its end. -/
def dropReturn (line : List Char) : List Char :=
  if line.getLast? = some '\r' then line.dropLast else line

/-- The lines of a text: an end of line is a line feed, or a carriage return and a line feed, and the last line may
lack it. -/
def lines (s : List Char) : List (List Char) :=
  let pieces := splitWhere (· == '\n') s
  let ended := pieces.dropLast.map dropReturn
  match pieces.getLast? with
  | some [] => ended
  | some last => ended ++ [last]
  | none => ended

/-- The last `count` lines of a text, joined by line feeds. -/
def lastLines (count : Nat) (s : List Char) : List Char :=
  let all := lines s
  joinWith ['\n'] (all.drop (all.length - count))

/-- There is always a piece. -/
theorem splitWhere_ne_nil (isMark : Char → Bool) (s : List Char) : splitWhere isMark s ≠ [] := by
  cases s with
  | nil => simp [splitWhere]
  | cons c rest =>
    simp only [splitWhere]
    split
    · simp
    · split <;> simp

/-- No piece holds a character at which the text was cut. -/
theorem not_mem_of_mem_splitWhere {isMark : Char → Bool} {s piece : List Char} (h : piece ∈ splitWhere isMark s) :
    ∀ c ∈ piece, isMark c = false := by
  induction s generalizing piece with
  | nil => simp_all [splitWhere]
  | cons d rest ih =>
    simp only [splitWhere] at h
    split at h
    · rcases List.mem_cons.1 h with rfl | h
      · simp
      · exact ih h
    · rename_i hd
      split at h
      · rcases List.mem_singleton.1 h with rfl
        simpa using hd
      · rename_i first others hs
        rcases List.mem_cons.1 h with rfl | h
        · have := ih (hs ▸ List.mem_cons_self ..)
          intro c hc
          rcases List.mem_cons.1 hc with rfl | hc
          · simpa using hd
          · exact this c hc
        · exact ih (hs ▸ List.mem_cons_of_mem _ h)

/-- The pieces of a text cut at one character, joined by that character, are the text. -/
theorem joinWith_splitWhere (mark : Char) (s : List Char) : joinWith [mark] (splitWhere (· == mark) s) = s := by
  induction s with
  | nil => simp [splitWhere, joinWith]
  | cons c rest ih =>
    simp only [splitWhere]
    split
    · rename_i hc
      cases hs : splitWhere (· == mark) rest with
      | nil => exact absurd hs (splitWhere_ne_nil _ _)
      | cons piece pieces =>
        rw [hs] at ih
        simp only [joinWith] at ih ⊢
        rw [List.intercalate_cons_cons, ih]
        simpa using (beq_iff_eq.1 hc).symm
    · cases hs : splitWhere (· == mark) rest with
      | nil => exact absurd hs (splitWhere_ne_nil _ _)
      | cons piece pieces =>
        rw [hs] at ih
        simp only [joinWith] at ih ⊢
        cases pieces with
        | nil => simp only [List.intercalate_singleton] at ih ⊢; rw [ih]
        | cons p ps => rw [List.intercalate_cons_cons] at ih ⊢; simp [← ih]

end Manuscript.Text
