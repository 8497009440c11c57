import Mathlib.Tactic.IntervalCases
import Manuscript.Json.Parser
import Manuscript.Json.Printer

/-!
# JSON values and their text

The text of a value is read back as that value (`parse?_print`), whatever its strings hold, so two values with one
text are equal. It is shown in the two steps in which a text is read: the text is cut into the tokens of the value
(`reads_print`), and these are put together again (`value?_tokens`).
-/

namespace Manuscript.Json

namespace Token

/-! ## Reading a text token by token -/

/-- Reading `s` gives some tokens, and goes on with `rest`; the fuel that is left is enough for that. -/
def Reads (s : List Char) (tokens : List Token) (rest : List Char) : Prop :=
  ∀ fuel, s.length ≤ fuel → ∃ left, rest.length ≤ left ∧ all? fuel s = (all? left rest).map (tokens ++ ·)

theorem Reads.trans {s t rest : List Char} {first second : List Token} (h : Reads s first t)
    (h' : Reads t second rest) : Reads s (first ++ second) rest := by
  intro fuel hfuel
  obtain ⟨middle, hmiddle, hs⟩ := h fuel hfuel
  obtain ⟨left, hleft, ht⟩ := h' middle hmiddle
  refine ⟨left, hleft, ?_⟩
  rw [hs, ht, Option.map_map]
  simp [Function.comp_def]

/-- One token that is no blank is read, and what is left is shorter. -/
theorem reads_token {s : List Char} {token : Token} {rest : List Char} {c : Char} {tail : List Char}
    (hs : s = c :: tail) (hgap : isGap c = false) (hshort : rest.length < s.length)
    (h : ∀ fuel, s.length ≤ fuel → next? fuel s = some (token, rest)) : Reads s [token] rest := by
  subst hs
  intro fuel hfuel
  cases fuel with
  | zero => simp at hfuel
  | succ fuel =>
    have hlength : (c :: tail).length = tail.length + 1 := List.length_cons
    refine ⟨fuel, by omega, ?_⟩
    simp [all?, hgap, h (fuel + 1) hfuel]

/-- A text that is read to its end has these tokens. -/
theorem tokens?_of_reads {s : List Char} {tokens : List Token} (h : Reads s tokens []) : tokens? s = some tokens := by
  obtain ⟨left, -, hs⟩ := h s.length (Nat.le_refl _)
  rw [tokens?, hs]
  cases left <;> simp [all?]

/-! ## Strings -/

/-- A hexadecimal digit is read back. -/
theorem hexDigit?_hexDigit : ∀ n < 16, hexDigit? (Printer.hexDigit n) = some n := by
  decide

/-- The escape of a control character names it. -/
theorem hex4?_hexDigit {n : Nat} (h : n < 256) (rest : List Char) :
    hex4? ('0' :: '0' :: Printer.hexDigit (n / 16) :: Printer.hexDigit (n % 16) :: rest) = some (n, rest) := by
  have hzero : hexDigit? '0' = some 0 := by decide
  have hhigh : hexDigit? (Printer.hexDigit (n / 16)) = some (n / 16) := hexDigit?_hexDigit _ (by omega)
  have hlow : hexDigit? (Printer.hexDigit (n % 16)) = some (n % 16) := hexDigit?_hexDigit _ (by omega)
  have hsum : n / 16 * 16 + n % 16 = n := by omega
  simp [hex4?, hzero, hhigh, hlow, hsum]

/-- One character of a string is read back from what stands for it. -/
theorem stringBody?_escapeChar (fuel : Nat) (c : Char) (rest : List Char) :
    stringBody? (fuel + 1) (Printer.escapeChar c ++ rest) =
      (stringBody? fuel rest).map (fun r => (cons c r.1, r.2)) := by
  unfold Printer.escapeChar
  split
  next h => subst h; rfl
  split
  next h => subst h; rfl
  split
  next h => subst h; rfl
  split
  next h => subst h; rfl
  split
  next h => subst h; rfl
  split
  next h => subst h; rfl
  split
  next h => subst h; rfl
  split
  next hcontrol =>
    have hhigh : isHighSurrogate c.toNat = false := by simp [isHighSurrogate]; omega
    have hlow : isLowSurrogate c.toNat = false := by simp [isLowSurrogate]; omega
    simp [stringBody?, hex4?_hexDigit (Nat.lt_trans hcontrol (by decide)), hhigh, hlow, Char.ofNat_toNat]
  next hquote hslash _ _ _ _ _ hcontrol =>
    simp [stringBody?, hslash, hcontrol]

/-- Every character is written as something. -/
theorem length_escapeChar_pos (c : Char) : 0 < (Printer.escapeChar c).length := by
  unfold Printer.escapeChar
  repeat' split
  all_goals simp

/-- The text of a string is read back up to the quotation mark that ends it. -/
theorem stringBody?_flatMap_escapeChar (fuel : Nat) {s : List Char} (h : s.length < fuel) (rest : List Char) :
    stringBody? fuel (s.flatMap Printer.escapeChar ++ '"' :: rest) = some (some s, rest) := by
  induction s generalizing fuel with
  | nil =>
    cases fuel with
    | zero => simp at h
    | succ fuel => rfl
  | cons c s ih =>
    cases fuel with
    | zero => simp at h
    | succ fuel =>
      have hfuel : s.length < fuel := by simpa using h
      rw [List.flatMap_cons, List.append_assoc, stringBody?_escapeChar, ih fuel hfuel]
      rfl

/-- Escaping makes no string shorter. -/
theorem length_le_length_flatMap_escapeChar (s : List Char) : s.length ≤ (s.flatMap Printer.escapeChar).length := by
  induction s with
  | nil => simp
  | cons c s ih =>
    have hc := length_escapeChar_pos c
    simp only [List.flatMap_cons, List.length_append, List.length_cons]
    omega

/-- What is written for a string without text. -/
theorem quotedHalf_eq : Printer.quotedHalf = ['"', '\\', 'u', 'd', '8', '0', '0', '"'] := by
  rfl

/-- A string is read back, and so is one without text. -/
theorem reads_stringText (text : Option String) (rest : List Char) :
    Reads (Printer.stringText text ++ rest) [.string text] rest := by
  cases text with
  | none =>
    rw [Printer.stringText, quotedHalf_eq]
    refine reads_token rfl (by decide) (by simp; omega) ?_
    intro fuel hfuel
    match fuel with
    | 0 => simp at hfuel
    | 1 => simp at hfuel
    | fuel + 2 => rfl
  | some text =>
    have htext : Printer.stringText (some text) ++ rest = '"' ::
        (text.toList.flatMap Printer.escapeChar ++ '"' :: rest) := by
      simp [Printer.stringText, Printer.quoted]
    have hlength := length_le_length_flatMap_escapeChar text.toList
    rw [htext]
    refine reads_token rfl (by decide) (by simp; omega) ?_
    intro fuel hfuel
    simp only [List.length_cons, List.length_append] at hfuel
    have hbody := stringBody?_flatMap_escapeChar fuel (s := text.toList) (by omega) rest
    simp [next?, hbody]

/-! ## Numbers -/

/-- A text that cannot go on a number that stands in front of it: nothing, or what follows a value in an array or an
object. -/
inductive Delimited : List Char → Prop
  | nil : Delimited []
  | comma (rest : List Char) : Delimited (',' :: rest)
  | bracket (rest : List Char) : Delimited (']' :: rest)
  | brace (rest : List Char) : Delimited ('}' :: rest)

/-- A text that does not start with a digit. -/
def NoDigit (rest : List Char) : Prop :=
  ∀ c ∈ rest.head?, digit? c = none

/-- The mark of an exponent is no digit. -/
theorem noDigit_exponent (rest : List Char) : NoDigit ('e' :: rest) := by
  simp [NoDigit, digit?]

/-- What follows a value does not start with a digit. -/
theorem Delimited.noDigit {rest : List Char} (h : Delimited rest) : NoDigit rest := by
  cases h <;> simp [NoDigit, digit?]

/-- What follows a value does not turn an integer into a decimal. -/
theorem Delimited.isDecimal {rest : List Char} (h : Delimited rest) : isDecimal rest = false := by
  cases h <;> rfl

/-- A decimal digit is read back. -/
theorem digit?_digitChar : ∀ d < 10, digit? d.digitChar = some d := by
  decide

/-- The digits of a number, read in front of anything, add up to it. -/
theorem digits_toDigits (n : Nat) (rest : List Char) :
    digits 0 0 (Nat.toDigits 10 n ++ rest) = digits n (Nat.toDigits 10 n).length rest := by
  induction n using Nat.strongRecOn generalizing rest with
  | ind n ih =>
    rw [Nat.toDigits_eq_if (by omega)]
    split
    next hsmall => simp [digits, digit?_digitChar n hsmall]
    next hlarge =>
      have hdigit := digit?_digitChar (n % 10) (by omega)
      have hsum : n / 10 * 10 + n % 10 = n := by omega
      rw [List.append_assoc, ih (n / 10) (by omega), List.singleton_append, digits, hdigit]
      simp [hsum]

/-- No digits are read where there are none. -/
theorem digits_of_noDigit {rest : List Char} (h : NoDigit rest) (value count : Nat) :
    digits value count rest = (value, count, rest) := by
  cases rest with
  | nil => rfl
  | cons c rest =>
    have hc : digit? c = none := h c rfl
    simp [digits, hc]

/-- The digits of a number start with a digit, which is a nought only for nought. -/
theorem toDigits_eq_cons (n : Nat) :
    ∃ d tail, Nat.toDigits 10 n = Nat.digitChar d :: tail ∧ d < 10 ∧ (0 < n → 0 < d) := by
  induction n using Nat.strongRecOn with
  | ind n ih =>
    rw [Nat.toDigits_eq_if (by omega)]
    split
    next hsmall => exact ⟨n, [], rfl, hsmall, id⟩
    next hlarge =>
      obtain ⟨d, tail, htext, hd, hpos⟩ := ih (n / 10) (by omega)
      exact ⟨d, tail ++ [(n % 10).digitChar], by rw [htext, List.cons_append], hd, fun _ => hpos (by omega)⟩

/-- The digits of a number are read back as an exponent or a count. -/
theorem digits_numeral (n : Nat) {rest : List Char} (h : NoDigit rest) :
    ∃ count, digits 0 0 (Nat.toDigits 10 n ++ rest) = (n, count + 1, rest) := by
  have hpos : 0 < (Nat.toDigits 10 n).length := Nat.length_toDigits_pos
  refine ⟨(Nat.toDigits 10 n).length - 1, ?_⟩
  rw [digits_toDigits, digits_of_noDigit h, Nat.sub_add_cancel hpos]

/-- The digits of a number are read back as its integer part. -/
theorem integerPart?_toDigits (n : Nat) {rest : List Char} (h : NoDigit rest) :
    integerPart? (Nat.toDigits 10 n ++ rest) = some (n, rest) := by
  rcases Nat.eq_zero_or_pos n with rfl | hn
  · simp [Nat.toDigits_zero, integerPart?, digits_of_noDigit h]
  · obtain ⟨d, tail, htext, hd, hpos⟩ := toDigits_eq_cons n
    obtain ⟨count, hdigits⟩ := digits_numeral n h
    have hzero : d.digitChar ≠ '0' := by
      have hd' := hpos hn
      interval_cases d <;> decide
    rw [htext, List.cons_append] at hdigits ⊢
    unfold integerPart?
    split
    next heq =>
      simp only [List.cons.injEq] at heq
      exact absurd heq.1 hzero
    · simp [hdigits]

/-- A signed number is read back as an exponent. -/
theorem signedExponent?_integerText (n : Int) {rest : List Char} (h : NoDigit rest) :
    signedExponent? (Printer.integerText n ++ rest) = some (n, rest) := by
  cases n with
  | ofNat n =>
    obtain ⟨d, tail, htext, hd, -⟩ := toDigits_eq_cons n
    obtain ⟨count, hdigits⟩ := digits_numeral n h
    have hminus : d.digitChar ≠ '-' := by interval_cases d <;> decide
    have hplus : d.digitChar ≠ '+' := by interval_cases d <;> decide
    simp only [Printer.integerText]
    rw [htext, List.cons_append] at hdigits ⊢
    unfold signedExponent?
    split
    next heq => exact absurd (List.cons.inj heq).1 hminus
    next heq => exact absurd (List.cons.inj heq).1 hplus
    · rw [hdigits]
      rfl
  | negSucc n =>
    obtain ⟨count, hdigits⟩ := digits_numeral (n + 1) h
    simp only [Printer.integerText, List.cons_append, signedExponent?, hdigits]
    rfl

/-- A text that starts with a digit is read as a number. -/
theorem next?_digitChar {d : Nat} (h : d < 10) (fuel : Nat) (rest : List Char) :
    next? fuel (d.digitChar :: rest) = (number? false (d.digitChar :: rest)).map (fun r => (.number r.1, r.2)) := by
  interval_cases d <;> rfl

/-- Digits are no blanks. -/
theorem isGap_digitChar : ∀ d < 10, isGap d.digitChar = false := by
  decide

/-- Digits that are read as a number without a sign are read as a token. -/
theorem reads_unsigned {n : Nat} {tail rest : List Char} {number : Number}
    (h : number? false (Nat.toDigits 10 n ++ tail) = some (number, rest)) (hshort : rest.length ≤ tail.length) :
    Reads (Nat.toDigits 10 n ++ tail) [.number number] rest := by
  obtain ⟨d, more, htext, hd, -⟩ := toDigits_eq_cons n
  rw [htext, List.cons_append] at h ⊢
  refine reads_token rfl (isGap_digitChar d hd) ?_ ?_
  · simp only [List.length_cons, List.length_append]
    omega
  · intro fuel _
    rw [next?_digitChar hd, h]
    rfl

/-- What is read as a number after a minus sign is read as a token with it. -/
theorem reads_negative {tail rest : List Char} {number : Number} (h : number? true tail = some (number, rest))
    (hshort : rest.length ≤ tail.length) : Reads ('-' :: tail) [.number number] rest := by
  refine reads_token rfl (by decide) (by simp only [List.length_cons]; omega) ?_
  intro fuel _
  simp [next?, h]

/-- Digits with an exponent behind them are read back as that decimal. -/
theorem number?_decimal (negative : Bool) (value : Nat) (exponent : Int) {rest : List Char} (h : NoDigit rest) :
    number? negative (Nat.toDigits 10 value ++ 'e' :: (Printer.integerText exponent ++ rest)) =
      some (.decimal negative value exponent, rest) := by
  simp [number?, integerPart?_toDigits value (noDigit_exponent _), isDecimal, fraction?, exponent?,
    signedExponent?_integerText exponent h]

/-- A number is read back where it cannot be gone on with. -/
theorem reads_numberText (number : Number) {rest : List Char} (h : Delimited rest) :
    Reads (Printer.numberText number ++ rest) [.number number] rest := by
  match number with
  | .int (.ofNat n) =>
    refine reads_unsigned ?_ (Nat.le_refl _)
    simp [number?, integerPart?_toDigits n h.noDigit, h.isDecimal]
  | .int (.negSucc n) =>
    rw [Printer.numberText, Printer.integerText, List.cons_append]
    refine reads_negative ?_ (by simp)
    simp [number?, integerPart?_toDigits (n + 1) h.noDigit, h.isDecimal, Int.negSucc_eq]
  | .decimal false value exponent =>
    have htext : Printer.numberText (.decimal false value exponent) ++ rest =
        Nat.toDigits 10 value ++ 'e' :: (Printer.integerText exponent ++ rest) := by
      simp [Printer.numberText]
    rw [htext]
    exact reads_unsigned (number?_decimal false value exponent h.noDigit) (by simp; omega)
  | .decimal true value exponent =>
    have htext : Printer.numberText (.decimal true value exponent) ++ rest =
        '-' :: (Nat.toDigits 10 value ++ 'e' :: (Printer.integerText exponent ++ rest)) := by
      simp [Printer.numberText]
    rw [htext]
    exact reads_negative (number?_decimal true value exponent h.noDigit) (by simp; omega)

/-- A punctuation mark or a word is a token wherever it stands. -/
theorem reads_literal {s rest : List Char} {token : Token} {c : Char} {tail : List Char} (hs : s = c :: tail)
    (hgap : isGap c = false) (h : ∀ fuel, next? fuel (s ++ rest) = some (token, rest)) :
    Reads (s ++ rest) [token] rest := by
  have hshort : rest.length < (s ++ rest).length := by
    rw [hs, List.cons_append, List.length_cons, List.length_append]
    omega
  exact reads_token (by rw [hs, List.cons_append]) hgap hshort (fun fuel _ => h fuel)

end Token

/-! ## The tokens of a value -/

open Token

/-- The tokens of the text of a value. -/
def tokens : Json → List Token
  | .null => [.null]
  | .bool b => [.bool b]
  | .number n => [.number n]
  | .string s => [.string s]
  | .array [] => [.openBracket, .closeBracket]
  | .array (item :: rest) => .openBracket :: (item.tokens ++ items rest)
  | .object [] => [.openBrace, .closeBrace]
  | .object ((key, value) :: rest) => .openBrace :: .string key :: .colon :: (value.tokens ++ members rest)
where
  /-- The tokens of the items of an array after the first. -/
  items : List Json → List Token
    | [] => [.closeBracket]
    | item :: rest => .comma :: (item.tokens ++ items rest)
  /-- The tokens of the members of an object after the first. -/
  members : List (Option String × Json) → List Token
    | [] => [.closeBrace]
    | (key, value) :: rest => .comma :: .string key :: .colon :: (value.tokens ++ members rest)

/-- The rest of an array ends what stands in front of it. -/
theorem delimited_items (items : List Json) (rest : List Char) : Delimited (print.items items ++ rest) := by
  cases items with
  | nil => exact .bracket rest
  | cons item items => exact .comma _

/-- The rest of an object ends what stands in front of it. -/
theorem delimited_members (members : List (Option String × Json)) (rest : List Char) :
    Delimited (print.members members ++ rest) := by
  cases members with
  | nil => exact .brace rest
  | cons member members => exact .comma _

/-- An opening bracket is read as one. -/
theorem reads_openBracket (rest : List Char) : Reads ('[' :: rest) [.openBracket] rest :=
  reads_literal (s := ['[']) rfl (by decide) (fun _ => rfl)

/-- A closing bracket is read as one. -/
theorem reads_closeBracket (rest : List Char) : Reads (']' :: rest) [.closeBracket] rest :=
  reads_literal (s := [']']) rfl (by decide) (fun _ => rfl)

/-- An opening brace is read as one. -/
theorem reads_openBrace (rest : List Char) : Reads ('{' :: rest) [.openBrace] rest :=
  reads_literal (s := ['{']) rfl (by decide) (fun _ => rfl)

/-- A closing brace is read as one. -/
theorem reads_closeBrace (rest : List Char) : Reads ('}' :: rest) [.closeBrace] rest :=
  reads_literal (s := ['}']) rfl (by decide) (fun _ => rfl)

/-- A comma is read as one. -/
theorem reads_comma (rest : List Char) : Reads (',' :: rest) [.comma] rest :=
  reads_literal (s := [',']) rfl (by decide) (fun _ => rfl)

/-- A colon is read as one. -/
theorem reads_colon (rest : List Char) : Reads (':' :: rest) [.colon] rest :=
  reads_literal (s := [':']) rfl (by decide) (fun _ => rfl)

mutual

/-- The text of a value is cut into the tokens of the value. -/
theorem reads_print : ∀ (json : Json) {rest : List Char}, Delimited rest → Reads (json.print ++ rest) json.tokens rest
  | .null, _, _ => reads_literal (s := "null".toList) rfl (by decide) (fun _ => rfl)
  | .bool true, _, _ => reads_literal (s := "true".toList) rfl (by decide) (fun _ => rfl)
  | .bool false, _, _ => reads_literal (s := "false".toList) rfl (by decide) (fun _ => rfl)
  | .number n, _, h => by
    rw [print, tokens]
    exact reads_numberText n h
  | .string s, rest, _ => by
    rw [print, tokens]
    exact reads_stringText s rest
  | .array [], rest, _ => by
    rw [print, tokens]
    exact (reads_openBracket _).trans (reads_closeBracket rest)
  | .array (item :: items), rest, _ => by
    have hitem := reads_print item (delimited_items items rest)
    have hitems := reads_items items rest
    rw [print, tokens, List.cons_append, List.append_assoc]
    exact (reads_openBracket _).trans (hitem.trans hitems)
  | .object [], rest, _ => by
    rw [print, tokens]
    exact (reads_openBrace _).trans (reads_closeBrace rest)
  | .object ((key, value) :: members), rest, _ => by
    have hvalue := reads_print value (delimited_members members rest)
    have hmembers := reads_members members rest
    rw [print, tokens, List.cons_append, List.append_assoc, List.cons_append, List.append_assoc]
    exact (reads_openBrace _).trans ((reads_stringText key _).trans ((reads_colon _).trans (hvalue.trans hmembers)))

/-- The rest of an array is cut into the tokens of its items. -/
theorem reads_items :
    ∀ (items : List Json) (rest : List Char), Reads (print.items items ++ rest) (tokens.items items) rest
  | [], rest => reads_closeBracket rest
  | item :: items, rest => by
    have hitem := reads_print item (delimited_items items rest)
    have hitems := reads_items items rest
    rw [print.items, tokens.items, List.cons_append, List.append_assoc]
    exact (reads_comma _).trans (hitem.trans hitems)

/-- The rest of an object is cut into the tokens of its members. -/
theorem reads_members : ∀ (members : List (Option String × Json)) (rest : List Char),
    Reads (print.members members ++ rest) (tokens.members members) rest
  | [], rest => reads_closeBrace rest
  | (key, value) :: members, rest => by
    have hvalue := reads_print value (delimited_members members rest)
    have hmembers := reads_members members rest
    rw [print.members, tokens.members, List.cons_append, List.append_assoc, List.cons_append, List.append_assoc]
    exact (reads_comma _).trans ((reads_stringText key _).trans ((reads_colon _).trans (hvalue.trans hmembers)))

end

/-! ## The value of the tokens -/

/-- The tokens of a value do not close an array. -/
theorem tokens_eq_cons (json : Json) : ∃ token rest, json.tokens = token :: rest ∧ token ≠ .closeBracket := by
  match json with
  | .null => exact ⟨.null, [], by rw [tokens], nofun⟩
  | .bool b => exact ⟨.bool b, [], by rw [tokens], nofun⟩
  | .number n => exact ⟨.number n, [], by rw [tokens], nofun⟩
  | .string s => exact ⟨.string s, [], by rw [tokens], nofun⟩
  | .array [] => exact ⟨.openBracket, _, by rw [tokens], nofun⟩
  | .array (item :: rest) => exact ⟨.openBracket, _, by rw [tokens], nofun⟩
  | .object [] => exact ⟨.openBrace, _, by rw [tokens], nofun⟩
  | .object ((key, value) :: rest) => exact ⟨.openBrace, _, by rw [tokens], nofun⟩

/-- Every value has a token. -/
theorem length_tokens_pos (json : Json) : 0 < json.tokens.length := by
  obtain ⟨token, rest, htokens, -⟩ := tokens_eq_cons json
  simp [htokens]

namespace Parser

/-- An opening bracket in front of what does not close it is an array with items. -/
theorem value?_openBracket {fuel : Nat} {tokens rest : List Token} {items : List Json}
    (hopen : ∃ token tail, tokens = token :: tail ∧ token ≠ .closeBracket)
    (h : items? fuel tokens = some (items, rest)) :
    value? (fuel + 1) (.openBracket :: tokens) = some (.array items, rest) := by
  obtain ⟨token, tail, rfl, hclose⟩ := hopen
  simp [value?, hclose, h]

mutual

/-- The tokens of a value are put together to the value; two steps for each token are enough. -/
theorem value?_tokens : ∀ (json : Json) (fuel : Nat) (rest : List Token), 2 * json.tokens.length ≤ fuel →
    value? fuel (json.tokens ++ rest) = some (json, rest)
  | json, 0, _, h => by
    have hpos := length_tokens_pos json
    omega
  | .null, fuel + 1, _, _ => by rw [tokens]; rfl
  | .bool b, fuel + 1, _, _ => by rw [tokens]; rfl
  | .number n, fuel + 1, _, _ => by rw [tokens]; rfl
  | .string s, fuel + 1, _, _ => by rw [tokens]; rfl
  | .array [], fuel + 1, _, _ => by rw [tokens]; rfl
  | .array (item :: items), fuel + 1, rest, h => by
    rw [tokens, List.length_cons, List.length_append] at h
    have hitems := items?_tokens item items fuel rest (by omega)
    obtain ⟨token, tail, htokens, hclose⟩ := tokens_eq_cons item
    rw [tokens, List.cons_append, List.append_assoc]
    refine value?_openBracket ⟨token, tail ++ (tokens.items items ++ rest), ?_, hclose⟩ hitems
    rw [htokens, List.cons_append]
  | .object [], fuel + 1, _, _ => by rw [tokens]; rfl
  | .object ((key, value) :: members), fuel + 1, rest, h => by
    rw [tokens] at h
    simp only [List.length_cons, List.length_append] at h
    have hmembers := members?_tokens key value members fuel rest (by omega)
    rw [tokens]
    simp only [List.cons_append, List.append_assoc, value?, hmembers]

/-- The tokens of items are put together to the items. -/
theorem items?_tokens : ∀ (item : Json) (items : List Json) (fuel : Nat) (rest : List Token),
    2 * (item.tokens.length + (tokens.items items).length) ≤ fuel →
    items? fuel (item.tokens ++ (tokens.items items ++ rest)) = some (item :: items, rest)
  | item, _, 0, _, h => by
    have hpos := length_tokens_pos item
    omega
  | item, [], fuel + 1, rest, h => by
    rw [tokens.items, List.length_singleton] at h
    have hitem := value?_tokens item fuel (.closeBracket :: rest) (by omega)
    rw [tokens.items, List.singleton_append, items?, hitem]
  | item, next :: items, fuel + 1, rest, h => by
    rw [tokens.items, List.length_cons, List.length_append] at h
    have hitem := value?_tokens item fuel (.comma :: (next.tokens ++ (tokens.items items ++ rest))) (by omega)
    have hitems := items?_tokens next items fuel rest (by omega)
    rw [tokens.items, List.cons_append, List.append_assoc, items?, hitem]
    simp only [hitems]

/-- The tokens of members are put together to the members. -/
theorem members?_tokens : ∀ (key : Option String) (value : Json) (members : List (Option String × Json)) (fuel : Nat)
    (rest : List Token), 2 * (value.tokens.length + 2 + (tokens.members members).length) ≤ fuel →
    members? fuel (.string key :: .colon :: (value.tokens ++ (tokens.members members ++ rest))) =
      some ((key, value) :: members, rest)
  | _, value, _, 0, _, h => by omega
  | key, value, [], fuel + 1, rest, h => by
    have hvalue := value?_tokens value fuel (.closeBrace :: rest) (by omega)
    rw [tokens.members, List.singleton_append]
    simp only [members?, hvalue]
  | key, value, (nextKey, nextValue) :: members, fuel + 1, rest, h => by
    rw [tokens.members] at h
    simp only [List.length_cons, List.length_append] at h
    have hvalue := value?_tokens value fuel
      (.comma :: .string nextKey :: .colon :: (nextValue.tokens ++ (tokens.members members ++ rest))) (by omega)
    have hmembers := members?_tokens nextKey nextValue members fuel rest (by omega)
    rw [tokens.members]
    simp only [List.cons_append, List.append_assoc, members?, hvalue, hmembers]

end

end Parser

/-- The text of a value is read back as that value. -/
theorem parse?_print (json : Json) : parse? json.print = some json := by
  have hreads := reads_print json Delimited.nil
  rw [List.append_nil] at hreads
  have hvalue := Parser.value?_tokens json (2 * json.tokens.length + 2) [] (by omega)
  rw [List.append_nil] at hvalue
  simp only [parse?, tokens?_of_reads hreads, hvalue]

end Manuscript.Json
