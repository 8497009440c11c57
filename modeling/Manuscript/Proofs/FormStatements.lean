import Manuscript.Proofs.Form

/-!
# The statements of forms

The tokens of a sound form are read as the statements of the form (`Form.ofTokens?_tokens`). Each expression of a
form ends at a token that continues no expression (`Parser.stops`), so it is read on the level that binds most and
handed up through the others as it is.
-/

namespace Manuscript.Template

namespace Parser

variable {fuel depth : Nat} {level : Level} {value : Expr} {token : Token} {items rest : List Token}

/-! ## Expressions -/

/-- The tokens that end the expressions of a form. -/
def stops : Token → Bool
  | .closeValue => true
  | .closeStatement => true
  | .symbol .closeParen => true
  | _ => false

/-- Three tokens end the expressions of a form. -/
theorem stops_cases (h : stops token = true) :
    token = .closeValue ∨ token = .closeStatement ∨ token = .symbol .closeParen := by
  unfold stops at h
  split at h
  · exact Or.inl rfl
  · exact Or.inr (Or.inl rfl)
  · exact Or.inr (Or.inr rfl)
  · cases h

/-- An operator chain ends there. -/
theorem levelTail?_stops (h : stops token = true) :
    levelTail? (fuel + 1) depth level value (token :: rest) = some (value, token :: rest) := by
  have hnone : operatorAt? level token = none := by
    rcases stops_cases h with rfl | rfl | rfl <;> cases level <;> rfl
  rw [levelTail?]
  simp only [hnone]

/-- A chain of comparisons ends there. -/
theorem links?_stops (h : stops token = true) : links? (fuel + 1) depth (token :: rest) = some ([], token :: rest) := by
  rcases stops_cases h with rfl | rfl | rfl <;> simp [links?, relation?, startsNegation]

/-- A choice ends there. -/
theorem choiceTail?_stops (h : stops token = true) :
    choiceTail? (fuel + 1) depth value (token :: rest) = some (value, token :: rest) := by
  rcases stops_cases h with rfl | rfl | rfl <;> simp [choiceTail?]

/-- Members and calls end there. -/
theorem postfix?_stops (h : stops token = true) :
    postfix? (fuel + 1) depth value (token :: rest) = some (value, token :: rest) := by
  rcases stops_cases h with rfl | rfl | rfl <;> simp [postfix?]

/-- Filters end there. -/
theorem filters?_stops (h : stops token = true) :
    filters? (fuel + 1) depth value (token :: rest) = some (value, token :: rest) := by
  rcases stops_cases h with rfl | rfl | rfl <;> simp [filters?]

/-- What is read on one level is read on the level above, when it stops there. -/
theorem level?_of_next (hlevel : level ∉ [Level.not, .compare, .unary])
    (h : level? (fuel + 1) depth level.next items = some (value, token :: rest)) (hstops : stops token = true) :
    level? (fuel + 2) depth level items = some (value, token :: rest) := by
  cases level with
  | not | compare | unary => exact absurd (by decide) hlevel
  | or | and | sum | concat | product | power =>
    rw [level?, h]
    · exact levelTail?_stops hstops
    all_goals simp

/-- What is read as a sum is read as a comparison. -/
theorem level?_compare (h : level? (fuel + 1) depth .sum items = some (value, token :: rest))
    (hstops : stops token = true) : level? (fuel + 2) depth .compare items = some (value, token :: rest) := by
  rw [level?, Level.next, h]
  simp [links?_stops hstops]

/-- What is read as a comparison is read as what may be negated, unless it starts with a negation. -/
theorem level?_not (h : level? (fuel + 1) depth .compare items = some (value, rest))
    (hnot : startsNegation items = false) : level? (fuel + 2) depth .not items = some (value, rest) := by
  rw [level?, h]
  rintro others rfl
  cases hnot

/-- What is read on the level that binds most is read on every level, when it stops there and does not start with a
negation. -/
theorem level?_or (h : level? (fuel + 1) depth .unary items = some (value, token :: rest)) (hstops : stops token = true)
    (hnot : startsNegation items = false) : level? (fuel + 9) depth .or items = some (value, token :: rest) := by
  have hsum : level? (fuel + 5) depth .sum items = some (value, token :: rest) :=
    level?_of_next (by decide)
      (level?_of_next (by decide) (level?_of_next (by decide) (level?_of_next (by decide) h hstops) hstops)
      hstops) hstops
  have hnegation := level?_not (level?_compare hsum hstops) hnot
  exact level?_of_next (by decide) (level?_of_next (by decide) hnegation hstops) hstops

/-- An expression that is no choice takes a level of nesting. -/
theorem expr?_of_unary (h : level? (fuel + 1) depth .unary items = some (value, token :: rest))
    (hstops : stops token = true) (hnot : startsNegation items = false) :
    expr? (fuel + 11) (depth + 1) items = some (value, token :: rest) := by
  rw [expr?, choice?, level?_or h hstops hnot]
  exact choiceTail?_stops hstops

/-! ## References and filters -/

/-- A free name is no word of the language. -/
theorem not_mem_of_isFree {name : String} (hname : Ref.isFree name = true) : name ∉ "not" :: "in" :: reservedNames := by
  have hreserved := (Bool.and_eq_true_iff.1 hname).2
  simpa using hreserved

/-- A free name is read as a name. -/
theorem primary?_name {name : String} (hname : Ref.isFree name = true) :
    primary? (fuel + 1) (depth + 1) (.name name :: rest) = some (.name name, rest) := by
  have hreserved := not_mem_of_isFree hname
  simp only [reservedNames, List.mem_cons, not_or] at hreserved
  rw [primary?] <;> simp [hreserved]

/-- A free name does not start a negation. -/
theorem startsNegation_name {name : String} (hname : Ref.isFree name = true) :
    startsNegation (.name name :: rest) = false := by
  unfold startsNegation
  split
  · rename_i heq
    rw [List.cons.injEq, Token.name.injEq] at heq
    exact absurd (heq.1 ▸ List.mem_cons_self) (not_mem_of_isFree hname)
  · rfl

/-- A sound reference does not start a negation. -/
theorem startsNegation_ref {ref : Ref} (href : ref.isSound = true) : startsNegation (ref.tokens ++ rest) = false := by
  cases ref with
  | field name => exact startsNegation_name href
  | member object name => exact startsNegation_name (Bool.and_eq_true_iff.1 href).1

/-- A reference is read up to what continues no member, and the filters behind it are next. -/
theorem level?_ref {ref : Ref} (href : ref.isSound = true)
    (hrest : ∀ fuel value, postfix? (fuel + 1) (depth + 1) value rest = some (value, rest)) :
    level? (fuel + 3) (depth + 1) .unary (ref.tokens ++ rest) = filters? (fuel + 2) (depth + 1) ref.expr rest := by
  cases ref with
  | field name => simp [level?, Ref.tokens, Ref.expr, prefixed?, primary?_name href, hrest]
  | member object name =>
    obtain ⟨hobject, -⟩ := Bool.and_eq_true_iff.1 href
    simp [level?, Ref.tokens, Ref.expr, prefixed?, primary?_name hobject, postfix?, hrest]

/-- A sound reference is read on the level that binds most. -/
theorem level?_unary_ref {ref : Ref} (href : ref.isSound = true) (hstops : stops token = true) :
    level? (fuel + 3) (depth + 1) .unary (ref.tokens ++ token :: rest) = some (ref.expr, token :: rest) :=
  (level?_ref href (fun _ _ => postfix?_stops hstops)).trans (filters?_stops hstops)

/-- A string is read on the level that binds most. -/
theorem level?_string {text : List Char} (hstops : stops token = true) :
    level? (fuel + 3) (depth + 1) .unary
      (.string text :: token :: rest) = some (.constant (.string text), token :: rest) := by
  have htake : takeStrings (.string text :: token :: rest) = (text, token :: rest) := by
    rcases stops_cases hstops with rfl | rfl | rfl <;> simp [takeStrings]
  simp [level?, prefixed?, primary?, htake, postfix?_stops hstops, filters?_stops hstops]

/-- The filter that joins is read with its separator. -/
theorem filters?_join {separator : List Char} (hstops : stops token = true) :
    filters? (fuel + 16) (depth + 2) value
        (.symbol .pipe :: .name "join" :: .symbol .openParen :: .string separator :: .symbol .closeParen :: token ::
          rest) =
      some (.filter "join" value [(none, .constant (.string separator))], token :: rest) := by
  have hargument : expr? (fuel + 14) (depth + 2) (.string separator :: .symbol .closeParen :: token :: rest) =
      some (.constant (.string separator), .symbol .closeParen :: token :: rest) :=
    expr?_of_unary (level?_string rfl) rfl rfl
  simp [filters?, arguments?, skip?, nextPart?, hargument, filters?_stops hstops]

/-! ## Whole expressions -/

/-- There are steps enough, and some are left over. -/
theorem exists_steps {n : Nat} (h : n ≤ 16 * (items.length + 1)) : ∃ fuel, steps items = fuel + n :=
  Nat.exists_eq_add_of_le' h

/-- A sound reference is read as an operand. -/
theorem operandOfTokens?_ref {ref : Ref} (href : ref.isSound = true) (hstops : stops token = true) :
    Expr.operandOfTokens? (depth + 2) (ref.tokens ++ token :: rest) = some (ref.expr, token :: rest) := by
  obtain ⟨fuel, hfuel⟩ : ∃ fuel, steps (ref.tokens ++ token :: rest) = fuel + 11 := exists_steps (by omega)
  rw [Expr.operandOfTokens?, hfuel]
  exact level?_or (level?_unary_ref href hstops) hstops (startsNegation_ref href)

/-- A sound reference is read as an expression. -/
theorem ofTokens?_ref {ref : Ref} (href : ref.isSound = true) (hstops : stops token = true) :
    Expr.ofTokens? (depth + 2) (ref.tokens ++ token :: rest) = some (ref.expr, token :: rest) := by
  obtain ⟨fuel, hfuel⟩ : ∃ fuel, steps (ref.tokens ++ token :: rest) = fuel + 13 := exists_steps (by omega)
  rw [Expr.ofTokens?, hfuel]
  exact expr?_of_unary (level?_unary_ref href hstops) hstops (startsNegation_ref href)

/-- A reference that is joined is read as an expression. -/
theorem ofTokens?_join {ref : Ref} {separator : List Char} (href : ref.isSound = true) (hstops : stops token = true) :
    Expr.ofTokens? (depth + 3)
        (ref.tokens ++
          .symbol .pipe :: .name "join" :: .symbol .openParen :: .string separator :: .symbol .closeParen :: token ::
            rest) =
      some (.filter "join" ref.expr [(none, .constant (.string separator))], token :: rest) := by
  have hunary : ∀ fuel, level? (fuel + 17) (depth + 2) .unary
      (ref.tokens ++
        .symbol .pipe :: .name "join" :: .symbol .openParen :: .string separator :: .symbol .closeParen :: token ::
          rest) =
      some (.filter "join" ref.expr [(none, .constant (.string separator))], token :: rest) :=
    fun fuel => (level?_ref href (fun _ _ => by rw [postfix?] <;> simp)).trans (filters?_join hstops)
  rw [Expr.ofTokens?]
  obtain ⟨fuel, hfuel⟩ : ∃ fuel, steps (ref.tokens ++
      .symbol .pipe :: .name "join" :: .symbol .openParen :: .string separator :: .symbol .closeParen :: token ::
        rest) = fuel + 27 :=
    exists_steps (by simp only [List.length_append, List.length_cons]; omega)
  rw [hfuel]
  exact expr?_of_unary (hunary fuel) hstops (startsNegation_ref href)

/-! ## Statements -/

/-- A free name is read as the target of a loop. -/
theorem target?_name {name : String} (hname : Ref.isFree name = true) :
    target? (fuel + 2) (.name name :: .name "in" :: rest) = some (.name name, .name "in" :: rest) := by
  have hreserved := not_mem_of_isFree hname
  rw [List.mem_cons, List.mem_cons, not_or, not_or] at hreserved
  have htarget : targetName? (.name name :: .name "in" :: rest) = some (name, .name "in" :: rest) := by
    simp [targetName?, hreserved.2.2]
  have hends : endsTargets (.name name :: .name "in" :: rest) = false := by
    simp [endsTargets, hreserved.2.1]
  simp [target?, targets?, nextPart?, htarget, hends]

end Parser

namespace Form

open Template.Parser

/-- The end of a block ends the reading of its body. -/
theorem body?_closing {fuel depth : Nat} {words : List String} {word : String} {rest : List Token} (h : word ∈ words) :
    body? (fuel + 1) depth words (.openStatement :: .name word :: rest) = some ([], .name word :: rest) := by
  cases depth <;> simp [body?, h]

/-- A value is read up to the end of its tag. -/
theorem body?_output {fuel depth : Nat} {words : List String} {rest behind : List Token} {value : Expr}
    (h : Expr.ofTokens? depth rest = some (value, .closeValue :: behind)) :
    body? (fuel + 1) depth words (.openValue :: rest) =
      (body? fuel depth words behind).map (fun r => (.output value :: r.1, r.2)) := by
  simp [body?, h]

/-- A statement is read where its keyword ends nothing. -/
theorem body?_statement {fuel depth : Nat} {words : List String} {word : String} {rest behind : List Token}
    {statement : Statement} (hword : word ∉ words)
    (h : statement? fuel depth word rest = some (statement, .closeStatement :: behind)) :
    body? (fuel + 1) (depth + 1) words (.openStatement :: .name word :: rest) =
      (body? fuel (depth + 1) words behind).map (fun r => (statement :: r.1, r.2)) := by
  simp [body?, hword, h]

section Blocks

variable {fuel depth : Nat} {body : List Token} {statements : List Statement}

/-- A branch is read when its body is read up to the end of the block. -/
theorem statement?_if {condition : Ref} (hcondition : condition.isSound = true)
    (hbody : ∀ behind, body? fuel (depth + 2) ["endif", "else", "elif"]
      (body ++ .openStatement :: .name "endif" :: behind) =
      some (statements, .name "endif" :: behind)) (rest : List Token) :
    statement? (fuel + 2) (depth + 2) "if"
        (condition.tokens ++ .closeStatement :: (body ++ .openStatement :: .name "endif" :: .closeStatement :: rest)) =
      some (.branch condition.expr statements [], .closeStatement :: rest) := by
  rw [statement?, branch?, operandOfTokens?_ref hcondition rfl]
  simp only [hbody]

/-- So is a loop. -/
theorem statement?_for {item : String} {items : Ref} (hitem : Ref.isFree item = true) (hitems : items.isSound = true)
    (hbody : ∀ behind, body? fuel (depth + 2) ["endfor", "else"] (body ++ .openStatement :: .name "endfor" :: behind) =
      some (statements, .name "endfor" :: behind)) (rest : List Token) :
    statement? (fuel + 2) (depth + 2) "for"
        (.name item :: .name "in" :: (items.tokens ++ .closeStatement ::
          (body ++ .openStatement :: .name "endfor" :: .closeStatement :: rest))) =
      some (.loop (.name item) items.expr none false statements [], .closeStatement :: rest) := by
  rw [statement?, loop?, target?_name hitem]
  simp only [operandOfTokens?_ref hitems (rfl : stops .closeStatement = true), afterTag?, hbody]

end Blocks

/-- The parts of a sound form are read in front of tokens that end the reading. -/
theorem body?_tokens (form : Form) (hsound : form.isSound = true) (words : List String) (hif : "if" ∉ words)
    (hfor : "for" ∉ words) (depth : Nat) (hdepth : form.nesting + 3 ≤ depth) {stop left : List Token}
    (hstop : ∀ fuel, body? (fuel + 1) depth words stop = some ([], left)) :
    ∀ fuel, form.tokens.length < fuel →
      body? fuel depth words (form.tokens ++ stop) = some (form.statements, left) := by
  induction form generalizing words depth stop left with
  | done =>
    intro fuel hfuel
    obtain ⟨fuel, rfl⟩ := Nat.exists_eq_add_one_of_ne_zero (Nat.ne_zero_of_lt hfuel)
    exact hstop fuel
  | text s rest ih =>
    intro fuel hfuel
    obtain ⟨fuel, rfl⟩ := Nat.exists_eq_add_one_of_ne_zero (Nat.ne_zero_of_lt hfuel)
    have hrest := ih (Bool.and_eq_true_iff.1 hsound).2 words hif hfor depth hdepth hstop fuel
      (Nat.lt_of_succ_lt_succ hfuel)
    rw [tokens, List.cons_append, body?, hrest]
    rfl
  | comment s rest ih => exact ih (Bool.and_eq_true_iff.1 hsound).2 words hif hfor depth hdepth hstop
  | value ref rest ih =>
    intro fuel hfuel
    obtain ⟨fuel, rfl⟩ := Nat.exists_eq_add_one_of_ne_zero (Nat.ne_zero_of_lt hfuel)
    obtain ⟨href, hrest⟩ := Bool.and_eq_true_iff.1 hsound
    obtain ⟨inner, rfl⟩ := Nat.exists_eq_add_of_le' (Nat.le_trans (Nat.le_add_left 2 _) (Nat.le_of_succ_le hdepth))
    rw [tokens, List.length_cons, List.length_append, List.length_cons] at hfuel
    have hread := ih hrest words hif hfor _ hdepth hstop fuel (by omega)
    rw [tokens, List.cons_append, List.append_assoc, List.cons_append, body?_output (ofTokens?_ref href rfl), hread]
    rfl
  | joined items separator rest ih =>
    intro fuel hfuel
    obtain ⟨fuel, rfl⟩ := Nat.exists_eq_add_one_of_ne_zero (Nat.ne_zero_of_lt hfuel)
    simp only [isSound, Bool.and_eq_true] at hsound
    obtain ⟨⟨⟨hitems, -⟩, -⟩, hrest⟩ := hsound
    obtain ⟨inner, rfl⟩ := Nat.exists_eq_add_of_le' (Nat.le_trans (Nat.le_add_left 3 _) hdepth)
    simp only [tokens, List.length_cons, List.length_append] at hfuel
    have hread := ih hrest words hif hfor _ hdepth hstop fuel (by omega)
    simp only [tokens, List.cons_append, List.append_assoc]
    rw [body?_output (ofTokens?_join hitems rfl), hread]
    rfl
  | branch ownLines condition body rest ihbody ihrest =>
    intro fuel hfuel
    simp only [isSound, Bool.and_eq_true] at hsound
    obtain ⟨⟨⟨hcondition, -⟩, hbody⟩, hrest⟩ := hsound
    rw [nesting] at hdepth
    simp only [tokens, List.length_cons, List.length_append] at hfuel
    obtain ⟨fuel, rfl⟩ := Nat.exists_eq_add_of_le' (show 3 ≤ fuel by omega)
    obtain ⟨inner, rfl⟩ := Nat.exists_eq_add_of_le' (show 3 ≤ depth by omega)
    have hread := ihrest hrest words hif hfor (inner + 3) (by omega) hstop (fuel + 2) (by omega)
    have hblock : ∀ behind, body? fuel (inner + 2) ["endif", "else", "elif"]
      (body.tokens ++ .openStatement :: .name "endif" :: behind) =
        some (body.statements, .name "endif" :: behind) :=
      fun behind => ihbody hbody _ (by decide) (by decide) _ (by omega) (fun _ => body?_closing (by decide)) fuel
        (by omega)
    simp only [tokens, List.cons_append, List.append_assoc]
    rw [body?_statement hif (statement?_if hcondition hblock _), hread]
    rfl
  | loop ownLines item items body rest ihbody ihrest =>
    intro fuel hfuel
    simp only [isSound, Bool.and_eq_true] at hsound
    obtain ⟨⟨⟨⟨hitem, hitems⟩, -⟩, hbody⟩, hrest⟩ := hsound
    rw [nesting] at hdepth
    simp only [tokens, List.length_cons, List.length_append] at hfuel
    obtain ⟨fuel, rfl⟩ := Nat.exists_eq_add_of_le' (show 3 ≤ fuel by omega)
    obtain ⟨inner, rfl⟩ := Nat.exists_eq_add_of_le' (show 3 ≤ depth by omega)
    have hread := ihrest hrest words hif hfor (inner + 3) (by omega) hstop (fuel + 2) (by omega)
    have hblock : ∀ behind, body? fuel (inner + 2) ["endfor", "else"]
      (body.tokens ++ .openStatement :: .name "endfor" :: behind) =
        some (body.statements, .name "endfor" :: behind) :=
      fun behind => ihbody hbody _ (by decide) (by decide) _ (by omega) (fun _ => body?_closing (by decide)) fuel
        (by omega)
    simp only [tokens, List.cons_append, List.append_assoc]
    rw [body?_statement hfor (statement?_for hitem hitems hblock _), hread]
    rfl

/-- The tokens of a sound form are read as its statements. -/
theorem ofTokens?_tokens (form : Form) (hsound : form.isSound = true) (hnesting : form.nesting + 3 ≤ maxDepth) :
    Statement.ofTokens? form.tokens = some form.statements := by
  have hstop : ∀ fuel, body? (fuel + 1) maxDepth [] [] = some ([], []) := fun fuel => by rw [body?]
  have hbody := body?_tokens form hsound [] List.not_mem_nil List.not_mem_nil maxDepth hnesting hstop
    (4 * (form.tokens.length + 1)) (by omega)
  rw [List.append_nil] at hbody
  rw [Statement.ofTokens?, hbody]

end Form

end Manuscript.Template
