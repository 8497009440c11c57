import Manuscript.Proofs.FormStatements
import Manuscript.Proofs.FormTokens

/-!
# What forms write

The statements of a sound form write what the form says and leave everything behind them as it was
(`Form.renderAll_statements`). A template that is spelled as a sound form is therefore read, and writes what the
form says for all data (`Form.parse?_source`).
-/

namespace Manuscript.Template

namespace Scope

variable {frame : Frame} {name other : String} {value : Value}

/-! ## Frames -/

/-- A name is bound to the value given last. -/
theorem lookup_set_self : (set frame name value).lookup name = some value := by
  rw [set, List.lookup_cons_self]

/-- Binding a name leaves the others. -/
theorem lookup_set_of_ne (hne : other ≠ name) : (set frame name value).lookup other = frame.lookup other := by
  rw [set, List.lookup_cons, beq_eq_false_iff_ne.2 hne]
  dsimp only
  induction frame with
  | nil => rfl
  | cons e rest ih =>
    by_cases he : e.1 = name
    · rw [List.filter_cons_of_neg (by simp [he]), ih, List.lookup_cons, beq_eq_false_iff_ne.2 (he ▸ hne)]
    · rw [List.filter_cons_of_pos (by simp [he]), List.lookup_cons, List.lookup_cons, ih]

/-- A frame gives a value to one name, besides the one that every loop gives a value to. -/
def Binds (frame : Frame) (name : String) (value : Value) : Prop :=
  frame.lookup name = some value ∧ ∀ other, other ≠ "loop" → other ≠ name → frame.lookup other = none

/-- Names stand for the values as far as forms can name them. -/
def Gives (scope : Scope) (values : String → Value) : Prop :=
  ∀ name, Ref.isFree name = true → scope.lookup name = values name

/-- A frame that binds the item of a loop gives the values with the item. -/
theorem Gives.push {scope : Scope} {values : String → Value} (h : scope.Gives values)
    (hframe : Binds frame name value) : (scope.push frame).Gives (Form.withItem values name value) := by
  intro other hother
  have hloop : other ≠ "loop" := by
    rintro rfl
    revert hother
    decide
  have hscope := h other hother
  unfold lookup at hscope ⊢
  rw [Scope.push, inFrames?, Form.withItem]
  by_cases hname : other = name
  · rw [hname, hframe.1, if_pos rfl]
    rfl
  · rw [hframe.2 other hloop hname, if_neg hname]
    exact hscope

end Scope

/-! ## Expressions -/

section Expressions

variable {recurrence : Recurrence} {scope : Scope} {values : String → Value} {ref : Ref}

/-- A reference of the form is evaluated to its value. -/
theorem eval_ref (h : scope.Gives values) (href : ref.isSound = true) :
    ref.expr.eval recurrence scope = pure (ref.value values) := by
  cases ref with
  | field name => rw [Ref.expr, Expr.eval, h name href, Ref.value]
  | member object name =>
    rw [Ref.expr, Expr.eval, Expr.eval, h object (Bool.and_eq_true_iff.1 href).1, pure_bind, Ref.value]

/-- A value that is there leaves the scope. -/
theorem compute_pure {α : Type} (value : α) : scope.compute (pure value) = .ok (value, scope) :=
  rfl

/-- A joined list is the filter applied to its value. -/
theorem compute_join {separator : List Char} (h : scope.Gives values) (href : ref.isSound = true) :
    scope.compute ((Expr.filter "join" ref.expr [(none, .constant (.string separator))]).eval recurrence scope) =
      (Filter.apply "join" (ref.value values) { positional := [.string separator] }).map (·, scope) := by
  have heval : (Expr.filter "join" ref.expr [(none, .constant (.string separator))]).eval recurrence scope =
      (Filter.apply "join" (ref.value values) { positional := [.string separator] } : Except RenderError Value) := by
    simp only [Expr.eval, Expr.eval.evalArguments, eval_ref h href, pure_bind]
    rfl
  rw [heval]
  cases Filter.apply "join" (ref.value values) { positional := [.string separator] } <;> rfl

end Expressions

/-! ## Loops -/

section Loops

variable {scope : Scope} {item : String}

/-- The rounds of a loop write one after another what its body writes for each item, and change nothing but the
frame of the loop. -/
theorem rounds_eq {body : Scope → Written} {write : Value → Except RenderError (List Char)} (depth : Nat)
    (length : Option Nat) (hbody : ∀ frame value, Scope.Binds frame item value →
      body (scope.push frame) = (write value).map (·, scope.push frame))
    (items : List Value) :
    ∀ index previous frame, (∀ other, other ≠ "loop" → other ≠ item → frame.lookup other = none) →
      (rounds (.name item) body depth length index previous items (scope.push frame)).map (fun r => (r.1, r.2.pop)) =
        (items.mapM write).map (fun texts => (texts.flatten, scope)) := by
  induction items with
  | nil => exact fun _ _ _ _ => rfl
  | cons value rest ih =>
    intro index previous frame hframe
    rw [rounds]
    generalize Value.round (scope.push frame).frames.length depth index length previous (rest.headD .undefined) = round
    have hbinds : Scope.Binds (Scope.set (Scope.set frame "loop" round) item value) item value :=
      ⟨Scope.lookup_set_self, fun other hloop hother => by
        rw [Scope.lookup_set_of_ne hother, Scope.lookup_set_of_ne hloop, hframe other hloop hother]⟩
    have hrest := ih (index + 1) value _ hbinds.2
    have hround := hbody _ value hbinds
    have hassign : (Target.name item).assign value (Scope.set (scope.push frame).innermost "loop" round) =
        .ok (Scope.set (Scope.set frame "loop" round) item value) := rfl
    generalize Scope.set (Scope.set frame "loop" round) item value = bound at hassign hround hrest
    have hwithFrame : (scope.push frame).withFrame bound = scope.push bound := rfl
    rw [hassign, List.mapM_cons]
    simp only [bind, Except.bind, hwithFrame, hround]
    cases write value with
    | error error => rfl
    | ok text =>
      cases hrounds : rounds (.name item) body depth length (index + 1) value rest (scope.push bound) with
      | error error =>
        cases hwrites : rest.mapM write with
        | error other => simpa [hrounds, hwrites, Except.map] using hrest
        | ok texts => simp [hrounds, hwrites, Except.map] at hrest
      | ok written =>
        cases hwrites : rest.mapM write with
        | error other => simp [hrounds, hwrites, Except.map] at hrest
        | ok texts =>
          simp only [hrounds, hwrites, Except.map, Except.ok.injEq, Prod.mk.injEq] at hrest
          simp [hrounds, Except.map, pure, Except.pure, hrest.1, hrest.2]

/-- A loop writes its rounds and leaves everything behind it as it was. -/
theorem runLoop_eq {body : Scope → Written} {write : Value → Except RenderError (List Char)} {loop : Surrounding}
    {length : Option Nat} (htarget : loop.target = .name item) (hmemory : scope.memory = [])
    (hbody : ∀ frame value, Scope.Binds frame item value →
      body ({ scope with surrounding := some loop }.push frame) =
        (write value).map (·, { scope with surrounding := some loop }.push frame)) (items : List Value) :
    runLoop loop body length items scope = (items.mapM write).map (fun texts => (texts.flatten, scope)) := by
  obtain ⟨data, frames, surrounding, memory⟩ := scope
  subst hmemory
  have hrounds := rounds_eq loop.depth length hbody items 0 .undefined [] (fun _ _ _ => rfl)
  have hrun : runLoop loop body length items { data, frames, surrounding } =
      rounds (.name item) body loop.depth length 0 .undefined items
        (Scope.push { data, frames, surrounding := some loop } []) >>=
        fun r => pure (r.1, { r.2.pop with surrounding := surrounding }) := by
    rw [runLoop, htarget]
    rfl
  have hsplit : ∀ done : Written, (done >>= fun r => pure (r.1, { r.2.pop with surrounding := surrounding })) =
      (done.map (fun r => (r.1, r.2.pop))).map (fun r => (r.1, { r.2 with surrounding := surrounding })) := by
    intro done
    cases done <;> rfl
  rw [hrun, hsplit, hrounds]
  cases items.mapM write <;> rfl

end Loops

namespace Form

/-! ## Statements -/

/-- A statement that leaves the scope as it was comes before the others. -/
theorem renderAll_cons {recurrence : Recurrence} {statement : Statement} {others : List Statement} {scope : Scope}
    {first rest : Except RenderError (List Char)} (hfirst : statement.render recurrence scope = first.map (·, scope))
    (hrest : Statement.render.renderAll recurrence others scope = rest.map (·, scope)) :
    Statement.render.renderAll recurrence (statement :: others) scope = (do
      let written ← first
      let behind ← rest
      return written ++ behind : Except RenderError (List Char)).map (·, scope) := by
  rw [Statement.render.renderAll, hfirst]
  cases first with
  | error error => rfl
  | ok written =>
    have hothers : (Statement.render.renderAll recurrence others scope >>= fun r => pure (written ++ r.1, r.2) :
        Written) =
        (do
          let behind ← rest
          return written ++ behind : Except RenderError (List Char)).map (·, scope) := by
      rw [hrest]
      cases rest <;> rfl
    exact hothers

section Blocks

variable {recurrence : Recurrence} {scope : Scope} {values : String → Value} {ref : Ref} {body : List Statement}

/-- A condition writes its body or nothing. -/
theorem render_branch {written : Except RenderError (List Char)} (hvalues : scope.Gives values)
    (href : ref.isSound = true) (hbody : Statement.render.renderAll recurrence body scope = written.map (·, scope)) :
    (Statement.branch ref.expr body []).render recurrence scope =
      (if (ref.value values).isTrue then written else .ok []).map (·, scope) := by
  rw [Statement.render, eval_ref hvalues href, compute_pure]
  change (if (ref.value values).isTrue = true then Statement.render.renderAll recurrence body scope
    else Statement.render.renderAll recurrence [] scope) = _
  split
  · exact hbody
  · rfl

/-- In the body of a loop its name stands for the items of the list, one after another. -/
theorem render_loop (item : String) {write : (String → Value) → Except RenderError (List Char)}
    (hvalues : scope.Gives values) (href : ref.isSound = true) (hmemory : scope.memory = [])
    (hbody : ∀ {values : String → Value} {inner : Scope}, inner.memory = [] → inner.Gives values →
      Statement.render.renderAll recurrence body inner = (write values).map (·, inner)) :
    (Statement.loop (.name item) ref.expr none false body []).render recurrence scope =
      ((ref.value values).items?.elim (.error .noItems)
          (fun list => (list.mapM (fun value => write (withItem values item value))).map List.flatten) :
        Except RenderError (List Char)).map (·, scope) := by
  rw [Statement.render, eval_ref hvalues href, compute_pure]
  simp only [bind, Except.bind, pure, Except.pure]
  cases (ref.value values).items? with
  | none => rfl
  | some list =>
    dsimp only
    split
    · rename_i hempty
      rw [List.isEmpty_iff.1 hempty]
      rfl
    · rw [runLoop_eq rfl hmemory (fun frame value hframe => hbody hmemory (Scope.Gives.push hvalues hframe)),
        Option.elim_some]
      cases list.mapM (fun value => write (withItem values item value)) <;> rfl

end Blocks

/-- The statements of a sound form write what the form says, and nothing is different behind them. -/
theorem renderAll_statements (form : Form) (hsound : form.isSound = true) (recurrence : Recurrence)
    {values : String → Value} {scope : Scope} (hmemory : scope.memory = []) (hvalues : scope.Gives values) :
    Statement.render.renderAll recurrence form.statements scope = (form.write values).map (·, scope) := by
  induction form generalizing values scope with
  | done => rfl
  | text s rest ih =>
    have hfirst : (Statement.text s).render recurrence scope =
      (.ok s : Except RenderError (List Char)).map (·, scope) := rfl
    exact renderAll_cons hfirst (ih (Bool.and_eq_true_iff.1 hsound).2 hmemory hvalues)
  | comment s rest ih => exact ih (Bool.and_eq_true_iff.1 hsound).2 hmemory hvalues
  | value ref rest ih =>
    obtain ⟨href, hrest⟩ := Bool.and_eq_true_iff.1 hsound
    have hfirst : (Statement.output ref.expr).render recurrence scope =
        (.ok (ref.value values).output : Except RenderError (List Char)).map (·, scope) := by
      rw [Statement.render, eval_ref hvalues href, compute_pure]
      rfl
    exact renderAll_cons hfirst (ih hrest hmemory hvalues)
  | joined items separator rest ih =>
    simp only [isSound, Bool.and_eq_true] at hsound
    obtain ⟨⟨⟨hitems, -⟩, -⟩, hrest⟩ := hsound
    have hfirst : (Statement.output (.filter "join" items.expr [(none, .constant (.string separator))])).render
      recurrence scope =
        ((Filter.apply "join" (items.value values) { positional := [.string separator] }).map Value.output).map
          (·, scope) := by
      rw [Statement.render, compute_join hvalues hitems]
      cases Filter.apply "join" (items.value values) { positional := [.string separator] } <;> rfl
    rw [statements, renderAll_cons hfirst (ih hrest hmemory hvalues), write]
    cases Filter.apply "join" (items.value values) { positional := [.string separator] } <;> rfl
  | branch ownLines condition body rest ihbody ihrest =>
    simp only [isSound, Bool.and_eq_true] at hsound
    obtain ⟨⟨⟨hcondition, -⟩, hbody⟩, hrest⟩ := hsound
    have hfirst := render_branch hvalues hcondition (ihbody hbody hmemory hvalues)
    rw [statements, renderAll_cons hfirst (ihrest hrest hmemory hvalues), write]
    split <;> rfl
  | loop ownLines item items body rest ihbody ihrest =>
    simp only [isSound, Bool.and_eq_true] at hsound
    obtain ⟨⟨⟨⟨-, hitems⟩, -⟩, hbody⟩, hrest⟩ := hsound
    have hfirst := render_loop item hvalues hitems hmemory (ihbody hbody)
    rw [statements, renderAll_cons hfirst (ihrest hrest hmemory hvalues), write]
    cases (items.value values).items? with
    | none => rfl
    | some list =>
      rw [Option.elim_some]
      dsimp only
      cases list.mapM (fun value => body.write (withItem values item value)) <;> rfl

/-- A template that is spelled as a sound form is read, and for all data it writes what the form says. -/
theorem parse?_source (form : Form) (hsound : form.isSound = true) (hnesting : form.nesting + 3 ≤ Parser.maxDepth) :
    ∃ template, Template.parse? {} form.source = some template ∧ ∀ data :
      Value, template.render data = form.write data.member := by
  refine ⟨⟨form.statements⟩, ?_, fun data => ?_⟩
  · have htokens : Template.tokens? (Delimiters.ofTags {}) form.source = some form.tokens := tokens?_source form hsound
    rw [Template.parse?, Template.parseBetween?, htokens, Option.bind_some, ofTokens?_tokens form hsound hnesting]
    rfl
  · have hgives : ({ data } : Scope).Gives data.member := fun _ _ => rfl
    rw [Template.render, renderAll, renderAll_statements form hsound _ rfl hgives]
    cases form.write data.member <;> rfl

end Form

end Manuscript.Template
