import Manuscript.Template.Filter
import Manuscript.Template.Statement

/-!
# Rendering

What an expression stands for and what a statement writes. A name is looked for in the frames around the place, from
the innermost, and then among the data. A loop has a frame of its own, which its rounds share; a branch has none.

A loop may be allowed to run again inside its body for further items. What it then writes is passed to the
evaluation as a function, so that expressions and statements are each evaluated by recursion on themselves, and the
number of loops inside one another is bounded apart.
-/

namespace Manuscript.Template

/-- The names of one loop, or of the whole template. -/
abbrev Frame := List (String × Value)

/-- What loops were asked last whether it had changed, by the number of loops around each of them. -/
abbrev Memory := List (Nat × List Value)

/-- What there is to say about the loop around a place. -/
structure Surrounding where
  target : Target
  /-- Whether the loop may run again for further items. -/
  again : Bool
  depth : Nat
  body : List Statement
  deriving Inhabited

/-- What names stand for at a place of a template. -/
structure Scope where
  data : Value
  /-- The frames from the innermost to that of the whole template. -/
  frames : List Frame := [[]]
  /-- The innermost loop around the place. -/
  surrounding : Option Surrounding := none
  memory : Memory := []
  deriving Inhabited

namespace Scope

/-- The value of a name in frames. -/
def inFrames? (name : String) : List Frame → Option Value
  | [] => none
  | frame :: rest => (frame.lookup name).or (inFrames? name rest)

/-- The value of a name. -/
def lookup (scope : Scope) (name : String) : Value :=
  (inFrames? name scope.frames).getD (scope.data.member name)

/-- A frame with a name set to a value. -/
def set (frame : Frame) (name : String) (value : Value) : Frame :=
  (name, value) :: frame.filter (fun e => e.1 != name)

/-- A scope with another innermost frame. -/
def withFrame (scope : Scope) (frame : Frame) : Scope :=
  { scope with frames := frame :: scope.frames.drop 1 }

/-- The innermost frame. -/
def innermost (scope : Scope) : Frame :=
  scope.frames.headD []

/-- A scope with one frame more. -/
def push (scope : Scope) (frame : Frame) : Scope :=
  { scope with frames := frame :: scope.frames }

/-- A scope without its innermost frame. -/
def pop (scope : Scope) : Scope :=
  { scope with frames := scope.frames.drop 1 }

end Scope

/-! ## Expressions -/

/-- Computing a value, which may change what loops remember. -/
abbrev Evaluation (α : Type) := StateT Memory (Except RenderError) α

/-- What a loop writes when it runs again at a place for the items of a value. -/
abbrev Recurrence := Scope → Value → Evaluation (List Char)

/-- What a method of a round gives: `cycle` picks the argument whose turn it is, and `changed` says whether the
arguments differ from those that it had before. -/
def roundMethod (level index : Nat) (name : String) (arguments : List Value) : Evaluation Value := do
  match name with
  | "cycle" =>
    if arguments.isEmpty then throw (.wrongArguments name)
    else return arguments.getD (index % arguments.length) .undefined
  | "changed" =>
    let memory ← get
    if memory.lookup level == some arguments then return .bool false
    else
      set ((level, arguments) :: memory.filter (fun m => m.1 != level))
      return .bool true
  | _ => throw (.unknownFunction name)

/-- What a call by a name gives. Names that have a value are no functions, and `loop` is the loop around the place. -/
def Scope.call (scope : Scope) (recurrence : Recurrence) (name : String) (arguments : Arguments) : Evaluation Value :=
  if name = "loop" then
    match arguments.ordered with
    | [items] => (Value.string ·) <$> recurrence scope items
    | _ => throw (.wrongArguments name)
  else
    match scope.lookup name with
    | .undefined => Function.apply name arguments
    | _ => throw (.unknownFunction name)

/-- Arguments sorted into those without and those with a keyword. -/
def Arguments.ofList (arguments : List (Option String × Value)) : Arguments where
  positional := arguments.filterMap (fun a => if a.1.isNone then some a.2 else none)
  keywords := arguments.filterMap (fun a => a.1.map (·, a.2))

/-- The value of an expression at a place. -/
def Expr.eval (recurrence : Recurrence) (scope : Scope) : Expr → Evaluation Value
  | .constant value => return value
  | .name n => return scope.lookup n
  | .unary operator operand => do
    let value ← operand.eval recurrence scope
    match operator with
    | .not => return .bool !value.isTrue
    | .negate => value.negate
  | .binary operator left right => do
    let a ← left.eval recurrence scope
    match operator with
    | .or => if a.isTrue then return a else right.eval recurrence scope
    | .and => if a.isTrue then right.eval recurrence scope else return a
    | _ => do
      let b ← right.eval recurrence scope
      Value.operate operator a b
  | .compare first links => do
    let value ← first.eval recurrence scope
    let holds ← evalLinks scope value links
    return .bool holds
  | .choose condition yes no => do
    let c ← condition.eval recurrence scope
    if c.isTrue then yes.eval recurrence scope else no.eval recurrence scope
  | .member object m => do
    let value ← object.eval recurrence scope
    return value.member m
  | .item object key => do
    let value ← object.eval recurrence scope
    let key ← key.eval recurrence scope
    return value.item key
  | .slice object start stop step => do
    let value ← object.eval recurrence scope
    let start ← start.eval recurrence scope
    let stop ← stop.eval recurrence scope
    let step ← step.eval recurrence scope
    Value.slice value start stop step
  | .list items => do
    let values ← evalItems scope items
    return .list values
  | .map entries => do
    let values ← evalEntries scope entries
    return Value.ofEntries values
  | .filter f operand arguments => do
    let value ← operand.eval recurrence scope
    let arguments ← evalArguments scope arguments
    Filter.apply f value (Arguments.ofList arguments)
  | .test t operand arguments => do
    let value ← operand.eval recurrence scope
    let arguments ← evalArguments scope arguments
    Test.apply t value (Arguments.ofList arguments)
  | .call (.name n) arguments => do
    let arguments ← evalArguments scope arguments
    scope.call recurrence n (Arguments.ofList arguments)
  | .call (.member object m) arguments => do
    let value ← object.eval recurrence scope
    let arguments ← evalArguments scope arguments
    match value with
    | .round level _ index _ _ _ => roundMethod level index m (Arguments.ofList arguments).ordered
    | _ => throw (.unknownFunction m)
  | .call _ _ => throw (.unknownFunction "")
where
  /-- Whether comparisons hold that start from a value. What stands behind the first that does not hold is not
  computed. -/
  evalLinks (scope : Scope) (value : Value) : List (Relation × Expr) → Evaluation Bool
    | [] => return true
    | (relation, next) :: rest => do
      let other ← next.eval recurrence scope
      let holds ← (Value.relate relation value other : Except RenderError Bool)
      if holds then evalLinks scope other rest else return false
  /-- The values of expressions. -/
  evalItems (scope : Scope) : List Expr → Evaluation (List Value)
    | [] => return []
    | first :: rest => do
      let value ← first.eval recurrence scope
      let values ← evalItems scope rest
      return value :: values
  /-- The keys and values of the entries of a map. -/
  evalEntries (scope : Scope) : List (Expr × Expr) → Evaluation (List (Value × Value))
    | [] => return []
    | (key, value) :: rest => do
      let key ← key.eval recurrence scope
      let value ← value.eval recurrence scope
      let entries ← evalEntries scope rest
      return (key, value) :: entries
  /-- The values of arguments. -/
  evalArguments (scope : Scope) : List (Option String × Expr) → Evaluation (List (Option String × Value))
    | [] => return []
    | (keyword, value) :: rest => do
      let value ← value.eval recurrence scope
      let arguments ← evalArguments scope rest
      return (keyword, value) :: arguments

/-! ## Assignments -/

/-- A frame with a value given to a target: to each of several targets the item of a list, or the key of a map, at
its place. -/
def Target.assign (value : Value) : Target → Frame → Except RenderError Frame
  | .name n, frame => .ok (Scope.set frame n value)
  | .member, _ => .error .cannotAssign
  | .items targets, frame =>
    match value with
    | .list values => assignAll values targets frame
    | .series values => assignAll values targets frame
    | .map entries => assignAll (entries.map (·.1)) targets frame
    | _ => .error .cannotUnpack
where
  /-- A frame with the values given to the targets in order; there must be as many. -/
  assignAll (values : List Value) : List Target → Frame → Except RenderError Frame
    | [], frame => if values.isEmpty then .ok frame else .error .cannotUnpack
    | target :: targets, frame =>
      match values with
      | [] => .error .cannotUnpack
      | value :: values => do
        let frame ← target.assign value frame
        assignAll values targets frame

/-- The items for which a condition is true, each assigned to the target in turn. -/
def selectItems (recurrence : Recurrence) (scope : Scope) (target : Target) (condition : Expr) :
    Frame → List Value → Evaluation (List Value)
  | _, [] => return []
  | frame, item :: rest => do
    let frame ← (target.assign item frame : Except RenderError Frame)
    let chosen ← condition.eval recurrence (scope.push frame)
    let others ← selectItems recurrence scope target condition frame rest
    return if chosen.isTrue then item :: others else others

/-! ## Loops -/

/-- What a statement writes, and the scope behind it. -/
abbrev Written := Except RenderError (List Char × Scope)

/-- A computed value, and the scope behind the computation. -/
def Scope.compute {α : Type} (scope : Scope) (evaluation : Evaluation α) : Except RenderError (α × Scope) := do
  let (value, memory) ← evaluation.run scope.memory
  return (value, { scope with memory })

/-- The number of items that a loop goes through, when that is known before: texts are not counted. -/
def Value.loopLength? : Value → Option Nat
  | .string _ => Option.none
  | value => value.items?.map List.length

/-- How deep a loop is that starts in a scope: one level deeper than the loop around it, if that may run again. -/
def Scope.loopDepth (scope : Scope) : Nat :=
  match scope.surrounding with
  | some loop => if loop.again then loop.depth + 1 else 0
  | none => 0

/-- The rounds of a loop over the items that are left, in the scope whose innermost frame is that of the loop. -/
def rounds (target : Target) (body : Scope → Written) (depth : Nat) (length : Option Nat) :
    Nat → Value → List Value → Scope → Written
  | _, _, [], scope => return ([], scope)
  | index, previous, item :: rest, scope => do
    let round := Value.round scope.frames.length depth index length previous (rest.headD .undefined)
    let frame ← target.assign item (Scope.set scope.innermost "loop" round)
    let (text, scope) ← body (scope.withFrame frame)
    let (others, scope) ← rounds target body depth length (index + 1) item rest scope
    return (text ++ others, scope)

/-- What a loop writes for items. It has a frame of its own and does not remember what loops were asked before. -/
def runLoop (loop : Surrounding) (body : Scope → Written) (length : Option Nat) (items : List Value) (scope : Scope) :
    Written := do
  let inside := { scope.push [] with surrounding := some loop }
  let fresh := inside.memory.filter (fun m => m.1 != inside.frames.length)
  let (written, behind) ← rounds loop.target body loop.depth length 0 .undefined items { inside with memory := fresh }
  return (written, { behind.pop with surrounding := scope.surrounding })

/-! ## Statements -/

/-- A value through filters, one after another. -/
def applyFilters (recurrence : Recurrence) (scope : Scope) : Value → List FilterCall → Evaluation Value
  | value, [] => return value
  | value, (name, arguments) :: rest => do
    let arguments ← Expr.eval.evalArguments recurrence scope arguments
    let value ← (Filter.apply name value (Arguments.ofList arguments) : Except RenderError Value)
    applyFilters recurrence scope value rest

/-- What a statement writes, when loops that run again write what `recurrence` says. -/
def Statement.render (recurrence : Recurrence) : Statement → Scope → Written
  | .text written, scope => return (written, scope)
  | .output value, scope => do
    let (value, scope) ← scope.compute (value.eval recurrence scope)
    return (value.output, scope)
  | .branch condition yes no, scope => do
    let (c, scope) ← scope.compute (condition.eval recurrence scope)
    if c.isTrue then renderAll yes scope else renderAll no scope
  | .loop target items condition again body otherwise, scope => do
    let (value, scope) ← scope.compute (items.eval recurrence scope)
    match value.items? with
    | none => throw .noItems
    | some items =>
      let (length, items, scope) ←
        match condition with
        | some condition => do
          let (chosen, scope) ← scope.compute (selectItems recurrence scope target condition [] items)
          pure (some chosen.length, chosen, scope)
        | none => pure (value.loopLength?, items, scope)
      if items.isEmpty then renderAll otherwise scope
      else runLoop ⟨target, again, scope.loopDepth, body⟩ (renderAll body) length items scope
  | .assign target value, scope => do
    let (value, scope) ← scope.compute (value.eval recurrence scope)
    let frame ← target.assign value scope.innermost
    return ([], scope.withFrame frame)
  | .capture target filters body, scope => do
    let (written, scope) ← renderAll body scope
    let (value, scope) ← scope.compute (applyFilters recurrence scope (.string written) filters)
    let frame ← target.assign value scope.innermost
    return ([], scope.withFrame frame)
where
  /-- What statements write one after another. -/
  renderAll : List Statement → Scope → Written
    | [], scope => return ([], scope)
    | statement :: rest, scope => do
      let (written, scope) ← statement.render recurrence scope
      let (others, scope) ← renderAll rest scope
      return (written ++ others, scope)

/-- What the loop around a place writes when it runs again for further items, which it may do inside itself only so
many times. There is neither a condition nor another part then. -/
def recurrence : Nat → Recurrence
  | 0, _, _ => throw .tooDeep
  | levels + 1, scope, value => do
    match scope.surrounding, value.items? with
    | some loop, some items =>
      if loop.again then
        let inner := { loop with depth := loop.depth + 1 }
        let body := Statement.render.renderAll (recurrence levels) loop.body
        let memory ← get
        let (written, behind) ← (runLoop inner body value.loopLength? items { scope with memory } : Written)
        set behind.memory
        return written
      else throw (.unknownFunction "loop")
    | none, _ => throw (.unknownFunction "loop")
    | _, none => throw .noItems

/-- How often loops may run again inside themselves. -/
def maxRecurrence : Nat := 500

/-- What statements write for data. -/
def renderAll (statements : List Statement) (data : Value) : Except RenderError (List Char) :=
  (Statement.render.renderAll (recurrence maxRecurrence) statements { data }).map (·.1)

end Manuscript.Template
