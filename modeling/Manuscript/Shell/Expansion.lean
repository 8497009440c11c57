import Manuscript.Shell.Arithmetic
import Manuscript.Shell.Field
import Manuscript.Shell.Script

/-!
# Expansion

What words become when a command runs: the values of their parameters, of their arithmetic and of their commands are
put in, and then they are split into fields or kept as one text. Running the commands in words is left to a function
that gives what they write.
-/

namespace Manuscript.Shell

/-- What the commands in a word write. -/
abbrev Capture := Option Command → Script (List Char)

namespace State

/-- The arguments as one text. -/
def joinedArguments (state : State) : List Char :=
  match state.value? "IFS".toList with
  | none => [' '].intercalate state.arguments
  | some separators => (separators.take 1).intercalate state.arguments

/-- The text of a parameter. -/
def parameterText? (state : State) (name : List Char) : Option (List Char) :=
  if name = ['@'] || name = ['*'] then some state.joinedArguments else state.parameter? name

/-- What a parameter stands for in a word. The arguments are parts of their own where a word is split. -/
def parameterPiece? (state : State) (isSplit quoted : Bool) (name : List Char) : Option Piece :=
  if isSplit && name = ['@'] && quoted then some (.several state.arguments)
  else if isSplit && (name = ['@'] || name = ['*']) && !quoted then some (.looseParts state.arguments)
  else (state.parameterText? name).map (fun text => if quoted then .fixed text true else .loose text)

end State

namespace Script

/-- A value in a word. -/
def shown (quoted : Bool) (text : List Char) : Piece :=
  if quoted then .fixed text true else .loose text

/-- A text without the ends of line at its end and without characters of number nought. -/
def captured (s : List Char) : List Char :=
  ((s.filter (· ≠ '\x00')).reverse.dropWhile (· == '\n')).reverse

/-- The value of an expression, whose assignments are made. -/
def arithmetic (s : List Char) : Script Int := do
  match Arithmetic.eval (← get).value? s with
  | .error (.illegalNumber text) => fail ("Illegal number: ".toList ++ text)
  | .error .overflow => throw (.killed 8)
  | .error error => fail ("arithmetic expression: ".toList ++ error.reason.toList ++ ": \"".toList ++ s ++ ['"'])
  | .ok (value, assigned) =>
    assigned.reverse.forM (fun v => assign v.1 (integerText v.2))
    return value

/-- A parameter that has no value is missing; that is an error if values are asked for. -/
def missing (name : List Char) : Script Unit := do
  if (← get).hasOption 'u' then failOf name ": parameter not set"

mutual

/-- A part of a word expanded. `isSplit` says that the word becomes fields, `isInner` that the part stands in the
word of a parameter, where plain text is split too. -/
def expandSegment (capture : Capture) (isSplit isInner : Bool) : Segment → Script (List Piece)
  | .text text quoted => return [if quoted || !isInner then .fixed text quoted else .loose text]
  | .command body quoted => return [shown quoted (captured (← capture body))]
  | .home => do
    match (← get).value? "HOME".toList with
    | some home => return [.fixed home true]
    | none => return [.fixed ['~'] false]
  | .arithmetic word quoted => do
    let pieces ← expandSegments capture false false word
    return [shown quoted (integerText (← arithmetic (textOf pieces)))]
  | .parameter name operation word quoted => do
    let state ← get
    let text? := state.parameterText? name
    let value := (state.parameterPiece? isSplit quoted name).toList
    match operation with
    | .value =>
      if text?.isNone then missing name
      return value
    | .length =>
      if text?.isNone then missing name
      return [shown quoted (decimalText (text?.getD []).length)]
    | .substitute mark orEmpty =>
      let isMissing := match text? with | none => true | some text => orEmpty && text.isEmpty
      if mark = '+' then
        if isMissing then return [] else expandSegments capture isSplit true word
      else if !isMissing then return value
      else if mark = '-' then expandSegments capture isSplit true word
      else
        let other := textOf (← expandSegments capture false false word)
        if mark = '=' then
          assign name other
          return ((← get).parameterPiece? isSplit quoted name).toList
        else if word.isEmpty then failOf name (if orEmpty then ": parameter not set or null" else ": parameter not set")
        else fail (name ++ ": ".toList ++ other)
    | .trim mark longest =>
      match text? with
      | none =>
        missing name
        return []
      | some text =>
        let pattern := patternOf (← expandSegments capture false false word)
        return [match value with
          | [.several arguments] => .several (trimParts (mark == '%') longest pattern arguments)
          | [.looseParts arguments] => .looseParts (trimParts (mark == '%') longest pattern arguments)
          | _ => shown quoted (trimPattern (mark == '%') longest pattern text)]
    | .unknown => failOf [] "Bad substitution"

/-- Parts of a word expanded one after another. -/
def expandSegments (capture : Capture) (isSplit isInner : Bool) : List Segment → Script (List Piece)
  | [] => return []
  | segment :: rest => do
    let pieces ← expandSegment capture isSplit isInner segment
    return pieces ++ (← expandSegments capture isSplit isInner rest)

end

/-- A word expanded to one text. -/
def expandText (capture : Capture) (colons : Bool) (word : Word) : Script (List Char) := do
  return textOf (← expandSegments capture false false (word.withHome colons))

/-- A word expanded to a pattern. -/
def expandPattern (capture : Capture) (word : Word) : Script (List PatternChar) := do
  return patternOf (← expandSegments capture false false (word.withHome false))

/-- A word expanded to fields. -/
def expandFields (capture : Capture) (word : Word) : Script (List (List Char)) := do
  let pieces ← expandSegments capture true false (word.withHome false)
  let state ← get
  let fields := fieldsOf state.separators pieces
  return if state.hasOption 'f' then fields.map (·.map (·.1)) else fields.flatMap (textsOfField state.files)

/-- Words expanded to fields. -/
def expandAll (capture : Capture) (words : List Word) : Script (List (List Char)) := do
  return (← words.mapM (expandFields capture)).flatten

/-- An assignment whose value is expanded: the name and the value. -/
def expandAssignment (capture : Capture) (word : Word) : Script (List Char × List Char) := do
  match word.assignment? with
  | some (name, value) => return (name, ← expandText capture true value)
  | none => return ([], ← expandText capture true word)

end Script

end Manuscript.Shell
