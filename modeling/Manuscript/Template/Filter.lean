import Manuscript.Template.Operator
import Manuscript.Template.Token.Literal
import Manuscript.Text.Case
import Manuscript.Text.Lines
import Manuscript.Text.Numeral

/-!
# Filters, tests and functions

What a template can do with a value by name: filters make another value of it, tests say whether something holds of
it, and functions make a value from their arguments alone.
-/

namespace Manuscript.Template

/-- Arguments with and without keywords. -/
structure Arguments where
  positional : List Value := []
  keywords : List (String × Value) := []
  deriving Inhabited

/-- Arguments in order; those with keywords make one map behind the others. -/
def Arguments.ordered (arguments : Arguments) : List Value :=
  let keywords := Value.ofEntries (arguments.keywords.map (fun k => (.ofString k.1, k.2)))
  arguments.positional ++ (if arguments.keywords.isEmpty then [] else [keywords])

namespace Filter

/-- A missing argument counts as undefined. -/
def argument (arguments : Arguments) (index : Nat) : Value :=
  arguments.positional.getD index .undefined

/-- Whether an argument is given, and not as undefined or none. -/
def isGiven : Value → Bool
  | .undefined => false
  | .none => false
  | _ => true

/-- Whether there are no keywords and between `least` and `most` arguments. -/
def accepts (least most : Nat) (arguments : Arguments) : Bool :=
  arguments.keywords.isEmpty && least ≤ arguments.positional.length && arguments.positional.length ≤ most

/-- The items of a value written one after another with a separator between them. -/
def join (value : Value) (separator : List Char) : Option Value :=
  value.items?.map (fun items => .string (separator.intercalate (items.map Value.text)))

/-- A text with every occurrence of another one replaced. -/
def replaceFrom (part new : List Char) : Nat → List Char → List Char
  | _, [] => []
  | skip + 1, _ :: rest => replaceFrom part new skip rest
  | 0, c :: rest =>
    if part.isPrefixOf (c :: rest) then new ++ replaceFrom part new (part.length - 1) rest
    else c :: replaceFrom part new 0 rest

/-- A text with every occurrence of another one replaced; the empty text occurs around every character. -/
def replaceAll (part new s : List Char) : List Char :=
  if part.isEmpty then new ++ s.flatMap (fun c => c :: new) else replaceFrom part new 0 s

/-- A text without the characters of a set at its ends. -/
def trimSet (set s : List Char) : List Char :=
  ((s.dropWhile set.contains).reverse.dropWhile set.contains).reverse

/-- The first item or character. -/
def first? : Value → Option Value
  | .string s => some ((s.head?.map (fun c => .string [c])).getD .undefined)
  | .list items => some (items.head?.getD .undefined)
  | .series items => some (items.head?.getD .undefined)
  | .map entries => some ((entries.head?.map (·.1)).getD .undefined)
  | _ => none

/-- The last item or character. -/
def last? : Value → Option Value
  | .string s => some ((s.getLast?.map (fun c => .string [c])).getD .undefined)
  | .list items => some (items.getLast?.getD .undefined)
  | .series items => some (items.getLast?.getD .undefined)
  | _ => none

/-- The items or characters from the last to the first. The keys of a map keep their order. -/
def reverse? : Value → Option Value
  | .undefined => some .undefined
  | .none => some .none
  | .string s => some (.string s.reverse)
  | .list items => some (.series items.reverse)
  | .series items => some (.series items.reverse)
  | .map entries => some (.series (entries.map (·.1)))
  | _ => none

/-- A letter of the ASCII alphabet in lower case; any other character as it is. -/
def foldLetter (c : Char) : Char :=
  if 'A' ≤ c && c ≤ 'Z' then Char.ofNat (c.toNat + 32) else c

/-- The order in which values are sorted; texts are compared without regard to the case of ASCII letters unless it
matters. -/
def sortOrder (caseMatters : Bool) (a b : Value) : Ordering :=
  match a, b with
  | .string s, .string t =>
    if caseMatters then Value.compareTexts s t else Value.compareTexts (s.map foldLetter) (t.map foldLetter)
  | _, _ => a.compareWith b

/-- A member of a member, by names with points between them; what is undefined has no members. -/
def memberPath? (value : Value) : List (List Char) → Option Value
  | [] => some value
  | name :: rest =>
    match value with
    | .undefined => none
    | _ =>
      match Text.unsigned? (Nat.pow 2 64) name with
      | some index => memberPath? (value.item (.int index)) rest
      | none => memberPath? (value.member (String.ofList name)) rest

/-- The order of two values by their members with the given paths, the first of which counts most. Values without
such a member count as equal. -/
def memberOrder (caseMatters : Bool) (a b : Value) (paths : List (List (List Char))) : Ordering :=
  paths.foldl
    (fun order path =>
      order.then
        (match memberPath? a path, memberPath? b path with
          | some x, some y => sortOrder caseMatters x y
          | _, _ => .eq))
    .eq

/-- The paths of members that a text names with commas between them. -/
def memberPaths (text : List Char) : List (List (List Char)) :=
  (Text.splitWhere (· == ',') text).map (fun path => Text.splitWhere (· == '.') (Text.trim path))

/-- The keywords of sorting. -/
def sortKeywords : List String :=
  ["case_sensitive", "attribute", "reverse"]

/-- The items of a value in order, by themselves or by some of their members. Items that count as equal keep their
order. -/
def sort? (value : Value) (arguments : Arguments) : Option Value := do
  let keyword := fun name => (arguments.keywords.lookup name).getD .undefined
  if !arguments.positional.isEmpty || arguments.keywords.any (fun k => !sortKeywords.contains k.1) then none
  let items ← value.items?
  let caseMatters := (keyword "case_sensitive").isTrue
  let order ←
    match keyword "attribute" with
    | .undefined => some (sortOrder caseMatters)
    | .none => some (sortOrder caseMatters)
    | .string names => some (fun a b => memberOrder caseMatters a b (memberPaths names))
    | _ => none
  if (keyword "reverse").isTrue then pure (.list (items.mergeSort (fun a b => order a b != .lt)))
  else pure (.list (items.mergeSort (fun a b => order a b != .gt)))

/-- A value, or another one in its place when it is undefined, or when it does not count as true and a further
argument does. The other one is the empty text unless it is given. -/
def default? (value : Value) (arguments : List Value) : Option Value :=
  let given := arguments.headD .undefined
  let other := if isGiven given then given else .string []
  let lax := (arguments.getD 1 .undefined).isTrue
  if 2 < arguments.length then none
  else
    match value with
    | .undefined => some other
    | _ => some (if lax && !value.isTrue then other else value)

/-- What a filter makes of a value, unless the value or the arguments do not suit it. -/
def result? (name : String) (value : Value) (arguments : Arguments) : Option Value :=
  match name with
  | "join" =>
    if accepts 0 1 arguments then
      let separator := argument arguments 0
      join value (if isGiven separator then separator.text else [])
    else none
  | "length" | "count" => if accepts 0 0 arguments then value.length?.map (fun n => .int n) else none
  | "upper" => if accepts 0 0 arguments then some (.string (Text.toUpper value.text)) else none
  | "lower" => if accepts 0 0 arguments then some (.string (Text.toLower value.text)) else none
  | "default" | "d" => default? value arguments.ordered
  | "trim" =>
    if accepts 0 1 arguments then
      let set := argument arguments 0
      some (.string (if isGiven set then trimSet set.text value.text else Text.trim value.text))
    else none
  | "first" => if accepts 0 0 arguments then first? value else none
  | "last" => if accepts 0 0 arguments then last? value else none
  | "replace" =>
    if accepts 2 2 arguments then
      some (.string (replaceAll (argument arguments 0).text (argument arguments 1).text value.text))
    else none
  | "sort" => sort? value arguments
  | "reverse" => if accepts 0 0 arguments then reverse? value else none
  | _ => none

/-- The names of the filters. -/
def names : List String :=
  ["join", "length", "count", "upper", "lower", "default", "d", "trim", "first", "last", "replace", "sort", "reverse"]

/-- What a filter makes of a value. -/
def apply (name : String) (value : Value) (arguments : Arguments) : Except RenderError Value :=
  if names.contains name then
    match result? name value arguments with
    | some result => .ok result
    | none => .error (.wrongArguments name)
  else .error (.unknownFilter name)

end Filter

namespace Test

/-- Whether a test holds of a value, unless there is no such test. -/
def holds? (name : String) (value : Value) : Option Bool :=
  match name with
  | "defined" => some (match value with | .undefined => false | _ => true)
  | "undefined" => some (match value with | .undefined => true | _ => false)
  | "none" => some (match value with | .none => true | _ => false)
  | "iterable" => some value.items?.isSome
  | "number" => some (match value with | .int _ => true | .float _ => true | _ => false)
  | "string" => some (match value with | .string _ => true | _ => false)
  | "boolean" => some (match value with | .bool _ => true | _ => false)
  | "sequence" => some (match value with | .list _ => true | .series _ => true | _ => false)
  | "mapping" => some (match value with | .map _ => true | _ => false)
  | "odd" => some (match value.toInt? with | some n => n % 2 != 0 | none => false)
  | "even" => some (match value.toInt? with | some n => n % 2 == 0 | none => false)
  | _ => none

/-- Whether a test holds of a value; the tests take no arguments. -/
def apply (name : String) (value : Value) (arguments : Arguments) : Except RenderError Value :=
  match holds? name value with
  | some holds => if Filter.accepts 0 0 arguments then .ok (.bool holds) else .error (.wrongArguments name)
  | none => .error (.unknownTest name)

end Test

namespace Function

/-- How many numbers a range may have. -/
def maxRange : Nat := 100000

/-- How many numbers there are from `start` to `stop`, which is left out, with a step that is not nought. -/
def rangeCount (start stop step : Int) : Nat :=
  let distance := if 0 < step then stop - start else start - stop
  ((distance + step.natAbs - 1) / step.natAbs).toNat

/-- The numbers from nought or a first one to a last one, which is left out, with a step between them. -/
def range? (arguments : Arguments) : Option Value := do
  if !Filter.accepts 1 3 arguments then none
  let lower ← (Filter.argument arguments 0).toIndex?
  let upper := Filter.argument arguments 1
  let step := Filter.argument arguments 2
  let (start, stop) ← if Filter.isGiven upper then upper.toIndex?.map (lower, ·) else some (0, lower)
  let step ← if Filter.isGiven step then step.toIndex? else some 1
  if step = 0 then none
  let count := rangeCount start stop step
  if maxRange < count then none
  pure (.series ((List.range count).map (fun (i : Nat) => .int (start + i * step))))

/-- What a function makes of its arguments. -/
def apply (name : String) (arguments : Arguments) : Except RenderError Value :=
  match name with
  | "range" =>
    match range? arguments with
    | some value => .ok value
    | none => .error (.wrongArguments name)
  | _ => .error (.unknownFunction name)

end Function

end Manuscript.Template
