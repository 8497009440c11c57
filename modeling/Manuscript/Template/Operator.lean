import Manuscript.Template.Error
import Manuscript.Template.Value.Printer

/-!
# What operators compute

Arithmetic on integers of 128 bits and on floating-point numbers, and what `+`, `*`, `~`, `in` and slices do with
texts and lists. Integers are divided with a remainder that is not negative; a division with `/` gives a
floating-point number.
-/

namespace Manuscript.Template

namespace Value

/-- Two numbers brought to one type: integers, unless one of them is a floating-point number. -/
inductive Pair where
  | ints (a b : Int)
  | floats (x y : Float)

/-- Two values as numbers of one type. -/
def pair? : Value → Value → Option Pair
  | .float x, b => b.toFloat?.map (.floats x)
  | a, .float y => a.toFloat?.map (.floats · y)
  | a, b => (ints? a b).map (fun r => .ints r.1 r.2)

/-- An integer, if it is in range. -/
def ofInt (n : Int) : Except RenderError Value :=
  if inRange n then .ok (.int n) else .error .overflow

/-- A number computed from two numbers. -/
def arithmetic (operator : BinaryOperator) (ints : Int → Int → Except RenderError Value)
    (floats : Float → Float → Float) (a b : Value) : Except RenderError Value :=
  match pair? a b with
  | some (.ints m n) => ints m n
  | some (.floats x y) => .ok (.float (floats x y))
  | Option.none => .error (.wrongOperands operator)

/-- How often something is repeated: a number that is not negative. -/
def repeatCount (count : Value) : Except RenderError Nat :=
  match count.toIndex? with
  | some n => if 0 ≤ n then .ok n.toNat else .error (.wrongOperands .multiply)
  | Option.none => .error (.wrongOperands .multiply)

/-- Items one after another, as often as a number says. -/
def repeated {α : Type} (count : Nat) (items : List α) : List α :=
  if items.isEmpty then [] else (List.replicate count items).flatten

/-- The bytes that a repeated text may have. -/
def maxRepeatedText : Nat := 100000000

/-- A text, repeated. -/
def repeatText (s : List Char) (count : Value) : Except RenderError Value := do
  let n ← repeatCount count
  if maxRepeatedText < n * (s.map Char.utf8Size).foldl (· + ·) 0 then .error .tooLong
  else .ok (.string (repeated n s))

/-- A list, repeated. -/
def repeatItems (items : List Value) (count : Value) : Except RenderError Value :=
  (repeatCount count).map (fun n => .series (repeated n items))

/-- A sum, or two texts or lists joined. -/
def add (a b : Value) : Except RenderError Value :=
  match a.sequence?, b.sequence? with
  | some as, some bs => .ok (.series (as ++ bs))
  | _, _ =>
    match a, b with
    | .string s, .string t => .ok (.string (s ++ t))
    | _, _ => arithmetic .add (fun m n => ofInt (m + n)) (· + ·) a b

/-- A product, or a text or list repeated. -/
def multiply (a b : Value) : Except RenderError Value :=
  match a, b with
  | .string s, _ => repeatText s b
  | _, .string t => repeatText t a
  | _, _ =>
    match a.sequence?, b.sequence? with
    | some as, _ => repeatItems as b
    | Option.none, some bs => repeatItems bs a
    | Option.none, Option.none => arithmetic .multiply (fun m n => ofInt (m * n)) (· * ·) a b

/-- A quotient, which is a floating-point number. -/
def divide (a b : Value) : Except RenderError Value :=
  match a.toFloat?, b.toFloat? with
  | some x, some y => .ok (.float (x / y))
  | _, _ => .error (.wrongOperands .divide)

/-- The quotient of the division with a remainder that is not negative. -/
def floorDivide (a b : Value) : Except RenderError Value :=
  arithmetic .floorDivide (fun m n => if n = 0 then .error .divisionByZero else ofInt (m / n)) Decimal.floorQuotient a b

/-- The remainder of a division. -/
def modulo (a b : Value) : Except RenderError Value :=
  arithmetic .remainder (fun m n => if n = 0 then .error .divisionByZero else ofInt (m % n)) Decimal.remainder a b

/-- An integer to a power that is not negative. No power above the 127th stays in range unless the base is nought or
one or minus one. -/
def intPower (m n : Int) : Except RenderError Value :=
  if n < 0 || Int.pow 2 32 ≤ n then .error .overflow
  else if 127 < n && 1 < m.natAbs then .error .overflow
  else if 127 < n then ofInt (Int.pow m (n.toNat % 2 + 2))
  else ofInt (Int.pow m n.toNat)

/-- A power. -/
def power (a b : Value) : Except RenderError Value :=
  arithmetic .power intPower Float.pow a b

/-- A number with the other sign. The first number beyond 128 bits stays as it is, and the least of 128 bits has no
number with the other sign. -/
def negate : Value → Except RenderError Value
  | .int n =>
    if n = Int.pow 2 127 then .ok (.int n)
    else if inRange n then ofInt (-n)
    else .error .notANumber
  | .float x => .ok (.float (-x))
  | _ => .error .notANumber

/-- Whether a text occurs in another one. -/
def occursIn (part : List Char) : List Char → Bool
  | [] => part.isEmpty
  | c :: rest => part.isPrefixOf (c :: rest) || occursIn part rest

/-- Whether a text, a list or the keys of a map hold a value. -/
def holds (container value : Value) : Except RenderError Bool :=
  match container with
  | .undefined => .ok false
  | .string s => .ok (occursIn value.text s)
  | .list items => .ok (items.any (· == value))
  | .series items => .ok (items.any (· == value))
  | .map entries => .ok (lookup? value entries).isSome
  | .round .. => .ok false
  | _ => .error .noMembers

/-- Whether a relation holds between two values. -/
def relate (relation : Relation) (a b : Value) : Except RenderError Bool :=
  match relation with
  | .equal => .ok (a == b)
  | .notEqual => .ok (!(a == b))
  | .less => .ok (a.compareWith b == .lt)
  | .lessEqual => .ok (a.compareWith b != .gt)
  | .greater => .ok (a.compareWith b == .gt)
  | .greaterEqual => .ok (a.compareWith b != .lt)
  | .isIn => holds b a
  | .isNotIn => (holds b a).map not

/-- What an operator computes from the values of both operands. -/
def operate (operator : BinaryOperator) (a b : Value) : Except RenderError Value :=
  match operator with
  | .or => .ok (if a.isTrue then a else b)
  | .and => .ok (if a.isTrue then b else a)
  | .add => add a b
  | .subtract => arithmetic .subtract (fun m n => ofInt (m - n)) (· - ·) a b
  | .concat => .ok (.string (a.text ++ b.text))
  | .multiply => multiply a b
  | .divide => divide a b
  | .floorDivide => floorDivide a b
  | .remainder => modulo a b
  | .power => power a b

/-! ## Slices -/

/-- The integer that a bound of a slice is, if it is not left open. -/
def bound? (value : Value) : Except RenderError (Option Int) :=
  match value with
  | .none => .ok Option.none
  | _ =>
    match value.toIndex? with
    | some n => .ok (some n)
    | Option.none => .error .wrongSlice

/-- Every item whose position is a multiple of `step`, when `skip` items come before the next of them. -/
def everyNth {α : Type} (step : Nat) : Nat → List α → List α
  | _, [] => []
  | 0, item :: rest => item :: everyNth step (step - 1) rest
  | skip + 1, _ :: rest => everyNth step skip rest

/-- A place in a list that a bound stands for: a negative one is counted from the end, but does not go beyond the
start. -/
def place (length : Nat) (bound : Int) : Nat :=
  (if 0 ≤ bound then bound else length + bound).toNat

/-- A part of a list from its start to its end. -/
def forwardSlice {α : Type} (items : List α) (start stop : Option Int) (step : Nat) : List α :=
  let first := place items.length (start.getD 0)
  let last := (stop.map (place items.length)).getD items.length
  everyNth step 0 ((items.take last).drop first)

/-- A part of a list from its end to its start. The item at the last place is left out, unless that is the start of
the list. -/
def backwardSlice {α : Type} (items : List α) (start stop : Option Int) (step : Nat) : List α :=
  let first := ((start.map (place items.length)).map (fun n => min n (items.length - 1))).getD (items.length - 1)
  let last := (stop.map (place items.length)).getD 0
  everyNth step 0 ((items.take (first + 1)).drop (if last = 0 then 0 else last + 1)).reverse

/-- A part of a list. -/
def sliceItems {α : Type} (items : List α) (start stop : Option Int) (step : Int) : List α :=
  if 0 < step then forwardSlice items start stop step.toNat else backwardSlice items start stop step.natAbs

/-- A part of a list or a text; of nothing there are no parts. -/
def slice (value start stop step : Value) : Except RenderError Value := do
  let start ← bound? start
  let stop ← bound? stop
  let step := (← bound? step).getD 1
  if step = 0 then .error .wrongSlice
  else
    match value with
    | .string s => .ok (.string (sliceItems s start stop step))
    | .list items => .ok (.series (sliceItems items start stop step))
    | .series items => .ok (.series (sliceItems items start stop step))
    | .undefined => .ok (.list [])
    | .none => .ok (.list [])
    | _ => .error .wrongSlice

end Value

end Manuscript.Template
