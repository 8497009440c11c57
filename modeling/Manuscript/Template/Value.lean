import Manuscript.Decimal.Binary
import Manuscript.Text.Blank

/-!
# The values of templates

What an expression of a template stands for. A name without a value is `undefined`, which is not an error: it counts
as false, has no members but undefined ones, and prints as nothing. Truth values count as the numbers nought and one
where a number is wanted, and integers and floating-point numbers are compared by what they are.

Lists come in two kinds: those that are given, and the series that are computed from other values by joining,
repeating, cutting or turning them around. The two are equal when their items are, and differ in the order of
values, where a series comes after a map.
-/

namespace Manuscript.Template

/-- A value. -/
inductive Value where
  | undefined
  | none
  | bool (value : Bool)
  | int (value : Int)
  | float (value : Float)
  | string (text : List Char)
  | list (items : List Value)
  /-- Keys and values in the order in which they are met. -/
  | map (entries : List (Value × Value))
  /-- The items of a computed list. -/
  | series (items : List Value)
  /-- A round of a loop: how many loops are around the loop, how many of them count for its depth, how many rounds
  came before, how many there are when that is known, and the items of the rounds before and after. -/
  | round (level depth index : Nat) (length : Option Nat) (previous next : Value)
  deriving Inhabited

namespace Value

/-- A string. -/
def ofString (s : String) : Value :=
  .string s.toList

/-- A string, or none. -/
def ofOption : Option String → Value
  | some s => ofString s
  | .none => .none

/-- Whether a value counts as true. -/
def isTrue : Value → Bool
  | .undefined => false
  | .none => false
  | .bool b => b
  | .int n => n != 0
  | .float x => x != 0
  | .string s => !s.isEmpty
  | .list items => !items.isEmpty
  | .map entries => !entries.isEmpty
  | .series items => !items.isEmpty
  | .round .. => true

/-- The items of a list of either kind. -/
def sequence? : Value → Option (List Value)
  | .list items => some items
  | .series items => some items
  | _ => Option.none

/-- Values of different kinds are ordered by their kinds. -/
def kindRank : Value → Nat
  | .undefined => 0
  | .none => 1
  | .bool _ => 2
  | .int _ => 3
  | .float _ => 3
  | .string _ => 4
  | .list _ => 5
  | .map _ => 6
  | .series _ => 7
  | .round .. => 8

/-! ## Numbers -/

/-- Whether an integer is in the range of computed integers, which is that of 128 bits with a sign. -/
def inRange (n : Int) : Bool :=
  -Int.pow 2 127 ≤ n && n < Int.pow 2 127

/-- Whether an integer can stand for a position, which is one of 64 bits with a sign. -/
def isIndex (n : Int) : Bool :=
  -Int.pow 2 63 ≤ n && n < Int.pow 2 63

/-- The position that a whole number stands for. The first number beyond the positions stands for the last of them,
since there is no floating-point number between the two. -/
def position (n : Int) : Option Int :=
  if n = Int.pow 2 63 then some (n - 1) else if isIndex n then some n else Option.none

/-- The integer that a value is. -/
def toInt? : Value → Option Int
  | .bool b => some (if b then 1 else 0)
  | .int n => if inRange n then some n else Option.none
  | .float x => (Decimal.toInt? x).bind position
  | _ => Option.none

/-- Two values as integers. Two integers that are both beyond 64 bits are taken modulo two to the 128th, with a sign. -/
def ints? (a b : Value) : Option (Int × Int) :=
  let wrapped :=
    match a, b with
    | .int m, .int n => Int.pow 2 64 ≤ m && Int.pow 2 64 ≤ n
    | _, _ => false
  match a, b with
  | .int m, .int n =>
    if wrapped then some (Int.bmod m (Nat.pow 2 128), Int.bmod n (Nat.pow 2 128))
    else if inRange m && inRange n then some (m, n) else Option.none
  | _, _ => a.toInt?.bind (fun m => b.toInt?.map (m, ·))

/-- The floating-point number nearest to a number. -/
def toFloat? : Value → Option Float
  | .bool b => some (if b then 1 else 0)
  | .int n => some (Decimal.ofInt n)
  | .float x => some x
  | _ => Option.none

/-- The floating-point number that a number is, without rounding. -/
def exactFloat? : Value → Option Float
  | .int n => if Decimal.toInt? (Decimal.ofInt n) = some n then some (Decimal.ofInt n) else Option.none
  | value => value.toFloat?

/-- The integer that a value is when it can stand for a position. -/
def toIndex? (value : Value) : Option Int :=
  value.toInt?.filter isIndex

/-! ## Equality and order -/

/-- How a round of a loop is written: its number from nought and the number of rounds. -/
def roundText (index : Nat) (length : Option Nat) : List Char :=
  "<loop ".toList ++ (Nat.toDigits 10 index ++ ('/' :: ((length.map (Nat.toDigits 10)).getD ['?'] ++ ['>'])))

/-- Whether two values, one of which is no list or map, are equal. -/
def atomEq : Value → Value → Bool
  | .undefined, .undefined => true
  | .none, .none => true
  | .string a, .string b => a == b
  | .round _ _ i m _ _, .round _ _ j n _ _ => roundText i m == roundText j n
  | .float x, b => match b.exactFloat? with | some y => x == y | Option.none => false
  | a, .float y => match a.exactFloat? with | some x => x == y | Option.none => false
  | a, b => match ints? a b with | some (m, n) => m == n | Option.none => false

/-- The order of two characters by code point. -/
def compareChars (a b : Char) : Ordering :=
  compare a.toNat b.toNat

/-- The order of two texts. -/
def compareTexts : List Char → List Char → Ordering
  | [], [] => .eq
  | [], _ => .lt
  | _, [] => .gt
  | a :: as, b :: bs => (compareChars a b).then (compareTexts as bs)

/-- The order of two values of one kind that are no lists or maps. -/
def compareAtoms : Value → Value → Ordering
  | .string a, .string b => compareTexts a b
  | .float x, b =>
    match b.exactFloat? with
    | some y => compare (Decimal.orderKey x) (Decimal.orderKey y)
    | Option.none => .eq
  | a, .float y =>
    match a.exactFloat? with
    | some x => compare (Decimal.orderKey x) (Decimal.orderKey y)
    | Option.none => .eq
  | .round _ _ i m _ _, .round _ _ j n _ _ => compareTexts (roundText i m) (roundText j n)
  | a, b =>
    match ints? a b with
    | some (m, n) => compare m n
    | Option.none => .eq

/-- The order of two values: by kind first, then numbers by size, texts by code points, lists and maps from the
start. -/
def compareWith : Value → Value → Ordering
  | .list as, b =>
    match b with
    | .list bs => compareLists as bs
    | _ => compare 5 b.kindRank
  | .series as, b =>
    match b with
    | .series bs => compareLists as bs
    | _ => compare 7 b.kindRank
  | .map as, b =>
    match b with
    | .map bs => compareMaps as bs
    | _ => compare 6 b.kindRank
  | a, b => (compare a.kindRank b.kindRank).then (compareAtoms a b)
where
  /-- The order of two lists. -/
  compareLists : List Value → List Value → Ordering
    | [], bs => if bs.isEmpty then .eq else .lt
    | a :: as, bs =>
      match bs with
      | [] => .gt
      | b :: bs => (a.compareWith b).then (compareLists as bs)
  /-- The order of two maps. -/
  compareMaps : List (Value × Value) → List (Value × Value) → Ordering
    | [], bs => if bs.isEmpty then .eq else .lt
    | (key, value) :: as, bs =>
      match bs with
      | [] => .gt
      | b :: bs => ((key.compareWith b.1).then (value.compareWith b.2)).then (compareMaps as bs)

/-- Whether two values are equal: lists of either kind by their items in order, maps by the values of their keys. -/
def eq : Value → Value → Bool
  | .list as, b =>
    match b.sequence? with
    | some bs => listEq as bs
    | Option.none => false
  | .series as, b =>
    match b.sequence? with
    | some bs => listEq as bs
    | Option.none => false
  | .map as, b =>
    match b with
    | .map bs => as.length == bs.length && mapEq as bs
    | _ => false
  | a, b => atomEq a b
where
  /-- Whether two lists have equal items. -/
  listEq : List Value → List Value → Bool
    | [], bs => bs.isEmpty
    | a :: as, bs =>
      match bs with
      | [] => false
      | b :: bs => a.eq b && listEq as bs
  /-- Whether every key has the same value in another map. -/
  mapEq : List (Value × Value) → List (Value × Value) → Bool
    | [], _ => true
    | (key, value) :: as, bs => bs.any (fun b => key.compareWith b.1 == .eq && value.eq b.2) && mapEq as bs

instance : BEq Value := ⟨eq⟩

/-! ## Maps, members and items -/

/-- The value of a key of a map. Keys are told apart by the order, so that a truth value is not the number that it
counts as. -/
def lookup? (key : Value) : List (Value × Value) → Option Value
  | [] => Option.none
  | (k, v) :: rest => if key.compareWith k == .eq then some v else lookup? key rest

/-- The entries of a map in the order of its keys, with another one, which takes the place of one with an equal key. -/
def insertEntry (key value : Value) : List (Value × Value) → List (Value × Value)
  | [] => [(key, value)]
  | (k, v) :: rest =>
    match key.compareWith k with
    | .lt => (key, value) :: (k, v) :: rest
    | .eq => (k, value) :: rest
    | .gt => (k, v) :: insertEntry key value rest

/-- A map in the order of its keys; of two values of one key the later counts. -/
def ofEntries (entries : List (Value × Value)) : Value :=
  .map (entries.foldl (fun map e => insertEntry e.1 e.2 map) [])

/-- A position counted from the start, or from the end when it is negative. -/
def position? (index : Int) (length : Nat) : Option Nat :=
  if 0 ≤ index then some index.toNat
  else if index.natAbs ≤ length then some (length - index.natAbs) else Option.none

/-- What a round of a loop tells about itself. What depends on the number of rounds is undefined when that is not
known. -/
def roundMember (depth index : Nat) (length : Option Nat) (previous next : Value) (name : String) : Value :=
  let known := fun (f : Nat → Value) => (length.map f).getD .undefined
  match name with
  | "index0" => .int index
  | "index" => .int (index + 1)
  | "length" => known (fun n => .int n)
  | "revindex" => known (fun n => .int (n - index : Nat))
  | "revindex0" => known (fun n => .int (n - index - 1 : Nat))
  | "first" => .bool (index == 0)
  | "last" => known (fun n => .bool (index + 1 == n))
  | "depth" => .int (depth + 1)
  | "depth0" => .int depth
  | "previtem" => previous
  | "nextitem" => next
  | _ => .undefined

/-- The value of a member; undefined when there is none. -/
def member (value : Value) (name : String) : Value :=
  match value with
  | .map entries => (lookup? (.ofString name) entries).getD .undefined
  | .round _ depth index length previous next => roundMember depth index length previous next name
  | _ => .undefined

/-- The item of a list at a position; undefined when there is none. -/
def itemAt (items : List Value) (key : Value) : Value :=
  ((key.toIndex?.bind (position? · items.length)).bind (fun i => items[i]?)).getD .undefined

/-- The value at a key, or at a position of a list or a text; undefined when there is none. -/
def item (value key : Value) : Value :=
  match value with
  | .map entries => (lookup? key entries).getD .undefined
  | .list items => itemAt items key
  | .series items => itemAt items key
  | .string s =>
    (((key.toIndex?.bind (position? · s.length)).bind (fun i => s[i]?)).map (fun c => .string [c])).getD .undefined
  | .round .. =>
    match key with
    | .string name => value.member (String.ofList name)
    | _ => .undefined
  | _ => .undefined

/-- The items that a loop goes through: of a list its items, of a map its keys, of a text its characters. -/
def items? : Value → Option (List Value)
  | .undefined => some []
  | .none => some []
  | .string s => some (s.map (fun c => .string [c]))
  | .list items => some items
  | .series items => some items
  | .map entries => some (entries.map (·.1))
  | _ => Option.none

/-- The number of items or characters. -/
def length? : Value → Option Nat
  | .string s => some s.length
  | .list items => some items.length
  | .series items => some items.length
  | .map entries => some entries.length
  | _ => Option.none

end Value

end Manuscript.Template
