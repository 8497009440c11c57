import Manuscript.Dictionary
import Manuscript.Json

/-!
# Reading records from JSON values

A record is read from an object, whose members are found by name, or from an array, whose items are the fields in
their order of declaration. Every array and every object that is looked into takes one of the levels of nesting that
the reader allows; what is skipped takes none.
-/

namespace Manuscript.Json

/-- The deepest nesting of arrays and objects that a JSON text may have where it is looked into. -/
def maxLevels : Nat := 127

/-- How many members have the given name. -/
def countName (name : String) (members : List (Option String × Json)) : Nat :=
  members.countP (fun m => m.1 == some name)

/-- The known fields of a record. An object gives each of them at most once, may have other members, and has no name
without text; an array has no more items than there are fields. -/
def record? (names : List String) : Json → Option (List (String × Json))
  | .object members =>
    if members.any (fun m => m.1.isNone) || names.any (fun name => 1 < countName name members) then none
    else
      some (members.filterMap (fun m =>
        match m.1 with
        | some key => if names.contains key then some (key, m.2) else none
        | none => none))
  | .array items => if items.length ≤ names.length then some (names.zip items) else none
  | _ => none

/-- A field that may be missing, with the value it then has. -/
def fieldOr {α : Type} (fields : List (String × Json)) (name : String) (default : α) (read? : Json → Option α) :
    Option α :=
  match fields.lookup name with
  | some value => read? value
  | none => some default

/-- A field that must be there. -/
def field? {α : Type} (fields : List (String × Json)) (name : String) (read? : Json → Option α) : Option α :=
  (fields.lookup name).bind read?

/-- A truth value. -/
def bool? : Json → Option Bool
  | .bool b => some b
  | _ => none

/-- A value or null. -/
def nullable? {α : Type} (read? : Json → Option α) : Json → Option (Option α)
  | .null => some none
  | json => (read? json).map some

/-- The items of an array, each read with the levels that are left inside it. -/
def list? {α : Type} (read? : Nat → Json → Option α) : Nat → Json → Option (List α)
  | levels + 1, .array items => items.mapM (read? levels)
  | _, _ => none

/-- The strings of an array. -/
def strings? (levels : Nat) (json : Json) : Option (List String) :=
  list? (fun _ => string?) levels json

/-- A dictionary of strings from an object; of two members with one name the later counts. -/
def dictionary? : Nat → Json → Option (Dictionary String)
  | _ + 1, .object members =>
    (members.mapM (fun (m : Option String × Json) => m.1.bind (fun key => (string? m.2).map (key, ·)))).map
      Dictionary.ofList
  | _, _ => none

/-- A dictionary of strings as an object. -/
def ofDictionary (d : Dictionary String) : Json :=
  ofMembers (d.entries.map (fun e => (e.1, ofString e.2)))

/-- A list of strings as an array. -/
def ofStrings (l : List String) : Json :=
  .array (l.map ofString)

end Manuscript.Json
