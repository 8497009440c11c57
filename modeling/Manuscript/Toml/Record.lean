import Manuscript.Toml

/-!
# Reading records from TOML values

A record is read from a table, whose entries are found by key, or from an array, whose items are the fields in their
order of declaration. What the record does not know is passed over. Where a table is wanted, a date counts as one
with a single entry, which holds its text under a name of its own.
-/

namespace Manuscript.Toml

/-- The name under which a date that counts as a table holds its text. -/
def dateTimeKey : String := "$__toml_private_datetime"

/-- The known fields of a record. -/
def record? (names : List String) : Toml → Option (List (String × Toml))
  | .table entries => some entries
  | .array items => some (names.zip items)
  | .dateTime text => some [(dateTimeKey, .string text)]
  | _ => none

/-- A field that may be missing, with the value it then has. -/
def fieldOr {α : Type} (fields : List (String × Toml)) (name : String) (default : α) (read? : Toml → Option α) :
    Option α :=
  match fields.lookup name with
  | some value => read? value
  | none => some default

/-- A field that must be there. -/
def field? {α : Type} (fields : List (String × Toml)) (name : String) (read? : Toml → Option α) : Option α :=
  (fields.lookup name).bind read?

/-- The text of a string. -/
def text? : Toml → Option String
  | .string text => some text
  | _ => none

/-- A truth value. -/
def bool? : Toml → Option Bool
  | .bool b => some b
  | _ => none

/-- The strings of an array. -/
def strings? : Toml → Option (List String)
  | .array items => items.mapM text?
  | _ => none

/-- A dictionary of strings from a table. -/
def dictionary? : Toml → Option (Dictionary String)
  | .table entries => (entries.mapM (fun (e : String × Toml) => (text? e.2).map (e.1, ·))).map Dictionary.ofList
  | .dateTime text => some (Dictionary.ofList [(dateTimeKey, text)])
  | _ => none

end Manuscript.Toml
