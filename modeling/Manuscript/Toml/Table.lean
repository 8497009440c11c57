import Manuscript.Toml

/-!
# Building TOML tables

A text gives the entries of its tables in pieces: by headers, by dotted keys, by tables inside tables. While it is
read, a table remembers how it came about, because a table may be given only once. A table that a header or a dotted
key passes through is implicit until a header names it.
-/

namespace Manuscript.Toml

/-- What stands under a key while a text is read. -/
inductive Entry where
  | value (value : Toml)
  /-- A table; `implicit` says that no header has named it, and `dotted` that a dotted key has made it. -/
  | table (implicit dotted : Bool) (entries : List (String × Entry))
  /-- Tables under one header in double brackets: those before the last, and the last. -/
  | tables (before : List (List (String × Entry))) (last : List (String × Entry))
  deriving Inhabited

/-- The entries of a table while it is read. -/
abbrev Entries := List (String × Entry)

/-- The entries with another one under a key that is there. -/
def replaceEntry (key : String) (entry : Entry) (entries : Entries) : Entries :=
  entries.map (fun e => if e.1 = key then (key, entry) else e)

/-- The entries with a value under a key of several parts. A table on the way is made or must be implicit, and the
one that the value goes into must have been made by a dotted key. -/
def insertValue (value : Toml) : List String → Entries → Option Entries
  | [], _ => none
  | [key], entries =>
    match entries.lookup key with
    | none => some (entries ++ [(key, .value value)])
    | some _ => none
  | key :: next :: rest, entries =>
    match entries.lookup key with
    | none => (insertValue value (next :: rest) []).map (fun inner => entries ++ [(key, .table true true inner)])
    | some (.table true dotted inner) =>
      if rest.isEmpty && !dotted then none
      else
        (insertValue value (next :: rest) inner).map
          (fun inner => replaceEntry key (.table true dotted inner) entries)
    | some (.tables before last) =>
      if rest.isEmpty then none
      else (insertValue value (next :: rest) last).map (fun last => replaceEntry key (.tables before last) entries)
    | some _ => none

/-- The entries with a value for each of the given keys. -/
def insertValues (values : List (List String × Toml)) (entries : Entries) : Option Entries :=
  values.foldlM (fun entries v => insertValue v.2 v.1 entries) entries

/-- The entries changed below the tables of a header's path, of which missing ones are made; the change is made to
the entry under the last part. -/
def updateAt (change : Option Entry → Option Entry) : List String → Entries → Option Entries
  | [], _ => none
  | [key], entries =>
    match entries.lookup key with
    | none => (change none).map (fun entry => entries ++ [(key, entry)])
    | some entry => (change (some entry)).map (fun entry => replaceEntry key entry entries)
  | key :: next :: rest, entries =>
    match entries.lookup key with
    | none => (updateAt change (next :: rest) []).map (fun inner => entries ++ [(key, .table true false inner)])
    | some (.table implicit dotted inner) =>
      (updateAt change (next :: rest) inner).map (fun inner => replaceEntry key (.table implicit dotted inner) entries)
    | some (.tables before last) =>
      (updateAt change (next :: rest) last).map (fun last => replaceEntry key (.tables before last) entries)
    | some (.value _) => none

/-- The table that a header names, with its values: a new one, or one that only headers below it have made. -/
def openTable (values : List (List String × Toml)) : Option Entry → Option Entry
  | none => (insertValues values []).map (.table false false)
  | some (.table true false entries) => (insertValues values entries).map (.table false false)
  | some _ => none

/-- One more table under a header in double brackets, with its values. -/
def pushTable (values : List (List String × Toml)) : Option Entry → Option Entry
  | none => (insertValues values []).map (.tables [])
  | some (.tables before last) => (insertValues values []).map (.tables (before ++ [last]))
  | some _ => none

/-- An entry as a value. -/
def Entry.toValue : Entry → Toml
  | .value v => v
  | .table _ _ entries => .table (entriesToValues entries)
  | .tables before last => .array (tablesToValues before ++ [.table (entriesToValues last)])
where
  /-- Entries as values. -/
  entriesToValues : List (String × Entry) → List (String × Toml)
    | [] => []
    | (key, entry) :: rest => (key, entry.toValue) :: entriesToValues rest
  /-- Tables as values. -/
  tablesToValues : List (List (String × Entry)) → List Toml
    | [] => []
    | entries :: rest => .table (entriesToValues entries) :: tablesToValues rest

/-- A table written inside braces, from its keys and values. -/
def inlineTable? (values : List (List String × Toml)) : Option Toml :=
  (insertValues values []).map (fun entries => .table (Entry.toValue.entriesToValues entries))

end Manuscript.Toml
