import Manuscript.Toml.Scalar
import Manuscript.Toml.Table
import Manuscript.Toml.Text

/-!
# From text to TOML table

A text is a sequence of lines: blank ones, headers of tables, and keys with their values. The keys before the first
header belong to the table that the whole text is.
-/

namespace Manuscript.Toml

/-- How deep arrays and tables in braces may be nested, and how many parts a key may have: less than this. -/
def maxDepth : Nat := 80

namespace Parser

/-- A key that is not too long. -/
def boundedKey? (s : List Char) : Option (List String × List Char) :=
  (key? s.length s).filter (fun r => r.1.length < maxDepth)

mutual

/-- A value, at most `depth` arrays and tables deep. -/
def value? : Nat → Nat → List Char → Option (Toml × List Char)
  | 0, _, _ => none
  | fuel + 1, depth, s =>
    match s with
    | '"' :: _ => (string? s).map (fun r => (.string (String.ofList r.1), r.2))
    | '\'' :: _ => (string? s).map (fun r => (.string (String.ofList r.1), r.2))
    | '[' :: rest =>
      match depth with
      | 0 => none
      | depth + 1 => (items? fuel depth rest).map (fun r => (.array r.1, r.2))
    | '{' :: rest =>
      match depth with
      | 0 => none
      | depth + 1 =>
        match skipGaps rest with
        | '}' :: rest => some (.table [], rest)
        | rest =>
          match members? fuel depth rest with
          | some (values, rest) => (inlineTable? values).map (·, rest)
          | none => none
    | _ => scalar? s

/-- The items of an array, through its closing bracket. -/
def items? : Nat → Nat → List Char → Option (List Toml × List Char)
  | 0, _, _ => none
  | fuel + 1, depth, s =>
    match skipLines s.length s with
    | none => none
    | some (']' :: rest) => some ([], rest)
    | some rest =>
      match value? fuel depth rest with
      | none => none
      | some (item, rest) =>
        match skipLines rest.length rest with
        | some (',' :: rest) => (items? fuel depth rest).map (fun r => (item :: r.1, r.2))
        | some (']' :: rest) => some ([item], rest)
        | _ => none

/-- The keys and values of a table in braces that is not empty, through its closing brace. -/
def members? : Nat → Nat → List Char → Option (List (List String × Toml) × List Char)
  | 0, _, _ => none
  | fuel + 1, depth, s =>
    match boundedKey? s with
    | some (key, '=' :: rest) =>
      match value? fuel depth (skipGaps rest) with
      | none => none
      | some (value, rest) =>
        match skipGaps rest with
        | ',' :: rest => (members? fuel depth rest).map (fun r => ((key, value) :: r.1, r.2))
        | '}' :: rest => some ([(key, value)], rest)
        | _ => none
    | _ => none

end

/-- A line that matters. -/
inductive Line where
  | header (path : List String)
  | arrayHeader (path : List String)
  | keyValue (key : List String) (value : Toml)
  deriving Inhabited

/-- The line at the start of a text, and what follows it. -/
def line? (s : List Char) : Option (Line × List Char) :=
  match s with
  | '[' :: '[' :: rest =>
    match boundedKey? rest with
    | some (path, ']' :: ']' :: rest) => (afterLine? rest).map (.arrayHeader path, ·)
    | _ => none
  | '[' :: rest =>
    match boundedKey? rest with
    | some (path, ']' :: rest) => (afterLine? rest).map (.header path, ·)
    | _ => none
  | _ =>
    match boundedKey? s with
    | some (key, '=' :: rest) =>
      match value? (2 * rest.length + 2) (maxDepth - 1) (skipGaps rest) with
      | some (value, rest) => (afterLine? rest).map (.keyValue key value, ·)
      | none => none
    | _ => none

/-- The lines of a text that matter. -/
def lines? : Nat → List Char → Option (List Line)
  | 0, _ => some []
  | fuel + 1, s =>
    match skipGaps s with
    | [] => some []
    | '#' :: rest => (afterLine? ('#' :: rest)).bind (lines? fuel)
    | c :: rest =>
      match afterNewline? (c :: rest) with
      | some rest => lines? fuel rest
      | none =>
        match line? (c :: rest) with
        | some (line, rest) => (lines? fuel rest).map (line :: ·)
        | none => none

/-- The keys and values at the start of the lines, and what follows them. -/
def takeValues : List Line → List (List String × Toml) × List Line
  | .keyValue key value :: rest =>
    let (values, rest) := takeValues rest
    ((key, value) :: values, rest)
  | rest => ([], rest)

/-- The entries of the whole text once the tables of the given lines are in. -/
def addTables : Nat → List Line → Entries → Option Entries
  | 0, _, entries => some entries
  | _ + 1, [], entries => some entries
  | fuel + 1, line :: rest, entries =>
    let (values, rest) := takeValues rest
    match line with
    | .header path => (updateAt (openTable values) path entries).bind (addTables fuel rest)
    | .arrayHeader path => (updateAt (pushTable values) path entries).bind (addTables fuel rest)
    | .keyValue key value => (insertValues ((key, value) :: values) entries).bind (addTables fuel rest)

end Parser

/-- The mark that may stand at the start of a text. -/
def byteOrderMark : Char := '\uFEFF'

/-- The table that a text is. -/
def parse? (s : List Char) : Option (List (String × Toml)) :=
  let s := if s.head? = some byteOrderMark then s.drop 1 else s
  match Parser.lines? (s.length + 1) s with
  | some lines =>
    (Parser.addTables (lines.length + 1) lines []).map (fun entries => (Entry.toValue.entriesToValues entries))
  | none => none

end Manuscript.Toml
