import Manuscript.Shell.Field
import Manuscript.Shell.Option

/-!
# Reading lines

The command `read` takes a line from the standard input and splits it into as many fields as there are variables.
The last variable takes what is left, without the separators at its end.
-/

namespace Manuscript.Shell.Builtin

open Script

/-- A line that was read: its characters and whether each may separate fields, how many characters were taken, and
whether its end was found. -/
structure Line where
  text : List (Char × Bool) := []
  taken : Nat := 0
  isEnded : Bool := false
  deriving DecidableEq, Inhabited

/-- The line at the start of a text. A backslash takes the meaning of the character behind it away and joins lines,
unless the line is to be taken as it is. -/
def lineOf (asItIs : Bool) : List Char → Line
  | [] => {}
  | '\\' :: c :: rest =>
    if asItIs then
      if c = '\n' then { text := [('\\', true)], taken := 2, isEnded := true }
      else
        let line := lineOf asItIs (c :: rest)
        { line with text := ('\\', true) :: line.text, taken := line.taken + 1 }
    else
      let line := lineOf asItIs rest
      { line with
        text := if c = '\n' || c = '\x00' then line.text else (c, false) :: line.text, taken := line.taken + 2 }
  | c :: rest =>
    if c = '\n' then { taken := 1, isEnded := true }
    else
      let line := lineOf asItIs rest
      let kept := c ≠ '\x00' && (asItIs || c ≠ '\\')
      { line with text := if kept then (c, true) :: line.text else line.text, taken := line.taken + 1 }

/-- The last field of a line: all that is left, without white space at its end and without one other separator there
if that stands alone. `cut` is what would be left without the separators at the end, `blank` says that those were
white space so far. -/
def lastField (separators : List Char) : Bool → Option (List Char) → List Char → List (Char × Bool) → List Char
  | _, cut, kept, [] => (cut.getD kept).reverse
  | blank, cut, kept, (c, splits) :: rest =>
    if !splits then lastField separators false cut (c :: kept) rest
    else if separators.contains c && isBlankSeparator c
      then lastField separators blank (some (cut.getD kept)) (c :: kept) rest
    else if separators.contains c && blank then lastField separators false cut (c :: kept) rest
    else lastField separators false none (c :: kept) rest

/-- A line split into at most so many fields. `field` holds the characters of the started one from the last to the
first, `marked` says whether it has a character that separates nothing, and `blank` whether white space has just
finished a field. -/
def splitLine (separators : List Char) : Nat → Bool → Bool → List Char → List (Char × Bool) → List (List Char)
  | _, _, marked, field, [] => if field.isEmpty && !marked then [] else [field.reverse]
  | count, blank, marked, field, (c, splits) :: rest =>
    if !splits then splitLine separators count false true (c :: field) rest
    else if !separators.contains c then splitLine separators count false marked (c :: field) rest
    else if blank then splitLine separators count (isBlankSeparator c) false [] rest
    else if isBlankSeparator c && field.isEmpty && !marked then splitLine separators count false false [] rest
    else
      match count with
      | 0 => [lastField separators (isBlankSeparator c) (some field) (c :: field) rest]
      | count + 1 => field.reverse :: splitLine separators count (isBlankSeparator c) false [] rest

/-- A line read into variables. -/
def read (arguments : List (List Char)) : Script Nat := do
  let (options, names) ← options [('p', true), ('r', false)] arguments
  match names with
  | [] => failOf [] "arg count"
  | first :: others =>
    let state ← get
    let line := lineOf (options.any (fun o => o.1 == 'r')) ((state.unread? 0).getD [])
    set (state.advance 0 line.taken)
    let fields := splitLine state.separators others.length false false [] line.text
    (first :: others).zipIdx.forM (fun n => assign n.1 (fields.getD n.2 []))
    return if line.isEnded then 0 else 1

end Manuscript.Shell.Builtin
