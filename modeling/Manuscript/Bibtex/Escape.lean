/-!
# Escaping in BibTeX entries

An entry of a bibliography is BibTeX already: its braces and backslashes are structure and stay. What may break
LaTeX when a field is copied out is escaped here: `&` and `%` everywhere, and `#` inside a braced or quoted value.
Between values `#` joins strings, as in `month = jan # "~1"`.

The scanner looks at one character before the present one, and keeps the depth of braces and whether it is inside
quotes.
-/

namespace Manuscript.Bibtex

/-- Where the scanner stands in an entry. -/
structure State where
  /-- Whether the character before is a backslash. -/
  afterBackslash : Bool := false
  /-- The number of open braces. -/
  depth : Nat := 0
  /-- Whether a quoted value is open. -/
  quoted : Bool := false
  deriving DecidableEq, Inhabited

namespace State

/-- The depth and the quotes once a character has been read; a brace or quote after a backslash does not count. -/
def enter (state : State) (c : Char) : State :=
  if state.afterBackslash then state
  else if c = '{' then { state with depth := state.depth + 1 }
  else if c = '}' then { state with depth := state.depth - 1 }
  else if c = '"' ∧ state.depth ≤ 1 then { state with quoted := !state.quoted }
  else state

/-- Whether the scanner is inside the value of a field. -/
def inValue (state : State) : Bool :=
  2 ≤ state.depth || state.quoted

/-- The state after a character. -/
def next (state : State) (c : Char) : State :=
  { state.enter c with afterBackslash := c == '\\' }

/-- Whether a backslash goes in front of a character. -/
def escapes (state : State) (c : Char) : Bool :=
  !state.afterBackslash && (c == '&' || c == '%' || (c == '#' && (state.enter c).inValue))

end State

/-- The text with its backslashes put in, scanned from a state. -/
def escapeFrom (state : State) : List Char → List Char
  | [] => []
  | c :: rest =>
    let tail := c :: escapeFrom (state.next c) rest
    if state.escapes c then '\\' :: tail else tail

/-- An entry with the characters escaped that break LaTeX. -/
def escape (s : List Char) : List Char :=
  escapeFrom {} s

end Manuscript.Bibtex
