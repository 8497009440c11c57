/-!
# Kinds of cross-reference targets

Figures, tables, equations and sections can be referred to. Each kind has a name, a short label namespace and a
default prefix for the text of a reference.
-/

namespace Manuscript

/-- A kind of thing that can be referred to. -/
inductive ReferenceKind where
  | figure
  | table
  | equation
  | sectioning
  deriving DecidableEq, Inhabited

namespace ReferenceKind

/-- All kinds, in their order. -/
def all : List ReferenceKind :=
  [.figure, .table, .equation, .sectioning]

/-- The name of a kind, as documents and settings write it. -/
def name : ReferenceKind → String
  | .figure => "figure"
  | .table => "table"
  | .equation => "equation"
  | .sectioning => "section"

/-- The namespace of a kind's labels, as in `\label{fig:cat}`. -/
def labelPrefix : ReferenceKind → String
  | .figure => "fig"
  | .table => "tab"
  | .equation => "eq"
  | .sectioning => "sec"

/-- The word put before a reference when the settings name no other. -/
def defaultPrefix : ReferenceKind → String
  | .figure => "Figure"
  | .table => "Table"
  | .equation => "Equation"
  | .sectioning => "Section"

/-- The kind with exactly this name. -/
def ofName? (name : String) : Option ReferenceKind :=
  match name with
  | "figure" => some .figure
  | "table" => some .table
  | "equation" => some .equation
  | "section" => some .sectioning
  | _ => none

/-- A letter of the ASCII alphabet in lower case; any other character as it is. -/
def lowerAscii (c : Char) : Char :=
  if 'A' ≤ c && c ≤ 'Z' then Char.ofNat (c.toNat + 32) else c

/-- The kind that a hint in a node names: the name or the short form, ASCII letters in either case. -/
def parse? (hint : String) : Option ReferenceKind :=
  match String.ofList (hint.toList.map lowerAscii) with
  | "figure" | "fig" => some .figure
  | "table" | "tab" => some .table
  | "equation" | "eq" => some .equation
  | "section" | "sec" => some .sectioning
  | _ => none

/-- The kind implied by the role of a node. -/
def ofRole? (name : String) : Option ReferenceKind :=
  match name with
  | "figure" => some .figure
  | "table" => some .table
  | "equation" => some .equation
  | "section" | "heading" => some .sectioning
  | _ => none

theorem ofName?_name (kind : ReferenceKind) : ofName? kind.name = some kind := by
  cases kind <;> rfl

end ReferenceKind

end Manuscript
