import Manuscript.Node.Traversal
import Manuscript.Text.Blank

/-!
# Places

A raw LaTeX node whose text starts with `\place{cat}` is a directive: the figure with the id `cat` is set there, and
not where it stands in the tree. Directives are collected first; when there are any, the figures of the tree are
bound to their ids, in document order, so that of several figures with one id the last is bound. Figures are told
apart by the path at which they stand.
-/

namespace Manuscript

/-- A directive: the path of the raw node that holds it, and the id of the figure it asks for. -/
structure Directive where
  path : NodePath
  id : String
  deriving DecidableEq, Inhabited

namespace Directive

/-- The text a directive starts with. -/
def opening : List Char :=
  "\\place\x7b".toList

/-- What follows the opening of a directive. -/
def afterOpening? (s : List Char) : Option (List Char) :=
  if opening.isPrefixOf s then some (s.drop opening.length) else none

/-- The id of the figure that a text asks for: what stands between `\place{` and the next closing brace, without
blanks around it. There is none when the text starts otherwise, when no brace closes, or when the id would be empty.
-/
def parse? (text : String) : Option String :=
  match afterOpening? text.toList with
  | none => none
  | some rest =>
    if rest.contains '}' then
      let id := Text.trim (rest.takeWhile (· ≠ '}'))
      if id.isEmpty then none else some (String.ofList id)
    else none

end Directive

/-- Whether a node holds raw LaTeX. -/
def Node.isRawTex (node : Node) : Bool :=
  node.name == "raw" && node.property "format" == some "tex"

/-- The id that a node asks for as a directive. -/
def Node.directive? (node : Node) : Option String :=
  if node.isRawTex then node.value.bind Directive.parse? else none

/-- Which figure goes to which directive. -/
structure Places where
  /-- For every id that a directive names, the figure bound to it, once one is found. -/
  bound : Dictionary (Option Located) := ∅
  /-- The directives in document order. -/
  directives : List Directive := []
  deriving Inhabited

namespace Places

/-- The figure bound to an id. -/
def get? (places : Places) (id : String) : Option Located :=
  (places.bound.get? id).join

/-- Whether a directive names the id. -/
def contains (places : Places) (id : String) : Bool :=
  places.bound.contains id

/-- The ids that directives name, in increasing order. -/
def ids (places : Places) : List String :=
  places.bound.keys

/-- The number of ids that directives name. -/
def size (places : Places) : Nat :=
  places.bound.size

/-- Whether there is no directive. -/
def isEmpty (places : Places) : Bool :=
  places.bound.isEmpty

/-- The id of the directive at a path. -/
def directiveAt (places : Places) (path : NodePath) : Option String :=
  (places.directives.find? (fun d => d.path == path)).map (·.id)

/-- Whether the node at this place is the figure bound to its id. -/
def isClaimed (places : Places) (figure : Located) : Bool :=
  match figure.node.id.bind places.get? with
  | some bound => bound.path == figure.path
  | none => false

/-- The places with one more directive. -/
def register (places : Places) (directive : Directive) : Places :=
  { bound := places.bound.insertNew directive.id none
    directives := places.directives ++ [directive] }

/-- The places with a figure bound to an id, if a directive names it. -/
def bind (places : Places) (id : String) (figure : Located) : Places :=
  if places.contains id then { places with bound := places.bound.insert id (some figure) } else places

/-- The places with the directive of a node, if it is one. -/
def registerNode (places : Places) (place : Located) : Places :=
  match place.node.directive? with
  | some id => places.register ⟨place.path, id⟩
  | none => places

/-- The places with a node bound to its id, if it is a figure with one. -/
def bindNode (places : Places) (place : Located) : Places :=
  if place.node.name == "figure" then
    match place.node.id with
    | some id => places.bind id place
    | none => places
  else places

/-- The number of ids with a figure. -/
def boundCount (places : Places) : Nat :=
  places.bound.entries.countP (fun e => e.2.isSome)

/-- The places of a tree. -/
def ofTree (root : Node) : Places :=
  let registered := root.visit.foldl registerNode {}
  if registered.isEmpty then registered else root.visit.foldl bindNode registered

end Places

end Manuscript
