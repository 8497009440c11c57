import Manuscript.Text.Lines

/-!
# Paths

Paths as documents, settings and command lines spell them. A path keeps its spelling; what it says is read off its
components. Two spellings name the same components when they differ only in repeated slashes, in single dots after
the start and in slashes at the end. Nothing here looks at a file system.
-/

namespace Manuscript

/-- A path in the spelling in which it was given. -/
structure Path where
  text : String
  deriving DecidableEq, Inhabited

namespace Path

/-- A component of a path. -/
inductive Component where
  /-- The slash at the start of an absolute path. -/
  | root
  /-- A single dot at the start of a relative path. -/
  | current
  /-- Two dots. -/
  | parent
  | name (text : List Char)
  deriving DecidableEq, Inhabited

/-- Whether the path starts at the root. -/
def isAbsolute (path : Path) : Bool :=
  path.text.toList.head? == some '/'

/-- What is written of a path after the slash of the root. -/
def body (path : Path) : List Char :=
  if path.isAbsolute then path.text.toList.drop 1 else path.text.toList

/-- The pieces of a path between slashes, after the slash of the root. -/
def pieces (path : Path) : List (List Char) :=
  Text.splitWhere (· == '/') path.body

/-- The component that a piece stands for; `first` says that it is the first piece of a relative path. -/
def pieceComponent? (first : Bool) (piece : List Char) : Option Component :=
  if piece.isEmpty then none
  else if piece = ['.'] then (if first then some .current else none)
  else if piece = ['.', '.'] then some .parent
  else some (.name piece)

/-- The components of the pieces of a path. -/
def pieceComponents (first : Bool) : List (List Char) → List Component
  | [] => []
  | piece :: rest => (pieceComponent? first piece).toList ++ pieceComponents false rest

/-- The components of a path. -/
def components (path : Path) : List Component :=
  if path.isAbsolute then .root :: pieceComponents false path.pieces else pieceComponents true path.pieces

/-- Whether two paths have the same components. -/
def sameAs (a b : Path) : Bool :=
  a.components == b.components

/-- A path after another: itself when it is absolute, and else behind the other and a slash. An empty path after
another leaves a slash at the end. -/
def join (base path : Path) : Path :=
  if path.isAbsolute || base.text.isEmpty then path
  else if base.text.toList.getLast? == some '/' then ⟨base.text ++ path.text⟩
  else ⟨base.text ++ "/" ++ path.text⟩

/-- A name below a path. -/
def child (base : Path) (name : String) : Path :=
  base.join ⟨name⟩

/-- The last component, when it is a name. -/
def fileName? (path : Path) : Option String :=
  match path.components.getLast? with
  | some (.name text) => some (String.ofList text)
  | _ => none

/-- A file name cut at its last dot, when that is neither missing nor at the start. -/
def splitName (name : List Char) : List Char × Option (List Char) :=
  let extension := name.reverse.takeWhile (· ≠ '.')
  let before := name.reverse.drop (extension.length + 1)
  if before.isEmpty then (name, none) else (before.reverse, some extension.reverse)

/-- The file name without its extension: what stands before the last dot, unless that dot is the first character. -/
def fileStem? (path : Path) : Option String :=
  path.fileName?.map (fun name => String.ofList (splitName name.toList).1)

/-- The pieces without those at the end that stand for no component; `first` says that the pieces start a relative
path. -/
def dropIdle (first : Bool) (pieces : List (List Char)) : List (List Char) :=
  match pieces with
  | [] => []
  | piece :: rest =>
    match dropIdle false rest with
    | [] => if (pieceComponent? first piece).isNone then [] else [piece]
    | kept => piece :: kept

/-- The path without its last component, in the spelling of the path; the root and the empty path have none. -/
def parent? (path : Path) : Option Path :=
  let first := !path.isAbsolute
  match dropIdle first path.pieces with
  | [] => none
  | kept =>
    let left := Text.joinWith ['/'] (dropIdle first kept.dropLast)
    some ⟨String.ofList (if path.isAbsolute then '/' :: left else left)⟩

/-- The path as an absolute one, when `base` is the directory that relative paths start from. Repeated slashes and
single dots go, pairs of dots stay, and so does a slash at the end. Exactly two slashes at the start stay too. -/
def absolute (base path : Path) : Path :=
  let names := path.components.filterMap (fun
    | .name text => some text
    | .parent => some ['.', '.']
    | .root => none
    | .current => none)
  let text := path.text.toList
  let start :=
    if path.isAbsolute then
      if ['/', '/'].isPrefixOf text && !(['/', '/', '/'].isPrefixOf text) then ⟨"//"⟩ else ⟨"/"⟩
    else base
  let joined := names.foldl (fun p name => p.child (String.ofList name)) start
  if text.getLast? == some '/' then joined.child "" else joined

/-- A path of components that are compared in turn: root, single dot, two dots, then names by their code points. -/
def Component.rank : Component → Nat
  | .root => 0
  | .current => 1
  | .parent => 2
  | .name _ => 3

/-- Whether a component comes no later than another. -/
def Component.le : Component → Component → Bool
  | .name a, .name b => decide (String.ofList a ≤ String.ofList b)
  | a, b => a.rank ≤ b.rank

/-- Whether a list of components comes no later than another, compared from the start. -/
def componentsLe : List Component → List Component → Bool
  | [], _ => true
  | _ :: _, [] => false
  | a :: as, b :: bs => if a = b then componentsLe as bs else a.le b

/-- Whether a path comes no later than another. -/
def le (a b : Path) : Bool :=
  componentsLe a.components b.components

end Path

end Manuscript
