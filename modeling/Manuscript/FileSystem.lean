import Manuscript.FileSystem.Error
import Manuscript.Path

/-!
# File systems

Files and directories as a value. A place is told by the names from the root to it, so each file has one place,
however a path spells it; the root is always a directory. Main statements: what stands at a place after something
was put there or taken away (`find?_put`, `find?_erase`).
-/

namespace Manuscript

/-- A place in a file system: the names from the root to it. -/
abbrev Location := List String

/-- What stands at a place. -/
inductive Entry where
  | file (bytes : List UInt8) (executable : Bool)
  | directory
  deriving DecidableEq, Inhabited

namespace Entry

/-- The bytes of a file. -/
def bytes? : Entry → Option (List UInt8)
  | file bytes _ => some bytes
  | directory => none

/-- Whether something is a file. -/
def isFile : Entry → Bool
  | file _ _ => true
  | directory => false

/-- Whether something is a file that can be run. -/
def isProgram : Entry → Bool
  | file _ executable => executable
  | directory => false

end Entry

/-- Files and directories, and the directory that relative paths start from. -/
structure FileSystem where
  entries : List (Location × Entry)
  workingDirectory : Location
  deriving Inhabited

namespace FileSystem

/-- What stands at a place. -/
def find? (files : FileSystem) (location : Location) : Option Entry :=
  if location.isEmpty then some .directory else files.entries.lookup location

/-- The files with something at a place, in place of what stood there. -/
def put (files : FileSystem) (location : Location) (entry : Entry) : FileSystem :=
  { files with entries := (location, entry) :: files.entries.filter (fun e => e.1 != location) }

/-- The files without a place and all places below it. -/
def eraseTree (files : FileSystem) (location : Location) : FileSystem :=
  { files with entries := files.entries.filter (fun e => !location.isPrefixOf e.1) }

/-- The names of what stands directly in a directory, in no particular order. -/
def namesIn (files : FileSystem) (location : Location) : List String :=
  files.entries.filterMap (fun e => if e.1.dropLast = location then e.1.getLast? else none)

/-- The path of a place. -/
def pathOf (location : Location) : Path :=
  ⟨"/" ++ "/".intercalate location⟩

/-- A look-up passes over entries that are filtered out when they are at other places. -/
theorem lookup_filter {p : Location × Entry → Bool} {location : Location} {entries : List (Location × Entry)}
    (h : ∀ e : Entry, p (location, e) = true) : (entries.filter p).lookup location = entries.lookup location := by
  induction entries with
  | nil => rfl
  | cons head rest ih =>
    obtain ⟨l, e⟩ := head
    by_cases hl : location = l
    · subst hl
      simp [h e]
    · have hne : (location == l) = false := by simpa using hl
      by_cases hp : p (l, e) = true
      · simp [hp, List.lookup_cons, hne, ih]
      · simp [hp, List.lookup_cons, hne, ih]

/-- What is put at a place stands there, and all else is as it was. -/
theorem find?_put (files : FileSystem) (location other : Location) (entry : Entry) (h : location ≠ []) :
    (files.put location entry).find? other = if other = location then some entry else files.find? other := by
  by_cases ho : other = location
  · subst ho
    simp [put, find?, h]
  · have hne : (other == location) = false := by simpa using ho
    simp only [put, find?, if_neg ho, List.lookup_cons, hne]
    rw [lookup_filter (fun e => by simpa using ho)]

/-- What is not at or below a place is as it was when the place is taken away. -/
theorem find?_eraseTree (files : FileSystem) (location other : Location) (h : location.isPrefixOf other = false) :
    (files.eraseTree location).find? other = files.find? other := by
  simp only [eraseTree, find?]
  rw [lookup_filter (fun e => by simp [h])]

/-- Nothing but the root stands at or below a place that was taken away. -/
theorem find?_eraseTree_of_isPrefixOf (files : FileSystem) (location other : Location)
    (h : location.isPrefixOf other = true) (hne : other ≠ []) : (files.eraseTree location).find? other = none := by
  simp only [eraseTree, find?, List.isEmpty_iff, hne, if_false]
  induction files.entries with
  | nil => rfl
  | cons head rest ih =>
    obtain ⟨l, e⟩ := head
    by_cases hp : location.isPrefixOf l = true
    · simpa [hp] using ih
    · have hl : (other == l) = false := by
        rw [beq_eq_false_iff_ne]
        rintro rfl
        exact hp h
      simpa [hp, List.lookup_cons, hl] using ih

end FileSystem

end Manuscript
