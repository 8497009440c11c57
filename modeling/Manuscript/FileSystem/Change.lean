import Manuscript.FileSystem

/-!
# What has changed

The places of a file system at which something else stands than before: every change is an entry that is there now
(`mem_changesSince`), and what stands where it stood is none (`isChange_eq_false`). What was taken away leaves no
trace here.
-/

namespace Manuscript.FileSystem

/-- Whether something at a place is new or holds other bytes than before. -/
def isChange (before : FileSystem) (location : Location) (entry : Entry) : Bool :=
  match entry, before.find? location with
  | .directory, some .directory => false
  | .file bytes _, some (.file old _) => bytes != old
  | _, _ => true

/-- What is new or changed, the oldest change first. -/
def changesSince (files before : FileSystem) : List (Location × Entry) :=
  files.entries.reverse.filter (fun e => isChange before e.1 e.2)

theorem mem_changesSince {files before : FileSystem} {e : Location × Entry} :
    e ∈ files.changesSince before ↔ e ∈ files.entries ∧ isChange before e.1 e.2 = true := by
  simp [changesSince]

/-- What stands at a place as before is no change. -/
theorem isChange_eq_false {before : FileSystem} {location : Location} {entry : Entry}
    (h : before.find? location = some entry) : isChange before location entry = false := by
  cases entry <;> simp [isChange, h]

end Manuscript.FileSystem
