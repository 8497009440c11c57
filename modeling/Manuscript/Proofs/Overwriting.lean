import Manuscript.Proofs.FileNames

/-!
# Which files a step changes

Writing and copying change one file, the one directly in a directory that the path names (`overwrites_write`,
`overwrites_copy`). As the directories stay as they are, paths lead where they led, to the same things except at the
places of the files that were written (`Overwrites.locate`), and what could be written can still be written at the
same place (`Overwrites.targetOf`).
-/

namespace Manuscript.FileSystem

variable {before middle after files changed : FileSystem} {directory path source : Path} {name : String}
  {location : Location} {places others : Location → Prop}

/-- At some places there may be other files than before. Everywhere else, and of the directories, all is as it was. -/
structure Overwrites (places : Location → Prop) (before after : FileSystem) : Prop where
  workingDirectory : after.workingDirectory = before.workingDirectory
  directory : ∀ location, after.find? location = some .directory ↔ before.find? location = some .directory
  elsewhere : ∀ location, ¬places location → after.find? location = before.find? location

namespace Overwrites

theorem refl (places : Location → Prop) (files : FileSystem) : Overwrites places files files where
  workingDirectory := rfl
  directory _ := Iff.rfl
  elsewhere _ _ := rfl

/-- What was overwritten can be overwritten again. -/
theorem symm (h : Overwrites places before after) : Overwrites places after before where
  workingDirectory := h.workingDirectory.symm
  directory location := (h.directory location).symm
  elsewhere location hfree := (h.elsewhere location hfree).symm

theorem trans (first : Overwrites places before middle) (second : Overwrites places middle after) :
    Overwrites places before after where
  workingDirectory := second.workingDirectory.trans first.workingDirectory
  directory location := (second.directory location).trans (first.directory location)
  elsewhere location hfree := (second.elsewhere location hfree).trans (first.elsewhere location hfree)

theorem mono (h : Overwrites places before after) (hplaces : ∀ location, places location → others location) :
    Overwrites others before after where
  workingDirectory := h.workingDirectory
  directory := h.directory
  elsewhere location hfree := h.elsewhere location (fun hplace => hfree (hplaces location hplace))

/-- A path is looked up from the same place. -/
theorem startOf (h : Overwrites places before after) (path : Path) : after.startOf path = before.startOf path := by
  unfold FileSystem.startOf
  rw [h.workingDirectory]

/-- A walk through the directories leads to the same place. -/
theorem walk (h : Overwrites places before after) {start stop : Location} {pieces : List (List Char)}
    (hwalk : before.walk start pieces = .ok stop) : after.walk start pieces = .ok stop :=
  walk_of_directories (fun location => (h.directory location).2) hwalk

/-- A child of a directory stays where it is. -/
theorem childOf (h : Overwrites places before after) (hchild : before.ChildOf directory name location) :
    after.ChildOf directory name location := by
  obtain ⟨above, hwalk, hlocation⟩ := hchild
  exact ⟨above, by rw [h.startOf]; exact h.walk hwalk, hlocation⟩

/-- A path leads where it led, to the same thing unless it is one of the places. -/
theorem locate (h : Overwrites places before after) {entry : Entry}
    (hlocate : before.locate path = .ok (location, entry)) (hfree : ¬places location) :
    after.locate path = .ok (location, entry) := by
  obtain ⟨hspelling, hwalk, hfound⟩ := locate_eq_ok.1 hlocate
  refine locate_eq_ok.2 ⟨hspelling, ?_, ?_⟩
  · rw [h.startOf]
    exact h.walk hwalk
  · rw [h.elsewhere location hfree, hfound]

/-- What can be written can be written at the same place as before. -/
theorem targetOf (h : Overwrites places before after) (htarget : before.targetOf path = .ok location) :
    after.targetOf path = .ok location := by
  unfold FileSystem.targetOf at htarget ⊢
  obtain ⟨parent, hparent, htarget⟩ := bind_eq_ok.1 htarget
  obtain ⟨hspelling, hwalk, hfound⟩ := locateParent_eq_ok hparent
  refine bind_eq_ok.2 ⟨parent, ?_, ?_⟩
  · unfold FileSystem.locateParent
    rw [hspelling, h.startOf]
    exact bind_eq_ok.2 ⟨parent, h.walk hwalk,
      bind_eq_ok.2 ⟨(), requireDirectory_eq_ok.2 ((h.directory parent).2 hfound), rfl⟩⟩
  · simp only [h.directory]
    exact htarget

end Overwrites

/-! ## Children of a directory -/

/-- The place of one of some names directly in the directory that a path leads to. -/
def ChildrenOf (files : FileSystem) (directory : Path) (names : List String) (location : Location) : Prop :=
  ∃ name ∈ names, files.ChildOf directory name location

/-- The last piece of a child's location is one of the names. -/
theorem ChildrenOf.last_mem {names : List String} {above : Location}
    (h : files.ChildrenOf directory names (above ++ [name])) : name ∈ names := by
  obtain ⟨other, hother, parent, -, hlocation⟩ := h
  obtain ⟨-, hlast⟩ := List.append_inj' hlocation rfl
  cases hlast
  exact hother

/-- A child with another name is none of the children. -/
theorem ChildOf.not_childrenOf {names : List String} (h : before.ChildOf directory name location)
    (hname : name ∉ names) : ¬after.ChildrenOf directory names location := by
  obtain ⟨above, -, rfl⟩ := h
  exact fun hchildren => hname hchildren.last_mem

/-! ## Writing and copying -/

/-- A file put where no directory stands changes nothing else. -/
theorem overwrites_put {bytes : List UInt8} {executable : Bool} (hne : location ≠ [])
    (hfree : files.find? location ≠ some .directory) (hplace : places location) :
    Overwrites places files (files.put location (.file bytes executable)) where
  workingDirectory := rfl
  directory other := by
    rw [find?_put files location other _ hne]
    split
    · rename_i heq
      rw [heq]
      exact iff_of_false nofun hfree
    · exact Iff.rfl
  elsewhere other hother := by
    rw [find?_put files location other _ hne, if_neg]
    rintro rfl
    exact hother hplace

/-- Writing a file overwrites the child of that name only. -/
theorem overwrites_write {bytes : List UInt8} (hname : Path.IsFileName name)
    (h : files.write (directory.child name) bytes = .ok changed) :
    Overwrites (files.ChildOf directory name) files changed := by
  obtain ⟨location, executable, htarget, rfl⟩ := write_eq_ok h
  obtain ⟨hne, hfree, -⟩ := targetOf_eq_ok htarget
  exact overwrites_put hne hfree (targetOf_child hname htarget)

/-- Copying a file overwrites the child of that name only. -/
theorem overwrites_copy (hname : Path.IsFileName name) (h : files.copy source (directory.child name) = .ok changed) :
    Overwrites (files.ChildOf directory name) files changed := by
  obtain ⟨place, bytes, executable, location, old, -, htarget, hemptied, rfl⟩ := copy_eq_ok h
  obtain ⟨hne, -, -⟩ := targetOf_eq_ok htarget
  refine (overwrites_write hname hemptied).trans (overwrites_put hne ?_ (targetOf_child hname htarget))
  rw [find?_put_self files _ hne]
  exact nofun

/-- A file can be copied wherever one can be written. -/
theorem exists_copy {target : Path} {place : Location} {bytes : List UInt8} {executable : Bool}
    (hsource : files.locate source = .ok (place, .file bytes executable))
    (htarget : files.targetOf target = .ok location) : ∃ changed, files.copy source target = .ok changed := by
  unfold copy write
  rw [hsource, htarget]
  exact ⟨_, rfl⟩

end Manuscript.FileSystem
