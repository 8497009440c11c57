import Manuscript.FileSystem.Access
import Mathlib.Data.List.TakeWhile

/-!
# Writing keeps what stands

The library writes files and makes directories, and takes away nothing but a directory of its own. So what stands at
a place keeps its kind (`Keeps`), a path that led to a directory still leads there (`Keeps.locate_directory`), and a
path under which something was written or made leads to it (`isFile_of_write`, `locate_of_makeDirectory`). Where a
path leads does not depend on the files at all: they only say whether it leads anywhere (`walk_unique`).
-/

namespace Manuscript.FileSystem

variable {files before middle after changed : FileSystem} {path : Path} {location : Location}

/-- Work in two steps is done when both steps are. -/
theorem bind_eq_ok {ε α β : Type} {first : Except ε α} {second : α → Except ε β} {result : β} :
    (first >>= second) = .ok result ↔ ∃ value, first = .ok value ∧ second value = .ok result := by
  cases first with
  | error error =>
    constructor
    · intro h
      cases h
    · rintro ⟨value, h, -⟩
      cases h
  | ok value => exact ⟨fun h => ⟨value, rfl, h⟩, fun ⟨_, hv, h⟩ => by cases hv; exact h⟩

/-- What is said of a failure changes no success. -/
theorem mapError_eq_ok {ε ε' α : Type} {f : ε → ε'} {outcome : Except ε α} {value : α} :
    outcome.mapError f = .ok value ↔ outcome = .ok value := by
  cases outcome with
  | error error => simp [Except.mapError]
  | ok found => simp [Except.mapError]

/-- The kinds of what stands are kept: directories stay directories, and files stay files, whatever is in them. -/
structure Keeps (before after : FileSystem) : Prop where
  workingDirectory : after.workingDirectory = before.workingDirectory
  directory : ∀ location, before.find? location = some .directory → after.find? location = some .directory
  file : ∀ location bytes executable, before.find? location = some (.file bytes executable) →
    ∃ bytes executable, after.find? location = some (.file bytes executable)

theorem Keeps.refl (files : FileSystem) : Keeps files files where
  workingDirectory := rfl
  directory _ h := h
  file _ bytes executable h := ⟨bytes, executable, h⟩

theorem Keeps.trans (first : Keeps before middle) (second : Keeps middle after) : Keeps before after where
  workingDirectory := second.workingDirectory.trans first.workingDirectory
  directory location h := second.directory location (first.directory location h)
  file location bytes executable h := by
    obtain ⟨bytes, executable, h⟩ := first.file location bytes executable h
    exact second.file location bytes executable h

/-- Nothing stood before at a place that is free after. -/
theorem Keeps.find?_eq_none (keeps : Keeps before after) (h : after.find? location = none) :
    before.find? location = none := by
  cases hb : before.find? location with
  | none => rfl
  | some entry =>
    cases entry with
    | directory =>
      rw [keeps.directory location hb] at h
      cases h
    | file bytes executable =>
      obtain ⟨_, _, ha⟩ := keeps.file location bytes executable hb
      rw [ha] at h
      cases h

/-! ## Where paths lead -/

/-- A place passes for a directory exactly when one stands there. -/
theorem requireDirectory_eq_ok : files.requireDirectory location = .ok () ↔ files.find? location = some .directory := by
  unfold requireDirectory
  constructor
  · intro h
    split at h
    · assumption
    · cases h
    · cases h
  · intro h
    rw [h]

/-- The directory that relative paths start from has a path as long as it is there. -/
theorem currentDirectory_eq_ok :
    files.currentDirectory = .ok path ↔
      files.find? files.workingDirectory = some .directory ∧ path = pathOf files.workingDirectory := by
  rw [currentDirectory, bind_eq_ok]
  constructor
  · rintro ⟨_, hthere, h⟩
    cases h
    exact ⟨requireDirectory_eq_ok.1 hthere, rfl⟩
  · rintro ⟨hthere, rfl⟩
    exact ⟨(), requireDirectory_eq_ok.2 hthere, rfl⟩

/-- The first piece of a path is followed from a directory, and the other pieces from where it leads. -/
theorem walk_cons_eq_ok {start stop : Location} {piece : List Char} {rest : List (List Char)} :
    files.walk start (piece :: rest) = .ok stop ↔
      files.find? start = some .directory ∧ ∃ next, step start piece = .ok next ∧ files.walk next rest = .ok stop := by
  rw [walk, bind_eq_ok]
  constructor
  · rintro ⟨_, hd, h⟩
    exact ⟨requireDirectory_eq_ok.1 hd, bind_eq_ok.1 h⟩
  · rintro ⟨hd, h⟩
    exact ⟨(), requireDirectory_eq_ok.2 hd, bind_eq_ok.2 h⟩

/-- Pieces are followed by following the first of them and then the others. -/
theorem walk_append_eq_ok {start stop : Location} {pieces rest : List (List Char)} :
    files.walk start (pieces ++ rest) = .ok stop ↔
      ∃ middle, files.walk start pieces = .ok middle ∧ files.walk middle rest = .ok stop := by
  induction pieces generalizing start with
  | nil =>
    constructor
    · exact fun h => ⟨start, rfl, h⟩
    · rintro ⟨middle, hmiddle, h⟩
      cases hmiddle
      exact h
  | cons piece pieces ih =>
    rw [List.cons_append, walk_cons_eq_ok]
    simp only [ih, walk_cons_eq_ok]
    constructor
    · rintro ⟨hd, next, hstep, middle, hmiddle, h⟩
      exact ⟨middle, ⟨hd, next, hstep, hmiddle⟩, h⟩
    · rintro ⟨middle, ⟨hd, next, hstep, hmiddle⟩, h⟩
      exact ⟨hd, next, hstep, middle, hmiddle, h⟩

/-- Where pieces lead is the same with all files with which they lead anywhere. -/
theorem walk_unique {start a b : Location} {pieces : List (List Char)} (ha : before.walk start pieces = .ok a)
    (hb : after.walk start pieces = .ok b) : a = b := by
  induction pieces generalizing start with
  | nil =>
    cases ha
    cases hb
    rfl
  | cons piece pieces ih =>
    obtain ⟨-, next, hs, hw⟩ := walk_cons_eq_ok.1 ha
    obtain ⟨-, next', hs', hw'⟩ := walk_cons_eq_ok.1 hb
    rw [hs] at hs'
    cases hs'
    exact ih hw hw'

/-- Slashes at the end lead nowhere else from a directory. -/
theorem walk_replicate_nil (h : files.find? location = some .directory) (n : Nat) :
    files.walk location (List.replicate n []) = .ok location := by
  induction n with
  | zero => rfl
  | succ n ih =>
    rw [List.replicate_succ]
    exact walk_cons_eq_ok.2 ⟨h, location, by simp [step], ih⟩

/-- Pieces lead where they led as long as the directories are still there. -/
theorem walk_of_directories
    (hdirectory : ∀ location, before.find? location = some .directory → after.find? location = some .directory)
    {start stop : Location} {pieces : List (List Char)} (h : before.walk start pieces = .ok stop) :
    after.walk start pieces = .ok stop := by
  induction pieces generalizing start with
  | nil => exact h
  | cons piece pieces ih =>
    obtain ⟨hd, next, hs, hw⟩ := walk_cons_eq_ok.1 h
    exact walk_cons_eq_ok.2 ⟨hdirectory start hd, next, hs, ih hw⟩

/-- Pieces lead where they led. -/
theorem Keeps.walk (keeps : Keeps before after) {start stop : Location} {pieces : List (List Char)}
    (h : before.walk start pieces = .ok stop) : after.walk start pieces = .ok stop :=
  walk_of_directories keeps.directory h

/-- A path starts where it started. -/
theorem Keeps.startOf (keeps : Keeps before after) (path : Path) : after.startOf path = before.startOf path := by
  unfold FileSystem.startOf
  rw [keeps.workingDirectory]

/-- A path leads to what stands where its pieces lead. -/
theorem locate_eq_ok {entry : Entry} :
    files.locate path = .ok (location, entry) ↔
      spellingError? path = none ∧ files.walk (files.startOf path) path.pieces = .ok location ∧
      files.find? location = some entry := by
  unfold locate
  constructor
  · intro h
    split at h
    · cases h
    · rename_i hs
      obtain ⟨stop, hw, h⟩ := bind_eq_ok.1 h
      split at h
      · rename_i hf
        cases h
        exact ⟨hs, hw, hf⟩
      · cases h
  · rintro ⟨hs, hw, hf⟩
    rw [hs]
    exact bind_eq_ok.2 ⟨location, hw, by rw [hf]⟩

/-- A path from the root leads to one place only. -/
theorem locate_unique {a b : Location × Entry} (habs : path.isAbsolute = true) (ha : before.locate path = .ok a)
    (hb : after.locate path = .ok b) : a.1 = b.1 := by
  obtain ⟨-, hwa, -⟩ := locate_eq_ok.1 ha
  obtain ⟨-, hwb, -⟩ := locate_eq_ok.1 hb
  unfold startOf at hwa hwb
  rw [if_pos habs] at hwa hwb
  exact walk_unique hwa hwb

/-- A path that led to a directory leads there still. -/
theorem Keeps.locate_directory (keeps : Keeps before after) (h : before.locate path = .ok (location, .directory)) :
    after.locate path = .ok (location, .directory) := by
  obtain ⟨hs, hw, hf⟩ := locate_eq_ok.1 h
  rw [← keeps.startOf] at hw
  exact locate_eq_ok.2 ⟨hs, keeps.walk hw, keeps.directory location hf⟩

/-- A path is one of a file when it leads to one. -/
theorem isFile_iff :
    files.isFile path = true ↔ ∃ location bytes executable, files.locate path = .ok
      (location, .file bytes executable) := by
  unfold isFile at?
  cases h : files.locate path with
  | error error => simp [Except.toOption]
  | ok found =>
    obtain ⟨location, entry⟩ := found
    cases entry <;> simp [Except.toOption, Entry.isFile]

/-- A path is one of a directory when it leads to one. -/
theorem isDirectory_iff :
    files.isDirectory path = true ↔ ∃ location, files.locate path = .ok (location, .directory) := by
  unfold isDirectory at?
  cases h : files.locate path with
  | error error => simp [Except.toOption]
  | ok found =>
    obtain ⟨location, entry⟩ := found
    cases entry <;> simp [Except.toOption]

/-- A path that led to a file leads to one still. -/
theorem Keeps.isFile (keeps : Keeps before after) (h : before.isFile path = true) : after.isFile path = true := by
  obtain ⟨location, bytes, executable, hl⟩ := isFile_iff.1 h
  obtain ⟨hs, hw, hf⟩ := locate_eq_ok.1 hl
  obtain ⟨bytes', executable', hf'⟩ := keeps.file location bytes executable hf
  rw [← keeps.startOf] at hw
  exact isFile_iff.2 ⟨location, bytes', executable', locate_eq_ok.2 ⟨hs, keeps.walk hw, hf'⟩⟩

/-- A path that led to a directory leads to one still. -/
theorem Keeps.isDirectory (keeps : Keeps before after) (h : before.isDirectory path = true) :
    after.isDirectory path = true := by
  obtain ⟨location, hl⟩ := isDirectory_iff.1 h
  exact isDirectory_iff.2 ⟨location, keeps.locate_directory hl⟩

/-! ## The end of a path -/

/-- A path with a last name consists of what is before it, the name, and slashes. -/
theorem pieces_of_name? {name : List Char} (h : (endingOf path).name? = some name) :
    ∃ n, path.pieces = (endingOf path).before ++ name :: List.replicate n [] ∧
      ((endingOf path).slashes = false → n = 0) ∧ name ≠ [] ∧ name ≠ ['.'] ∧ name ≠ ['.', '.'] := by
  have hsplit := List.takeWhile_append_dropWhile (p := List.isEmpty) (l := path.pieces.reverse)
  obtain ⟨n, hidle⟩ : ∃ n, path.pieces.reverse.takeWhile List.isEmpty = List.replicate n [] :=
    ⟨_, List.eq_replicate_iff.2 ⟨rfl, fun piece hp => List.isEmpty_iff.1 (List.mem_takeWhile_imp hp)⟩⟩
  unfold endingOf at h ⊢
  rw [hidle] at hsplit
  cases hd : path.pieces.reverse.dropWhile List.isEmpty with
  | nil =>
    simp only [hd] at h
    cases h
  | cons last rest =>
    simp only [hd] at h ⊢
    have hlast : last ≠ [] := by
      have hhead := List.head_dropWhile_not List.isEmpty (l := path.pieces.reverse)
        (by rw [hd]; exact List.cons_ne_nil _ _)
      rintro rfl
      simp [hd] at hhead
    split at h
    · cases h
    · rename_i hdots
      cases h
      rw [if_neg hdots]
      refine ⟨n, ?_, fun hs => ?_, hlast, fun he => hdots (by simp [he]), fun he => hdots (by simp [he])⟩
      · rw [hd] at hsplit
        have hrev := congrArg List.reverse hsplit
        rw [List.reverse_reverse, List.reverse_append, List.reverse_replicate, List.reverse_cons,
          List.append_assoc] at hrev
        exact hrev.symm
      · simpa [hidle] using hs

/-- Where something new would lie, there is a directory to which the pieces before the last name lead. -/
theorem locateParent_eq_ok {directory : Location} (h : files.locateParent path = .ok directory) :
    spellingError? path = none ∧ files.walk (files.startOf path) (endingOf path).before = .ok directory ∧
      files.find? directory = some .directory := by
  unfold locateParent at h
  split at h
  · cases h
  · rename_i hs
    obtain ⟨stop, hw, h⟩ := bind_eq_ok.1 h
    obtain ⟨u, hd, h⟩ := bind_eq_ok.1 h
    cases h
    exact ⟨hs, hw, requireDirectory_eq_ok.1 hd⟩

/-- Once something stands under the last name of a path, the path leads to it; only a directory can be followed by
slashes. -/
theorem locate_of_locateParent {directory : Location} {name : List Char} {entry : Entry}
    (hparent : files.locateParent path = .ok directory) (hname : (endingOf path).name? = some name)
    (hlong : isTooLong name = false) (keeps : Keeps files after)
    (hentry : after.find? (directory ++ [String.ofList name]) = some entry)
    (hslashes : entry = .directory ∨ (endingOf path).slashes = false) :
    after.locate path = .ok (directory ++ [String.ofList name], entry) := by
  obtain ⟨hs, hw, hd⟩ := locateParent_eq_ok hparent
  obtain ⟨n, hpieces, hn, hne, hdot, hdots⟩ := pieces_of_name? hname
  have hstep : step directory name = .ok (directory ++ [String.ofList name]) := by
    unfold step
    rw [if_neg (by simp [hne, hdot]), if_neg hdots, hlong, if_neg Bool.false_ne_true]
  refine locate_eq_ok.2 ⟨hs, ?_, hentry⟩
  rw [hpieces, keeps.startOf]
  refine walk_append_eq_ok.2 ⟨_, keeps.walk hw, walk_cons_eq_ok.2 ⟨keeps.directory _ hd, _, hstep, ?_⟩⟩
  rcases hslashes with rfl | hfalse
  · exact walk_replicate_nil hentry n
  · rw [hn hfalse]
    rfl

/-! ## Writing -/

/-- What is put at a place stands there. -/
theorem find?_put_self (files : FileSystem) (entry : Entry) (hne : location ≠ []) :
    (files.put location entry).find? location = some entry := by
  rw [find?_put files location location entry hne, if_pos rfl]

/-- What is put where no directory stands keeps what stands elsewhere. -/
theorem keeps_put_file {bytes : List UInt8} {executable : Bool} (hne : location ≠ [])
    (hfree : files.find? location ≠ some .directory) : Keeps files (files.put location (.file bytes executable)) where
  workingDirectory := rfl
  directory other h := by
    rw [find?_put files location other _ hne, if_neg]
    · exact h
    · rintro rfl
      exact hfree h
  file other bytes' executable' h := by
    rw [find?_put files location other _ hne]
    split
    · exact ⟨bytes, executable, rfl⟩
    · exact ⟨bytes', executable', h⟩

/-- A directory at a free place takes nothing away. -/
theorem keeps_put_directory (hne : location ≠ []) (hfree : files.find? location = none) :
    Keeps files (files.put location .directory) where
  workingDirectory := rfl
  directory other h := by
    rw [find?_put files location other _ hne]
    split
    · rfl
    · exact h
  file other bytes executable h := by
    rw [find?_put files location other _ hne, if_neg]
    · exact ⟨bytes, executable, h⟩
    · rintro rfl
      rw [hfree] at h
      cases h

/-- A file can be written where no directory stands, under a name in a directory, and without slashes behind the
name. -/
theorem targetOf_eq_ok (h : files.targetOf path = .ok location) :
    location ≠ [] ∧ files.find? location ≠ some .directory ∧ ∀ after bytes executable, Keeps files after →
      after.find? location = some (.file bytes executable) →
        after.locate path = .ok (location, .file bytes executable) := by
  unfold targetOf at h
  obtain ⟨directory, hp, h⟩ := bind_eq_ok.1 h
  simp only at h
  split at h
  · cases h
  · rename_i name hname
    split at h
    · cases h
    · rename_i hslashes
      split at h
      · cases h
      · rename_i hlong
        split at h
        · cases h
        · rename_i hfree
          cases h
          refine ⟨by simp, hfree, fun after bytes executable keeps hf => ?_⟩
          exact locate_of_locateParent hp hname (Bool.eq_false_iff.2 hlong) keeps hf
            (Or.inr (Bool.eq_false_iff.2 hslashes))

/-- A file is written by putting it at the place to which its path leads. -/
theorem write_eq_ok {bytes : List UInt8} (h : files.write path bytes = .ok changed) :
    ∃ location executable, files.targetOf path = .ok location ∧
      changed = files.put location (.file bytes executable) := by
  unfold write at h
  obtain ⟨location, ht, h⟩ := bind_eq_ok.1 h
  cases h
  exact ⟨location, _, ht, rfl⟩

/-- Writing a file takes nothing away but what was in it. -/
theorem keeps_write {bytes : List UInt8} (h : files.write path bytes = .ok changed) : Keeps files changed := by
  obtain ⟨location, executable, ht, rfl⟩ := write_eq_ok h
  obtain ⟨hne, hfree, -⟩ := targetOf_eq_ok ht
  exact keeps_put_file hne hfree

/-- A file that was written is where its path leads, with the bytes that were written. -/
theorem locate_of_write {bytes : List UInt8} (h : files.write path bytes = .ok changed) :
    ∃ location executable, files.targetOf path = .ok location ∧
      changed.locate path = .ok (location, .file bytes executable) := by
  have keeps := keeps_write h
  obtain ⟨location, executable, htarget, rfl⟩ := write_eq_ok h
  obtain ⟨hne, -, hleads⟩ := targetOf_eq_ok htarget
  exact ⟨location, executable, htarget, hleads _ bytes executable keeps (find?_put_self files _ hne)⟩

/-- A path under which a file was written leads to a file. -/
theorem isFile_of_write {bytes : List UInt8} (h : files.write path bytes = .ok changed) :
    changed.isFile path = true := by
  obtain ⟨location, executable, -, hleads⟩ := locate_of_write h
  exact isFile_iff.2 ⟨location, bytes, executable, hleads⟩

/-- A copy is a file emptied and then filled with what stands at the source by then: nothing when that is the same
place. -/
theorem copy_eq_ok {source target : Path} (h : files.copy source target = .ok changed) :
    ∃ place bytes executable location old,
      files.locate source = .ok (place, .file bytes executable) ∧ files.targetOf target = .ok location ∧
        files.write target [] = .ok (files.put location (.file [] old)) ∧
        changed = (files.put location (.file [] old)).put location
          (.file (if place = location then [] else bytes) executable) := by
  unfold copy at h
  obtain ⟨⟨place, entry⟩, hl, h⟩ := bind_eq_ok.1 h
  cases entry with
  | directory => cases h
  | file bytes executable =>
    obtain ⟨location, ht, h⟩ := bind_eq_ok.1 h
    obtain ⟨emptied, hw, h⟩ := bind_eq_ok.1 h
    cases h
    obtain ⟨location', old, ht', rfl⟩ := write_eq_ok hw
    rw [ht] at ht'
    cases ht'
    obtain ⟨hne, -, -⟩ := targetOf_eq_ok ht
    refine ⟨place, bytes, executable, location, old, hl, ht, hw, ?_⟩
    rw [find?_put files location place _ hne]
    by_cases hplace : place = location
    · simp [hplace, Entry.bytes?]
    · simp [hplace, (locate_eq_ok.1 hl).2.2, Entry.bytes?]

/-- What a copy leaves: it keeps what stands, and the target leads to a file with the bytes of the source, or with
none when the source was emptied with it. -/
theorem locate_of_copy {source target : Path} (h : files.copy source target = .ok changed) :
    ∃ place bytes executable location, files.locate source = .ok (place, .file bytes executable) ∧
      files.targetOf target = .ok location ∧ Keeps files changed ∧
      changed.locate target = .ok (location, .file (if place = location then [] else bytes) executable) := by
  obtain ⟨place, bytes, executable, location, old, hl, ht, hw, rfl⟩ := copy_eq_ok h
  obtain ⟨hne, -, hleads⟩ := targetOf_eq_ok ht
  have hfree : (files.put location (.file [] old)).find? location ≠ some .directory := by
    rw [find?_put_self files _ hne]
    intro hd
    cases hd
  have filled : Keeps _ ((files.put location (.file [] old)).put location
      (.file (if place = location then [] else bytes) executable)) := keeps_put_file hne hfree
  have keeps := (keeps_write hw).trans filled
  exact ⟨place, bytes, executable, location, hl, ht, keeps, hleads _ _ executable keeps (find?_put_self _ _ hne)⟩

/-- A copy keeps what stands, and its target leads to a file. -/
theorem keeps_copy {source target : Path} (h : files.copy source target = .ok changed) :
    Keeps files changed ∧ changed.isFile target = true := by
  obtain ⟨place, bytes, executable, location, -, -, keeps, hleads⟩ := locate_of_copy h
  exact ⟨keeps, isFile_iff.2 ⟨location, _, executable, hleads⟩⟩

/-! ## Making and removing directories -/

/-- A directory is made at a free place in a directory that is there. -/
theorem makeDirectory_eq_ok (h : files.makeDirectory path = .ok changed) :
    ∃ directory name, files.locateParent path = .ok directory ∧ (endingOf path).name? = some name ∧
      isTooLong name = false ∧ files.find? (directory ++ [String.ofList name]) = none ∧
      changed = files.put (directory ++ [String.ofList name]) .directory := by
  unfold makeDirectory at h
  obtain ⟨directory, hp, h⟩ := bind_eq_ok.1 h
  simp only at h
  split at h
  · cases h
  · rename_i name hname
    split at h
    · cases h
    · rename_i hlong
      split at h
      · cases h
      · rename_i hfree
        cases h
        rw [Bool.not_eq_true, Option.isSome_eq_false_iff, Option.isNone_iff_eq_none] at hfree
        exact ⟨directory, name, hp, hname, Bool.eq_false_iff.2 hlong, hfree, rfl⟩

/-- Making a directory takes nothing away. -/
theorem keeps_makeDirectory (h : files.makeDirectory path = .ok changed) : Keeps files changed := by
  obtain ⟨directory, name, -, -, -, hfree, rfl⟩ := makeDirectory_eq_ok h
  exact keeps_put_directory (by simp) hfree

/-- A directory is made where nothing stood, never at the root, and the path leads to it. -/
theorem locate_of_makeDirectory (h : files.makeDirectory path = .ok changed) :
    ∃ location, location ≠ [] ∧ files.find? location = none ∧ changed.locate path = .ok (location, .directory) := by
  have keeps := keeps_makeDirectory h
  obtain ⟨directory, name, hp, hname, hlong, hfree, rfl⟩ := makeDirectory_eq_ok h
  have hne : directory ++ [String.ofList name] ≠ [] := by simp
  exact ⟨_, hne, hfree, locate_of_locateParent hp hname hlong keeps (find?_put_self files _ hne) (Or.inl rfl)⟩

section Making

variable {relation : FileSystem → FileSystem → Prop} (refl : ∀ files, relation files files)
  (trans : ∀ {before middle after}, relation before middle → relation middle after → relation before after)
  (make : ∀ {files path changed}, FileSystem.makeDirectory files path = .ok changed → relation files changed)

include refl make in
/-- What making a directory does to files is done where one may be there already. -/
theorem ensureDirectory_rel (files : FileSystem) (path : Path) : relation files (files.ensureDirectory path).2 := by
  unfold ensureDirectory
  split
  · rename_i h
    exact make h
  · exact refl files

include refl trans make

/-- So it is where directories above it are made first. -/
theorem makeDirectoriesUpTo_rel (levels : Nat) (files : FileSystem) (path : Path) :
    relation files (files.makeDirectoriesUpTo levels path).2 := by
  induction levels generalizing files path with
  | zero =>
    have first := ensureDirectory_rel refl make files path
    unfold makeDirectoriesUpTo
    split
    · rename_i h
      rw [h] at first
      exact first
    · exact first
  | succ levels ih =>
    have first := ensureDirectory_rel refl make files path
    unfold makeDirectoriesUpTo
    split
    · rename_i tried h
      rw [h] at first
      split
      · split
        · exact first
        · rename_i levels' above hlevels _ _
          cases hlevels
          have above' := ih tried above
          split
          · rename_i made hmade
            rw [hmade] at above'
            exact trans (trans first above') (ensureDirectory_rel refl make made path)
          · exact trans first above'
      · exact first
    · exact first

/-- What holds of the files before and after one directory is made holds when many are, whether that succeeds or
stops halfway. -/
theorem makeDirectories_rel (files : FileSystem) (path : Path) : relation files (files.makeDirectories path).2 := by
  unfold makeDirectories
  split
  · exact refl files
  · exact makeDirectoriesUpTo_rel refl trans make _ files path

end Making

/-- Making directories takes nothing away. -/
theorem keeps_makeDirectories (files : FileSystem) (path : Path) : Keeps files (files.makeDirectories path).2 :=
  makeDirectories_rel Keeps.refl Keeps.trans keeps_makeDirectory files path

/-- Nothing stands any more where a directory was removed. -/
theorem find?_removeTree (h : files.locate path = .ok (location, .directory)) (hne : location ≠ []) :
    (files.removeTree path).find? location = none := by
  unfold removeTree
  rw [h]
  exact find?_eraseTree_of_isPrefixOf files location location (by simp) hne

end Manuscript.FileSystem
