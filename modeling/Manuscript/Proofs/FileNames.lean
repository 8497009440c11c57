import Manuscript.Compilation.Context
import Manuscript.Package
import Manuscript.Proofs.Blank
import Manuscript.Proofs.Delivery

/-!
# File names

A name without slashes, put behind the path of a directory, is the last piece of the whole (`pieces_child`); if it
is neither empty nor a single dot nor two dots, it names a file directly in that directory (`components_child`,
`targetOf_child`). So two such names give the same path only when they are the same (`sameAs_child_iff`). The last
name of a path is one of this kind (`isFileName_of_fileName?`), and a file that the path leads to stands under it
(`location_of_fileName?`).
-/

namespace Manuscript

namespace Path

/-- A name that a directory can hold a file under. -/
def IsFileName (name : String) : Prop :=
  '/' ∉ name.toList ∧ name ∉ ["", ".", ".."]

instance (name : String) : Decidable (IsFileName name) :=
  inferInstanceAs (Decidable (_ ∧ _))

variable {base : Path} {name : String}

/-- A text without a slash is one piece. -/
theorem splitWhere_of_noSlash {s : List Char} (h : '/' ∉ s) : Text.splitWhere (· == '/') s = [s] := by
  refine Text.splitWhere_of_forall (fun c hc => ?_)
  rw [beq_eq_false_iff_ne]
  rintro rfl
  exact h hc

/-- A name does not begin at the root. -/
theorem isAbsolute_of_noSlash (h : '/' ∉ name.toList) : (⟨name⟩ : Path).isAbsolute = false := by
  rw [isAbsolute, beq_eq_false_iff_ne]
  exact fun hhead => h (List.mem_of_mem_head? hhead)

/-- A name without slashes is a single component, though perhaps one of dots. -/
theorem length_components_of_noSlash (h : '/' ∉ name.toList) (hne : name ≠ "") :
    (⟨name⟩ : Path).components.length = 1 := by
  have hempty : name.toList ≠ [] := fun hnil => hne (String.toList_eq_nil_iff.1 hnil)
  rw [components, isAbsolute_of_noSlash h, if_neg Bool.false_ne_true, pieces, body, isAbsolute_of_noSlash h,
    if_neg Bool.false_ne_true, splitWhere_of_noSlash h, pieceComponents, pieceComponents, List.append_nil,
    pieceComponent?, if_neg (by simpa using hempty)]
  split
  · rfl
  · split <;> rfl

/-! ## A name behind a path -/

/-- What `child` puts between a path and a name: a slash, unless the path is empty or has one at its end. -/
def gap (base : Path) : List Char :=
  if base.text.toList.getLast?.getD '/' == '/' then [] else ['/']

/-- A child's path is the directory's, a slash where one is missing, and the name. -/
theorem text_child (base : Path) (h : '/' ∉ name.toList) :
    (base.child name).text.toList = base.text.toList ++ (base.gap ++ name.toList) := by
  rw [child, join, isAbsolute_of_noSlash h, Bool.false_or, gap]
  split
  · rename_i hempty
    rw [String.isEmpty_iff.1 hempty]
    rfl
  · rename_i hempty
    have hne : base.text.toList ≠ [] := fun hnil => hempty (String.isEmpty_iff.2 (String.toList_eq_nil_iff.1 hnil))
    rw [List.getLast?_eq_some_getLast hne, Option.getD_some]
    split
    · rename_i hslash
      rw [if_pos (by simpa using hslash), String.toList_append, List.nil_append]
    · rename_i hslash
      rw [if_neg (by simpa using hslash), String.toList_append, String.toList_append, List.append_assoc]
      rfl

/-- A child is named from the root exactly if its directory is. -/
theorem isAbsolute_child (base : Path) (h : '/' ∉ name.toList) : (base.child name).isAbsolute = base.isAbsolute := by
  rw [isAbsolute, isAbsolute, text_child base h]
  cases htext : base.text.toList with
  | nil =>
    rw [gap, htext, List.nil_append]
    exact isAbsolute_of_noSlash h
  | cons c rest => rfl

/-- Behind the root, a child's path is the directory's, a slash where one is missing, and the name. -/
theorem body_child (base : Path) (h : '/' ∉ name.toList) :
    (base.child name).body = base.body ++ (base.gap ++ name.toList) := by
  rw [body, isAbsolute_child base h, text_child base h, body]
  split
  · rename_i habsolute
    refine List.drop_append_of_le_length ?_
    cases htext : base.text.toList with
    | nil =>
      rw [isAbsolute, htext] at habsolute
      cases habsolute
    | cons c rest => exact Nat.le_add_left 1 _
  · rfl

/-- Where nothing comes between a path and a name, the path has nothing but its root, or ends in a slash. -/
theorem body_of_gap_eq_nil (h : base.gap = []) : base.body = [] ∨ ∃ lead, base.body = lead ++ ['/'] := by
  obtain ⟨root, htext⟩ : base.body <:+ base.text.toList := by
    rw [body]
    split
    · exact List.drop_suffix 1 _
    · exact List.suffix_refl _
  rcases List.eq_nil_or_concat base.body with hnil | ⟨lead, last, hlast⟩
  · exact Or.inl hnil
  · refine Or.inr ⟨lead, ?_⟩
    rw [hlast, List.concat_eq_append] at htext
    rw [gap, ← htext, ← List.append_assoc, List.getLast?_concat, Option.getD_some] at h
    split at h
    · rename_i hslash
      rw [hlast, beq_iff_eq.1 hslash, List.concat_eq_append]
    · cases h

/-- A name without slashes is the last piece of a path that it is put behind. What is above it are the pieces of
that path, without the empty one that a slash at the end makes. -/
theorem pieces_child (base : Path) (h : '/' ∉ name.toList) :
    ∃ above, (base.child name).pieces = above ++ [name.toList] ∧
      (base.pieces = above ∨ base.pieces = above ++ [[]]) := by
  rw [pieces, body_child base h, pieces]
  by_cases hgap : base.gap = []
  · rcases body_of_gap_eq_nil hgap with hbody | ⟨lead, hbody⟩
    · refine ⟨[], ?_, Or.inr ?_⟩
      · rw [hgap, hbody, List.nil_append, List.nil_append, splitWhere_of_noSlash h, List.nil_append]
      · rw [hbody]
        rfl
    · refine ⟨Text.splitWhere (· == '/') lead, ?_, Or.inr ?_⟩
      · rw [hgap, hbody, List.nil_append, List.append_assoc, List.singleton_append, Text.splitWhere_append_cons rfl,
          splitWhere_of_noSlash h]
      · rw [hbody, Text.splitWhere_append_cons rfl]
        rfl
  · have hslash : base.gap = ['/'] := by
      unfold gap at hgap ⊢
      split
      · rename_i hends
        exact absurd (if_pos hends) hgap
      · rfl
    refine ⟨_, ?_, Or.inl rfl⟩
    rw [hslash, List.singleton_append, Text.splitWhere_append_cons rfl, splitWhere_of_noSlash h]

/-! ## A file below a path -/

/-- A file name is neither empty nor one of the two dotted names. -/
theorem IsFileName.toList_ne (h : IsFileName name) :
    name.toList ≠ [] ∧ name.toList ≠ ['.'] ∧ name.toList ≠ ['.', '.'] := by
  have hne : ∀ other, other ∈ ["", ".", ".."] → name.toList ≠ other.toList :=
    fun other hother heq => h.2 (String.toList_inj.1 heq ▸ hother)
  exact ⟨hne "" (by decide), hne "." (by decide), hne ".." (by decide)⟩

/-- A file name is a component of its own. -/
theorem pieceComponent?_of_isFileName (first : Bool) (h : IsFileName name) :
    pieceComponent? first name.toList = some (.name name.toList) := by
  obtain ⟨hempty, hdot, hdots⟩ := h.toList_ne
  rw [pieceComponent?, if_neg (by simpa using hempty), if_neg hdot, if_neg hdots]

/-- The last piece adds its component, read as first only where none stands before it. -/
theorem pieceComponents_concat (first : Bool) (above : List (List Char)) (last : List Char) :
    pieceComponents first (above ++ [last]) =
      pieceComponents first above ++ (pieceComponent? (first && above.isEmpty) last).toList := by
  induction above generalizing first with
  | nil =>
    rw [List.nil_append, pieceComponents, pieceComponents, pieceComponents, List.isEmpty_nil, Bool.and_true,
      List.append_nil, List.nil_append]
  | cons piece rest ih =>
    rw [List.cons_append, pieceComponents, pieceComponents, ih, List.append_assoc, Bool.false_and, List.isEmpty_cons,
      Bool.and_false]

/-- The last piece of a path gives its last component, if it gives any. -/
theorem components_concat {path : Path} {above : List (List Char)} {last : List Char}
    (h : path.pieces = above ++ [last]) :
    ∃ before first, path.components = before ++ (pieceComponent? first last).toList := by
  rw [components, h]
  split
  · exact ⟨.root :: pieceComponents false above, _, by rw [pieceComponents_concat]; rfl⟩
  · exact ⟨_, _, pieceComponents_concat _ _ _⟩

/-- The components of a file in a directory are those of the directory and the name. -/
theorem components_child (base : Path) (h : IsFileName name) :
    (base.child name).components = base.components ++ [.name name.toList] := by
  obtain ⟨above, hchild, hbase⟩ := pieces_child base h.1
  have hpieces : ∀ first, pieceComponents first (base.child name).pieces = pieceComponents first base.pieces ++
      [.name name.toList] := by
    intro first
    have habove : pieceComponents first base.pieces = pieceComponents first above := by
      rcases hbase with hbase | hbase
      · rw [hbase]
      · rw [hbase, pieceComponents_concat]
        exact List.append_nil _
    rw [hchild, pieceComponents_concat, pieceComponent?_of_isFileName _ h, habove]
    rfl
  rw [components, components, isAbsolute_child base h.1]
  split
  · rw [hpieces, List.cons_append]
  · exact hpieces true

/-- Files in one directory have the same path only under the same name. -/
theorem sameAs_child_iff {a b : String} (ha : IsFileName a) (hb : IsFileName b) :
    (base.child a).sameAs (base.child b) = true ↔ a = b := by
  rw [sameAs, beq_iff_eq, components_child base ha, components_child base hb, List.append_cancel_left_eq]
  simp [String.toList_inj]

/-! ## The last name of a path -/

/-- A name among the components is a piece that is neither empty nor one of the two dotted names. -/
theorem of_mem_pieceComponents {first : Bool} {pieces : List (List Char)} {text : List Char}
    (h : .name text ∈ pieceComponents first pieces) : text ∈ pieces ∧ text ≠ [] ∧ text ≠ ['.'] ∧ text ≠ ['.', '.'] := by
  induction pieces generalizing first with
  | nil => cases h
  | cons piece rest ih =>
    rw [pieceComponents, List.mem_append] at h
    rcases h with h | h
    · rw [Option.mem_toList] at h
      unfold pieceComponent? at h
      split at h
      · cases h
      · rename_i hempty
        split at h
        · split at h <;> cases h
        · rename_i hdot
          split at h
          · cases h
          · rename_i hdots
            cases h
            exact ⟨List.mem_cons_self, fun hnil => hempty (List.isEmpty_iff.2 hnil), hdot, hdots⟩
    · obtain ⟨hmem, hrest⟩ := ih h
      exact ⟨List.mem_cons_of_mem _ hmem, hrest⟩

/-- A path's file name is its last component, where that is a name. -/
theorem fileName?_eq_some_iff {path : Path} :
    path.fileName? = some name ↔ path.components.getLast? = some (.name name.toList) := by
  unfold fileName?
  split
  · rename_i text htext
    rw [htext, Option.some_inj, Option.some_inj, Component.name.injEq, ← String.toList_inj, String.toList_ofList]
  · rename_i hnone
    simp only [reduceCtorEq, false_iff]
    exact hnone _

/-- The last name of a path is a file name. -/
theorem isFileName_of_fileName? {path : Path} (h : path.fileName? = some name) : IsFileName name := by
  have hmem : .name name.toList ∈ path.components := List.mem_of_getLast? (fileName?_eq_some_iff.1 h)
  have hpieces : ∃ first, .name name.toList ∈ pieceComponents first path.pieces := by
    rw [components] at hmem
    split at hmem
    · rw [List.mem_cons] at hmem
      exact ⟨false, hmem.resolve_left (by simp)⟩
    · exact ⟨true, hmem⟩
  obtain ⟨first, hmem⟩ := hpieces
  obtain ⟨hpiece, hempty, hdot, hdots⟩ := of_mem_pieceComponents hmem
  refine ⟨fun hslash => ?_, ?_⟩
  · have hmark := Text.not_mem_of_mem_splitWhere hpiece '/' hslash
    cases hmark
  · simp only [List.mem_cons, List.not_mem_nil, or_false, not_or]
    exact ⟨fun heq => hempty (heq ▸ rfl), fun heq => hdot (heq ▸ rfl), fun heq => hdots (heq ▸ rfl)⟩

/-- A name that is not empty and has no slash is a file name once an extension follows. -/
theorem isFileName_append {extension : String} (h : '/' ∉ name.toList) (hextension : '/' ∉ extension.toList)
    (hlength : 2 < extension.length) : IsFileName (name ++ extension) := by
  refine ⟨by simp [h, hextension], fun hmem => ?_⟩
  have hlength' : (name ++ extension).length ≤ 2 := by
    have hall : ∀ short ∈ ["", ".", ".."], short.length ≤ 2 := by decide
    exact hall _ hmem
  rw [String.length_append] at hlength'
  omega

end Path

namespace FileSystem

variable {files : FileSystem} {directory path : Path} {name : String} {location : Location}

/-- The place of a name directly in the directory that a path leads to. -/
def ChildOf (files : FileSystem) (directory : Path) (name : String) (location : Location) : Prop :=
  ∃ above, files.walk (files.startOf directory) directory.pieces = .ok above ∧ location = above ++ [name]

/-- A child is looked up from where its directory is. -/
theorem startOf_child (files : FileSystem) (directory : Path) (h : '/' ∉ name.toList) :
    files.startOf (directory.child name) = files.startOf directory := by
  rw [startOf, startOf, Path.isAbsolute_child directory h]

/-- One step leads on only from a directory. -/
theorem walk_singleton_eq_ok {start stop : Location} {piece : List Char} :
    files.walk start [piece] = .ok stop ↔ files.find? start = some .directory ∧ step start piece = .ok stop := by
  rw [walk_cons_eq_ok]
  constructor
  · rintro ⟨hd, next, hstep, h⟩
    cases h
    exact ⟨hd, hstep⟩
  · rintro ⟨hd, hstep⟩
    exact ⟨hd, stop, hstep, rfl⟩

/-- What a child's path ends in is the name, asked for without a trailing slash. -/
theorem endingOf_child {above : List (List Char)} (h : Path.IsFileName name)
    (hpieces : (directory.child name).pieces = above ++ [name.toList]) :
    endingOf (directory.child name) = ⟨above, some name.toList, false⟩ := by
  obtain ⟨hempty, hdot, hdots⟩ := h.toList_ne
  simp [endingOf, hpieces, hempty, hdot, hdots]

/-- A file that is written under a name in a directory stands directly in it, under that name. -/
theorem targetOf_child (h : Path.IsFileName name) (htarget : files.targetOf (directory.child name) = .ok location) :
    files.ChildOf directory name location := by
  obtain ⟨above, hpieces, hdirectory⟩ := Path.pieces_child directory h.1
  have hending := endingOf_child h hpieces
  unfold targetOf at htarget
  obtain ⟨parent, hparent, htarget⟩ := bind_eq_ok.1 htarget
  obtain ⟨-, hwalk, hfound⟩ := locateParent_eq_ok hparent
  rw [hending] at hwalk htarget
  rw [startOf_child files directory h.1] at hwalk
  refine ⟨parent, ?_, ?_⟩
  · rcases hdirectory with hdirectory | hdirectory
    · rwa [hdirectory]
    · rw [hdirectory]
      exact walk_append_eq_ok.2 ⟨_, hwalk, walk_replicate_nil hfound 1⟩
  · simp only [Bool.false_eq_true, if_false] at htarget
    split at htarget
    · cases htarget
    · split at htarget
      · cases htarget
      · cases htarget
        rw [String.ofList_toList]

/-- A file that a path leads to stands under the last name of the path. -/
theorem location_of_fileName? {bytes : List UInt8} {executable : Bool}
    (h : files.locate path = .ok (location, .file bytes executable)) (hname : path.fileName? = some name) :
    ∃ above, location = above ++ [name] := by
  obtain ⟨-, hwalk, hfound⟩ := locate_eq_ok.1 h
  obtain ⟨above, last, hpieces⟩ : ∃ above last, path.pieces = above ++ [last] := Text.exists_splitWhere_concat _ _
  rw [hpieces, walk_append_eq_ok] at hwalk
  obtain ⟨parent, -, hlast⟩ := hwalk
  obtain ⟨hparent, hstep⟩ := walk_singleton_eq_ok.1 hlast
  obtain ⟨before, first, hcomponents⟩ := Path.components_concat hpieces
  have hend := Path.fileName?_eq_some_iff.1 hname
  rw [hcomponents, Path.pieceComponent?] at hend
  unfold step at hstep
  split at hstep
  · -- The last piece leads nowhere, so the path leads to a directory.
    cases hstep
    rw [hparent] at hfound
    cases hfound
  · rename_i hsolid
    simp only [Bool.or_eq_true, decide_eq_true_eq, not_or] at hsolid
    rw [if_neg hsolid.1, if_neg hsolid.2] at hend
    split at hstep
    · rename_i hdots
      rw [if_pos hdots] at hend
      simp at hend
    · rename_i hdots
      rw [if_neg hdots] at hend
      split at hstep
      · cases hstep
      · cases hstep
        simp only [Option.toList_some, List.getLast?_concat, Option.some.injEq, Path.Component.name.injEq] at hend
        exact ⟨parent, by rw [hend, String.ofList_toList]⟩

end FileSystem

/-! ## The names of a compilation -/

namespace Path

/-- A name without dots is its stem. -/
theorem splitName_of_noDot {name : List Char} (h : '.' ∉ name) : (splitName name).1 = name := by
  have htake : name.reverse.takeWhile (· ≠ '.') = name.reverse := by
    rw [List.takeWhile_eq_self_iff]
    intro c hc
    have hne : c ≠ '.' := fun heq => h (heq ▸ List.mem_reverse.1 hc)
    simpa using hne
  rw [splitName, htake]
  simp

/-- The stem of a name with a dot is what stands before its last dot, unless that is nothing. -/
theorem splitName_append (stem : List Char) {extension : List Char} (h : '.' ∉ extension) :
    (splitName (stem ++ '.' :: extension)).1 = if stem = [] then '.' :: extension else stem := by
  have hreverse : (stem ++ '.' :: extension).reverse = extension.reverse ++ '.' :: stem.reverse := by simp
  have htake : (extension.reverse ++ '.' :: stem.reverse).takeWhile (· ≠ '.') = extension.reverse := by
    rw [List.takeWhile_append_of_pos]
    · simp
    · intro c hc
      have hne : c ≠ '.' := fun heq => h (heq ▸ List.mem_reverse.1 hc)
      simpa using hne
  have hdrop : (extension.reverse ++ '.' :: stem.reverse).drop (extension.reverse.length + 1) = stem.reverse := by
    rw [List.drop_length_add_append]
    rfl
  rw [splitName, hreverse, htake, hdrop]
  by_cases hstem : stem = []
  · subst hstem
    rfl
  · simp [hstem]

/-- A name is its stem, or else the stem is what stands before its last dot. -/
theorem splitName_cases (name : List Char) :
    (splitName name).1 = name ∨
      ∃ extension, '.' ∉ extension ∧ (splitName name).1 ≠ [] ∧ name = (splitName name).1 ++ '.' :: extension := by
  by_cases hdot : '.' ∈ name
  · obtain ⟨behind, before, hname, hbehind⟩ := List.eq_append_cons_of_mem (List.mem_reverse.2 hdot)
    have hsplit : name = before.reverse ++ '.' :: behind.reverse := by
      rw [← List.reverse_reverse name, hname]
      simp
    have hextension : '.' ∉ behind.reverse := fun h => hbehind (List.mem_reverse.1 h)
    have hstem := splitName_append before.reverse hextension
    rw [← hsplit] at hstem
    by_cases hbefore : before.reverse = []
    · rw [if_pos hbefore] at hstem
      exact Or.inl (by rw [hstem, hsplit, hbefore]; rfl)
    · rw [if_neg hbefore] at hstem
      rw [hstem]
      exact Or.inr ⟨behind.reverse, hextension, hbefore, hsplit⟩
  · exact Or.inl (splitName_of_noDot hdot)

/-- Some other text is the stem of a name when a dot and an ending without dots follow it there. -/
theorem stem_eq_iff {name stem : List Char} (hne : name ≠ stem) (hstem : stem ≠ []) :
    (splitName name).1 = stem ↔ ∃ extension, '.' ∉ extension ∧ name = stem ++ '.' :: extension := by
  constructor
  · rintro rfl
    rcases splitName_cases name with hsame | ⟨extension, hextension, -, hname⟩
    · exact absurd hsame.symm hne
    · exact ⟨extension, hextension, hname⟩
  · rintro ⟨extension, hextension, rfl⟩
    rw [splitName_append stem hextension, if_neg hstem]

/-- The stem of a name is a part at its front, and not empty when the name is not. -/
theorem splitName_prefix (name : List Char) : (splitName name).1 <+: name ∧ (name ≠ [] → (splitName name).1 ≠ []) := by
  rcases splitName_cases name with hsame | ⟨extension, -, hstem, hname⟩
  · rw [hsame]
    exact ⟨List.prefix_refl name, id⟩
  · exact ⟨⟨_, hname.symm⟩, fun _ => hstem⟩

end Path

namespace CompilationContext

variable (context : CompilationContext)

/-- The name of a document is the stem of the name of its input, or stands in for it when the path of the input has
no name. -/
theorem name_cases :
    (context.inputPath.fileName? = none ∧ context.name = fallbackName) ∨
      ∃ file, context.inputPath.fileName? = some file ∧
        context.name = String.ofList (Path.splitName file.toList).1 := by
  rw [name, Path.fileStem?]
  cases hfile : context.inputPath.fileName? with
  | none => exact Or.inl ⟨rfl, rfl⟩
  | some file =>
    have hne := (Path.splitName_prefix file.toList).2 (Path.isFileName_of_fileName? hfile).toList_ne.1
    refine Or.inr ⟨file, rfl, ?_⟩
    rw [Option.map_some, Option.filter_some, if_pos (by simpa using hne), Option.getD_some]

/-- The name of a document is not empty and has no slash. -/
theorem name_spec : context.name ≠ "" ∧ '/' ∉ context.name.toList := by
  rcases context.name_cases with ⟨-, hname⟩ | ⟨file, hfile, hname⟩
  · rw [hname]
    decide
  · obtain ⟨hfront, hne⟩ := Path.splitName_prefix file.toList
    have hnamed := Path.isFileName_of_fileName? hfile
    rw [hname, String.toList_ofList]
    refine ⟨fun hempty => hne hnamed.toList_ne.1 ?_, fun hslash => hnamed.1 (hfront.subset hslash)⟩
    rw [← String.toList_ofList (l := (Path.splitName file.toList).1), hempty]
    rfl

/-- The name of a document is a file name, unless the name of its input is two or three dots with an ending without
dots behind them. -/
theorem isFileName_name_iff :
    Path.IsFileName context.name ↔
      ∀ file ∈ context.inputPath.fileName?, ∀ ending : String, '.' ∉ ending.toList →
        file ≠ ".." ++ ending ∧ file ≠ "..." ++ ending := by
  rcases context.name_cases with ⟨hnone, hname⟩ | ⟨file, hfile, hname⟩
  · rw [hname, hnone]
    exact iff_of_true (by decide) (fun file hfile => nomatch hfile)
  · obtain ⟨-, hdot, hdots⟩ := (Path.isFileName_of_fileName? hfile).toList_ne
    have hstem : ∀ stem : String, stem.toList ≠ [] → file.toList ≠ stem.toList →
        (context.name = stem ↔ ∃ ending : String, '.' ∉ ending.toList ∧ file = stem ++ "." ++ ending) := by
      intro stem hempty hne
      rw [hname, ← String.toList_inj, String.toList_ofList, Path.stem_eq_iff hne hempty]
      constructor
      · rintro ⟨extension, hextension, hfile⟩
        refine ⟨String.ofList extension, by rwa [String.toList_ofList], ?_⟩
        rw [← String.toList_inj, hfile]
        simp
      · rintro ⟨ending, hending, rfl⟩
        exact ⟨ending.toList, hending, by simp⟩
    obtain ⟨hne, hslash⟩ := context.name_spec
    have hone := hstem "." (by decide) hdot
    have htwo := hstem ".." (by decide) hdots
    simp only [Path.IsFileName, hslash, not_false_eq_true, true_and, List.mem_cons, List.not_mem_nil, or_false,
      not_or, hne, hfile, Option.mem_some_iff, forall_eq', hone, htwo, not_exists, not_and]
    exact ⟨fun h ending hending => ⟨h.1 ending hending, h.2 ending hending⟩,
      fun h => ⟨fun ending hending => (h ending hending).1, fun ending hending => (h ending hending).2⟩⟩

end CompilationContext

/-- An auxiliary file gets the last name of its path. -/
theorem Package.mem_auxiliaryFiles {package : Package} {source : Path} {name : String}
    (h : (source, name) ∈ package.auxiliaryFiles) : source.fileName? = some name := by
  obtain ⟨file, -, hsource⟩ := List.mem_filterMap.1 h
  obtain ⟨found, hfound, heq⟩ := Option.map_eq_some_iff.1 hsource
  cases heq
  exact hfound

end Manuscript
