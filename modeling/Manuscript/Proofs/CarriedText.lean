import Manuscript.Proofs.Calls

/-!
# Texts that carry other texts

A text carries literal texts when, apart from blanks, their escaped forms stand in it one after another (`Carries`).
Commands, environments and styles around a text leave what it carries, and so do trimming and, where no marker
stands, tidying (`Tex.solid_tidy`). What is carried by parts is carried by the whole, in the order of the parts
(`Carries.append`).
-/

namespace Manuscript

/-! ## Pieces of a text -/

/-- The pieces stand in the text one after another, with anything before, between and after them. -/
inductive InOrder : List (List Char) → List Char → Prop
  | nil (text : List Char) : InOrder [] text
  | cons (gap piece : List Char) {pieces : List (List Char)} {rest : List Char} :
      InOrder pieces rest → InOrder (piece :: pieces) (gap ++ (piece ++ rest))

namespace InOrder

variable {pieces others : List (List Char)} {s t : List Char}

/-- A text in front changes nothing of the order. -/
theorem prepend (h : InOrder pieces s) (gap : List Char) : InOrder pieces (gap ++ s) := by
  cases h with
  | nil => exact nil _
  | cons first piece h =>
    rw [← List.append_assoc]
    exact cons (gap ++ first) piece h

theorem append (h : InOrder pieces s) (h' : InOrder others t) : InOrder (pieces ++ others) (s ++ t) := by
  induction h with
  | nil s => exact h'.prepend s
  | cons gap piece _ ih =>
    rw [List.append_assoc, List.append_assoc]
    exact cons gap piece ih

/-- A piece stands in itself. -/
theorem single (piece : List Char) : InOrder [piece] piece := by
  have h := cons [] piece (nil [])
  rwa [List.nil_append, List.append_nil] at h

end InOrder

namespace Text

/-- The characters of a text that are not blank. -/
def solid (s : List Char) : List Char :=
  s.filter (fun c => !isBlank c)

theorem solid_append (s t : List Char) : solid (s ++ t) = solid s ++ solid t :=
  List.filter_append ..

/-- A blank text has nothing that is not blank. -/
theorem solid_of_allBlank {s : List Char} (h : allBlank s = true) : solid s = [] := by
  rw [solid, List.filter_eq_nil_iff]
  intro c hc
  rw [(allBlank_iff s).1 h c hc]
  decide

/-- Trimming takes away blanks. -/
theorem exists_trim (s : List Char) :
    ∃ lead trail, s = lead ++ (trim s ++ trail) ∧ allBlank lead = true ∧ allBlank trail = true := by
  obtain ⟨lead, hlead, hleadBlank⟩ := exists_trimStart s
  obtain ⟨trail, htrail, htrailBlank⟩ := exists_trimEnd (trimStart s)
  exact ⟨lead, trail, by rw [trim, ← htrail, ← hlead], hleadBlank, htrailBlank⟩

end Text

namespace Tex

/-- A text without markers. -/
def Unmarked (s : List Char) : Prop :=
  ∀ c ∈ s, isMarker c = false

instance (s : List Char) : Decidable (Unmarked s) :=
  inferInstanceAs (Decidable (∀ c ∈ s, _))

@[simp]
theorem unmarked_append {s t : List Char} : Unmarked (s ++ t) ↔ Unmarked s ∧ Unmarked t :=
  List.forall_mem_append

@[simp]
theorem unmarked_cons {c : Char} {s : List Char} : Unmarked (c :: s) ↔ isMarker c = false ∧ Unmarked s :=
  List.forall_mem_cons

theorem unmarked_nil : Unmarked [] :=
  List.forall_mem_nil _

theorem unmarked_flatMap {s : List Char} {g : Char → List Char} (h : ∀ c, isMarker c = false → Unmarked (g c))
    (hs : Unmarked s) : Unmarked (s.flatMap g) := by
  intro d hd
  obtain ⟨c, hc, hd⟩ := List.mem_flatMap.1 hd
  exact h c (hs c hc) d hd

/-- Escaping brings in no marker. -/
theorem unmarked_escape {s : List Char} (h : Unmarked s) : Unmarked (escape s) := by
  refine unmarked_flatMap (fun c hc => ?_) h
  rw [escapeChar]
  cases hlookup : escapes.lookup c with
  | none => exact unmarked_cons.2 ⟨hc, unmarked_nil⟩
  | some sequence =>
    have hall : ∀ e ∈ escapes, Unmarked e.2 := by decide
    obtain ⟨before, after, hsplit, -⟩ := List.lookup_eq_some_iff.1 hlookup
    exact hall (c, sequence) (by rw [hsplit]; simp)

/-- Escaping a link brings in no marker. -/
theorem unmarked_escapeUrl {s : List Char} (h : Unmarked s) : Unmarked (escapeUrl s) := by
  refine unmarked_flatMap (fun c hc => ?_) h
  split
  · decide
  · split
    · decide
    · exact unmarked_cons.2 ⟨hc, unmarked_nil⟩

/-- The label of a name without markers has none. -/
theorem unmarked_label (kind : ReferenceKind) {id : String} (h : Unmarked id.toList) : Unmarked (label kind id) := by
  have hkind : Unmarked ("\\label\x7b".toList ++ (kind.labelPrefix.toList ++ [':'])) := by
    cases kind <;> decide
  have htext : label kind id = ("\\label\x7b".toList ++ (kind.labelPrefix.toList ++ [':'])) ++
      (id.toList ++ ['}']) := by
    simp [label, command, labelName]
  rw [htext]
  exact unmarked_append.2 ⟨hkind, unmarked_append.2 ⟨h, by decide⟩⟩

/-- No command of the formatter has a marker in its name. -/
theorem unmarked_commandName {name : String} (h : name ∈ commandNames) : Unmarked name.toList := by
  have hall : ∀ name ∈ commandNames, Unmarked name.toList := by decide
  exact hall name h

/-- What stands around the argument of a command has no markers. -/
theorem exists_command {name : String} (h : name ∈ commandNames) :
    ∃ front back, Unmarked front ∧ Unmarked back ∧ ∀ s, command name s = front ++ (s ++ back) := by
  refine ⟨'\\' :: name.toList ++ ['{'], ['}'], ?_, by decide, fun s => by simp [command]⟩
  rw [unmarked_append, unmarked_cons]
  exact ⟨⟨by decide, unmarked_commandName h⟩, by decide⟩

/-- What stands around the body of an environment has no markers, unless its placement has. -/
theorem exists_environment {name : String} {placement : Option String} (hname : name ∈ environmentNames)
    (hplacement : ∀ text ∈ placement, Unmarked text.toList) :
    ∃ front back, Unmarked front ∧ Unmarked back ∧ ∀ s, environment name placement s = front ++ (s ++ back) := by
  have hnames : ∀ name ∈ environmentNames, Unmarked name.toList := by decide
  have hplaced : Unmarked (placementText placement) := by
    cases placement with
    | none => exact unmarked_nil
    | some text =>
      rw [placementText, unmarked_cons, unmarked_append]
      exact ⟨by decide, hplacement text rfl, by decide⟩
  have hcommand : ∀ word, Unmarked word → Unmarked (word ++ '{' :: (name.toList ++ ['}'])) := by
    intro word hword
    rw [unmarked_append, unmarked_cons, unmarked_append]
    exact ⟨hword, by decide, hnames name hname, by decide⟩
  refine ⟨("\\begin".toList ++ '{' :: (name.toList ++ ['}'])) ++ (placementText placement ++ ['\n']),
    '\n' :: (("\\end".toList ++ '{' :: (name.toList ++ ['}'])) ++ "\n\n".toList),
    unmarked_append.2 ⟨hcommand _ (by decide), ?_⟩,
    unmarked_cons.2 ⟨by decide, ?_⟩, fun s => by simp [environment, command]⟩
  · exact unmarked_append.2 ⟨hplaced, by decide⟩
  · exact unmarked_append.2 ⟨hcommand _ (by decide), by decide⟩

/-- Markers are not blank. -/
theorem isMarker_of_isBlank {c : Char} (h : Text.isBlank c = true) : isMarker c = false := by
  rw [isMarker, Bool.or_eq_false_iff, beq_eq_false_iff_ne, beq_eq_false_iff_ne]
  exact ⟨by rintro rfl; exact absurd h (by decide), by rintro rfl; exact absurd h (by decide)⟩

end Tex

/-- A reader that keeps what is not blank, and refuses markers. -/
def solidReader : Reader (List Char) where
  step kept c := if Tex.isMarker c then none else some (if Text.isBlank c then kept else kept ++ [c])

namespace solidReader

/-- One character of the reader. -/
theorem step_eq (kept : List Char) (c : Char) :
    solidReader.step kept c = if Tex.isMarker c then none else some (if Text.isBlank c then kept else kept ++ [c]) :=
      rfl

/-- What is read is the text without its blanks, as long as it has no marker. -/
theorem read_eq_some_iff {s kept p : List Char} :
    solidReader.read kept s = some p ↔ Tex.Unmarked s ∧ p = kept ++ Text.solid s := by
  induction s generalizing kept with
  | nil =>
    rw [Reader.read_nil, Option.some.injEq, Text.solid, List.filter_nil, List.append_nil]
    exact ⟨fun h => ⟨Tex.unmarked_nil, h.symm⟩, fun h => h.2.symm⟩
  | cons c rest ih =>
    rw [Reader.read_cons, Tex.unmarked_cons, step_eq]
    cases hmarker : Tex.isMarker c with
    | true => simp
    | false =>
      rw [if_neg Bool.false_ne_true, Option.bind_some, ih, Text.solid, Text.solid, List.filter_cons]
      cases Text.isBlank c <;> simp

/-- Blanks leave the reader where it is. -/
theorem blankLaw : solidReader.BlankLaw where
  same kept c hc := by
    rw [step_eq, step_eq, Tex.isMarker_of_isBlank hc, hc]
    rfl
  again kept p hp := by
    cases hp
    rfl

/-- A marker is refused, so the reader never stands behind one. -/
theorem markerLaw : solidReader.MarkerLaw Eq where
  refl _ := rfl
  trans _ _ _ h h' := h.trans h'
  step kept p q' c h hstep := ⟨q', h ▸ hstep, rfl⟩
  mark kept q' c hc hstep := by
    rcases hc with rfl | rfl <;> cases hstep

end solidReader

namespace Tex

/-- Tidying takes only blanks away from a text without markers. -/
theorem solid_tidy {s : List Char} (h : Unmarked s) : Text.solid (tidy s) = Text.solid s := by
  have hread : solidReader.read [] s = some (Text.solid s) := solidReader.read_eq_some_iff.2 ⟨h, rfl⟩
  obtain ⟨trail, p, htrail, htidy, rfl⟩ := Reader.exists_read_tidy solidReader.blankLaw solidReader.markerLaw rfl hread
  obtain ⟨-, hsolid⟩ := solidReader.read_eq_some_iff.1 htidy
  rw [Text.solid_append, Text.solid_of_allBlank htrail, List.append_nil] at hsolid
  simpa using hsolid.symm

end Tex

/-! ## Texts that carry other texts -/

/-- What is to be seen of a literal text once it is set: the text escaped, without its blanks. -/
def Text.piece (value : String) : List Char :=
  solid (Tex.escape value.toList)

/-- A text without markers that shows the given texts in their order. -/
structure Carries (s : List Char) (values : List String) : Prop where
  unmarked : Tex.Unmarked s
  inOrder : InOrder (values.map Text.piece) (Text.solid s)

namespace Carries

variable {s t : List Char} {values others : List String}

/-- A text without markers carries nothing. -/
theorem plain (h : Tex.Unmarked s) : Carries s [] :=
  ⟨h, .nil _⟩

theorem append (hs : Carries s values) (ht : Carries t others) : Carries (s ++ t) (values ++ others) := by
  refine ⟨Tex.unmarked_append.2 ⟨hs.unmarked, ht.unmarked⟩, ?_⟩
  rw [List.map_append, Text.solid_append]
  exact hs.inOrder.append ht.inOrder

/-- A text without markers in front adds nothing. -/
theorem after (ha : Tex.Unmarked s) (h : Carries t values) : Carries (s ++ t) values :=
  (plain ha).append h

/-- A text without markers behind adds nothing. -/
theorem before (h : Carries s values) (hb : Tex.Unmarked t) : Carries (s ++ t) values := by
  have happend := h.append (plain hb)
  rwa [List.append_nil] at happend

/-- A line in front leaves what is carried. -/
theorem line (ha : Tex.Unmarked s) (h : Carries t values) : Carries (s ++ '\n' :: t) values :=
  after ha (after (s := ['\n']) (by decide) h)

theorem flatMap {α : Type} {g : α → List Char} {texts : α → List String} {l : List α}
    (h : ∀ a ∈ l, Carries (g a) (texts a)) : Carries (l.flatMap g) (l.flatMap texts) := by
  induction l with
  | nil => exact plain Tex.unmarked_nil
  | cons a rest ih =>
    rw [List.flatMap_cons, List.flatMap_cons]
    exact (h a List.mem_cons_self).append (ih (fun b hb => h b (List.mem_cons_of_mem a hb)))

/-- What is carried stays when blanks at the ends are taken away. -/
theorem of_append_blank (lead : List Char) {trail : List Char} (h : Carries (lead ++ (s ++ trail)) values)
    (hlead : Text.allBlank lead = true) (htrail : Text.allBlank trail = true) : Carries s values := by
  obtain ⟨hunmarked, hinOrder⟩ := h
  rw [Text.solid_append, Text.solid_append, Text.solid_of_allBlank hlead, Text.solid_of_allBlank htrail,
    List.nil_append, List.append_nil] at hinOrder
  exact ⟨(Tex.unmarked_append.1 (Tex.unmarked_append.1 hunmarked).2).1, hinOrder⟩

/-- Trimming leaves what is carried. -/
theorem trim (h : Carries s values) : Carries (Text.trim s) values := by
  obtain ⟨lead, trail, hs, hlead, htrail⟩ := Text.exists_trim s
  rw [hs] at h
  exact of_append_blank lead h hlead htrail

/-- Trimming the end leaves what is carried. -/
theorem trimEnd (h : Carries s values) : Carries (Text.trimEnd s) values := by
  obtain ⟨trail, hs, htrail⟩ := Text.exists_trimEnd s
  rw [hs] at h
  exact of_append_blank [] h rfl htrail

/-- A blank text carries nothing to be seen, and what it carries is carried by any text. -/
theorem of_allBlank (h : Carries s values) (hs : Text.allBlank s = true) (ht : Tex.Unmarked t) : Carries t values := by
  refine ⟨ht, ?_⟩
  have hinOrder := h.inOrder.prepend (Text.solid t)
  rwa [Text.solid_of_allBlank hs, List.append_nil] at hinOrder

/-- An escaped text carries the text. -/
theorem escape {value : String} (h : Tex.Unmarked value.toList) : Carries (Tex.escape value.toList) [value] :=
  ⟨Tex.unmarked_escape h, .single _⟩

/-- The argument of a command is carried by the command. -/
theorem command {name : String} (hname : name ∈ Tex.commandNames) (h : Carries s values) :
    Carries (Tex.command name s) values := by
  obtain ⟨front, back, hfront, hback, htext⟩ := Tex.exists_command hname
  rw [htext]
  exact after hfront (h.before hback)

/-- Style commands leave what is carried. -/
theorem styled (classes : List String) (h : Carries s values) : Carries (Tex.styled classes s) values :=
  Markup.styled_of_command (P := fun s => Carries s values) (fun _ hname _ h => h.command hname) classes h

/-- A block carries what its text carries. -/
theorem block (h : Carries s values) : Carries (Tex.block s) values := by
  rw [Tex.block]
  split
  · rename_i hempty
    rwa [List.isEmpty_iff.1 hempty] at h
  · exact h.before (by decide)

/-- An environment carries what its body carries. -/
theorem environment {name : String} {placement : Option String} (hname : name ∈ Tex.environmentNames)
    (hplacement : ∀ text ∈ placement, Tex.Unmarked text.toList) (h : Carries s values) :
    Carries (Tex.environment name placement s) values := by
  obtain ⟨front, back, hfront, hback, htext⟩ := Tex.exists_environment hname hplacement
  rw [htext]
  exact after hfront (h.before hback)

end Carries

end Manuscript
