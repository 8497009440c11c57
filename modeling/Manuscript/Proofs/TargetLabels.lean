import Manuscript.Proofs.Listing
import Manuscript.Proofs.PlacedFigures

/-!
# The targets of cross-references

Without directives a figure, a table, an equation or a heading with an id sets its label where it stands, while a
section leaves that to its headings (`WrittenAt`). In a tree with distinct ids the main text holds the label of a
target as often as there are such places (`count_mainLabels`), so a reference always names a label that is set once,
unless it refers to a section without a heading or with headings that set another label or the same one again
(`target_label_occurrences`).
-/

namespace Manuscript

/-- The kind of the label that a node of this role sets, or has its headings set. -/
def Role.labelKind? : Role → Option ReferenceKind
  | .figure => some .figure
  | .table => some .table
  | .equation => some .equation
  | .sectioning | .heading => some .sectioning
  | _ => none

/-- The kinds of targets are those of the labels that their roles set. -/
theorem Node.labelKind?_role {node : Node} {kind : ReferenceKind} (h : ReferenceKind.ofRole? node.name = some kind) :
    node.role.labelKind? = some kind := by
  unfold ReferenceKind.ofRole? at h
  rw [Node.role]
  split at h <;> rename_i hname
  · exact hname ▸ h
  · exact hname ▸ h
  · exact hname ▸ h
  · exact hname ▸ h
  · exact hname ▸ h
  · cases h

/-- Sections are the nodes of that name. -/
theorem Node.role_eq_sectioning_iff {node : Node} : node.role = .sectioning ↔ node.name = "section" := by
  rw [Node.role_eq_iff (by decide), Role.names, List.mem_singleton]

namespace Formatter

variable {f : Formatter}

/-- The label of a target is written at this place: at a heading of the section without an id of its own, or at the
target itself when it is no section. -/
def WrittenAt (x y : Located) : Prop :=
  if x.node.name = "section" then y ∈ x.children ∧ y.node.name = "heading" ∧ y.node.id = none else y = x

/-- The places at which the label of a target is written. -/
def labelPlaces (x : Located) : List Located :=
  if x.node.name = "section" then x.children.filter (fun c => c.node.name == "heading" && c.node.id.isNone) else [x]

/-- The places of a label are those at which it is written. -/
theorem mem_labelPlaces {x y : Located} : y ∈ labelPlaces x ↔ WrittenAt x y := by
  rw [labelPlaces, WrittenAt]
  split
  · simp [List.mem_filter]
  · exact List.mem_singleton

/-- A target below the root that nothing hides, in a tree without directives and with distinct ids. -/
structure TargetAt (f : Formatter) (x : Located) (kind : ReferenceKind) (id : String) : Prop where
  ofTree : f.OfTree
  noDirective : ∀ y ∈ f.root.visit, y.node.directive? = none
  mem : x ∈ f.root.visit
  hasId : x.node.id = some id
  hasKind : ReferenceKind.ofRole? x.node.name = some kind
  distinct : (f.root.visit.filterMap (fun y => y.node.id)).Nodup
  rendered : AtRenderedPosition f.root x

/-- The label of the target, at the places at which it is written. -/
def written (x : Located) (label : Label) (y : Located) : List Label :=
  if ((labelPlaces x).map (·.path)).contains y.path then [label] else []

/-- What is written of the label of the target at a place and below it. -/
def share (x : Located) (label : Label) (y : Located) : List Label :=
  y.subtree.flatMap (written x label)

/-- What is written below a place is written at it or below its children. -/
theorem share_eq (x : Located) (label : Label) (y : Located) :
    share x label y = written x label y ++ y.children.flatMap (share x label) := by
  rw [share, Located.subtree_eq, List.flatMap_cons, List.flatMap_assoc]
  rfl

/-- The label is written as often as places are among those at which it is. -/
theorem count_flatMap_written (x : Located) (label : Label) (l : List Located) :
    (l.flatMap (written x label)).count label = (l.map (·.path)).countP
      (((labelPlaces x).map (·.path)).contains ·) := by
  induction l with
  | nil => rfl
  | cons y rest ih =>
    rw [List.flatMap_cons, List.count_append, ih, List.map_cons, List.countP_cons, written]
    split
    · rw [List.count_singleton_self, Nat.add_comm]
    · rw [List.count_nil, Nat.zero_add, Nat.add_zero]

/-- No place of the label is counted twice. -/
theorem nodup_labelPlaces (x : Located) : ((labelPlaces x).map (·.path)).Nodup := by
  rw [labelPlaces]
  split
  · exact List.pairwise_map.2 (x.children_pairwise.filter _)
  · exact List.nodup_singleton x.path

/-- A list without repetitions holds as many members of a part of it as the part has. -/
theorem countP_contains_of_nodup {α : Type} [BEq α] [LawfulBEq α] {l part : List α} (hl : l.Nodup) (hpart : part.Nodup)
    (hsub : ∀ a ∈ part, a ∈ l) : l.countP (part.contains ·) = part.length := by
  rw [List.countP_eq_length_filter]
  refine ((List.perm_ext_iff_of_nodup (hl.filter _) hpart).2 (fun a => ?_)).length_eq
  rw [List.mem_filter, List.contains_iff_mem]
  exact ⟨fun ha => ha.2, fun ha => ⟨hsub a ha, ha⟩⟩

namespace TargetAt

variable {x y : Located} {kind : ReferenceKind} {id : String} {n : Nat}

/-! ## The tree -/

/-- No figure is bound to a directive. -/
theorem get?_eq_none (h : f.TargetAt x kind id) (id' : String) : f.places.get? id' = none := by
  have hplaces : f.places = Places.ofTree f.root := h.ofTree
  rw [hplaces, Places.get?_eq_none h.noDirective]

/-- No figure is set elsewhere. -/
theorem isClaimed_eq_false (h : f.TargetAt x kind id) (y : Located) : f.places.isClaimed y = false := by
  have hplaces : f.places = Places.ofTree f.root := h.ofTree
  rw [hplaces, Places.isClaimed_eq_false h.noDirective]

/-- A node that writes a label of its own writes it with the kind of the target, if it is the target. -/
theorem kind_of_role (h : f.TargetAt x kind id) {own : ReferenceKind} (hrole : y.node.role.labelKind? = some own)
    (hsection : y.node.role ≠ .sectioning) (heq : y = x) : own = kind ∧ x.node.name ≠ "section" := by
  subst heq
  rw [Node.labelKind?_role h.hasKind, Option.some.injEq] at hrole
  exact ⟨hrole.symm, fun hname => hsection (Node.role_eq_sectioning_iff.2 hname)⟩

/-- A node without a label in its role is not the target. -/
theorem ne_of_role (h : f.TargetAt x kind id) (hrole : y.node.role.labelKind? = none) : y ≠ x := by
  rintro rfl
  rw [Node.labelKind?_role h.hasKind] at hrole
  cases hrole

/-- A node is the target when it has the id of the target. -/
theorem eq_of_id (h : f.TargetAt x kind id) (hy : y ∈ f.root.visit) (hid : y.node.id = some id) : y = x :=
  eq_of_nodup_filterMap h.distinct hy h.mem hid h.hasId

/-- The places of the label are places of the tree. -/
theorem mem_visit_of_writtenAt (h : f.TargetAt x kind id) (hwritten : WrittenAt x y) : y ∈ f.root.visit := by
  unfold WrittenAt at hwritten
  split at hwritten
  · exact Node.child_mem_visit h.mem hwritten.1
  · exact hwritten ▸ h.mem

/-- A section does not write its label itself. -/
theorem not_writtenAt_self (hsection : x.node.name = "section") : ¬WrittenAt x x := by
  rw [WrittenAt, if_pos hsection]
  rintro ⟨-, hheading, -⟩
  rw [hsection] at hheading
  exact absurd hheading (by decide)

/-- No place above one that writes the label hides what stands below it. -/
theorem visible (h : f.TargetAt x kind id) (hwritten : WrittenAt x y) {a : Located} (ha : a ∈ f.root.visit)
    (hpath : a.path ≠ []) (hpre : a.path <+: y.path) (hne : a.path ≠ y.path) :
    a.node.role.hidesChildren = false := by
  unfold WrittenAt at hwritten
  split at hwritten
  · rename_i hsection
    obtain ⟨i, hyx, -⟩ := Located.mem_children.1 hwritten.1
    rw [hyx] at hpre hne
    have hax : a.path <+: x.path := (List.prefix_concat_iff.1 hpre).resolve_left hne
    by_cases heq : a.path = x.path
    · rw [Node.eq_of_path_eq ha h.mem heq, Node.role, hsection]
      rfl
    · exact h.rendered.visible a ha hpath hax heq
  · rw [hwritten] at hpre hne
    exact h.rendered.visible a ha hpath hpre hne

/-! ## What is written at a place -/

/-- A place of the tree is one of the label when its path is. -/
theorem path_mem_labelPlaces (h : f.TargetAt x kind id) (hy : y ∈ f.root.visit) :
    ((labelPlaces x).map (·.path)).contains y.path = true ↔ WrittenAt x y := by
  rw [List.contains_iff_mem, List.mem_map]
  constructor
  · rintro ⟨z, hz, hpath⟩
    have hwritten := mem_labelPlaces.1 hz
    rwa [Node.eq_of_path_eq (h.mem_visit_of_writtenAt hwritten) hy hpath] at hwritten
  · exact fun hwritten => ⟨y, mem_labelPlaces.2 hwritten, rfl⟩

/-- At a place of the label the label is written once. -/
theorem written_of_writtenAt (h : f.TargetAt x kind id) (hwritten : WrittenAt x y) (label : Label) :
    written x label y = [label] :=
  if_pos ((h.path_mem_labelPlaces (h.mem_visit_of_writtenAt hwritten)).2 hwritten)

/-- At any other place it is not written. -/
theorem written_of_not_writtenAt (h : f.TargetAt x kind id) (hy : y ∈ f.root.visit) (hwritten : ¬WrittenAt x y)
    (label : Label) : written x label y = [] :=
  if_neg (fun hpath => hwritten ((h.path_mem_labelPlaces hy).1 hpath))

/-- The target sets its label with its own id. -/
theorem labels_self (h : f.TargetAt x kind id) : x.node.labels kind = [(kind, id)] := by
  rw [Node.labels, h.hasId]
  rfl

/-- Only the target sets a label with its id. -/
theorem count_labels_of_ne (h : f.TargetAt x kind id) (hy : y ∈ f.root.visit) (hne : y ≠ x) (own : ReferenceKind) :
    (y.node.labels own).count (kind, id) = 0 := by
  rw [List.count_eq_zero]
  intro hmem
  rw [Node.labels, Option.mem_toList, Option.map_eq_some_iff] at hmem
  obtain ⟨id', hid, hpair⟩ := hmem
  rw [(Prod.mk.inj hpair).2] at hid
  exact hne (h.eq_of_id hy hid)

/-- A node that writes a label of its own writes that of the target when it is the target. -/
theorem count_labels_node (h : f.TargetAt x kind id) (hy : y ∈ f.root.visit) {own : ReferenceKind}
    (hself : WrittenAt x y → y = x) (hown : y = x → own = kind ∧ x.node.name ≠ "section") :
    (y.node.labels own).count (kind, id) = (written x (kind, id) y).count (kind, id) := by
  by_cases heq : y = x
  · obtain ⟨rfl, hsection⟩ := hown heq
    subst heq
    rw [h.labels_self, h.written_of_writtenAt (by rw [WrittenAt, if_neg hsection])]
  · rw [h.count_labels_of_ne hy heq, h.written_of_not_writtenAt hy (fun hwritten => heq (hself hwritten)),
      List.count_nil]

/-- Below a node that hides its children nothing of the label is written. -/
theorem count_share_hidden (h : f.TargetAt x kind id) (hy : y ∈ f.root.visit) (hpath : y.path ≠ [])
    (hrole : y.node.role.hidesChildren = true) : (y.children.flatMap (share x (kind, id))).count (kind, id) = 0 := by
  rw [List.count_eq_zero]
  intro hmem
  obtain ⟨c, hc, hmem⟩ := List.mem_flatMap.1 hmem
  obtain ⟨z, hz, hmem⟩ := List.mem_flatMap.1 hmem
  have hzmem := Located.mem_visit_of_mem_subtree (Node.child_mem_visit hy hc) hz
  have hwritten : WrittenAt x z := by
    by_contra hnot
    rw [h.written_of_not_writtenAt hzmem hnot] at hmem
    exact absurd hmem List.not_mem_nil
  obtain ⟨i, hcy, -⟩ := Located.mem_children.1 hc
  have hpre : c.path <+: z.path := Located.prefix_of_mem_subtree hz
  have hlength := hpre.length_le
  rw [hcy, List.length_append, List.length_singleton] at hlength
  have hvisible := h.visible hwritten hy hpath ((hcy ▸ List.prefix_append y.path [i]).trans hpre)
    (fun heq => by rw [heq] at hlength; omega)
  rw [hrole] at hvisible
  cases hvisible

/-! ## What the rules write -/

section Labels

variable (h : f.TargetAt x kind id)
  (hbelow : ∀ c ∈ f.root.visit, c.path ≠ [] → c.node.height < n → (WrittenAt x c → c = x) →
    (f.labels n c).count (kind, id) = (share x (kind, id) c).count (kind, id))
include h hbelow

/-- The children of a node that is no target section write what is written below it. -/
theorem count_childLabels {p : Located} (hp : p ∈ f.root.visit) (hheight : p.node.height ≤ n)
    (hsection : p = x → x.node.name ≠ "section") :
    (childLabels (f.labels n) p).count (kind, id) = (p.children.flatMap (share x (kind, id))).count (kind, id) := by
  refine count_flatMap_congr (fun c hc => ?_)
  have hlt := Node.height_lt_of_mem_children hc
  refine hbelow c (Node.child_mem_visit hp hc) (Located.path_ne_nil_of_mem_children hc) (by omega) (fun hwritten => ?_)
  unfold WrittenAt at hwritten
  split at hwritten
  · rename_i hname
    exact absurd hname (hsection (Node.parent_unique hp h.mem hc hwritten.1 rfl))
  · exact hwritten

/-- A heading writes its own label, or that of the section it stands in. -/
theorem count_headingLabels {c : Located} {sectionId : Option String} (hc : c ∈ f.root.visit)
    (hname : c.node.name = "heading") (hheight : c.node.height ≤ n)
    (hown : (((c.node.id.or sectionId).map (fun id => (ReferenceKind.sectioning, id))).toList).count (kind, id) =
      (written x (kind, id) c).count (kind, id)) :
    (headingLabels (f.labels n) sectionId c).count (kind, id) = (share x (kind, id) c).count (kind, id) := by
  have hsection : c = x → x.node.name ≠ "section" := by
    rintro rfl hsection
    rw [hname] at hsection
    exact absurd hsection (by decide)
  rw [headingLabels, share_eq, List.count_append, List.count_append, hown,
    h.count_childLabels hbelow hc hheight hsection, Nat.add_comm]

omit hbelow in
/-- A heading of a section writes the label as its place says. -/
theorem count_sectionHeading (hy : y ∈ f.root.visit) (hrole : y.node.role = .sectioning) {c : Located}
    (hc : c ∈ y.children) (hname : c.node.name = "heading") :
    (((c.node.id.or y.node.id).map (fun id => (ReferenceKind.sectioning, id))).toList).count (kind, id) =
      (written x (kind, id) c).count (kind, id) := by
  have hcmem := Node.child_mem_visit hy hc
  cases hid : c.node.id with
  | some id' =>
    have hlabels : c.node.labels .sectioning = [(.sectioning, id')] := by rw [Node.labels, hid]; rfl
    have hself : WrittenAt x c → c = x := by
      intro hwritten
      unfold WrittenAt at hwritten
      split at hwritten
      · rw [hid] at hwritten
        cases hwritten.2.2
      · exact hwritten
    have hheading : c.node.role = .heading := by rw [Node.role, hname]; rfl
    rw [← h.count_labels_node hcmem hself (h.kind_of_role (by rw [hheading]; rfl) (by rw [hheading]; decide)), hlabels]
    rfl
  | none =>
    have hlabels : ((((none : Option String).or y.node.id).map (fun id => (ReferenceKind.sectioning, id))).toList) =
        y.node.labels .sectioning := by
      rw [Option.none_or, Node.labels]
    rw [hlabels]
    by_cases heq : y = x
    · subst heq
      have hsection := Node.role_eq_sectioning_iff.1 hrole
      have hkind : kind = .sectioning := by
        have hlabel := Node.labelKind?_role h.hasKind
        rw [hrole] at hlabel
        exact (Option.some.inj hlabel).symm
      have hwritten : WrittenAt y c := by
        rw [WrittenAt, if_pos hsection]
        exact ⟨hc, hname, hid⟩
      rw [h.written_of_writtenAt hwritten, ← hkind, h.labels_self]
    · have hwritten : ¬WrittenAt x c := by
        intro hwritten
        unfold WrittenAt at hwritten
        split at hwritten
        · exact heq (Node.parent_unique hy h.mem hc hwritten.1 rfl)
        · rw [hwritten, h.hasId] at hid
          cases hid
      rw [h.count_labels_of_ne hy heq, h.written_of_not_writtenAt hcmem hwritten, List.count_nil]

/-- A section writes its label at its headings. -/
theorem count_sectionLabels (hy : y ∈ f.root.visit) (hrole : y.node.role = .sectioning) (hheight : y.node.height ≤ n) :
    (sectionLabels (f.labels n) y).count (kind, id) = (y.children.flatMap (share x (kind, id))).count (kind, id) := by
  refine count_flatMap_congr (fun c hc => ?_)
  have hcmem := Node.child_mem_visit hy hc
  have hlt := Node.height_lt_of_mem_children hc
  split
  · rename_i hname
    have hname := beq_iff_eq.1 hname
    exact h.count_headingLabels hbelow hcmem hname (by omega) (h.count_sectionHeading hy hrole hc hname)
  · rename_i hname
    refine hbelow c hcmem (Located.path_ne_nil_of_mem_children hc) (by omega) (fun hwritten => ?_)
    unfold WrittenAt at hwritten
    split at hwritten
    · exact absurd (beq_iff_eq.2 hwritten.2.1) hname
    · exact hwritten

/-- The cells of a row in a table are not set themselves, and are no places at which the label is written. -/
theorem count_rowLabels (hy : y ∈ f.root.visit) (hrole : y.node.role = .table) {row : Located} (hrow : row ∈ y.children)
    (hisRow : row.node.isRow = true) (hheight : row.node.height ≤ n) :
    (rowLabels (f.labels n) row).count (kind, id) = (share x (kind, id) row).count (kind, id) := by
  have hrowmem := Node.child_mem_visit hy hrow
  have hname : row.node.name = "row" ∨ row.node.name = "tr" := by
    rwa [Node.isRow, Bool.or_eq_true, beq_iff_eq, beq_iff_eq] at hisRow
  have hne : row ≠ x := h.ne_of_role (by rw [Node.role]; rcases hname with hname | hname <;> rw [hname] <;> rfl)
  have hrowWritten : ¬WrittenAt x row := by
    intro hwritten
    unfold WrittenAt at hwritten
    split at hwritten
    · rcases hname with hname | hname <;> rw [hname] at hwritten <;> exact absurd hwritten.2.1 (by decide)
    · exact hne hwritten
  rw [share_eq, h.written_of_not_writtenAt hrowmem hrowWritten, List.nil_append]
  refine count_flatMap_congr (fun cell hcell => ?_)
  have hcellmem := Node.child_mem_visit hrowmem hcell
  have hcellne : cell ≠ x := fun heq => h.rendered.noCell y hy hrole row hrow hisRow cell hcell (heq ▸ rfl)
  have hcellWritten : ¬WrittenAt x cell := by
    intro hwritten
    unfold WrittenAt at hwritten
    split at hwritten
    · exact hne (Node.parent_unique hrowmem h.mem hcell hwritten.1 rfl)
    · exact hcellne hwritten
  have hlt := Node.height_lt_of_mem_children hcell
  rw [share_eq, h.written_of_not_writtenAt hcellmem hcellWritten, List.nil_append]
  exact h.count_childLabels hbelow hcellmem (by omega) (fun heq => absurd heq hcellne)

/-- A table writes the label at itself, below what is no row, and below its cells. -/
theorem count_tableLabels (hy : y ∈ f.root.visit) (hrole : y.node.role = .table) (hself : WrittenAt x y → y = x)
    (hheight : y.node.height ≤ n) :
    (tableLabels (f.labels n) y).count (kind, id) = (share x (kind, id) y).count (kind, id) := by
  have hown : (y.node.labels .table).count (kind, id) = (written x (kind, id) y).count (kind, id) :=
    h.count_labels_node hy hself (h.kind_of_role (by rw [hrole]; rfl) (by rw [hrole]; decide))
  rw [tableLabels, share_eq, List.count_append, List.count_append, List.count_append, hown, Nat.add_comm,
    count_flatMap_filter (fun child => child.node.isRow) y.children (share x (kind, id))]
  congr 2
  · refine count_flatMap_congr (fun c hc => ?_)
    obtain ⟨hc, hnotRow⟩ := List.mem_filter.1 hc
    have hlt := Node.height_lt_of_mem_children hc
    refine hbelow c (Node.child_mem_visit hy hc) (Located.path_ne_nil_of_mem_children hc) (by omega)
      (fun hwritten => ?_)
    unfold WrittenAt at hwritten
    split at hwritten
    · rename_i hsection
      rw [Node.parent_unique hy h.mem hc hwritten.1 rfl, Node.role, hsection] at hrole
      exact absurd hrole (by decide)
    · exact hwritten
  · refine count_flatMap_congr (fun row hrow => ?_)
    obtain ⟨hrow, hisRow⟩ := List.mem_filter.1 hrow
    have hlt := Node.height_lt_of_mem_children hrow
    exact h.count_rowLabels hbelow hy hrole hrow hisRow (by omega)

/-- What a node writes, by its role, given what the nodes below it write. -/
theorem count_nodeLabels (hy : y ∈ f.root.visit) (hpath : y.path ≠ []) (hself : WrittenAt x y → y = x)
    (hheight : y.node.height ≤ n) :
    (f.nodeLabels (f.labels n) y).count (kind, id) = (share x (kind, id) y).count (kind, id) := by
  have hlabels : ∀ own, y.node.role.labelKind? = some own → y.node.role ≠ .sectioning →
      (y.node.labels own).count (kind, id) = (written x (kind, id) y).count (kind, id) :=
    fun own hrole hsection => h.count_labels_node hy hself (h.kind_of_role hrole hsection)
  have hchildren : y.node.role ≠ .sectioning →
      (childLabels (f.labels n) y).count (kind, id) = (y.children.flatMap (share x (kind, id))).count (kind, id) := by
    intro hsection
    refine h.count_childLabels hbelow hy hheight (fun heq hname => hsection ?_)
    rw [heq]
    exact Node.role_eq_sectioning_iff.2 hname
  have hnothing : y.node.role.labelKind? = none → (written x (kind, id) y).count (kind, id) = 0 := by
    intro hrole
    rw [h.written_of_not_writtenAt hy (fun hwritten => h.ne_of_role hrole (hself hwritten)), List.count_nil]
  have hhidden := h.count_share_hidden hy hpath
  rw [nodeLabels, share_eq, List.count_append]
  cases hrole : y.node.role with
  | text =>
    rw [hrole] at hnothing hchildren
    rw [hnothing rfl, Nat.zero_add]
    simp only
    split
    · rename_i hleaf
      rw [Located.children_of_isLeaf hleaf]
      rfl
    · exact hchildren (by decide)
  | raw =>
    rw [hrole] at hnothing hhidden
    rw [hnothing rfl, hhidden rfl, rawLabels, h.noDirective y hy]
    rfl
  | sectioning =>
    have hwritten : ¬WrittenAt x y := by
      intro hwritten
      obtain rfl := hself hwritten
      exact not_writtenAt_self (Node.role_eq_sectioning_iff.1 hrole) hwritten
    rw [h.written_of_not_writtenAt hy hwritten, List.count_nil, Nat.zero_add]
    exact h.count_sectionLabels hbelow hy hrole hheight
  | heading =>
    rw [hrole] at hlabels hchildren
    simp only [headingLabels, List.count_append, Option.or_none]
    rw [hchildren (by decide), ← hlabels .sectioning rfl (by decide), Nat.add_comm]
    rfl
  | figure =>
    rw [hrole] at hlabels hchildren
    simp only [h.isClaimed_eq_false y, Bool.false_eq_true, if_false]
    rw [figureLabels, List.count_append, hchildren (by decide), hlabels .figure rfl (by decide), Nat.add_comm]
  | table =>
    rw [← List.count_append, ← share_eq]
    exact h.count_tableLabels hbelow hy hrole hself hheight
  | equation =>
    rw [hrole] at hlabels hhidden
    rw [hhidden rfl, ← hlabels .equation rfl (by decide), Nat.add_zero]
  | code | reference | citation | image | math | listing | lineBreak =>
    rw [hrole] at hnothing hhidden
    rw [hnothing rfl, hhidden rfl]
    rfl
  | paragraph | span | emphasis | strong | link | caption | list | item | quote | container =>
    rw [hrole] at hnothing hchildren
    rw [hnothing rfl, Nat.zero_add]
    exact hchildren (by decide)

end Labels

/-- A node writes the label of the target as often as it is written at the places below it. The induction is on the
depth. -/
theorem count_labels (h : f.TargetAt x kind id) (n : Nat) :
    ∀ y ∈ f.root.visit, y.path ≠ [] → y.node.height < n → (WrittenAt x y → y = x) →
      (f.labels n y).count (kind, id) = (share x (kind, id) y).count (kind, id) := by
  induction n with
  | zero => exact fun y _ _ hheight => absurd hheight (Nat.not_lt_zero _)
  | succ n ih => exact fun y hy hpath hheight hself => h.count_nodeLabels ih hy hpath hself (Nat.le_of_lt_succ hheight)

/-- The label is not written at the root. -/
theorem not_writtenAt_root (h : f.TargetAt x kind id) : ¬WrittenAt x f.rootPlace := by
  intro hwritten
  unfold WrittenAt at hwritten
  split at hwritten
  · exact Located.path_ne_nil_of_mem_children hwritten.1 rfl
  · exact h.rendered.below (hwritten ▸ rfl)

/-- The main text sets the label of the target as often as there are places at which it is written. -/
theorem count_mainLabels (h : f.TargetAt x kind id) (hmain : ∀ y ∈ f.rootPlace.children, y.node.isExtracted = false) :
    (f.mainChildren.flatMap (f.labels f.fuel)).count (kind, id) = (labelPlaces x).length := by
  have hshare : (f.rootPlace.children.flatMap (f.labels f.fuel)).count (kind, id) =
      (share x (kind, id) f.rootPlace).count (kind, id) := by
    rw [share_eq, h.written_of_not_writtenAt f.rootPlace_mem_visit h.not_writtenAt_root, List.nil_append]
    refine count_flatMap_congr (fun c hc => ?_)
    have hlt : c.node.height + 1 ≤ f.root.height := Node.height_lt_of_mem_children hc
    have hfuel : f.root.height + 1 ≤ f.fuel := Nat.le_mul_of_pos_left _ (Nat.succ_pos _)
    refine h.count_labels f.fuel c (mem_visit_of_mem_root_children hc) (Located.path_ne_nil_of_mem_children hc)
      (by omega) ?_
    intro hwritten
    unfold WrittenAt at hwritten
    split at hwritten
    · have hroot := Node.parent_unique f.rootPlace_mem_visit h.mem hc hwritten.1 rfl
      exact absurd (hroot ▸ rfl) h.rendered.below
    · exact hwritten
  have hplaces : ∀ p ∈ (labelPlaces x).map (·.path), p ∈ f.root.visit.map (·.path) := by
    intro p hp
    obtain ⟨y, hy, rfl⟩ := List.mem_map.1 hp
    exact List.mem_map_of_mem (h.mem_visit_of_writtenAt (mem_labelPlaces.1 hy))
  have hvisit : f.rootPlace.subtree = f.root.visit := rfl
  rw [mainChildren_eq hmain, hshare, share, hvisit, count_flatMap_written,
    countP_contains_of_nodup f.root.nodup_paths_visit (nodup_labelPlaces x) hplaces, List.length_map]

end TargetAt

/-! ## The kinds of targets -/

/-- The kind that a node gives to an id. -/
def declared? (id : String) (node : Node) : Option ReferenceKind :=
  if node.id = some id then ReferenceKind.ofRole? node.name else none

/-- The kinds of ids once a node is met. -/
def declare (targets : Dictionary ReferenceKind) (node : Node) : Dictionary ReferenceKind :=
  match node.id, ReferenceKind.ofRole? node.name with
  | some id, some kind => targets.insertNew id kind
  | _, _ => targets

/-- An id keeps the kind that it has, and else gets that of the node. -/
theorem get?_declare (targets : Dictionary ReferenceKind) (node : Node) (id : String) :
    (declare targets node).get? id = (targets.get? id).or (declared? id node) := by
  rw [declare, declared?]
  cases hid : node.id with
  | none => simp
  | some own =>
    cases hkind : ReferenceKind.ofRole? node.name with
    | none => simp
    | some kind =>
      simp only [Dictionary.get?_insertNew, Option.some.injEq]
      by_cases heq : own = id
      · subst heq
        cases hget : targets.get? own <;> simp [Dictionary.contains, hget]
      · simp [heq]

/-- An id gets the kind that the first node with it gives it. -/
theorem get?_foldl_declare (l : List Node) (targets : Dictionary ReferenceKind) (id : String) :
    (l.foldl declare targets).get? id = (targets.get? id).or (l.findSome? (declared? id)) := by
  induction l generalizing targets with
  | nil => simp
  | cons node rest ih =>
    rw [List.foldl_cons, ih, get?_declare, Option.or_assoc, List.findSome?_cons]
    cases declared? id node <;> rfl

/-- The kind of an id is that of the first node that gives it one. -/
theorem get?_treeTargets_eq (root : Node) (id : String) :
    (treeTargets root).get? id = root.visit.findSome? (fun x => declared? id x.node) := by
  have hfold : treeTargets root = root.walk.foldl declare ∅ := rfl
  rw [hfold, get?_foldl_declare, Dictionary.get?_empty, Option.none_or, Node.walk_eq, List.findSome?_map]
  rfl

/-- Where no two nodes share an id, the kind of an id is that of the one node with it. -/
theorem get?_treeTargets {root : Node} {x : Located} {kind : ReferenceKind} {id : String}
    (hids : (root.visit.filterMap (fun y => y.node.id)).Nodup) (hx : x ∈ root.visit) (hid : x.node.id = some id)
    (hkind : ReferenceKind.ofRole? x.node.name = some kind) : (treeTargets root).get? id = some kind := by
  have hdeclared : declared? id x.node = some kind := by rw [declared?, if_pos hid, hkind]
  rw [get?_treeTargets_eq]
  cases hfound : root.visit.findSome? (fun x => declared? id x.node) with
  | none =>
    rw [List.findSome?_eq_none_iff] at hfound
    have hnone := hfound x hx
    rw [hdeclared] at hnone
    cases hnone
  | some found =>
    obtain ⟨y, hy, hsome⟩ := List.exists_of_findSome?_eq_some hfound
    rw [declared?] at hsome
    split at hsome
    · rename_i hyid
      rw [eq_of_nodup_filterMap hids hy hx hyid hid, hkind] at hsome
      rw [hsome]
    · cases hsome

end Formatter

/-- The number of children that are headings without an id of their own. -/
def Node.unnamedHeadings (node : Node) : Nat :=
  node.children.countP (fun child => child.name == "heading" && child.id.isNone)

/-- The label of a section is written at its headings without ids of their own, and any other label once. -/
theorem Formatter.length_labelPlaces (x : Located) :
    (labelPlaces x).length = if x.node.name = "section" then x.node.unnamedHeadings else 1 := by
  rw [labelPlaces]
  split
  · have hnodes := Node.map_node_siblings x.path 0 x.node.children
    rw [Node.unnamedHeadings, ← hnodes, List.countP_map, List.countP_eq_length_filter]
    rfl
  · rfl

/-- A reference to an id of a known kind has the word for the kind and the label of that kind and id. -/
theorem Formatter.renderReference_of_kind {f : Formatter} {node : Node} {kind : ReferenceKind} {id : String}
    (hid : id.isEmpty = false)
    (htarget : node.property "target" = some id) (hkind : f.referenceKind? id (node.property "kind") = some kind) :
    f.renderReference node = (f.prefixOf kind).toList ++ '~' :: Tex.command "ref" (Tex.labelName kind id) := by
  have hfilter : (node.property "target").filter (fun t => !t.isEmpty) = some id := by
    rw [htarget, Option.filter_some, hid]
    rfl
  simp only [renderReference, hfilter, hkind]

/-- A reference without a kind of its own names the label of its target, with the kind that the target has in the
tree. That label is set once, but the label of a section is set once for each heading of the section that has no id
of its own. -/
theorem target_label_occurrences (root : Node) (options : Options) {x : Located} {kind : ReferenceKind} {id : String}
    (htexts : LabelFree root options)
    (hids : (root.visit.filterMap (fun y => y.node.id)).Nodup)
    (hdirectives : ∀ y ∈ root.visit, y.node.directive? = none)
    (hmain : ∀ y ∈ (⟨[], root⟩ : Located).children, y.node.isExtracted = false)
    (hx : x ∈ root.visit) (hid : x.node.id = some id) (hkind : ReferenceKind.ofRole? x.node.name = some kind)
    (hrendered : AtRenderedPosition root x) :
    (∀ reference : Node, reference.property "target" = some id → reference.property "kind" = none →
        (Formatter.ofDocument root options none).renderReference reference =
          (options.prefixOf kind).toList ++ '~' :: Tex.command "ref" (Tex.labelName kind id)) ∧
      Text.occurrences (Tex.label kind id) (Formatter.ofDocument root options none).content =
        if x.node.name = "section" then x.node.unnamedHeadings else 1 := by
  have hlabelId : Tex.LabelId id := htexts.ids x hx id hid
  generalize hf : Formatter.ofDocument root options none = f
  have hroot : f.root = root := by rw [← hf]; rfl
  have htargets : f.targets = Formatter.treeTargets root := by rw [← hf]; rfl
  have hprefix : f.prefixOf = options.prefixOf := by rw [← hf]; rfl
  have hadmits := hf ▸ htexts.admits none
  have hofTree : f.OfTree := by rw [← hf]; rfl
  subst hroot
  have h : f.TargetAt x kind id := ⟨hofTree, hdirectives, hx, hid, hkind, hids, hrendered⟩
  constructor
  · intro reference htarget hhint
    have hne : id.isEmpty = false := by
      simpa using (Option.filter_eq_some_iff.1 hid).2
    have hknown : f.referenceKind? id (reference.property "kind") = some kind := by
      rw [Formatter.referenceKind?, h.get?_eq_none, hhint, htargets]
      exact Formatter.get?_treeTargets hids hx hid hkind
    rw [Formatter.renderReference_of_kind hne htarget hknown, hprefix]
  · rw [Tex.occurrences_label_eq_count (Formatter.markup_content hadmits) hlabelId, h.count_mainLabels hmain,
      Formatter.length_labelPlaces]

/-- A reference to the introduction. -/
def introductionReference : Node :=
  ({ name := "ref" } : Node).withProperty "target" "intro"

/-- A section with an id and the given headings. -/
def introduction (headings : List Node) : Node :=
  ({ name := "section", content := .children headings } : Node).withId "intro"

/-- An article with an introduction and a reference to it. -/
def introduced (headings : List Node) : Node where
  name := "article"
  content :=
    .children [introduction headings, { name := "p", content := .children [.text "See ", introductionReference] }]

/-- A heading with a text. -/
def titled (title : String) : Node where
  name := "heading"
  content := .children [.text title]

/-- The label of an introduction with one heading is written once, and the reference names it. -/
theorem section_label_once :
    (Formatter.ofDocument (introduced [titled "Start"]) {} none).renderReference introductionReference =
        "Section~\\ref\x7bsec:intro\x7d".toList ∧
      Text.occurrences (Tex.label .sectioning "intro")
        (Formatter.ofDocument (introduced [titled "Start"]) {} none).content = 1 := by
  have hid : (introduction [titled "Start"]).id = some "intro" := by decide +kernel
  have hkind : ReferenceKind.ofRole? (introduction [titled "Start"]).name = some .sectioning := rfl
  have h := target_label_occurrences (introduced [titled "Start"]) {} (x := ⟨[0], introduction [titled "Start"]⟩)
    (by decide +kernel) (by decide +kernel) (by decide +kernel) (by decide +kernel) (Node.mem_visit.2 rfl) hid hkind
    (by decide +kernel)
  refine ⟨?_, h.2⟩
  rw [h.1 introductionReference (by decide +kernel) (by decide +kernel)]
  decide +kernel

/-- The label of a section is lost when its heading has an id of its own or when it has no heading, and set twice
when it has two. -/
theorem section_label_lost_or_twice :
    Text.occurrences (Tex.label .sectioning "intro")
        (Formatter.ofDocument (introduced [(titled "Start").withId "start"]) {} none).content = 0 ∧
      Text.occurrences (Tex.label .sectioning "intro") (Formatter.ofDocument (introduced []) {} none).content = 0 ∧
        Text.occurrences (Tex.label .sectioning "intro")
          (Formatter.ofDocument (introduced [titled "Start", titled "Aims"]) {} none).content = 2 := by
  decide +kernel

end Manuscript
