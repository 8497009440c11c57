import Manuscript.Place
import Manuscript.Proofs.Tree

/-!
# Which figure goes to which directive

What the places of a tree answer. The figure bound to an id is the last figure of the tree with that id, when some
directive names the id, and there is none otherwise (`get?_ofTree`). So a bound figure stands in the tree and has
the id it is bound to, and where no two nodes share an id, a figure whose id is named is bound (`get?_eq_some_iff`).
-/

namespace Manuscript

namespace Dictionary

variable {α : Type}

/-- A key that is new gets its value, and all else is as before. -/
theorem get?_insertNew (d : Dictionary α) (key : String) (value : α) (k : String) :
    (d.insertNew key value).get? k = if key = k ∧ d.contains key = false then some value else d.get? k := by
  rw [insertNew]
  cases hc : d.contains key with
  | true => simp
  | false => simp [get?_insert]

/-- A key that is put in is there. -/
theorem contains_insert (d : Dictionary α) (key : String) (value : α) (k : String) :
    (d.insert key value).contains k = (key == k || d.contains k) := by
  rw [contains, get?_insert]
  by_cases h : key = k
  · simp [h]
  · simp [h, contains]

/-- A key that is put in as a new one is there. -/
theorem contains_insertNew (d : Dictionary α) (key : String) (value : α) (k : String) :
    (d.insertNew key value).contains k = (key == k || d.contains k) := by
  rw [contains, get?_insertNew]
  by_cases h : key = k
  · subst h
    cases hc : d.contains key <;> simp_all [contains]
  · simp [h, contains]

/-- An entry that a key leads to is among the entries. -/
theorem mem_of_find? {key : String} {value : α} {l : List (String × α)} (h : find? key l = some value) :
    (key, value) ∈ l := by
  induction l with
  | nil => simp [find?] at h
  | cons head rest ih =>
    obtain ⟨k, v⟩ := head
    rw [find?] at h
    by_cases hk : k = key
    · rw [if_pos hk, Option.some.injEq] at h
      rw [hk, h]
      exact List.mem_cons_self
    · rw [if_neg hk] at h
      exact List.mem_cons_of_mem _ (ih h)

/-- In an ordered list each entry is the one that its key leads to. -/
theorem find?_of_mem {key : String} {value : α} {l : List (String × α)} (hsorted : l.Pairwise (fun a b => a.1 < b.1))
    (h : (key, value) ∈ l) : find? key l = some value := by
  induction l with
  | nil => exact absurd h List.not_mem_nil
  | cons head rest ih =>
    obtain ⟨k, v⟩ := head
    rw [List.pairwise_cons] at hsorted
    rw [find?]
    rcases List.mem_cons.1 h with heq | h
    · obtain ⟨rfl, rfl⟩ := Prod.mk.inj heq
      rw [if_pos rfl]
    · have hlt : k < key := hsorted.1 (key, value) h
      rw [if_neg (fun heq : k = key => String.lt_irrefl key (heq ▸ hlt)), ih hsorted.2 h]

/-- An empty dictionary has no values. -/
theorem get?_of_isEmpty {d : Dictionary α} (h : d.isEmpty = true) (key : String) : d.get? key = none := by
  rw [isEmpty, List.isEmpty_iff] at h
  rw [get?, h, find?]

end Dictionary

/-- Whether a place holds a figure with the given id. -/
def Located.isFigureOf (x : Located) (id : String) : Bool :=
  x.node.name == "figure" && x.node.id == some id

/-- A place holds a figure with an id when its node is called a figure and has the id. -/
theorem Located.isFigureOf_iff {x : Located} {id : String} :
    x.isFigureOf id = true ↔ x.node.name = "figure" ∧ x.node.id = some id := by
  simp [isFigureOf]

/-- Whether a place holds a directive that names the given id. -/
def Located.asksFor (x : Located) (id : String) : Bool :=
  x.node.directive? == some id

/-- A place asks for an id when its node is a directive that names it. -/
theorem Located.asksFor_iff {x : Located} {id : String} : x.asksFor id = true ↔ x.node.directive? = some id := by
  simp [asksFor]

/-- A directive is raw LaTeX. -/
theorem Node.isRawTex_of_directive? {node : Node} {id : String} (h : node.directive? = some id) :
    node.isRawTex = true := by
  rw [directive?] at h
  by_cases hr : node.isRawTex = true
  · exact hr
  · rw [if_neg hr] at h
    cases h

/-- Raw LaTeX asks for what its text asks for. -/
theorem Node.directive?_of_isRawTex {node : Node} (h : node.isRawTex = true) :
    node.directive? = Directive.parse? (node.value.getD "") := by
  rw [directive?, if_pos h]
  cases node.value <;> rfl

/-- Raw LaTeX stands in raw nodes. -/
theorem Node.name_of_isRawTex {node : Node} (h : node.isRawTex = true) : node.name = "raw" := by
  rw [isRawTex, Bool.and_eq_true, beq_iff_eq] at h
  exact h.1

/-- Directives stand in raw nodes. -/
theorem Node.name_of_directive? {node : Node} {id : String} (h : node.directive? = some id) : node.name = "raw" :=
  name_of_isRawTex (isRawTex_of_directive? h)

namespace Places

/-! ## The first pass: directives -/

/-- A directive makes its id known. -/
theorem contains_registerNode (places : Places) (x : Located) (id : String) :
    (places.registerNode x).contains id = (x.asksFor id || places.contains id) := by
  rw [registerNode, Located.asksFor]
  cases h : x.node.directive? with
  | none => rfl
  | some key =>
    simp only [contains, register]
    rw [Dictionary.contains_insertNew]
    rfl

/-- A directive binds no figure. -/
theorem get?_registerNode (places : Places) (x : Located) (id : String) (h : places.get? id = none) :
    (places.registerNode x).get? id = none := by
  rw [registerNode]
  cases x.node.directive? with
  | none => exact h
  | some key =>
    simp only [get?, register]
    rw [Dictionary.get?_insertNew]
    split
    · rfl
    · exact h

/-- The ids that are known are those that the directives of a list name. -/
theorem contains_foldl_registerNode (l : List Located) (places : Places) (id : String) :
    (l.foldl registerNode places).contains id = (l.any (fun x => x.asksFor id) || places.contains id) := by
  induction l generalizing places with
  | nil => rfl
  | cons x rest ih =>
    rw [List.foldl_cons, ih, contains_registerNode, List.any_cons]
    cases x.asksFor id <;> simp

/-- Directives bind no figures. -/
theorem get?_foldl_registerNode (l : List Located) (places : Places) (id : String) (h : places.get? id = none) :
    (l.foldl registerNode places).get? id = none := by
  induction l generalizing places with
  | nil => exact h
  | cons x rest ih =>
    rw [List.foldl_cons]
    exact ih _ (get?_registerNode places x id h)

/-! ## The second pass: figures -/

/-- To bind a figure makes no id known. -/
theorem contains_bind (places : Places) (key : String) (figure : Located) (id : String) :
    (places.bind key figure).contains id = places.contains id := by
  rw [bind]
  split
  · rename_i hk
    simp only [contains] at hk ⊢
    rw [Dictionary.contains_insert]
    by_cases h : key = id
    · subst h
      simp [hk]
    · simp [h]
  · rfl

/-- A figure is bound to an id that is known. -/
theorem get?_bind (places : Places) (key : String) (figure : Located) (id : String) :
    (places.bind key figure).get? id = if key = id ∧
    places.contains id = true then some figure else places.get? id := by
  rw [bind]
  by_cases hk : places.contains key = true
  · rw [if_pos hk]
    simp only [get?]
    rw [Dictionary.get?_insert]
    by_cases h : key = id
    · subst h
      simp [hk]
    · simp [h]
  · rw [if_neg hk]
    by_cases h : key = id
    · subst h
      simp [hk]
    · simp [h]

/-- A node makes no id known when figures are bound. -/
theorem contains_bindNode (places : Places) (x : Located) (id : String) :
    (places.bindNode x).contains id = places.contains id := by
  rw [bindNode]
  split
  · split
    · exact contains_bind _ _ _ _
    · rfl
  · rfl

/-- A figure is bound to its id when that is known, and any other node to none. -/
theorem get?_bindNode (places : Places) (x : Located) (id : String) :
    (places.bindNode x).get? id = if x.isFigureOf id = true ∧
    places.contains id = true then some x else places.get? id := by
  rw [bindNode, Located.isFigureOf]
  by_cases hn : x.node.name = "figure"
  · rw [if_pos (beq_iff_eq.2 hn)]
    cases hi : x.node.id with
    | none => simp [hn]
    | some key => simp [get?_bind, hn]
  · rw [if_neg (by simpa using hn)]
    simp [hn]

/-- Of the figures of a list, the last with an id is bound to it, if a directive names the id. -/
theorem get?_foldl_bindNode (l : List Located) (places : Places) (id : String) :
    (l.foldl bindNode places).get? id =
      if places.contains id = true then (l.filter (fun x => x.isFigureOf id)).getLast?.or (places.get? id)
          else places.get? id := by
  induction l generalizing places with
  | nil => simp
  | cons x rest ih =>
    rw [List.foldl_cons, ih, contains_bindNode, get?_bindNode]
    by_cases hc : places.contains id = true
    · by_cases hx : x.isFigureOf id = true
      · simp only [hc, hx, and_self, if_true, List.filter_cons_of_pos, List.getLast?_cons]
        cases (rest.filter (fun x => x.isFigureOf id)).getLast? <;> rfl
      · simp only [hc, hx, false_and, if_true, if_false, Bool.false_eq_true]
        rw [List.filter_cons_of_neg (by rw [Bool.not_eq_true] at hx; rw [hx]; exact Bool.false_ne_true)]
    · simp only [hc, and_false, if_false, Bool.false_eq_true]

/-! ## The places of a tree -/

/-- The figure bound to an id is the last one in the tree that has it, if some directive of the tree names the id. -/
theorem get?_ofTree (root : Node) (id : String) :
    (ofTree root).get? id =
      if root.visit.any (fun x => x.asksFor id) = true then (root.visit.filter (fun x => x.isFigureOf id)).getLast?
      else none := by
  have hnone : (root.visit.foldl registerNode {}).get? id = none := get?_foldl_registerNode _ _ _ rfl
  have hcontains := contains_foldl_registerNode root.visit {} id
  rw [show ({} : Places).contains id = false from rfl, Bool.or_false] at hcontains
  rw [ofTree]
  split
  · rename_i he
    rw [contains, Dictionary.contains, Dictionary.get?_of_isEmpty he] at hcontains
    rw [hnone, if_neg]
    rw [← hcontains]
    exact Bool.false_ne_true
  · rw [get?_foldl_bindNode, hnone, hcontains, Option.or_none]

variable {root : Node}

/-- A bound figure is a figure of the tree with the id, and some directive names the id. -/
theorem of_get?_eq_some {id : String} {g : Located} (h : (ofTree root).get? id = some g) :
    g ∈ root.visit ∧ g.node.name = "figure" ∧ g.node.id = some id ∧ ∃ x ∈ root.visit, x.node.directive? = some id := by
  rw [get?_ofTree] at h
  split at h
  · rename_i ha
    obtain ⟨hg, hp⟩ := List.mem_filter.1 (List.mem_of_getLast? h)
    obtain ⟨hname, hid⟩ := Located.isFigureOf_iff.1 hp
    obtain ⟨x, hx, hask⟩ := List.any_eq_true.1 ha
    exact ⟨hg, hname, hid, x, hx, Located.asksFor_iff.1 hask⟩
  · cases h

/-- Where no two nodes share an id, the figure with an id is bound to it if and only if some directive names the id. -/
theorem get?_eq_some_iff (hids : (root.visit.filterMap (fun x => x.node.id)).Nodup) {id : String} {g : Located}
    (hg : g ∈ root.visit) (hname : g.node.name = "figure") (hid : g.node.id = some id) :
    (ofTree root).get? id = some g ↔ ∃ x ∈ root.visit, x.node.directive? = some id := by
  refine ⟨fun h => (of_get?_eq_some h).2.2.2, ?_⟩
  rintro ⟨x, hx, hask⟩
  have hany : root.visit.any (fun x => x.asksFor id) = true :=
    List.any_eq_true.2 ⟨x, hx, Located.asksFor_iff.2 hask⟩
  have hmem : g ∈ root.visit.filter (fun x => x.isFigureOf id) :=
    List.mem_filter.2 ⟨hg, Located.isFigureOf_iff.2 ⟨hname, hid⟩⟩
  rw [get?_ofTree, if_pos hany]
  cases hl : (root.visit.filter (fun x => x.isFigureOf id)).getLast? with
  | none =>
    rw [List.getLast?_eq_none_iff] at hl
    rw [hl] at hmem
    exact absurd hmem List.not_mem_nil
  | some b =>
    obtain ⟨hb, hp⟩ := List.mem_filter.1 (List.mem_of_getLast? hl)
    rw [eq_of_nodup_filterMap hids hb hg (Located.isFigureOf_iff.1 hp).2 hid]

/-- A figure is claimed when it is the one bound to its id. -/
theorem isClaimed_iff {x : Located} (hx : x ∈ root.visit) :
    (ofTree root).isClaimed x = true ↔ ∃ id, (ofTree root).get? id = some x := by
  rw [isClaimed]
  constructor
  · intro h
    cases hb : x.node.id.bind (ofTree root).get? with
    | none =>
      rw [hb] at h
      cases h
    | some b =>
      rw [hb] at h
      obtain ⟨id, -, hget⟩ := Option.bind_eq_some_iff.1 hb
      have hbmem := (of_get?_eq_some hget).1
      exact ⟨id, by rw [hget, Node.eq_of_path_eq hbmem hx (beq_iff_eq.1 h)]⟩
  · rintro ⟨id, h⟩
    rw [(of_get?_eq_some h).2.2.1, Option.bind_some, h]
    exact beq_self_eq_true x.path

/-- In a tree without directives nothing is bound. -/
theorem get?_eq_none (h : ∀ d ∈ root.visit, d.node.directive? = none) (id : String) : (ofTree root).get? id = none := by
  rw [Option.eq_none_iff_forall_ne_some]
  intro g hg
  obtain ⟨-, -, -, d, hd, hask⟩ := of_get?_eq_some hg
  rw [h d hd] at hask
  cases hask

/-- In a tree without directives no figure is set elsewhere. -/
theorem isClaimed_eq_false (h : ∀ d ∈ root.visit, d.node.directive? = none) (x : Located) :
    (ofTree root).isClaimed x = false := by
  have hunbound : x.node.id.bind (ofTree root).get? = none := by
    cases x.node.id with
    | none => rfl
    | some id => exact get?_eq_none h id
  rw [isClaimed, hunbound]

end Places

end Manuscript
