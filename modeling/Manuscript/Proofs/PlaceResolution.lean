import Manuscript.Proofs.Blank
import Manuscript.Proofs.Listing
import Manuscript.Proofs.Places

/-!
# What places answer

What the places of a tree answer is told by the tree alone. A node asks for a figure when it is raw LaTeX whose text
opens a directive and goes on to a closing brace (`Node.AsksAt`). Directives are listed in document order, which is
the order of their paths, and their ids in the order of strings; an id that is asked for leads to the last figure
that has it (`Node.LastFigure`), and to nothing else (`places_of_tree`).
-/

namespace Manuscript

variable {root : Node} {path : NodePath} {id : String}

/-! ## Directives -/

namespace Directive

/-- A text asks for an id: it opens a directive, goes on to a closing brace, and has the id between the two, perhaps
with blanks around it. Anything may follow the brace. -/
def Asks (text id : String) : Prop :=
  ∃ inner rest, text.toList = opening ++ (inner ++ '}' :: rest) ∧ '}' ∉ inner ∧ id.toList = Text.trim inner ∧ id ≠ ""

/-- What stands behind the opening of a directive. -/
theorem afterOpening?_eq_some_iff {s rest : List Char} : afterOpening? s = some rest ↔ s = opening ++ rest := by
  rw [afterOpening?]
  constructor
  · intro h
    split at h
    · rename_i hopening
      obtain ⟨t, rfl⟩ := List.isPrefixOf_iff_prefix.1 hopening
      rw [List.drop_left, Option.some.injEq] at h
      rw [h]
    · cases h
  · rintro rfl
    rw [if_pos (List.isPrefixOf_iff_prefix.2 (List.prefix_append _ _)), List.drop_left]

/-- The id that is read off a text is the one that the text asks for. -/
theorem parse?_eq_some_iff {text : String} : parse? text = some id ↔ Asks text id := by
  have hread : ∀ inner, (if (Text.trim inner).isEmpty then none else some (String.ofList (Text.trim inner))) = some id ↔
      id.toList = Text.trim inner ∧ id ≠ "" := by
    intro inner
    cases htrim : Text.trim inner with
    | nil => simp
    | cons c rest =>
      simp only [List.isEmpty_cons, Bool.false_eq_true, if_false, Option.some.injEq]
      constructor
      · rintro rfl
        simp
      · rintro ⟨h, -⟩
        rw [← h, String.ofList_toList]
  rw [parse?]
  constructor
  · intro h
    split at h
    · cases h
    · rename_i hopening
      split at h
      · rename_i hclosing
        obtain ⟨inner, t, rfl, hinner⟩ := List.eq_append_cons_of_mem (List.contains_iff_mem.1 hclosing)
        rw [Text.takeWhile_closing hinner] at h
        exact ⟨inner, t, afterOpening?_eq_some_iff.1 hopening, hinner, (hread inner).1 h⟩
      · cases h
  · rintro ⟨inner, t, htext, hinner, hid⟩
    have hclosing : (inner ++ '}' :: t).contains '}' = true :=
      List.contains_iff_mem.2 (List.mem_append_right _ List.mem_cons_self)
    rw [afterOpening?_eq_some_iff.2 htext]
    simp only [hclosing, if_true, Text.takeWhile_closing hinner]
    exact (hread inner).2 hid

end Directive

/-- The node at a path is raw LaTeX that asks for an id. -/
def Node.AsksAt (root : Node) (path : NodePath) (id : String) : Prop :=
  ∃ node text, root.atPath path = some node ∧ node.isRawTex = true ∧ node.value = some text ∧ Directive.Asks text id

/-- A directive is raw markup whose text asks for a figure. -/
theorem Node.directive?_eq_some_iff {node : Node} :
    node.directive? = some id ↔ node.isRawTex = true ∧ ∃ text, node.value = some text ∧ Directive.Asks text id := by
  rw [directive?]
  split
  · rename_i hraw
    simp [Option.bind_eq_some_iff, Directive.parse?_eq_some_iff, hraw]
  · rename_i hraw
    simp [hraw]

/-- The figure is asked for at a place of the tree with that directive. -/
theorem Node.asksAt_iff : root.AsksAt path id ↔ ∃ x ∈ root.visit, x.path = path ∧ x.node.directive? = some id := by
  constructor
  · rintro ⟨node, text, hnode, hask⟩
    exact ⟨⟨path, node⟩, Node.mem_visit.2 hnode, rfl, Node.directive?_eq_some_iff.2 ⟨hask.1, text, hask.2⟩⟩
  · rintro ⟨x, hx, rfl, hask⟩
    obtain ⟨hraw, text, hask⟩ := Node.directive?_eq_some_iff.1 hask
    exact ⟨x.node, text, Node.mem_visit.1 hx, hraw, hask⟩

/-! ## Ids and figures -/

/-- A key is held exactly if it is among the keys. -/
theorem Dictionary.contains_iff_mem_keys {α : Type} {d : Dictionary α} {key : String} :
    d.contains key = true ↔ key ∈ d.keys := by
  rw [contains, get?, keys]
  induction d.entries with
  | nil => simp [find?]
  | cons entry rest ih =>
    obtain ⟨k, v⟩ := entry
    rw [find?, List.map_cons, List.mem_cons, ← ih]
    by_cases hk : k = key
    · simp [hk]
    · simp [hk, Ne.symm hk]

/-- A place holds the last figure of the tree with an id: it holds one, and each other figure with the id comes
earlier. -/
def Node.LastFigure (root : Node) (id : String) (figure : Located) : Prop :=
  figure ∈ root.visit ∧ figure.isFigureOf id = true ∧
    ∀ x ∈ root.visit, x.isFigureOf id = true → x = figure ∨ x.path < figure.path

/-- The last place of a list in document order is the one that no other comes after. -/
theorem Located.getLast?_eq_some_iff {l : List Located} (h : l.Pairwise (fun a b => a.path < b.path)) {x : Located} :
    l.getLast? = some x ↔ x ∈ l ∧ ∀ y ∈ l, y = x ∨ y.path < x.path := by
  constructor
  · intro hlast
    obtain ⟨before, rfl⟩ := List.getLast?_eq_some_iff.1 hlast
    refine ⟨List.mem_append_right _ (List.mem_singleton_self x), fun y hy => ?_⟩
    rcases List.mem_append.1 hy with hy | hy
    · exact Or.inr ((List.pairwise_append.1 h).2.2 y hy x (List.mem_singleton_self x))
    · exact Or.inl (List.mem_singleton.1 hy)
  · rintro ⟨hx, hafter⟩
    obtain ⟨z, hz⟩ := Option.isSome_iff_exists.1 (List.getLast?_isSome.2 (List.ne_nil_of_mem hx))
    obtain ⟨before, rfl⟩ := List.getLast?_eq_some_iff.1 hz
    rw [hz, Option.some.injEq]
    rcases hafter z (List.mem_append_right _ (List.mem_singleton_self z)) with rfl | hlt
    · rfl
    · rcases List.mem_append.1 hx with hx | hx
      · exact absurd hlt (List.lt_asymm ((List.pairwise_append.1 h).2.2 x hx z (List.mem_singleton_self z)))
      · exact (List.mem_singleton.1 hx).symm

namespace Places

/-- The directive at a place, if there is one. -/
def directiveOf? (x : Located) : Option Directive :=
  x.node.directive?.map (Directive.mk x.path)

/-- Registering nodes adds their directives in order. -/
theorem directives_foldl_registerNode (l : List Located) (places : Places) :
    (l.foldl registerNode places).directives = places.directives ++ l.filterMap directiveOf? := by
  induction l generalizing places with
  | nil => simp
  | cons x rest ih =>
    rw [List.foldl_cons, ih, registerNode, List.filterMap_cons, directiveOf?]
    cases x.node.directive? with
    | none => rfl
    | some id => simp [register]

/-- Binding a figure adds no directive. -/
theorem directives_bindNode (places : Places) (x : Located) : (places.bindNode x).directives = places.directives := by
  rw [bindNode]
  split
  · split
    · rw [bind]
      split <;> rfl
    · rfl
  · rfl

/-- Binding figures adds no directive. -/
theorem directives_foldl_bindNode (l : List Located) (places : Places) :
    (l.foldl bindNode places).directives = places.directives := by
  induction l generalizing places with
  | nil => rfl
  | cons x rest ih => rw [List.foldl_cons, ih, directives_bindNode]

/-- The directives are those of the places of the tree, in their order. -/
theorem directives_ofTree (root : Node) : (ofTree root).directives = root.visit.filterMap directiveOf? := by
  have hregistered : (root.visit.foldl registerNode {}).directives = root.visit.filterMap directiveOf? :=
    directives_foldl_registerNode root.visit {}
  rw [ofTree]
  split
  · exact hregistered
  · rw [directives_foldl_bindNode, hregistered]

/-- Binding figures adds no id. -/
theorem contains_foldl_bindNode (l : List Located) (places : Places) (id : String) :
    (l.foldl bindNode places).contains id = places.contains id := by
  induction l generalizing places with
  | nil => rfl
  | cons x rest ih => rw [List.foldl_cons, ih, contains_bindNode]

/-- An id is held exactly if a node of the tree asks for it. -/
theorem contains_ofTree (root : Node) (id : String) :
    (ofTree root).contains id = root.visit.any (fun x => x.asksFor id) := by
  have hregistered : (root.visit.foldl registerNode {}).contains id = root.visit.any (fun x => x.asksFor id) :=
    (contains_foldl_registerNode root.visit {} id).trans (Bool.or_false _)
  rw [ofTree]
  split
  · exact hregistered
  · rw [contains_foldl_bindNode, hregistered]

/-! ## Answers -/

/-- The directives held are those of the tree, each with its place. -/
theorem mem_directives_iff {d : Directive} : d ∈ (ofTree root).directives ↔ root.AsksAt d.path d.id := by
  rw [directives_ofTree, List.mem_filterMap, Node.asksAt_iff]
  constructor
  · rintro ⟨x, hx, h⟩
    obtain ⟨id, hask, rfl⟩ := Option.map_eq_some_iff.1 h
    exact ⟨x, hx, rfl, hask⟩
  · rintro ⟨x, hx, hpath, hask⟩
    exact ⟨x, hx, by rw [directiveOf?, hask, hpath]; rfl⟩

/-- Directives are listed in the order of their paths. -/
theorem directives_ordered (root : Node) : (ofTree root).directives.Pairwise (fun d e => d.path < e.path) := by
  rw [directives_ofTree]
  refine (List.pairwise_map.1 root.ordered_paths_visit).filterMap directiveOf? ?_
  intro x y hlt d hd e he
  obtain ⟨_, -, rfl⟩ := Option.map_eq_some_iff.1 hd
  obtain ⟨_, -, rfl⟩ := Option.map_eq_some_iff.1 he
  exact hlt

/-- The directive at a path is the one of the node that stands there. -/
theorem directiveAt_eq_some_iff : (ofTree root).directiveAt path = some id ↔ root.AsksAt path id := by
  have hunique : ∀ {other}, root.AsksAt path id → root.AsksAt path other → other = id := by
    intro other hid hother
    obtain ⟨x, hx, hpath, hask⟩ := Node.asksAt_iff.1 hid
    obtain ⟨y, hy, rfl, hask'⟩ := Node.asksAt_iff.1 hother
    rw [Node.eq_of_path_eq hx hy hpath, hask', Option.some.injEq] at hask
    exact hask
  rw [directiveAt]
  constructor
  · intro h
    obtain ⟨d, hfind, rfl⟩ := Option.map_eq_some_iff.1 h
    have hpath := List.find?_some hfind
    rw [beq_iff_eq] at hpath
    exact hpath ▸ mem_directives_iff.1 (List.mem_of_find?_eq_some hfind)
  · intro h
    have hmem : (⟨path, id⟩ : Directive) ∈ (ofTree root).directives := mem_directives_iff.2 h
    obtain ⟨d, hfind⟩ : ∃ d, (ofTree root).directives.find? (fun d => d.path == path) = some d :=
      Option.isSome_iff_exists.1 (List.find?_isSome.2 ⟨_, hmem, beq_self_eq_true path⟩)
    have hpath := List.find?_some hfind
    rw [beq_iff_eq] at hpath
    have hask : root.AsksAt d.path d.id := mem_directives_iff.1 (List.mem_of_find?_eq_some hfind)
    rw [hpath] at hask
    rw [hfind, Option.map_some, hunique h hask]

/-- Ids are listed in the order of strings. -/
theorem ids_ordered (places : Places) : places.ids.Pairwise (· < ·) :=
  List.pairwise_map.2 places.bound.sorted

/-- A node asks for an id exactly if one asks for it at some place. -/
theorem any_asksFor_iff : root.visit.any (fun x => x.asksFor id) = true ↔ ∃ path, root.AsksAt path id := by
  rw [List.any_eq_true]
  constructor
  · rintro ⟨x, hx, hask⟩
    exact ⟨x.path, Node.asksAt_iff.2 ⟨x, hx, rfl, Located.asksFor_iff.1 hask⟩⟩
  · rintro ⟨path, hask⟩
    obtain ⟨x, hx, -, hask⟩ := Node.asksAt_iff.1 hask
    exact ⟨x, hx, Located.asksFor_iff.2 hask⟩

/-- The ids held are those that are asked for. -/
theorem mem_ids_iff : id ∈ (ofTree root).ids ↔ ∃ path, root.AsksAt path id := by
  rw [ids, ← Dictionary.contains_iff_mem_keys, ← contains, contains_ofTree, any_asksFor_iff]

/-- An id that is asked for leads to the last figure with it. -/
theorem get?_eq_some_iff_lastFigure {figure : Located} :
    (ofTree root).get? id = some figure ↔ (∃ path, root.AsksAt path id) ∧ root.LastFigure id figure := by
  have hordered : (root.visit.filter (fun x => x.isFigureOf id)).Pairwise (fun a b => a.path < b.path) :=
    (List.pairwise_map.1 root.ordered_paths_visit).filter _
  rw [get?_ofTree, ← any_asksFor_iff]
  split
  · rename_i hasked
    rw [Located.getLast?_eq_some_iff hordered, Node.LastFigure]
    simp only [hasked, List.mem_filter, and_imp, and_assoc, true_and]
  · rename_i hunasked
    simp [hunasked]

/-- Two figures of equal value that are both claimed are one. -/
theorem eq_of_isClaimed {x y : Located} (hx : x ∈ root.visit) (hy : y ∈ root.visit) (hnode : x.node = y.node)
    (hclaimed : (ofTree root).isClaimed x = true) (hother : (ofTree root).isClaimed y = true) : x = y := by
  obtain ⟨id, hget⟩ := (isClaimed_iff hx).1 hclaimed
  obtain ⟨other, hget'⟩ := (isClaimed_iff hy).1 hother
  have hid := (of_get?_eq_some hget).2.2.1
  have hid' := (of_get?_eq_some hget').2.2.1
  rw [hnode, hid', Option.some.injEq] at hid
  rw [hid, hget, Option.some.injEq] at hget'
  exact hget'

end Places

/-- The places of a tree answer what the tree says. The directives are those of the nodes that ask for a figure, in
document order, and each is found at its path; the ids are those that are asked for, in the order of strings; an id
that is asked for leads to the last figure with it, and every other id to none; and a figure is claimed exactly when
an id leads to it, so that of two places with equal figures at most one is claimed. -/
theorem places_of_tree (root : Node) :
    let places := Places.ofTree root
    places.directives.Pairwise (fun d e => d.path < e.path) ∧
    (∀ d, d ∈ places.directives ↔ root.AsksAt d.path d.id) ∧
    (∀ path id, places.directiveAt path = some id ↔ root.AsksAt path id) ∧
    places.ids.Pairwise (· < ·) ∧
    (∀ id, id ∈ places.ids ↔ ∃ path, root.AsksAt path id) ∧
    (∀ id figure, places.get? id = some figure ↔ (∃ path, root.AsksAt path id) ∧ root.LastFigure id figure) ∧
    (∀ x ∈ root.visit, places.isClaimed x = true ↔ ∃ id, places.get? id = some x) ∧
    (∀ x ∈ root.visit, ∀ y ∈ root.visit, x.node = y.node → places.isClaimed x = true → places.isClaimed y = true →
      x = y) :=
  ⟨Places.directives_ordered root, fun _ => Places.mem_directives_iff, fun _ _ => Places.directiveAt_eq_some_iff,
    Places.ids_ordered _, fun _ => Places.mem_ids_iff, fun _ _ => Places.get?_eq_some_iff_lastFigure,
    fun _ hx => Places.isClaimed_iff hx, fun _ hx _ hy => Places.eq_of_isClaimed hx hy⟩

/-- A directive with a comment behind it. -/
def commentedDirective : Node where
  name := "article"
  content := .children [.raw "tex" "\\place\x7bcat\x7d% here"]

/-- What follows the closing brace does not matter: the directive is listed although its text does not end with the
brace. -/
theorem commentedDirective_listed :
    ¬∀ d, d ∈ (Places.ofTree commentedDirective).directives ↔
      ∃ node text, commentedDirective.atPath d.path = some node ∧ node.isRawTex = true ∧ node.value = some text ∧
        ∃ inner, text.toList = Directive.opening ++ (inner ++ ['}']) ∧ '}' ∉ inner ∧ d.id.toList = Text.trim inner ∧
          d.id ≠ "" := by
  intro h
  obtain ⟨node, text, hnode, -, htext, inner, hinner, -⟩ := (h ⟨[0], "cat"⟩).1 (by decide +kernel)
  obtain rfl : Node.raw "tex" "\\place\x7bcat\x7d% here" = node := Option.some.inj hnode
  obtain rfl : "\\place\x7bcat\x7d% here" = text := Option.some.inj htext
  have hlast := congrArg List.getLast? hinner
  rw [← List.append_assoc, List.getLast?_concat] at hlast
  exact absurd hlast (by decide)

end Manuscript
