import Manuscript.Proofs.TargetLabels

/-!
# The kinds of references

What kind of target a reference has is looked for in one order: a figure that a directive places, the hint of the
reference, the references of the citations, and the tree (`resolve?`). Of several references with one id the
formatter goes by the last, while the citations themselves answer with the first; where these two differ in kind,
and nothing before them decides, so do the answers (`reference_kind_iff`).
-/

namespace Manuscript

variable {root : Node}

/-! ## Where a kind comes from -/

/-- Whether a directive of the tree names the id and a figure of the tree has it. -/
def Node.placesFigure (root : Node) (id : String) : Bool :=
  root.visit.any (fun x => x.asksFor id) && root.visit.any (fun x => x.isFigureOf id)

/-- The kind of the last reference with the given id. -/
def Citations.lastKindOf (citations : Citations) (id : String) : Option ReferenceKind :=
  (citations.references.reverse.find? (fun reference => reference.id == id)).map (·.kind)

/-- The kind of the first node in document order that has the id and can be referred to. -/
def Node.kindOf (root : Node) (id : String) : Option ReferenceKind :=
  root.visit.findSome? (fun x => Formatter.declared? id x.node)

/-- The kind of a target, given what the citations know of it: a figure when a directive has placed one with this
id, else what the hint says, else what the citations know, else what the tree says. -/
def Node.resolve? (root : Node) (known : Option ReferenceKind) (target : String) (hint : Option String) :
    Option ReferenceKind :=
  if root.placesFigure target then some .figure
  else (hint.bind ReferenceKind.parse?).or (known.or (root.kindOf target))

/-! ## What a formatter knows -/

/-- A figure is bound to an id exactly when a directive names the id and some figure has it. -/
theorem Places.isSome_get?_ofTree (root : Node) (id : String) :
    ((ofTree root).get? id).isSome = root.placesFigure id := by
  have hfound : (root.visit.filter (fun x => x.isFigureOf id)).getLast?.isSome =
      root.visit.any (fun x => x.isFigureOf id) := by
    rw [Bool.eq_iff_iff, List.getLast?_isSome, List.any_eq_true, ne_eq, List.filter_eq_nil_iff]
    simp
  rw [get?_ofTree, Node.placesFigure]
  cases root.visit.any (fun x => x.asksFor id) with
  | false => rfl
  | true => rw [if_pos rfl, hfound, Bool.true_and]

namespace Formatter

/-- A later reference takes the place of an earlier one with the same id, and of what the tree says. -/
theorem get?_withReferences (targets : Dictionary ReferenceKind) (references : List Reference) (id : String) :
    (withReferences targets references).get? id =
      ((references.reverse.find? (fun reference => reference.id == id)).map (·.kind)).or (targets.get? id) := by
  induction references generalizing targets with
  | nil => rfl
  | cons reference rest ih =>
    have hrest := ih (targets.insert reference.id reference.kind)
    rw [Dictionary.get?_insert] at hrest
    rw [List.reverse_cons, List.find?_append, List.find?_singleton, Option.map_or, Option.or_assoc]
    refine hrest.trans ?_
    congr 1
    by_cases hid : reference.id = id <;> simp [hid]

/-- What a formatter knows of an id: what the last reference with it says, and else what the tree says. -/
theorem get?_targets (root : Node) (options : Options) (citations : Option Citations) (id : String) :
    (ofDocument root options citations).targets.get? id = (citations.bind (fun c => c.lastKindOf id)).or
      (root.kindOf id) := by
  have htree : (treeTargets root).get? id = root.kindOf id := get?_treeTargets_eq root id
  cases citations with
  | none => exact htree
  | some c =>
    refine (get?_withReferences (treeTargets root) c.references id).trans ?_
    rw [htree]
    rfl

/-- The formatter follows the order, with the last reference that has the id for what the citations know of it. -/
theorem referenceKind?_eq (root : Node) (options : Options) (citations : Option Citations) (target : String)
    (hint : Option String) :
    (ofDocument root options citations).referenceKind? target hint =
      root.resolve? (citations.bind (fun c => c.lastKindOf target)) target hint := by
  rw [referenceKind?, get?_targets, Node.resolve?, ← Places.isSome_get?_ofTree]
  rfl

end Formatter

/-! ## First and last reference -/

/-- An id has a first reference exactly when it has a last one. -/
theorem Citations.isSome_lastKindOf (citations : Citations) (id : String) :
    (citations.lastKindOf id).isSome = (citations.kindOf id).isSome := by
  rw [lastKindOf, kindOf, Option.isSome_map, Option.isSome_map, Bool.eq_iff_iff, List.find?_isSome, List.find?_isSome]
  simp

/-- Two answers of the citations lead to the same kind exactly when they are the same or something before them
decides, provided that both of them are there or none. -/
theorem Node.resolve?_eq_iff {known other : Option ReferenceKind} (hboth : known.isSome = other.isSome)
    (target : String) (hint : Option String) :
    root.resolve? known target hint = root.resolve? other target hint ↔
      root.placesFigure target = true ∨ (hint.bind ReferenceKind.parse?).isSome = true ∨ known = other := by
  rw [resolve?, resolve?]
  cases root.placesFigure target with
  | true => simp
  | false =>
    cases hint.bind ReferenceKind.parse? with
    | some kind => simp
    | none => cases known <;> cases other <;> simp at hboth ⊢

/-- The kind of a target is found in the order of `resolve?`, with the last reference that has its id. So it is the
kind that the order gives with the answer of the citations themselves, which go by the first reference, unless no
figure is placed under the id, no hint is understood, and the first and the last reference with the id differ in
kind. -/
theorem reference_kind_iff (root : Node) (options : Options) (citations : Option Citations) (target : String)
    (hint : Option String) :
    (Formatter.ofDocument root options citations).referenceKind? target hint =
        root.resolve? (citations.bind (fun c => c.lastKindOf target)) target hint ∧
      ((Formatter.ofDocument root options citations).referenceKind? target hint =
          root.resolve? (citations.bind (fun c => c.kindOf target)) target hint ↔
        root.placesFigure target = true ∨ (hint.bind ReferenceKind.parse?).isSome = true ∨
          citations.bind (fun c => c.lastKindOf target) = citations.bind (fun c => c.kindOf target)) := by
  have heq := Formatter.referenceKind?_eq root options citations target hint
  refine ⟨heq, ?_⟩
  rw [heq]
  refine Node.resolve?_eq_iff ?_ target hint
  cases citations with
  | none => rfl
  | some c => exact c.isSome_lastKindOf target

/-- Citations with two references to one id that differ in kind. -/
def twiceReferenced : Citations where
  references := [⟨"results", .table⟩, ⟨"results", .figure⟩]

/-- The citations call the target a table, after the first reference, and a reference to it is set as one to a
figure. -/
theorem last_reference_decides :
    twiceReferenced.kindOf "results" = some .table ∧
      ({ name := "article" } : Node).resolve? (twiceReferenced.kindOf "results") "results" none = some .table ∧
      (Formatter.ofDocument { name := "article" } {} (some twiceReferenced)).referenceKind? "results" none =
        some .figure := by
  decide +kernel

end Manuscript
