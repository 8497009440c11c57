import Mathlib.Data.List.DropRight
import Manuscript.Proofs.DocumentText

/-!
# Nodes and their histories

A node starts blank or from a JSON value and is then edited: a property is set, a class is given, the content is
replaced, a child is pushed. What it is in the end is told by this history without the states in between. The
classes are those that were given, each at its first occurrence (`classes_run`); the content is the last one that
was put in place, followed by what was pushed since (`content_run`); and a JSON value makes the node that its fields
make when they are given one by one (`Draft.node_eq_run`). A child was read with its node or brought in by an edit,
so it has a history of its own (`Reachable.of_mem_children`), and all this holds of every node of a tree
(`reachable_canonical`).
-/

namespace Manuscript

/-! ## Edits -/

/-- The content after some nodes were pushed: children are continued, and a literal text gives way to the first of
the nodes. -/
def Content.followedBy {α : Type} : Content α → List α → Content α
  | .children nodes, pushed => .children (nodes ++ pushed)
  | .value text, [] => .value text
  | .value _, first :: rest => .children (first :: rest)

namespace Content

variable {α : Type}

@[simp]
theorem followedBy_nil (content : Content α) : content.followedBy [] = content := by
  cases content with
  | children nodes => rw [followedBy, List.append_nil]
  | value text => rfl

/-- What is pushed later stands behind what was pushed before. -/
theorem followedBy_append (content : Content α) (l r : List α) :
    content.followedBy (l ++ r) = (content.followedBy l).followedBy r := by
  cases content with
  | children nodes => simp only [followedBy, List.append_assoc]
  | value text =>
    cases l with
    | nil => rfl
    | cons first rest => rfl

end Content

namespace Node

/-- A change to a node. -/
inductive Edit where
  | property (key text : String)
  | id (text : String)
  | style (name : String)
  | children (nodes : List Node)
  | value (text : String)
  | push (child : Node)

namespace Edit

/-- The node with the change made. -/
def apply (node : Node) : Edit → Node
  | .property key text => node.withProperty key text
  | .id text => node.withId text
  | .style name => node.withClass name
  | .children nodes => node.withChildren nodes
  | .value text => node.withValue text
  | .push child => node.push child

/-- The style class that is given. -/
def style? : Edit → Option String
  | .style name => some name
  | _ => none

/-- The content that takes the place of what the node held. -/
def replacement? : Edit → Option (Content Node)
  | .children nodes => some (.children nodes)
  | .value text => some (.value text)
  | _ => none

/-- The node that is put behind the children. -/
def pushed? : Edit → Option Node
  | .push child => some child
  | _ => none

/-- The nodes that the change brings in. -/
def parts : Edit → List Node
  | .children nodes => nodes
  | .push child => [child]
  | _ => []

end Edit

/-- The node with the changes made one after another. -/
def run (edits : List Edit) (node : Node) : Node :=
  edits.foldl Edit.apply node

/-- The classes that are given, in their order and as often as they are given. -/
def givenClasses (edits : List Edit) : List String :=
  edits.filterMap Edit.style?

/-- The content that was put in place last, or the one at the start when none was. -/
def lastContent (start : Content Node) (edits : List Edit) : Content Node :=
  (edits.filterMap Edit.replacement?).getLastD start

/-- The nodes that were pushed after the last time that the content was replaced. -/
def pushedSince (edits : List Edit) : List Node :=
  (edits.rtakeWhile (fun edit => edit.replacement?.isNone)).filterMap Edit.pushed?

/-- Edits in turn. -/
theorem run_append (l r : List Edit) (node : Node) : run (l ++ r) node = run r (run l node) :=
  List.foldl_append

/-- The last edit is made last. -/
theorem run_concat (edits : List Edit) (edit : Edit) (node : Node) :
    run (edits ++ [edit]) node = edit.apply (run edits node) :=
  run_append edits [edit] node

/-! ## What one edit does -/

/-- A class is given to a node without a change to anything else. -/
theorem withClass_eq (node : Node) (style : String) :
    node.withClass style =
      { node with classes := if node.classes.contains style then node.classes else node.classes ++ [style] } := by
  unfold withClass hasClass
  split
  · exact (eta node).symm
  · rfl

/-- An edit adds the class that it gives to the first occurrences, and leaves the classes alone if it gives none. -/
theorem classes_apply {node : Node} {given : List String} (h : node.classes = given.eraseDups) (edit : Edit) :
    (edit.apply node).classes = (given ++ edit.style?.toList).eraseDups := by
  cases edit with
  | style name =>
    rw [Edit.apply, withClass_eq, h]
    exact (eraseDups_concat given name).symm
  | property | id | children | value | push =>
    exact h.trans (congrArg List.eraseDups (List.append_nil given).symm)

/-- An edit that replaces the content leaves nothing of what the node held. -/
theorem content_apply_of_replacement {edit : Edit} {content : Content Node} (h : edit.replacement? = some content)
    (node : Node) : (edit.apply node).content = content := by
  cases edit with
  | children | value => exact Option.some.inj h
  | property | id | style | push => cases h

/-- Any other edit keeps what the node holds, and puts the node that it pushes behind it. -/
theorem content_apply_of_keeps {edit : Edit} (h : edit.replacement? = none) (node : Node) :
    (edit.apply node).content = node.content.followedBy edit.pushed?.toList := by
  cases edit with
  | children | value => cases h
  | property | id => exact (Content.followedBy_nil _).symm
  | style name =>
    rw [Edit.apply, withClass_eq]
    exact (Content.followedBy_nil _).symm
  | push child =>
    obtain ⟨_, _, _, _ | _⟩ := node <;> rfl

/-- The children after an edit are children from before or were brought in by it. -/
theorem mem_children_apply {edit : Edit} {node child : Node} (h : child ∈ (edit.apply node).children) :
    child ∈ node.children ∨ child ∈ edit.parts := by
  cases edit with
  | children => exact Or.inr h
  | value => exact absurd h List.not_mem_nil
  | property | id => exact Or.inl h
  | style name =>
    rw [Edit.apply, withClass_eq] at h
    exact Or.inl h
  | push pushed => exact List.mem_append.1 h

/-! ## What a run of edits does -/

/-- After a run the classes are the first occurrences of those that the node had been given before and those that
the edits give. -/
theorem classes_run {node : Node} {given : List String} (h : node.classes = given.eraseDups) (edits : List Edit) :
    (run edits node).classes = (given ++ givenClasses edits).eraseDups := by
  induction edits using List.reverseRecOn with
  | nil => rw [run, List.foldl_nil, h, givenClasses, List.filterMap_nil, List.append_nil]
  | append_singleton edits edit ih =>
    rw [run_concat, classes_apply ih, givenClasses, givenClasses, List.filterMap_append, List.append_assoc]
    cases edit <;> rfl

/-- An edit that replaces the content decides what it is. -/
theorem lastContent_concat (start : Content Node) (edits : List Edit) (edit : Edit) :
    lastContent start (edits ++ [edit]) = edit.replacement?.getD (lastContent start edits) := by
  unfold lastContent
  rw [List.filterMap_append]
  cases h : edit.replacement? with
  | none => simp [h]
  | some content => simp [h]

/-- An edit that replaces the content forgets the children pushed before it. -/
theorem pushedSince_concat (edits : List Edit) (edit : Edit) :
    pushedSince (edits ++ [edit]) = if edit.replacement?.isNone then pushedSince edits ++ edit.pushed?.toList
      else [] := by
  unfold pushedSince
  rw [List.rtakeWhile_concat]
  split
  · rw [List.filterMap_append]
    cases edit <;> rfl
  · rfl

/-- After a run the node holds what was put in place last, followed by what was pushed since. -/
theorem content_run (edits : List Edit) (node : Node) :
    (run edits node).content = (lastContent node.content edits).followedBy (pushedSince edits) := by
  -- The induction takes off the last edit: only that one tells whether what was pushed before it still counts.
  induction edits using List.reverseRecOn with
  | nil => exact (Content.followedBy_nil _).symm
  | append_singleton edits edit ih =>
    rw [run_concat, lastContent_concat, pushedSince_concat]
    cases h : edit.replacement? with
    | none =>
      rw [content_apply_of_keeps h, ih, ← Content.followedBy_append]
      rfl
    | some content =>
      rw [content_apply_of_replacement h]
      exact (Content.followedBy_nil _).symm

/-- The children after a run are children from before or were brought in by one of the edits. -/
theorem mem_children_run {edits : List Edit} {node child : Node} (h : child ∈ (run edits node).children) :
    child ∈ node.children ∨ ∃ edit ∈ edits, child ∈ edit.parts := by
  induction edits using List.reverseRecOn with
  | nil => exact Or.inl h
  | append_singleton edits edit ih =>
    rw [run_concat] at h
    rcases mem_children_apply h with h | h
    · rcases ih h with h | ⟨earlier, hearlier, h⟩
      · exact Or.inl h
      · exact Or.inr ⟨earlier, List.mem_append_left _ hearlier, h⟩
    · exact Or.inr ⟨edit, List.mem_append_right _ (List.mem_singleton_self edit), h⟩

/-! ## What a node starts from -/

/-- The fields of a node as they are first given: a class may come more than once. -/
structure Draft where
  name : String
  properties : Dictionary String
  classes : List String
  content : Content Node

namespace Draft

/-- The fields that a JSON value gives, with at most `levels` levels of arrays and objects looked into. The children
are nodes that are read from the items of an array one by one. -/
def ofJson? : Nat → Json → Option Draft
  | 0, _ => none
  | levels + 1, json => do
    let fields ← Json.record? fieldNames json
    let name ← Json.field? fields "name" Json.string?
    let properties ← Json.fieldOr fields "properties" ∅ (Json.dictionary? levels)
    let classes ← Json.fieldOr fields "classes" [] (Json.strings? levels)
    let children ← Json.fieldOr fields "children" [] (Json.list? Node.ofJson? levels)
    let value ← Json.fieldOr fields "value" none (Json.nullable? Json.string?)
    pure
      { name
        properties
        classes
        content :=
          match value with
          | some text => .value text
          | none => .children children }

/-- The node with these fields. -/
def node (draft : Draft) : Node :=
  ⟨draft.name, draft.properties, distinctClasses draft.classes, draft.content⟩

/-- The fields given one by one. -/
def edits (draft : Draft) : List Edit :=
  draft.properties.entries.map (fun e => .property e.1 e.2) ++
    (draft.classes.map .style ++
      [match draft.content with
        | .children nodes => .children nodes
        | .value text => .value text])

end Draft

/-- A JSON value is read as the node with the fields that it gives. -/
theorem ofJson?_eq_map_draft (levels : Nat) (json : Json) :
    ofJson? levels json = (Draft.ofJson? levels json).map Draft.node := by
  cases levels with
  | zero => rfl
  | succ levels =>
    rw [ofJson?_succ, Draft.ofJson?]
    simp only [Option.bind_eq_bind, Option.map_bind, Option.pure_def, Function.comp_def, Option.map_some]
    rfl

/-- Properties given in turn are those of the node, the later ones over the earlier. -/
theorem run_map_property (entries : List (String × String)) (node : Node) :
    run (entries.map (fun e => .property e.1 e.2)) node =
      { node with properties := entries.foldl (fun d e => d.insert e.1 e.2) node.properties } := by
  induction entries generalizing node with
  | nil => exact (eta node).symm
  | cons e rest ih => exact ih _

/-- Classes given in turn are added where they are new. -/
theorem run_map_style (classes : List String) (node : Node) :
    run (classes.map .style) node =
      { node with
        classes := classes.foldl (fun seen style => if seen.contains style then seen else seen ++ [style])
          node.classes } := by
  induction classes generalizing node with
  | nil => exact (eta node).symm
  | cons style rest ih =>
    rw [List.foldl_cons, List.map_cons, run, List.foldl_cons, Edit.apply, withClass_eq]
    exact ih _

/-- A node that is read from a JSON value is the one that the fields of the value make when they are given one by
one. -/
theorem Draft.node_eq_run (draft : Draft) : draft.node = run draft.edits { name := draft.name } := by
  obtain ⟨name, properties, classes, content⟩ := draft
  rw [edits, run_append, run_append, run_map_property, run_map_style]
  -- The properties are put into an empty dictionary, the classes behind an empty list.
  have hproperties : properties.entries.foldl (fun d e => d.insert e.1 e.2) ∅ = properties :=
    Dictionary.ofList_entries properties
  rw [hproperties]
  cases content <;> rfl

/-- What a node is before it is edited. -/
inductive Origin where
  /-- A node with nothing but a name. -/
  | blank (name : String)
  /-- A node that is read from a JSON value, as the whole of a text is or a part of it, with at most so many levels
  of arrays and objects looked into. -/
  | decoded (levels : Nat) (json : Json)

/-- The node at the start; a JSON value may be none. -/
def Origin.node? : Origin → Option Node
  | .blank name => some { name }
  | .decoded levels json => ofJson? levels json

/-- The fields that are given at the start. -/
def Origin.draft? : Origin → Option Draft
  | .blank name => some ⟨name, ∅, [], .children []⟩
  | .decoded levels json => Draft.ofJson? levels json

/-- What a node starts from is the draft as a node. -/
theorem Origin.node?_eq (origin : Origin) : origin.node? = origin.draft?.map Draft.node := by
  cases origin with
  | blank name => rfl
  | decoded levels json => exact ofJson?_eq_map_draft levels json

/-! ## Histories -/

/-- How a node came about: what it was at the start and the changes made to it since. -/
structure History where
  origin : Origin
  edits : List Edit

/-- The node at the end of a history. -/
def History.node? (history : History) : Option Node :=
  history.origin.node?.map (run history.edits)

/-- The nodes that were brought in by the changes. -/
def History.parts (history : History) : List Node :=
  history.edits.flatMap Edit.parts

/-- A node that comes about by a history, in which all nodes that are brought in come about in the same way. -/
inductive Reachable : Node → Prop where
  | of {node : Node} (history : History) (hnode : history.node? = some node)
    (hparts : ∀ part ∈ history.parts, Reachable part) :
    Reachable node

/-- A node that is read from a JSON value comes about without a change. -/
theorem reachable_of_ofJson? {levels : Nat} {json : Json} {node : Node} (h : ofJson? levels json = some node) :
    Reachable node := by
  refine .of ⟨.decoded levels json, []⟩ ?_ (fun part hpart => absurd hpart List.not_mem_nil)
  rw [History.node?, Origin.node?, h]
  rfl

/-- A child comes about by a history like its node: it was read with the node or brought in by a change. -/
theorem Reachable.of_mem_children {node child : Node} (h : Reachable node) (hchild : child ∈ node.children) :
    Reachable child := by
  obtain ⟨history, hnode, hparts⟩ := h
  obtain ⟨start, hstart, rfl⟩ := Option.map_eq_some_iff.1 hnode
  rcases mem_children_run hchild with hchild | ⟨edit, hedit, hchild⟩
  · cases horigin : history.origin with
    | blank name =>
      rw [horigin] at hstart
      cases hstart
      exact absurd hchild List.not_mem_nil
    | decoded levels json =>
      rw [horigin] at hstart
      obtain ⟨inner, item, -, hitem⟩ := exists_ofJson?_of_mem_children hstart hchild
      exact reachable_of_ofJson? hitem
  · exact hparts child (List.mem_flatMap.2 ⟨edit, hedit, hchild⟩)

/-- All nodes of a tree come about by histories if its root does. The induction is on the path to the node. -/
theorem Reachable.of_mem_visit {root : Node} (h : Reachable root) {x : Located} (hx : x ∈ root.visit) :
    Reachable x.node := by
  rw [mem_visit] at hx
  generalize x.path = path at hx
  induction path generalizing root with
  | nil =>
    rw [atPath_nil, Option.some.injEq] at hx
    exact hx ▸ h
  | cons i path ih =>
    rw [atPath_cons] at hx
    obtain ⟨child, hchild, hx⟩ := Option.bind_eq_some_iff.1 hx
    exact ih (h.of_mem_children (List.mem_of_getElem? hchild)) hx

/-- What a node is that was first given these fields and then edited. -/
structure Canonical (draft : Draft) (edits : List Edit) (node : Node) : Prop where
  /-- Its classes are those that were given, in the fields and by the edits, each at its first occurrence. -/
  classes : node.classes = (draft.classes ++ givenClasses edits).eraseDups
  /-- They stand in the order in which they were first given. -/
  ordered : node.classes.Pairwise (fun a b =>
    (draft.classes ++ givenClasses edits).idxOf a < (draft.classes ++ givenClasses edits).idxOf b)
  /-- It holds the content that was put in place last, followed by the nodes that were pushed since. -/
  content : node.content = (lastContent draft.content edits).followedBy (pushedSince edits)
  /-- It is the node that a blank one becomes when the fields are given one by one before the edits. -/
  oneByOne : node = run (draft.edits ++ edits) { name := draft.name }

/-- What a node is at the end is told by its history. -/
theorem History.canonical {history : History} {node : Node} (h : history.node? = some node) :
    ∃ draft, history.origin.draft? = some draft ∧ Canonical draft history.edits node := by
  obtain ⟨start, hstart, rfl⟩ := Option.map_eq_some_iff.1 h
  rw [Origin.node?_eq] at hstart
  obtain ⟨draft, hdraft, rfl⟩ := Option.map_eq_some_iff.1 hstart
  have hclasses : (run history.edits draft.node).classes = (draft.classes ++ givenClasses history.edits).eraseDups :=
    classes_run (distinctClasses_eq_eraseDups draft.classes) history.edits
  refine ⟨draft, hdraft, hclasses, ?_, content_run history.edits draft.node, ?_⟩
  · rw [hclasses]
    exact pairwise_idxOf_eraseDups _
  · rw [run_append, ← draft.node_eq_run]

/-- Every node of a tree that was put together from blank nodes and JSON values has no class twice and a history of
its own; and of whatever history it is the end, its classes are those that it was given, in the order of their first
occurrence, and it holds the content that was put in place last, followed by the children that were pushed since. -/
theorem reachable_canonical {root : Node} (h : Reachable root) :
    ∀ x ∈ root.visit, Reachable x.node ∧ x.node.classes.Nodup ∧ ∀ history : History, history.node? = some x.node →
      ∃ draft, history.origin.draft? = some draft ∧ Canonical draft history.edits x.node := by
  intro x hx
  have hnode : Reachable x.node := h.of_mem_visit hx
  refine ⟨hnode, ?_, fun history => History.canonical⟩
  -- Some history ends in the node; that it has no class twice does not hang on which.
  obtain ⟨history, hend, -⟩ := hnode
  obtain ⟨draft, -, hcanonical⟩ := History.canonical hend
  rw [hcanonical.classes]
  exact nodup_eraseDups _

/-- A caption that was a literal text before a node was pushed. -/
def captionHistory : History :=
  ⟨.blank "caption", [.style "small", .value "A cat", .push (Node.text "A dog"), .style "small"]⟩

/-- A figure that is read with a class twice and gets one of its classes once more. -/
def pictureHistory : History where
  origin :=
    .decoded 127 (.ofMembers
      [("name", .ofString "figure"),
        ("classes", .ofStrings ["wide", "teaser", "wide"]),
        ("children", .array [.ofMembers [("name", .ofString "image"), ("classes", .ofStrings ["raw", "raw"])]])])
  edits :=
    [.style "framed", .style "teaser",
      .push { name := "caption", classes := ["small"], content := .children [Node.text "A dog"] },
      .id "cat"]

/-- The figure with its caption. -/
def picture : Node where
  name := "figure"
  properties := Dictionary.ofList [("id", "cat")]
  classes := ["wide", "teaser", "framed"]
  content := .children
    [{ name := "image", classes := ["raw"] },
      { name := "caption", classes := ["small"], content := .children [Node.text "A dog"] }]

/-- A picture built by every kind of edit. -/
theorem picture_canonical :
    Reachable picture ∧ (∀ x ∈ picture.visit, Reachable x.node ∧ x.node.classes.Nodup) ∧
      pictureHistory.node? = some picture ∧
        ∃ draft, pictureHistory.origin.draft? = some draft ∧ Canonical draft pictureHistory.edits picture := by
  have htext : Reachable (Node.text "A dog") :=
    .of ⟨.blank "text", [.value "A dog"]⟩ rfl (by simp [History.parts, Edit.parts])
  have hcaption : Reachable { name := "caption", classes := ["small"], content := .children [Node.text "A dog"] } :=
    .of captionHistory rfl (by simpa [History.parts, Edit.parts, captionHistory] using htext)
  have hend : pictureHistory.node? = some picture := rfl
  have hpicture : Reachable picture :=
    .of pictureHistory hend (by simpa [History.parts, Edit.parts, pictureHistory] using hcaption)
  have hall := reachable_canonical hpicture
  exact ⟨hpicture, fun x hx => ⟨(hall x hx).1, (hall x hx).2.1⟩, hend,
    (hall ⟨[], picture⟩ (root_mem_visit picture)).2.2 pictureHistory hend⟩

end Node

end Manuscript
