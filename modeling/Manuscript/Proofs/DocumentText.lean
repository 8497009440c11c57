import Mathlib.Data.List.Induction
import Manuscript.Document.Json
import Manuscript.Options.Json
import Manuscript.Proofs.JsonRecord
import Manuscript.Proofs.JsonText
import Manuscript.Proofs.Tree

/-!
# Documents and options and their text

A document in which no node has a class twice is read back from its text exactly when the text nests no deeper than
a reader looks, and options are read back likewise; what is read is never more than can be written and read again
(`written_text_read_back`). Each kind of record is shown to be read back level by level (`readsBack_toJson`), nodes
by induction on their height, and a document that is read was read with levels enough for its own text
(`depth_and_distinctlyStyled_of_ofJson?`).
-/

namespace Manuscript

namespace Node

/-- No node of the tree has a style class twice. -/
def DistinctlyStyled (root : Node) : Prop :=
  ∀ x ∈ root.visit, x.node.classes.Nodup

/-- A place below a child is a place of the tree, one step further down. -/
theorem mem_visit_of_child {node child : Node} {i : Nat} (hchild : node.children[i]? = some child) {x : Located}
    (hx : x ∈ child.visit) : (⟨i :: x.path, x.node⟩ : Located) ∈ node.visit := by
  rw [mem_visit] at hx ⊢
  rw [atPath_cons, hchild]
  exact hx

/-- Distinct classes are a matter of each node: of the root, and of the trees below it. -/
theorem distinctlyStyled_iff {node : Node} :
    node.DistinctlyStyled ↔ node.classes.Nodup ∧ ∀ child ∈ node.children, child.DistinctlyStyled := by
  constructor
  · intro h
    refine ⟨h ⟨[], node⟩ (root_mem_visit node), ?_⟩
    intro child hchild x hx
    obtain ⟨i, hi⟩ := List.mem_iff_getElem?.1 hchild
    exact h ⟨i :: x.path, x.node⟩ (mem_visit_of_child hi hx)
  · rintro ⟨hroot, hchildren⟩ ⟨path, node'⟩ hx
    rw [mem_visit] at hx
    cases path with
    | nil =>
      rw [atPath_nil, Option.some.injEq] at hx
      exact hx ▸ hroot
    | cons i path =>
      rw [atPath_cons] at hx
      obtain ⟨child, hchild, hpath⟩ := Option.bind_eq_some_iff.1 hx
      exact hchildren child (List.mem_of_getElem? hchild) ⟨path, node'⟩ (mem_visit.2 hpath)

/-! ## Style classes -/

/-- One more class comes behind the first occurrences, unless it is one of them. -/
theorem eraseDups_concat (classes : List String) (style : String) :
    (classes ++ [style]).eraseDups = if classes.eraseDups.contains style then classes.eraseDups
      else classes.eraseDups ++ [style] := by
  rw [List.eraseDups_append]
  by_cases h : style ∈ classes
  · simp [List.removeAll, h]
  · simp [List.removeAll, h, List.eraseDups_cons]

/-- First occurrences stand in the order in which the classes first occur. -/
theorem pairwise_idxOf_eraseDups (classes : List String) :
    classes.eraseDups.Pairwise (fun a b => classes.idxOf a < classes.idxOf b) := by
  induction classes using List.reverseRecOn with
  | nil => exact List.Pairwise.nil
  | append_singleton classes style ih =>
    have hkept : classes.eraseDups.Pairwise
        (fun a b => (classes ++ [style]).idxOf a < (classes ++ [style]).idxOf b) := by
      refine ih.imp_of_mem ?_
      intro a b ha hb hlt
      rwa [List.idxOf_append_of_mem (List.mem_eraseDups.1 ha), List.idxOf_append_of_mem (List.mem_eraseDups.1 hb)]
    rw [eraseDups_concat]
    split
    · exact hkept
    · rename_i hnew
      rw [List.contains_iff_mem, List.mem_eraseDups] at hnew
      refine List.pairwise_append.2 ⟨hkept, List.pairwise_singleton _ _, ?_⟩
      intro a ha b hb
      rw [List.mem_eraseDups] at ha
      rw [List.mem_singleton.1 hb, List.idxOf_append_of_mem ha, List.idxOf_append_of_notMem hnew]
      exact Nat.lt_add_right _ (List.idxOf_lt_length_of_mem ha)

/-- No class stands twice among the first occurrences. -/
theorem nodup_eraseDups (classes : List String) : classes.eraseDups.Nodup := by
  refine (pairwise_idxOf_eraseDups classes).imp ?_
  rintro a b hlt rfl
  exact Nat.lt_irrefl _ hlt

/-- Of the classes that a node is read with the first occurrences are kept. -/
theorem distinctClasses_eq_eraseDups (classes : List String) : distinctClasses classes = classes.eraseDups := by
  induction classes using List.reverseRecOn with
  | nil => rfl
  | append_singleton classes style ih =>
    rw [distinctClasses] at ih
    rw [distinctClasses, List.foldl_append, ih, eraseDups_concat, List.foldl_cons, List.foldl_nil]

/-- Distinct classes stay as they are. -/
theorem distinctClasses_of_nodup {classes : List String} (h : classes.Nodup) : distinctClasses classes = classes := by
  rw [distinctClasses_eq_eraseDups]
  induction classes using List.reverseRecOn with
  | nil => rfl
  | append_singleton classes style ih =>
    obtain ⟨hbefore, -, hnew⟩ := List.nodup_append.1 h
    rw [eraseDups_concat, ih hbefore, if_neg]
    rw [List.contains_iff_mem]
    exact fun hmem => hnew style hmem style (List.mem_singleton_self style) rfl

/-! ## Nodes -/

/-- Children are written one by one. -/
theorem toJson_all (nodes : List Node) : toJson.all nodes = nodes.map toJson := by
  induction nodes with
  | nil => rw [toJson.all, List.map_nil]
  | cons node rest ih => rw [toJson.all, List.map_cons, ih]

/-- The children of a node are read as a list. -/
theorem ofJson?_succ (levels : Nat) (json : Json) :
    ofJson? (levels + 1) json = (do
      let fields ← Json.record? fieldNames json
      let name ← Json.field? fields "name" Json.string?
      let properties ← Json.fieldOr fields "properties" ∅ (Json.dictionary? levels)
      let classes ← Json.fieldOr fields "classes" [] (Json.strings? levels)
      let children ← Json.fieldOr fields "children" [] (Json.list? ofJson? levels)
      let value ← Json.fieldOr fields "value" none (Json.nullable? Json.string?)
      pure
        { name
          properties
          classes := distinctClasses classes
          content :=
            match value with
            | some text => .value text
            | none => .children children }) := by
  cases levels with
  | zero => rfl
  | succ levels =>
    rw [ofJson?]
    refine bind_congr fun fields => bind_congr fun name => bind_congr fun properties => bind_congr fun classes => ?_
    -- Only the children are read in another way, one value after another.
    refine congrArg (· >>= _) (congrArg (Json.fieldOr fields "children" []) ?_)
    funext json
    cases json <;> rfl

/-- A field that may be left out has its name, or there is none. -/
theorem map_fst_unlessEmpty (isEmpty : Bool) (name : String) (value : Json) :
    (unlessEmpty isEmpty name value).map (·.1) = if isEmpty then [] else [name] := by
  cases isEmpty <;> rfl

/-- What holds of a field holds where it is not left out. -/
theorem forall_mem_unlessEmpty {isEmpty : Bool} {name : String} {value : Json} {p : String × Json → Prop} :
    (∀ m ∈ unlessEmpty isEmpty name value, p m) ↔ isEmpty = true ∨ p (name, value) := by
  cases isEmpty <;> simp [unlessEmpty]

/-- A field is found in front of others unless it is left out or another is looked for. -/
theorem lookup_unlessEmpty_append (isEmpty : Bool) (name : String) (value : Json) (rest : List (String × Json))
    (key : String) :
    (unlessEmpty isEmpty name value ++ rest).lookup key =
      if key = name then if isEmpty then rest.lookup key else some value else rest.lookup key := by
  cases isEmpty with
  | true => simp [unlessEmpty]
  | false =>
    by_cases hkey : key = name
    · simp [unlessEmpty, hkey]
    · have hbeq : (key == name) = false := by simpa using hkey
      simp [unlessEmpty, hkey, List.lookup_cons, hbeq]

/-- A field is found by its name unless it is left out. -/
theorem lookup_unlessEmpty (isEmpty : Bool) (name : String) (value : Json) (key : String) :
    (unlessEmpty isEmpty name value).lookup key = if key = name then if isEmpty then none else some value
      else none := by
  simpa using lookup_unlessEmpty_append isEmpty name value [] key

/-- A field that is left out when it is empty is read back, where to be empty is the default. -/
theorem fieldOr_unlessEmpty {α : Type} {fields : List (String × Json)} {name : String} {default x : α}
    {read? : Nat → Json → Option α} {json : Json} {isEmpty : Bool}
    (hlookup : fields.lookup name = if isEmpty then none else some json) (hdefault : isEmpty = true → default = x)
    (hread : Json.ReadsBack read? json x) (levels : Nat) :
    Json.fieldOr fields name default (read? levels) = if isEmpty = true ∨
    json.depth ≤ levels then some x else none := by
  cases isEmpty with
  | true =>
    rw [Json.fieldOr, hlookup, hdefault rfl]
    simp
  | false =>
    rw [Json.fieldOr_of_lookup hlookup hread]
    simp

/-- The fields with which a node is written. A node with a literal text has no children, so at most one of the last
two is there. -/
def fields (node : Node) : List (String × Json) :=
  ("name", .ofString node.name) ::
    (unlessEmpty node.properties.isEmpty "properties" (.ofDictionary node.properties) ++
      (unlessEmpty node.classes.isEmpty "classes" (.ofStrings node.classes) ++
        (unlessEmpty node.children.isEmpty "children" (.array (node.children.map toJson)) ++
          unlessEmpty node.value.isNone "value" (.ofString (node.value.getD "")))))

/-- A node is written as the object of its fields. -/
theorem toJson_eq (node : Node) : node.toJson = .ofMembers node.fields := by
  obtain ⟨name, properties, classes, nodes | text⟩ := node
  · simp [toJson, fields, children, value, unlessEmpty, toJson_all]
  · simp [toJson, fields, children, value, unlessEmpty]

/-- The fields of a node are those that a node may have, and each comes once. -/
theorem record?_toJson (node : Node) : Json.record? fieldNames node.toJson = some node.fields := by
  rw [toJson_eq]
  refine Json.record?_ofMembers _ _ (by decide) ?_
  simp only [fields, List.map_cons, List.map_append, map_fst_unlessEmpty]
  cases node.properties.isEmpty <;> cases node.classes.isEmpty <;> cases node.children.isEmpty <;>
    cases node.value.isNone <;> decide

/-- The nesting of a node is that of the fields that are not left out. -/
theorem depth_toJson_le_succ {node : Node} {levels : Nat} :
    node.toJson.depth ≤ levels + 1 ↔
      (node.properties.isEmpty = true ∨ (Json.ofDictionary node.properties).depth ≤ levels) ∧
        (node.classes.isEmpty = true ∨ (Json.ofStrings node.classes).depth ≤ levels) ∧
          (node.children.isEmpty = true ∨ (Json.array (node.children.map toJson)).depth ≤ levels) := by
  rw [toJson_eq, Json.depth_ofMembers_le_succ]
  simp only [fields, List.forall_mem_cons, List.forall_mem_append, forall_mem_unlessEmpty, Json.depth_ofString,
    Nat.zero_le, true_and, or_true, and_true]

/-- The name is always written. -/
theorem lookup_fields_name (node : Node) : node.fields.lookup "name" = some (.ofString node.name) := by
  simp [fields]

/-- Properties are written when there are any. -/
theorem lookup_fields_properties (node : Node) :
    node.fields.lookup "properties" = if node.properties.isEmpty then none
      else some (.ofDictionary node.properties) := by
  simp [fields, List.lookup_cons, lookup_unlessEmpty_append, lookup_unlessEmpty]

/-- Classes are written when there are any. -/
theorem lookup_fields_classes (node : Node) :
    node.fields.lookup "classes" = if node.classes.isEmpty then none else some (.ofStrings node.classes) := by
  simp [fields, List.lookup_cons, lookup_unlessEmpty_append, lookup_unlessEmpty]

/-- Children are written when there are any. -/
theorem lookup_fields_children (node : Node) :
    node.fields.lookup "children" = if node.children.isEmpty then none
      else some (.array (node.children.map toJson)) := by
  simp [fields, List.lookup_cons, lookup_unlessEmpty_append, lookup_unlessEmpty]

/-- The literal text is written when there is one. -/
theorem lookup_fields_value (node : Node) :
    node.fields.lookup "value" = if node.value.isNone then none else some (.ofString (node.value.getD "")) := by
  simp [fields, List.lookup_cons, lookup_unlessEmpty_append, lookup_unlessEmpty]

/-- The literal text is read back, also where it is left out. -/
theorem readsBack_value (node : Node) :
    Json.fieldOr node.fields "value" none (Json.nullable? Json.string?) = some node.value := by
  rw [Json.fieldOr, lookup_fields_value]
  cases node.value <;> rfl

/-- What a node holds is told by its literal text and its children. -/
theorem content_eq (node : Node) :
    (match node.value with
      | some text => Content.value text
      | none => .children node.children) = node.content := by
  obtain ⟨_, _, _, _ | _⟩ := node <;> rfl

theorem eta (node : Node) : (⟨node.name, node.properties, node.classes, node.content⟩ : Node) = node := by
  cases node
  rfl

/-- A node without repeated classes is read back. The induction is on the height: the children are less high. -/
theorem readsBack_toJson (node : Node) (h : node.DistinctlyStyled) : Json.ReadsBack ofJson? node.toJson node := by
  induction hn : node.height using Nat.strongRecOn generalizing node with
  | ind n ih =>
    subst hn
    obtain ⟨hclasses, hbelow⟩ := distinctlyStyled_iff.1 h
    have hread : ∀ child ∈ node.children, Json.ReadsBack ofJson? child.toJson child :=
      fun child hchild => ih child.height (height_lt_of_mem hchild) child (hbelow child hchild) rfl
    intro levels
    cases levels with
    | zero =>
      rw [toJson_eq]
      simp [ofJson?]
    | succ levels =>
      have hproperties := fieldOr_unlessEmpty node.lookup_fields_properties
        (fun hempty => (Dictionary.eq_empty_of_isEmpty hempty).symm)
        (Json.readsBack_ofDictionary node.properties) levels
      have hclassesField := fieldOr_unlessEmpty node.lookup_fields_classes
        (fun hempty => (List.isEmpty_iff.1 hempty).symm)
        (Json.readsBack_ofStrings node.classes) levels
      have hchildren := fieldOr_unlessEmpty node.lookup_fields_children (fun hempty => (List.isEmpty_iff.1 hempty).symm)
        (Json.readsBack_list hread) levels
      have hname : Json.field? node.fields "name" Json.string? = some node.name := by
        rw [Json.field?, lookup_fields_name]
        rfl
      rw [ofJson?_succ, record?_toJson]
      simp only [Option.bind_eq_bind, Option.bind_some, depth_toJson_le_succ, hname, hproperties, hclassesField,
        hchildren, readsBack_value, Json.bind_if_some, distinctClasses_of_nodup hclasses, content_eq, eta, ite_and,
        Option.pure_def]

/-- A child of a node that is read was read with two levels less. -/
theorem exists_ofJson?_of_mem_children {levels : Nat} {json : Json} {node child : Node}
    (h : ofJson? levels json = some node) (hchild : child ∈ node.children) :
    ∃ inner item, levels = inner + 2 ∧ ofJson? inner item = some child := by
  cases levels with
  | zero => cases h
  | succ levels =>
    simp only [ofJson?_succ, Option.bind_eq_bind, Option.bind_eq_some_iff, Option.pure_def, Option.some.injEq] at h
    obtain ⟨fields, -, name, -, properties, -, classes, -, children, hchildren, value, -, rfl⟩ := h
    cases value with
    | some text => exact absurd hchild List.not_mem_nil
    | none =>
      rcases Json.fieldOr_eq_some hchildren with rfl | ⟨items, hitems⟩
      · exact absurd hchild List.not_mem_nil
      · obtain ⟨inner, item, rfl, hitem⟩ := Json.exists_of_mem_list? hitems hchild
        exact ⟨inner, item, rfl, hitem⟩

/-- A node that is read nests no deeper than the levels it was read with, and no node of it has a class twice. -/
theorem depth_and_distinctlyStyled_of_ofJson? {levels : Nat} {json : Json} {node : Node}
    (h : ofJson? levels json = some node) : node.toJson.depth ≤ levels ∧ node.DistinctlyStyled := by
  induction levels using Nat.strongRecOn generalizing json node with
  | ind levels ih =>
    have hbelow : ∀ child ∈ node.children, ∃ inner, levels = inner + 2 ∧ child.toJson.depth ≤ inner ∧
        child.DistinctlyStyled := by
      intro child hchild
      obtain ⟨inner, item, rfl, hitem⟩ := exists_ofJson?_of_mem_children h hchild
      exact ⟨inner, rfl, ih inner (by omega) hitem⟩
    cases levels with
    | zero => cases h
    | succ levels =>
      rw [ofJson?_succ] at h
      simp only [Option.bind_eq_bind, Option.bind_eq_some_iff, Option.pure_def, Option.some.injEq] at h
      obtain ⟨fields, -, name, -, properties, hproperties, classes, hclasses, children, -, value, -, rfl⟩ := h
      rw [depth_toJson_le_succ, distinctlyStyled_iff]
      refine ⟨⟨?_, ?_, ?_⟩, ?_, fun child hchild => ?_⟩
      · rcases Json.fieldOr_eq_some hproperties with rfl | ⟨found, hfound⟩
        · exact Or.inl rfl
        · right
          rw [Json.depth_ofDictionary]
          exact Json.levels_pos_of_dictionary? hfound
      · rcases Json.fieldOr_eq_some hclasses with rfl | ⟨found, hfound⟩
        · exact Or.inl rfl
        · right
          rw [Json.depth_ofStrings]
          exact Json.levels_pos_of_strings? hfound
      · generalize Node.children ⟨name, properties, distinctClasses classes, _⟩ = kept at hbelow ⊢
        cases kept with
        | nil => exact Or.inl rfl
        | cons first rest =>
          obtain ⟨inner, hlevels, -⟩ := hbelow first List.mem_cons_self
          obtain rfl := Nat.succ.inj hlevels
          refine Or.inr (Json.depth_array_le_succ.2 (List.forall_mem_map.2 fun child hchild => ?_))
          obtain ⟨other, hother, hdepth, -⟩ := hbelow child hchild
          obtain rfl : inner = other := by omega
          exact hdepth
      · rw [distinctClasses_eq_eraseDups]
        exact nodup_eraseDups classes
      · obtain ⟨_, -, -, hdistinct⟩ := hbelow child hchild
        exact hdistinct

end Node

/-! ## Metadata and citations -/

/-- An author is read back. -/
theorem Author.readsBack_toJson (author : Author) : Json.ReadsBack Author.ofJson? author.toJson author := by
  intro levels
  cases levels with
  | zero => simp [Author.toJson, Author.ofJson?]
  | succ levels =>
    obtain ⟨name, affiliation⟩ := author
    cases affiliation with
    | none =>
      have hrecord := Json.record?_ofMembers ["name", "affiliation"] [("name", .ofString name)] (by decide) (by simp)
      simp [Author.toJson, Author.ofJson?, hrecord, Json.field?, Json.fieldOr, List.lookup_cons]
    | some affiliation =>
      have hrecord := Json.record?_ofMembers ["name", "affiliation"]
        [("name", .ofString name), ("affiliation", .ofString affiliation)]
        (by decide) (by simp)
      simp [Author.toJson, Author.ofJson?, hrecord, Json.field?, Json.fieldOr, List.lookup_cons]

/-- The text of an author nests one level deep. -/
theorem Author.depth_toJson_le (author : Author) : author.toJson.depth ≤ 1 := by
  obtain ⟨name, affiliation⟩ := author
  cases affiliation <;> simp [Author.toJson]

/-- Metadata are read back. -/
theorem Metadata.readsBack_toJson (metadata : Metadata) : Json.ReadsBack Metadata.ofJson? metadata.toJson metadata := by
  intro levels
  cases levels with
  | zero => simp [Metadata.toJson, Metadata.ofJson?]
  | succ levels =>
    have hrecord := Json.record?_ofMembers Metadata.fieldNames
      [("title", .ofOption metadata.title),
        ("shortTitle", .ofOption metadata.shortTitle),
        ("authors", .array (metadata.authors.map Author.toJson)),
        ("date", .ofOption metadata.date),
        ("keywords", .ofStrings metadata.keywords)] (by decide) (by simp [Metadata.fieldNames])
    have hauthors := Json.readsBack_list (fun author (_ : author ∈ metadata.authors) => author.readsBack_toJson) levels
    have hkeywords := Json.readsBack_ofStrings metadata.keywords levels
    simp [Metadata.toJson, Metadata.ofJson?, hrecord, Json.fieldOr, List.lookup_cons, hauthors, hkeywords,
      Json.bind_if_some, ite_and]

/-- The text of metadata nests three levels deep: the authors are a list of objects in an object. -/
theorem Metadata.depth_toJson_le (metadata : Metadata) : metadata.toJson.depth ≤ 3 := by
  simp [Metadata.toJson, Author.depth_toJson_le]

/-- A reference is read back. -/
theorem Reference.readsBack_toJson (reference : Reference) :
    Json.ReadsBack Reference.ofJson? reference.toJson reference := by
  intro levels
  cases levels with
  | zero => simp [Reference.toJson, Reference.ofJson?]
  | succ levels =>
    have hrecord := Json.record?_ofMembers ["id", "kind"]
      [("id", .ofString reference.id), ("kind", .ofString reference.kind.name)] (by decide) (by simp)
    have hkind : ReferenceKind.ofJson? levels (.ofString reference.kind.name) = some reference.kind := by
      cases levels <;> cases reference.kind <;> rfl
    simp [Reference.toJson, Reference.ofJson?, hrecord, Json.field?, List.lookup_cons, hkind]

/-- The text of a reference nests one level deep. -/
theorem Reference.depth_toJson_le (reference : Reference) : reference.toJson.depth ≤ 1 := by
  simp [Reference.toJson]

/-- Citations are read back. -/
theorem Citations.readsBack_toJson (citations : Citations) :
    Json.ReadsBack Citations.ofJson? citations.toJson citations := by
  intro levels
  cases levels with
  | zero => simp [Citations.toJson, Citations.ofJson?]
  | succ levels =>
    have hrecord := Json.record?_ofMembers ["references", "bibliography"]
      [("references", .array (citations.references.map Reference.toJson)),
        ("bibliography", .ofStrings citations.bibliography)] (by decide) (by simp)
    have hreferences :=
      Json.readsBack_list (fun reference (_ : reference ∈ citations.references) => reference.readsBack_toJson) levels
    have hbibliography := Json.readsBack_ofStrings citations.bibliography levels
    simp [Citations.toJson, Citations.ofJson?, hrecord, Json.fieldOr, List.lookup_cons, hreferences, hbibliography,
      Json.bind_if_some, ite_and]

/-- The text of citations nests three levels deep. -/
theorem Citations.depth_toJson_le (citations : Citations) : citations.toJson.depth ≤ 3 := by
  simp [Citations.toJson, Reference.depth_toJson_le]

/-! ## Documents -/

namespace Document

/-- A document without repeated classes is read back. -/
theorem readsBack_toJson (document : Document) (h : document.root.DistinctlyStyled) :
    Json.ReadsBack ofJson? document.toJson document := by
  intro levels
  cases levels with
  | zero => simp [toJson, ofJson?]
  | succ levels =>
    obtain ⟨root, metadata, citations⟩ := document
    have hroot := root.readsBack_toJson h levels
    have hmetadata := metadata.readsBack_toJson levels
    cases citations with
    | none =>
      have hrecord := Json.record?_ofMembers ["root", "metadata", "citations"]
        [("root", root.toJson), ("metadata", metadata.toJson)] (by decide) (by simp)
      simp [toJson, ofJson?, hrecord, Json.field?, Json.fieldOr, List.lookup_cons, hroot, hmetadata,
        Json.bind_if_some, ite_and]
    | some citations =>
      have hrecord := Json.record?_ofMembers ["root", "metadata", "citations"]
        [("root", root.toJson), ("metadata", metadata.toJson), ("citations", citations.toJson)] (by decide) (by simp)
      have hcitations : Json.nullable? (Citations.ofJson? levels) citations.toJson =
          if citations.toJson.depth ≤ levels then some (some citations) else none := by
        have hread : Json.nullable? (Citations.ofJson? levels) citations.toJson =
            (Citations.ofJson? levels citations.toJson).map some := rfl
        rw [hread, citations.readsBack_toJson levels]
        split <;> rfl
      simp [toJson, ofJson?, hrecord, Json.field?, Json.fieldOr, List.lookup_cons, hroot, hmetadata, hcitations,
        Json.bind_if_some, ite_and]

/-- A document that is read nests no deeper than the levels it was read with. -/
theorem depth_and_distinctlyStyled_of_ofJson? {levels : Nat} {json : Json} {document : Document} (hlevels : 3 < levels)
    (h : ofJson? levels json = some document) : document.toJson.depth ≤ levels ∧ document.root.DistinctlyStyled := by
  obtain ⟨levels, rfl⟩ : ∃ inner, levels = inner + 1 := ⟨levels - 1, by omega⟩
  simp only [ofJson?, Option.bind_eq_bind, Option.bind_eq_some_iff, Option.pure_def, Option.some.injEq] at h
  obtain ⟨fields, -, root, hroot, metadata, -, citations, -, rfl⟩ := h
  obtain ⟨found, -, hfound⟩ := Option.bind_eq_some_iff.1 hroot
  obtain ⟨hdepth, hdistinct⟩ := Node.depth_and_distinctlyStyled_of_ofJson? hfound
  have hmetadata := Nat.le_trans metadata.depth_toJson_le (Nat.le_of_lt_succ hlevels)
  refine ⟨?_, hdistinct⟩
  cases citations with
  | none => simp [toJson, hdepth, hmetadata]
  | some citations =>
    have hcitations := Nat.le_trans citations.depth_toJson_le (Nat.le_of_lt_succ hlevels)
    simp [toJson, hdepth, hmetadata, hcitations]

end Document

/-! ## Options -/

/-- Tags are read back. -/
theorem Tags.readsBack_toJson (tags : Tags) : Json.ReadsBack Tags.ofJson? tags.toJson tags := by
  intro levels
  rw [Tags.ofJson?, Tags.toJson, Json.readsBack_ofStrings [tags.opening, tags.closing] levels]
  by_cases hlevels : (Json.ofStrings [tags.opening, tags.closing]).depth ≤ levels
  · rw [if_pos hlevels, if_pos hlevels]
  · rw [if_neg hlevels, if_neg hlevels]

/-- Tags are written as a list of strings, one level deep. -/
@[simp]
theorem Tags.depth_toJson (tags : Tags) : tags.toJson.depth = 1 :=
  Json.depth_ofStrings _

namespace Options

/-- Every time is read back from the number of its seconds. -/
theorem timeout?_ofNat_toNat (time : UInt64) : timeout? (.ofNat time.toNat) = some time := by
  have hsize : time.toNat < UInt64.size := time.toNat_lt_size
  simp [timeout?, Json.ofNat, hsize]

/-- A path that may be missing is read back. -/
theorem nullable?_path?_ofOption (path : Option Path) :
    Json.nullable? path? (.ofOption (path.map (·.text))) = some path := by
  cases path <;> rfl

/-- Options are read back. -/
theorem readsBack_toJson (options : Options) : Json.ReadsBack ofJson? options.toJson options := by
  intro levels
  cases levels with
  | zero => simp [toJson, ofJson?]
  | succ levels =>
    have hrecord := Json.record?_ofMembers fieldNames
      [("template", .ofString options.template),
        ("tags", options.tags.toJson),
        ("pdf", .bool options.pdf),
        ("latexDir", .ofOption (options.latexDir.map (·.text))),
        ("vspace", .ofDictionary options.vspace),
        ("prefixes", .ofDictionary options.prefixes),
        ("compilers", .ofStrings options.compilers),
        ("timeoutSecs", .ofNat options.timeoutSecs.toNat),
        ("templateDir", .ofOption (options.templateDir.map (·.text)))] (by decide) (by simp [fieldNames])
    have htags := options.tags.readsBack_toJson levels
    have hvspace := Json.readsBack_ofDictionary options.vspace levels
    have hprefixes := Json.readsBack_ofDictionary options.prefixes levels
    have hcompilers := Json.readsBack_ofStrings options.compilers levels
    by_cases hlevels : 1 ≤ levels
    · simp [toJson, ofJson?, hrecord, Json.fieldOr, List.lookup_cons, htags, hvspace, hprefixes, hcompilers, hlevels,
        timeout?_ofNat_toNat, nullable?_path?_ofOption]
    · simp [toJson, ofJson?, hrecord, Json.fieldOr, List.lookup_cons, htags, hlevels]

end Options

/-! ## Texts -/

/-- Reading undoes writing, for all documents without repeated classes and for all options, up to the nesting that
is looked into and no further; and what was read from any text is read again from its own. -/
theorem written_text_read_back :
    (∀ document : Document, document.root.DistinctlyStyled →
        Json.parse? document.print = some document.toJson ∧
          Document.parse? document.print = if document.toJson.depth ≤ 127 then some document else none) ∧
      (∀ options : Options,
        Json.parse? options.print = some options.toJson ∧
          Options.parse? options.print = if options.toJson.depth ≤ 127 then some options else none) ∧
        ∀ (text : List Char) (document : Document),
          Document.parse? text = some document → Document.parse? document.print = some document := by
  have hdocument : ∀ document : Document, document.root.DistinctlyStyled →
      Document.parse? document.print = if document.toJson.depth ≤ 127 then some document else none := by
    intro document h
    rw [Document.parse?, Document.print, Json.parse?_print, Option.bind_some]
    exact document.readsBack_toJson h Json.maxLevels
  refine ⟨fun document h => ⟨Json.parse?_print document.toJson, hdocument document h⟩, fun options => ⟨?_, ?_⟩, ?_⟩
  · exact Json.parse?_print options.toJson
  · rw [Options.parse?, Options.print, Json.parse?_print, Option.bind_some]
    exact options.readsBack_toJson Json.maxLevels
  · intro text document h
    obtain ⟨json, -, hread⟩ := Option.bind_eq_some_iff.1 h
    obtain ⟨hdepth, hdistinct⟩ := Document.depth_and_distinctlyStyled_of_ofJson? (by decide) hread
    rw [hdocument document hdistinct]
    exact if_pos hdepth

/-- A document with a property, classes, an empty text and characters that are escaped in more than one way. -/
def letter : Document where
  root :=
    { name := "article"
      content := .children
        [{ name := "p"
           properties := Dictionary.ofList [("id", "a \"b\" \\"), ("", "")]
           classes := ["wide", ""]
           content := .children [Node.text "", Node.text "tab\tline\nbell\x07 é 😀"] }] }
  citations := some { references := [{ id := "fig", kind := .figure }], bibliography :=
    ["@book\x7bk, title = \x7bT\x7d\x7d"] }

/-- Paragraphs that stand in one another. -/
def nested : Nat → Node
  | 0 => { name := "p" }
  | n + 1 => { name := "p", content := .children [nested n] }

/-- The letter is read back, paragraphs that nest too deep are not, and a class that is written twice is read once.
-/
theorem letter_read_back :
    (letter.root.DistinctlyStyled ∧ Document.parse? letter.print = some letter) ∧
      ((nested 63).DistinctlyStyled ∧ Document.parse? (Document.print { root := nested 63 }) = none) ∧
        Document.parse? "[\x7b\"name\":\"p\",\"classes\":[\"a\",\"a\"]\x7d]".toList =
            some { root := { name := "p", classes := ["a"] } } ∧
          Document.parse? (Document.print { root := { name := "p", classes := ["a"] } }) =
            some { root := { name := "p", classes := ["a"] } } := by
  have hletter : letter.root.DistinctlyStyled := by
    unfold Node.DistinctlyStyled
    decide +kernel
  have hnested : (nested 63).DistinctlyStyled := by
    unfold Node.DistinctlyStyled
    decide +kernel
  have hread : Document.parse? "[\x7b\"name\":\"p\",\"classes\":[\"a\",\"a\"]\x7d]".toList =
      some { root := { name := "p", classes := ["a"] } } := by
    have htext : "[\x7b\"name\":\"p\",\"classes\":[\"a\",\"a\"]\x7d]".toList =
        (Json.array [.ofMembers [("name", .ofString "p"), ("classes", .ofStrings ["a", "a"])]]).print := by
      decide +kernel
    rw [htext, Document.parse?, Json.parse?_print]
    rfl
  refine ⟨⟨hletter, ?_⟩, ⟨hnested, ?_⟩, hread, written_text_read_back.2.2 _ _ hread⟩
  · rw [(written_text_read_back.1 letter hletter).2, if_pos (by decide +kernel)]
  · rw [(written_text_read_back.1 { root := nested 63 } hnested).2, if_neg (by decide +kernel)]

end Manuscript
