import Mathlib.Data.List.Nodup
import Manuscript.Json.Record

/-!
# Reading records back

What is written with the builders of JSON values is read back by their readers exactly when the levels that a reader
may look into are enough for the nesting of the value (`ReadsBack`): lists (`readsBack_list`), dictionaries
(`readsBack_ofDictionary`) and the fields of a record (`record?_ofMembers`, `fieldOr_of_lookup`). Conversely what a
reader found was found with levels to spare for writing it (`exists_of_mem_list?`).
-/

namespace Manuscript

namespace Dictionary

variable {α : Type}

/-- An entry with the greatest key goes to the end. -/
theorem insertEntry_concat {key : String} {value : α} {l : List (String × α)} (h : ∀ e ∈ l, e.1 < key) :
    insertEntry key value l = l ++ [(key, value)] := by
  induction l with
  | nil => rfl
  | cons head rest ih =>
    have hlt : head.1 < key := h head List.mem_cons_self
    have hne : key ≠ head.1 := fun heq => String.lt_irrefl key (heq ▸ hlt)
    have hnot : ¬key < head.1 := fun hgt => String.lt_irrefl key (String.lt_trans hgt hlt)
    rw [insertEntry, if_neg hnot, if_neg hne, ih (fun e he => h e (List.mem_cons_of_mem _ he)), List.cons_append]

/-- Entries in the order of their keys are put into a dictionary one behind the other. -/
theorem entries_foldl_insert {d : Dictionary α} {l : List (String × α)}
    (h : (d.entries ++ l).Pairwise (fun a b => a.1 < b.1)) :
    (l.foldl (fun d e => d.insert e.1 e.2) d).entries = d.entries ++ l := by
  induction l generalizing d with
  | nil => rw [List.foldl_nil, List.append_nil]
  | cons e rest ih =>
    have hlast : (d.insert e.1 e.2).entries = d.entries ++ [e] :=
      insertEntry_concat (fun a ha => (List.pairwise_append.1 h).2.2 a ha e List.mem_cons_self)
    rw [List.foldl_cons, ih (by rw [hlast, List.append_assoc]; exact h), hlast, List.append_assoc]
    rfl

/-- A dictionary is made of its entries. -/
theorem ofList_entries (d : Dictionary α) : ofList d.entries = d :=
  ext (entries_foldl_insert d.sorted)

/-- A dictionary without entries is the empty one. -/
theorem eq_empty_of_isEmpty {d : Dictionary α} (h : d.isEmpty = true) : d = ∅ :=
  ext (List.isEmpty_iff.1 h)

end Dictionary

namespace Json

/-! ## Nesting -/

/-- Items nest as deep as the deepest of them. -/
theorem depths_le_iff {items : List Json} {levels : Nat} :
    depth.depths items ≤ levels ↔ ∀ item ∈ items, item.depth ≤ levels := by
  induction items with
  | nil => simp [depth.depths]
  | cons item rest ih => rw [depth.depths, Nat.max_le, ih, List.forall_mem_cons]

/-- Members nest as deep as the deepest of their values. -/
theorem memberDepths_le_iff {members : List (Option String × Json)} {levels : Nat} :
    depth.memberDepths members ≤ levels ↔ ∀ m ∈ members, m.2.depth ≤ levels := by
  induction members with
  | nil => simp [depth.memberDepths]
  | cons m rest ih => rw [depth.memberDepths, Nat.max_le, ih, List.forall_mem_cons]

/-- An array takes one level, and its items the levels inside it. -/
@[simp]
theorem depth_array_le_succ {items : List Json} {levels : Nat} :
    (array items).depth ≤ levels + 1 ↔ ∀ item ∈ items, item.depth ≤ levels := by
  rw [depth, Nat.add_le_add_iff_right, depths_le_iff]

/-- An array takes a level. -/
@[simp]
theorem depth_array_ne_zero {items : List Json} : (array items).depth ≠ 0 := by
  rw [depth]
  exact Nat.succ_ne_zero _

/-- An object takes one level, and the values of its members the levels inside it. -/
@[simp]
theorem depth_ofMembers_le_succ {members : List (String × Json)} {levels : Nat} :
    (ofMembers members).depth ≤ levels + 1 ↔ ∀ m ∈ members, m.2.depth ≤ levels := by
  rw [ofMembers, depth, Nat.add_le_add_iff_right, memberDepths_le_iff, List.forall_mem_map]

/-- An object takes a level. -/
@[simp]
theorem depth_ofMembers_ne_zero {members : List (String × Json)} : (ofMembers members).depth ≠ 0 := by
  rw [ofMembers, depth]
  exact Nat.succ_ne_zero _

/-- A string takes no level. -/
@[simp]
theorem depth_ofString (text : String) : (ofString text).depth = 0 := by
  rw [ofString, depth]
  all_goals nofun

/-- A string or null takes no level. -/
@[simp]
theorem depth_ofOption (text : Option String) : (ofOption text).depth = 0 := by
  cases text with
  | none =>
    rw [ofOption, depth]
    all_goals nofun
  | some text => exact depth_ofString text

/-- A truth value takes no level. -/
@[simp]
theorem depth_bool (b : Bool) : (bool b).depth = 0 := by
  rw [depth]
  all_goals nofun

/-- A number takes no level. -/
@[simp]
theorem depth_ofNat (n : Nat) : (ofNat n).depth = 0 := by
  rw [ofNat, depth]
  all_goals nofun

/-- A list of strings takes one level. -/
@[simp]
theorem depth_ofStrings (l : List String) : (ofStrings l).depth = 1 := by
  have hle : (ofStrings l).depth ≤ 1 := depth_array_le_succ.2 (by simp)
  have hne : (ofStrings l).depth ≠ 0 := depth_array_ne_zero
  omega

/-- A dictionary of strings takes one level. -/
@[simp]
theorem depth_ofDictionary (d : Dictionary String) : (ofDictionary d).depth = 1 := by
  have hle : (ofDictionary d).depth ≤ 1 := depth_ofMembers_le_succ.2 (by rw [List.forall_mem_map]; simp)
  have hne : (ofDictionary d).depth ≠ 0 := depth_ofMembers_ne_zero
  omega

/-! ## What is written is read back -/

variable {α : Type}

/-- A value is read as `x` where the levels are enough for its nesting, and as nothing where they are not. -/
def ReadsBack (read? : Nat → Json → Option α) (json : Json) (x : α) : Prop :=
  ∀ levels, read? levels json = if json.depth ≤ levels then some x else none

/-- A string is read back. -/
@[simp]
theorem string?_ofString (text : String) : string? (ofString text) = some text := rfl

/-- A string is not null. -/
@[simp]
theorem nullable?_ofString (read? : Json → Option α) (text : String) :
    nullable? read? (ofString text) = (read? (ofString text)).map some := rfl

/-- A truth value is read back. -/
@[simp]
theorem bool?_bool (b : Bool) : bool? (bool b) = some b := rfl

/-- A string that may be missing is read back. -/
@[simp]
theorem nullable?_string?_ofOption (text : Option String) : nullable? string? (ofOption text) = some text := by
  cases text <;> rfl

/-- Values that are read back one by one are read back as a list. -/
theorem mapM_map_eq_some {read? : Json → Option α} {write : α → Json} {xs : List α}
    (h : ∀ x ∈ xs, read? (write x) = some x) : (xs.map write).mapM read? = some xs := by
  induction xs with
  | nil => rfl
  | cons x xs ih =>
    have hx := h x List.mem_cons_self
    have hxs := ih (fun y hy => h y (List.mem_cons_of_mem _ hy))
    simp [List.mapM_cons, hx, hxs]

/-- A list with a value that cannot be read cannot be read. -/
theorem mapM_map_eq_none {read? : Json → Option α} {write : α → Json} {xs : List α} {x : α} (hx : x ∈ xs)
    (h : read? (write x) = none) : (xs.map write).mapM read? = none := by
  induction xs with
  | nil => exact absurd hx List.not_mem_nil
  | cons y xs ih =>
    rcases List.mem_cons.1 hx with rfl | hx
    · simp [List.mapM_cons, h]
    · cases hy : read? (write y) <;> simp [List.mapM_cons, hy, ih hx]

/-- A list of values that are read back is read back. -/
theorem readsBack_list {read? : Nat → Json → Option α} {write : α → Json} {xs : List α}
    (h : ∀ x ∈ xs, ReadsBack read? (write x) x) : ReadsBack (list? read?) (.array (xs.map write)) xs := by
  intro levels
  cases levels with
  | zero => simp [list?]
  | succ levels =>
    rw [list?]
    by_cases hdepth : ∀ x ∈ xs, (write x).depth ≤ levels
    · rw [if_pos (by simpa using hdepth)]
      exact mapM_map_eq_some (fun x hx => by rw [h x hx levels, if_pos (hdepth x hx)])
    · rw [if_neg (by simpa using hdepth)]
      obtain ⟨x, hx⟩ := Classical.not_forall.1 hdepth
      obtain ⟨hmem, hdeep⟩ := Classical.not_imp.1 hx
      exact mapM_map_eq_none hmem (by rw [h x hmem levels, if_neg hdeep])

/-- A list of strings is read back. -/
theorem readsBack_ofStrings (l : List String) : ReadsBack strings? (ofStrings l) l :=
  readsBack_list (fun text _ levels => by simp)

/-- A dictionary of strings is read back. -/
theorem readsBack_ofDictionary (d : Dictionary String) : ReadsBack dictionary? (ofDictionary d) d := by
  intro levels
  cases levels with
  | zero => simp [dictionary?]
  | succ levels =>
    have hentries : (d.entries.map (fun e => (some e.1, ofString e.2))).mapM
        (fun (m : Option String × Json) => m.1.bind (fun key => (string? m.2).map (key, ·))) = some d.entries := by
      induction d.entries with
      | nil => rfl
      | cons e rest ih => simp [List.mapM_cons, ih]
    rw [if_pos (by simp)]
    simp only [ofDictionary, ofMembers, List.map_map, Function.comp_def, dictionary?, hentries, Option.map_some,
      Dictionary.ofList_entries]

/-! ## The fields of a record -/

/-- Members with names are counted like the names. -/
theorem countName_map (name : String) (members : List (String × Json)) :
    countName name (members.map (fun m => (some m.1, m.2))) = (members.map (·.1)).count name := by
  rw [countName, List.countP_map, List.count, List.countP_map]
  congr 1

/-- An object whose members are some of the fields of a record, in their order, is read as these. -/
theorem record?_ofMembers (names : List String) (members : List (String × Json)) (hnames : names.Nodup)
    (h : (members.map (·.1)).Sublist names) : record? names (ofMembers members) = some members := by
  have hnodup : (members.map (·.1)).Nodup := h.nodup hnames
  have hnone : (members.map (fun m => (some m.1, m.2))).any (fun m : Option String × Json => m.1.isNone) = false := by
    simp
  have hcount : names.any (fun name => 1 < countName name (members.map (fun m => (some m.1, m.2)))) = false := by
    rw [List.any_eq_false]
    intro name _
    have hle := List.nodup_iff_count_le_one.1 hnodup name
    rw [countName_map]
    simp only [decide_eq_true_eq]
    omega
  have hknown : ∀ m ∈ members, names.contains m.1 = true := by
    intro m hm
    rw [List.contains_iff_mem]
    exact h.subset (List.mem_map_of_mem hm)
  simp only [ofMembers, record?, hnone, hcount, Bool.or_self, Bool.false_eq_true, if_false]
  -- No member is skipped.
  rw [List.filterMap_map]
  refine congrArg some (Eq.trans (List.filterMap_congr (g := some) ?_) List.filterMap_some)
  intro m hm
  simp only [Function.comp_apply]
  rw [if_pos (hknown m hm)]

variable {fields : List (String × Json)} {name : String} {default x : α} {read? : Nat → Json → Option α} {json : Json}

/-- A field that was written is read back. -/
theorem fieldOr_of_lookup (h : fields.lookup name = some json) (hread : ReadsBack read? json x) (levels : Nat) :
    fieldOr fields name default (read? levels) = if json.depth ≤ levels then some x else none := by
  rw [fieldOr, h]
  exact hread levels

/-- A condition in front of a value is one in front of what is made of it. -/
theorem bind_if_some {α β : Type} {p : Prop} [Decidable p] (x : α) (f : α → Option β) :
    (if p then some x else none).bind f = if p then f x else none := by
  split <;> rfl

/-! ## What was read fits the levels -/

/-- A field that is read has its default or was read from a value. -/
theorem fieldOr_eq_some {read? : Json → Option α} (h : fieldOr fields name default read? = some x) :
    x = default ∨ ∃ json, read? json = some x := by
  rw [fieldOr] at h
  cases hlookup : fields.lookup name with
  | none =>
    rw [hlookup] at h
    exact Or.inl (Option.some.inj h).symm
  | some json =>
    rw [hlookup] at h
    exact Or.inr ⟨json, h⟩

/-- What is in a list that was read was read from one of the items. -/
theorem exists_of_mem_mapM {read? : Json → Option α} {items : List Json} {xs : List α} (h : items.mapM read? = some xs)
    {x : α} (hx : x ∈ xs) : ∃ item ∈ items, read? item = some x := by
  induction items generalizing xs with
  | nil =>
    cases h
    exact absurd hx List.not_mem_nil
  | cons item items ih =>
    simp only [List.mapM_cons, Option.bind_eq_bind, Option.bind_eq_some_iff, Option.pure_def, Option.some.injEq] at h
    obtain ⟨y, hy, ys, hys, rfl⟩ := h
    rcases List.mem_cons.1 hx with rfl | hx
    · exact ⟨item, List.mem_cons_self, hy⟩
    · obtain ⟨found, hfound, hread⟩ := ih hys hx
      exact ⟨found, List.mem_cons_of_mem _ hfound, hread⟩

/-- What a list holds was read with one level less than the list. -/
theorem exists_of_mem_list? {levels : Nat} {xs : List α} (h : list? read? levels json = some xs) {x : α} (hx : x ∈ xs) :
    ∃ inner item, levels = inner + 1 ∧ read? inner item = some x := by
  unfold list? at h
  split at h
  · obtain ⟨item, -, hitem⟩ := exists_of_mem_mapM h hx
    exact ⟨_, item, rfl, hitem⟩
  · cases h

/-- A list of strings is read with at least one level. -/
theorem levels_pos_of_strings? {levels : Nat} {l : List String} (h : strings? levels json = some l) : 0 < levels := by
  cases levels with
  | zero => cases h
  | succ levels => exact Nat.zero_lt_succ levels

/-- A dictionary of strings is read with at least one level. -/
theorem levels_pos_of_dictionary? {levels : Nat} {d : Dictionary String} (h : dictionary? levels json = some d) :
    0 < levels := by
  cases levels with
  | zero => cases h
  | succ levels => exact Nat.zero_lt_succ levels

end Json

end Manuscript
