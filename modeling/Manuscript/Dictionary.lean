/-!
# Dictionaries

Finite maps from strings, kept as the list of their entries in increasing order of keys. Strings are ordered by
their code points, which is also the order of their UTF-8 bytes. A dictionary has one list of entries, so two
dictionaries with the same entries are equal. Main statements: what an entry list answers after an insertion
(`find?_insertEntry`).
-/

namespace Manuscript

/-- A finite map from strings: its entries in strictly increasing order of keys. -/
structure Dictionary (α : Type) where
  entries : List (String × α)
  sorted : entries.Pairwise (fun a b => a.1 < b.1)

namespace Dictionary

variable {α β : Type}

/-- The value a list of entries gives to a key. -/
def find? (key : String) : List (String × α) → Option α
  | [] => none
  | (k, v) :: rest => if k = key then some v else find? key rest

/-- An ordered list of entries with one entry more, which takes the place of an entry with the same key. -/
def insertEntry (key : String) (value : α) : List (String × α) → List (String × α)
  | [] => [(key, value)]
  | (k, v) :: rest =>
    if key < k then (key, value) :: (k, v) :: rest
    else if key = k then (key, value) :: rest
    else (k, v) :: insertEntry key value rest

/-- Strings are totally ordered. -/
theorem lt_of_not_lt_of_ne {a b : String} (h : ¬a < b) (hne : a ≠ b) : b < a := by
  rcases Decidable.em (b < a) with hlt | hlt
  · exact hlt
  · exact absurd (String.le_antisymm (String.not_lt.1 hlt) (String.not_lt.1 h)) hne

/-- An insertion brings in no entry but its own. -/
theorem mem_insertEntry {key : String} {value : α} {e : String × α} {l : List (String × α)}
    (h : e ∈ insertEntry key value l) : e = (key, value) ∨ e ∈ l := by
  induction l with
  | nil => simpa [insertEntry] using h
  | cons head rest ih =>
    obtain ⟨k, v⟩ := head
    simp only [insertEntry] at h
    split at h
    · rcases List.mem_cons.1 h with rfl | h
      · exact Or.inl rfl
      · exact Or.inr h
    · split at h
      · rcases List.mem_cons.1 h with rfl | h
        · exact Or.inl rfl
        · exact Or.inr (List.mem_cons_of_mem _ h)
      · rcases List.mem_cons.1 h with rfl | h
        · exact Or.inr (List.mem_cons_self ..)
        · exact (ih h).imp_right (List.mem_cons_of_mem _)

/-- An insertion keeps the order. -/
theorem sorted_insertEntry (key : String) (value : α) {l : List (String × α)} (h : l.Pairwise (fun a b => a.1 < b.1)) :
    (insertEntry key value l).Pairwise (fun a b => a.1 < b.1) := by
  induction l with
  | nil => simp [insertEntry]
  | cons head rest ih =>
    obtain ⟨k, v⟩ := head
    have hrest := (List.pairwise_cons.1 h).1
    simp only [insertEntry]
    split
    · rename_i hlt
      refine List.pairwise_cons.2 ⟨fun e he => ?_, h⟩
      rcases List.mem_cons.1 he with rfl | he
      · exact hlt
      · exact String.lt_trans hlt (hrest _ he)
    · rename_i hlt
      split
      · rename_i heq
        subst heq
        exact List.pairwise_cons.2 ⟨fun e he => hrest e he, h.of_cons⟩
      · rename_i hne
        refine List.pairwise_cons.2 ⟨fun e he => ?_, ih h.of_cons⟩
        rcases mem_insertEntry he with rfl | he
        · exact lt_of_not_lt_of_ne hlt hne
        · exact hrest _ he

/-- After an insertion the key has the new value and every other key the value it had. -/
theorem find?_insertEntry (key : String) (value : α) (l : List (String × α)) (k : String) :
    find? k (insertEntry key value l) = if key = k then some value else find? k l := by
  induction l with
  | nil => simp [insertEntry, find?]
  | cons head rest ih =>
    obtain ⟨k', v⟩ := head
    simp only [insertEntry]
    split
    · simp [find?]
    · split
      · rename_i heq
        subst heq
        simp only [find?]
        split <;> rfl
      · simp only [find?, ih]
        by_cases heq : k' = k
        · subst heq
          rename_i hne
          simp [hne]
        · simp [heq]

/-- The dictionary without entries. -/
def empty : Dictionary α := ⟨[], List.Pairwise.nil⟩

instance : EmptyCollection (Dictionary α) := ⟨empty⟩

instance : Inhabited (Dictionary α) := ⟨empty⟩

/-- The value of a key. -/
def get? (d : Dictionary α) (key : String) : Option α :=
  find? key d.entries

/-- Whether the dictionary has an entry with this key. -/
def contains (d : Dictionary α) (key : String) : Bool :=
  (d.get? key).isSome

/-- The dictionary with the key set to a value. -/
def insert (d : Dictionary α) (key : String) (value : α) : Dictionary α :=
  ⟨insertEntry key value d.entries, sorted_insertEntry key value d.sorted⟩

/-- The dictionary with the key set to a value, unless it has one already. -/
def insertNew (d : Dictionary α) (key : String) (value : α) : Dictionary α :=
  if d.contains key then d else d.insert key value

/-- The entries of a list put in one after another, so that of two entries with one key the later counts. -/
def ofList (l : List (String × α)) : Dictionary α :=
  l.foldl (fun d e => d.insert e.1 e.2) ∅

/-- The keys in increasing order. -/
def keys (d : Dictionary α) : List String :=
  d.entries.map (·.1)

/-- The number of entries. -/
def size (d : Dictionary α) : Nat :=
  d.entries.length

/-- Whether there is no entry. -/
def isEmpty (d : Dictionary α) : Bool :=
  d.entries.isEmpty

theorem get?_empty (key : String) : (∅ : Dictionary α).get? key = none := rfl

theorem get?_insert (d : Dictionary α) (key : String) (value : α) (k : String) :
    (d.insert key value).get? k = if key = k then some value else d.get? k :=
  find?_insertEntry key value d.entries k

/-- Dictionaries with the same entries are equal. -/
theorem ext {d e : Dictionary α} (h : d.entries = e.entries) : d = e := by
  cases d
  cases e
  cases h
  rfl

end Dictionary

end Manuscript
