import Mathlib.Data.List.Perm.Subperm
import Mathlib.Logic.Relation
import Manuscript.Formatter
import Manuscript.Proofs.Listing
import Manuscript.Proofs.Places

/-!
# The depth of rendering

Rendering goes down the tree, and at a directive it goes on below the figure that the directive asks for. Where no
figure comes to stand in itself that way, it ends: each placed figure is entered at most once on the way down, and
between two of them the way goes down the tree (`length_le_fuel`). So the depth that a formatter reckons with is
enough for each place of the tree (`within_fuel`).
-/

namespace Manuscript.Formatter

variable {f : Formatter}

/-- What is set where a place stands: the figure that a directive asks for, nothing for a figure that is set
elsewhere, and else the place itself. -/
def body? (f : Formatter) (x : Located) : Option Located :=
  match x.node.directive?.bind f.places.get? with
  | some figure => some figure
  | none => if f.places.isClaimed x then none else some x

/-- The places right below what is set at a place. -/
def shown (f : Formatter) (x : Located) : List Located :=
  match f.body? x with
  | some body => body.children
  | none => []

/-- Rendering a place goes less than `n` places deep. -/
def Within (f : Formatter) : Nat → Located → Prop
  | 0, _ => False
  | n + 1, x => ∀ z ∈ f.shown x, f.Within n z

/-- A directive below one figure asks for another. -/
def Holds (f : Formatter) (a b : Located) : Prop :=
  ∃ d ∈ f.root.visit, a.path <+: d.path ∧ d.node.directive?.bind f.places.get? = some b

/-- A place stands below what is set at another one: below the figure that a directive asks for, or below the place
itself. -/
def LeadsTo (f : Formatter) (x z : Located) : Prop :=
  ∃ b, (x.node.directive?.bind f.places.get? = some b ∨ b = x) ∧ ∃ c ∈ b.children, z ∈ c.subtree

/-- No figure comes to stand in itself through directives. -/
def Acyclic (f : Formatter) : Prop :=
  ∀ figure, ¬Relation.TransGen f.Holds figure figure

/-- The places of a formatter are those of its tree. -/
def OfTree (f : Formatter) : Prop :=
  f.places = Places.ofTree f.root

/-! ## What is set at a place -/

/-- A directive sets the figure it asks for. -/
theorem body?_of_directive {x g : Located} (h : x.node.directive?.bind f.places.get? = some g) :
    f.body? x = some g := by
  rw [body?, h]

/-- A claimed figure sets nothing in its own place. -/
theorem body?_of_isClaimed {x : Located} (h : x.node.directive?.bind f.places.get? = none)
    (hc : f.places.isClaimed x = true) : f.body? x = none := by
  rw [body?, h]
  exact if_pos hc

/-- Any other place sets its own node. -/
theorem body?_of_not_isClaimed {x : Located} (h : x.node.directive?.bind f.places.get? = none)
    (hc : f.places.isClaimed x = false) : f.body? x = some x := by
  rw [body?, h]
  exact if_neg (by rw [hc]; exact Bool.false_ne_true)

/-- The body of a place is what its directive asks for, or the place itself. -/
theorem body?_eq_some_iff {x b : Located} :
    f.body? x = some b ↔ x.node.directive?.bind f.places.get? = some b ∨
      (x.node.directive?.bind f.places.get? = none ∧ f.places.isClaimed x = false ∧ x = b) := by
  cases hd : x.node.directive?.bind f.places.get? with
  | some g =>
    rw [body?_of_directive hd]
    simp
  | none =>
    cases hc : f.places.isClaimed x with
    | true =>
      rw [body?_of_isClaimed hd hc]
      simp
    | false =>
      rw [body?_of_not_isClaimed hd hc]
      simp

/-- A placed figure is a place of the tree. -/
theorem mem_visit_of_placed (hf : f.OfTree) {x g : Located} (h : x.node.directive?.bind f.places.get? = some g) :
    g ∈ f.root.visit := by
  obtain ⟨id, -, hget⟩ := Option.bind_eq_some_iff.1 h
  rw [hf] at hget
  exact (Places.of_get?_eq_some hget).1

/-- What a place sets is a place of the tree. -/
theorem mem_visit_of_body? (hf : f.OfTree) {x b : Located} (hx : x ∈ f.root.visit) (h : f.body? x = some b) :
    b ∈ f.root.visit := by
  rcases body?_eq_some_iff.1 h with h | ⟨-, -, rfl⟩
  · exact mem_visit_of_placed hf h
  · exact hx

/-- What is shown stands below the body. -/
theorem mem_shown_iff {x z : Located} : z ∈ f.shown x ↔ ∃ b, f.body? x = some b ∧ z ∈ b.children := by
  rw [shown]
  cases f.body? x <;> simp

/-- What a place shows is a place of the tree. -/
theorem mem_visit_of_mem_shown (hf : f.OfTree) {x z : Located} (hx : x ∈ f.root.visit) (hz : z ∈ f.shown x) :
    z ∈ f.root.visit := by
  obtain ⟨b, hb, hz⟩ := mem_shown_iff.1 hz
  exact Node.child_mem_visit (mem_visit_of_body? hf hx hb) hz

/-- A depth that is enough stays so when it grows. -/
theorem Within.mono {n m : Nat} (hnm : n ≤ m) {x : Located} (h : f.Within n x) : f.Within m x := by
  induction n generalizing m x with
  | zero => exact absurd h id
  | succ n ih =>
    obtain ⟨k, rfl⟩ : ∃ k, m = k + 1 := ⟨m - 1, by omega⟩
    intro z hz
    exact ih (by omega) (h z hz)

/-- Where directives in a placed figure ask only for figures of a lower rank, no figure comes to stand in itself. -/
theorem acyclic_of_rank (rank : Located → Nat)
    (h : ∀ d ∈ f.root.visit, ∀ b ∈ d.node.directive?.bind f.places.get?, ∀ e ∈ f.root.visit,
      ∀ c ∈ e.node.directive?.bind f.places.get?, b.path <+: e.path → rank c < rank b) : f.Acyclic := by
  have hstep : ∀ {a b}, Relation.TransGen f.Holds a b →
      (∃ d ∈ f.root.visit, d.node.directive?.bind f.places.get? = some a) → rank b < rank a := by
    intro a b hab hplaced
    induction hab with
    | single hc =>
      obtain ⟨d, hd, ha⟩ := hplaced
      obtain ⟨e, he, hpre, hc⟩ := hc
      exact h d hd _ ha e he _ hc hpre
    | @tail b c hab hc ih =>
      obtain ⟨_, -, d, hd, -, hb⟩ := Relation.TransGen.tail'_iff.1 hab
      obtain ⟨e, he, hpre, hc⟩ := hc
      exact Nat.lt_trans (h d hd b hb e he c hc hpre) ih
  intro figure hcycle
  obtain ⟨_, -, d, hd, -, hplaced⟩ := Relation.TransGen.tail'_iff.1 hcycle
  exact Nat.lt_irrefl _ (hstep hcycle ⟨d, hd, hplaced⟩)

/-! ## The bound -/

/-- The figures that are bound to ids are among the entries of the places. -/
theorem length_le_boundCount {seen : List Located} (hnodup : seen.Nodup)
    (hseen : ∀ b ∈ seen, ∃ id, f.places.get? id = some b) : seen.length ≤ f.places.boundCount := by
  have hsubset : seen ⊆ f.places.bound.entries.filterMap (·.2) := by
    intro b hb
    obtain ⟨id, hid⟩ := hseen b hb
    rw [Places.get?, Option.join_eq_some_iff] at hid
    exact List.mem_filterMap.2 ⟨(id, some b), Dictionary.mem_of_find? hid, rfl⟩
  have hlength := (hnodup.subperm hsubset).length_le
  rw [List.length_filterMap_eq_countP] at hlength
  exact hlength

/-- The way down to a place leads through a figure: the place stands in it, or in a figure that its directives ask
for. -/
def Under (f : Formatter) (b x : Located) : Prop :=
  ∃ a, Relation.ReflTransGen f.Holds b a ∧ a.path <+: x.path

/-- Below the figures that the way down has led through, no directive asks for one of them again. -/
theorem Under.not_placed (hacyclic : f.Acyclic) {b x : Located} (hx : x ∈ f.root.visit) (h : f.Under b x) :
    x.node.directive?.bind f.places.get? ≠ some b := by
  obtain ⟨a, hba, hpre⟩ := h
  intro hplaced
  exact hacyclic b (Relation.TransGen.tail' hba ⟨x, hx, hpre, hplaced⟩)

/-- Each way down from a place is no longer than what is left: one way down the tree for each figure that the way so
far has not led through, and what is below the place. The induction is on the way, with the figures that it has led
through. -/
theorem length_le_of_seen (hf : f.OfTree) (hacyclic : f.Acyclic) (chain : List Located) :
    ∀ (seen : List Located) (x : Located), seen.Nodup → (∀ b ∈ seen, ∃ id, f.places.get? id = some b) →
      x ∈ f.root.visit → (∀ b ∈ seen, f.Under b x) → (x :: chain).IsChain f.LeadsTo →
      chain.length ≤ (f.places.boundCount - seen.length) * (f.root.height + 1) + x.node.height := by
  induction chain with
  | nil =>
    intro seen x _ _ _ _ _
    exact Nat.zero_le _
  | cons z rest ih =>
    intro seen x hnodup hseen hx hunder hchain
    rw [List.isChain_cons_cons] at hchain
    obtain ⟨⟨b, hb, c, hc, hz⟩, hrest⟩ := hchain
    have hpre : b.path <+: z.path := by
      obtain ⟨i, hpath, -⟩ := Located.mem_children.1 hc
      exact (hpath ▸ List.prefix_append b.path [i]).trans (Located.prefix_of_mem_subtree hz)
    have hheight : z.node.height + 1 ≤ b.node.height :=
      Nat.le_trans (Nat.succ_le_succ (Located.height_le_of_mem_subtree hz)) (Node.height_lt_of_mem_children hc)
    rw [List.length_cons]
    rcases hb with hplaced | rfl
    · -- A directive: the way goes on below a figure that it has not led through.
      have hbmem := mem_visit_of_placed hf hplaced
      have hzmem := Located.mem_visit_of_mem_subtree (Node.child_mem_visit hbmem hc) hz
      have hroot := Node.height_le_of_mem_visit hbmem
      have hnew : b ∉ seen := fun hmem => (hunder b hmem).not_placed hacyclic hx hplaced
      have hnodup' : (b :: seen).Nodup := List.nodup_cons.2 ⟨hnew, hnodup⟩
      have hseen' : ∀ g ∈ b :: seen, ∃ id, f.places.get? id = some g := by
        intro g hg
        rcases List.mem_cons.1 hg with rfl | hg
        · obtain ⟨id, -, hget⟩ := Option.bind_eq_some_iff.1 hplaced
          exact ⟨id, hget⟩
        · exact hseen g hg
      have hunder' : ∀ g ∈ b :: seen, f.Under g z := by
        intro g hg
        refine ⟨b, ?_, hpre⟩
        rcases List.mem_cons.1 hg with rfl | hg
        · exact Relation.ReflTransGen.refl
        · obtain ⟨a, hga, ha⟩ := hunder g hg
          exact hga.tail ⟨x, hx, ha, hplaced⟩
      have hcount := length_le_boundCount hnodup' hseen'
      have hle := ih (b :: seen) z hnodup' hseen' hzmem hunder' hrest
      rw [List.length_cons] at hcount hle
      obtain ⟨k, hk⟩ : ∃ k, f.places.boundCount = seen.length + 1 + k := ⟨_, (Nat.add_sub_cancel' hcount).symm⟩
      have hleft : seen.length + 1 + k - seen.length = k + 1 := by omega
      rw [hk, Nat.add_sub_cancel_left] at hle
      rw [hk, hleft, Nat.add_mul, Nat.one_mul]
      omega
    · have hzmem := Located.mem_visit_of_mem_subtree (Node.child_mem_visit hx hc) hz
      have hunder' : ∀ g ∈ seen, f.Under g z := by
        intro g hg
        obtain ⟨a, hga, ha⟩ := hunder g hg
        exact ⟨a, hga, ha.trans hpre⟩
      have hle := ih seen z hnodup hseen hzmem hunder' hrest
      omega

/-- No way down from a place of the tree has more places than the depth that the formatter reckons with. -/
theorem length_le_fuel (hf : f.OfTree) (hacyclic : f.Acyclic) {x : Located} (hx : x ∈ f.root.visit)
    {chain : List Located} (hchain : (x :: chain).IsChain f.LeadsTo) : (x :: chain).length ≤ f.fuel := by
  have hle := length_le_of_seen hf hacyclic chain [] x List.nodup_nil nofun hx nofun hchain
  have hheight := Node.height_le_of_mem_visit hx
  rw [List.length_nil, Nat.sub_zero] at hle
  rw [fuel, List.length_cons, Nat.add_mul, Nat.one_mul]
  omega

/-- A place leads to what it shows. -/
theorem leadsTo_of_mem_shown {x z : Located} (h : z ∈ f.shown x) : f.LeadsTo x z := by
  obtain ⟨b, hb, hz⟩ := mem_shown_iff.1 h
  refine ⟨b, ?_, z, hz, z.mem_subtree⟩
  rcases body?_eq_some_iff.1 hb with hplaced | ⟨-, -, rfl⟩
  · exact Or.inl hplaced
  · exact Or.inr rfl

/-- A depth that each way down stays below is enough. -/
theorem within_of_chains {n : Nat} {x : Located}
    (h : ∀ chain, (x :: chain).IsChain (fun a b => b ∈ f.shown a) → chain.length < n) : f.Within n x := by
  induction n generalizing x with
  | zero => exact absurd (h [] (List.IsChain.singleton x)) (Nat.not_lt_zero _)
  | succ n ih =>
    intro z hz
    exact ih (fun chain hchain => Nat.lt_of_succ_lt_succ (h (z :: chain) (List.isChain_cons_cons.2 ⟨hz, hchain⟩)))

/-- The depth that the formatter reckons with is enough for each place of the tree. -/
theorem within_fuel (hf : f.OfTree) (hacyclic : f.Acyclic) {x : Located} (hx : x ∈ f.root.visit) : f.Within f.fuel x :=
  within_of_chains (fun _ hchain => length_le_fuel hf hacyclic hx (hchain.imp (fun _ _ => leadsTo_of_mem_shown)))

end Manuscript.Formatter
