import DocQuery.Proofs.Readings
import DocQuery.Proofs.Results
/-!
# Queries that stand for one another

Two queries are equivalent if they have the same to be read, in whatever order,
and hold at the same roots; and so for conditions and operators. Which matcher
a query has is then the same question for both, and so is whether it has one.

A group, a field map or the operators of a condition may be replaced by others
if each member has an equivalent one among those (`Matched`). Nothing is said
about where it stands, nor how often.
-/


namespace DocQuery

section Matched

variable {α β γ δ ε ε' : Type}

/-! ## Lists that match -/

/-- Every member of either list is related to one of the other. -/
structure Matched (r : α → β → Prop) (xs : List α) (ys : List β) : Prop where
  left : ∀ x ∈ xs, ∃ y ∈ ys, r x y
  right : ∀ y ∈ ys, ∃ x ∈ xs, r x y

namespace Matched

variable {r : α → β → Prop} {xs : List α} {ys ys' : List β}

/-- Lists match whose members are related one by one. -/
theorem of_forall₂ (h : List.Forall₂ r xs ys) : Matched r xs ys := by
  induction h with
  | nil => exact ⟨fun x hx => absurd hx List.not_mem_nil, fun y hy => absurd hy List.not_mem_nil⟩
  | @cons x y rest rest' hxy _ ih =>
    constructor
    · intro x' hx'
      rcases List.mem_cons.1 hx' with rfl | hx'
      · exact ⟨y, List.mem_cons_self, hxy⟩
      · obtain ⟨y', hy', hr⟩ := ih.left x' hx'
        exact ⟨y', List.mem_cons_of_mem _ hy', hr⟩
    · intro y' hy'
      rcases List.mem_cons.1 hy' with rfl | hy'
      · exact ⟨x, List.mem_cons_self, hxy⟩
      · obtain ⟨x', hx', hr⟩ := ih.right y' hy'
        exact ⟨x', List.mem_cons_of_mem _ hx', hr⟩

/-- The order of a list makes no difference. -/
theorem perm (h : Matched r xs ys) (hperm : ys.Perm ys') : Matched r xs ys' where
  left x hx := by
    obtain ⟨y, hy, hr⟩ := h.left x hx
    exact ⟨y, hperm.mem_iff.1 hy, hr⟩
  right y hy := h.right y (hperm.mem_iff.2 hy)

/-- Members may be related otherwise, if they are then. -/
theorem imp {t : α → β → Prop} (h : Matched r xs ys)
    (himp : ∀ x ∈ xs, ∀ y ∈ ys, r x y → t x y) : Matched t xs ys where
  left x hx := by
    obtain ⟨y, hy, hr⟩ := h.left x hx
    exact ⟨y, hy, himp x hx y hy hr⟩
  right y hy := by
    obtain ⟨x, hx, hr⟩ := h.right y hy
    exact ⟨x, hx, himp x hx y hy hr⟩

/-- What is the same for related members holds of all members of both lists,
or of neither. -/
theorem forall_iff (h : Matched r xs ys) {p : α → Prop} {p' : β → Prop}
    (hr : ∀ x y, r x y → (p x ↔ p' y)) : (∀ x ∈ xs, p x) ↔ ∀ y ∈ ys, p' y := by
  constructor
  · intro hall y hy
    obtain ⟨x, hx, hxy⟩ := h.right y hy
    exact (hr x y hxy).1 (hall x hx)
  · intro hall x hx
    obtain ⟨y, hy, hxy⟩ := h.left x hx
    exact (hr x y hxy).2 (hall y hy)

/-- And of some member of both, or of neither. -/
theorem exists_iff (h : Matched r xs ys) {p : α → Prop} {p' : β → Prop}
    (hr : ∀ x y, r x y → (p x ↔ p' y)) : (∃ x ∈ xs, p x) ↔ ∃ y ∈ ys, p' y := by
  constructor
  · rintro ⟨x, hx, hp⟩
    obtain ⟨y, hy, hxy⟩ := h.left x hx
    exact ⟨y, hy, (hr x y hxy).1 hp⟩
  · rintro ⟨y, hy, hp⟩
    obtain ⟨x, hx, hxy⟩ := h.right y hy
    exact ⟨x, hx, (hr x y hxy).2 hp⟩

/-- Either list is empty if the other is. -/
theorem eq_nil_iff (h : Matched r xs ys) : xs = [] ↔ ys = [] := by
  rw [List.eq_nil_iff_forall_not_mem, List.eq_nil_iff_forall_not_mem]
  exact h.forall_iff fun _ _ _ => Iff.rfl

end Matched

/-! ## Results that match -/

/-- Two computations have related results, or both fail. -/
inductive Both (r : α → β → Prop) : Except ε α → Except ε' β → Prop
  | ok {a : α} {b : β} : r a b → Both r (.ok a) (.ok b)
  | error {e : ε} {e' : ε'} : Both r (.error e) (.error e')

namespace Both

variable {r : α → β → Prop} {x : Except ε α} {y : Except ε' β}

theorem intro (hok : (∃ a, x = .ok a) ↔ ∃ b, y = .ok b)
    (hr : ∀ a b, x = .ok a → y = .ok b → r a b) : Both r x y := by
  cases x with
  | error e =>
    cases y with
    | error e' => exact .error
    | ok b => exact absurd (hok.2 ⟨b, rfl⟩) (by simp)
  | ok a =>
    cases y with
    | error e' => exact absurd (hok.1 ⟨a, rfl⟩) (by simp)
    | ok b => exact .ok (hr a b rfl rfl)

/-- Both have a result, or neither. -/
theorem exists_ok_iff (h : Both r x y) : (∃ a, x = .ok a) ↔ ∃ b, y = .ok b := by
  cases h with
  | ok _ => exact ⟨fun _ => ⟨_, rfl⟩, fun _ => ⟨_, rfl⟩⟩
  | error => simp

/-- Their results are related. -/
theorem rel (h : Both r x y) {a : α} {b : β} (hx : x = .ok a) (hy : y = .ok b) : r a b := by
  cases h with
  | ok hr =>
    cases hx
    cases hy
    exact hr
  | error => cases hx

/-- A computation against itself. -/
theorem refl {r : α → α → Prop} (h : ∀ a, r a a) (x : Except ε α) : Both r x x := by
  cases x with
  | error e => exact .error
  | ok a => exact .ok (h a)

/-- Functions that take related results to related ones. -/
theorem map {t : γ → δ → Prop} {f : α → γ} {g : β → δ} (h : Both r x y)
    (hf : ∀ a b, r a b → t (f a) (g b)) : Both t (f <$> x) (g <$> y) := by
  cases h with
  | ok hr => exact .ok (hf _ _ hr)
  | error => exact .error

/-- Going through lists that match. -/
theorem mapM {f : γ → Except ε α} {g : δ → Except ε' β} {xs : List γ} {ys : List δ}
    (h : Matched (fun x y => Both r (f x) (g y)) xs ys) :
    Both (Matched r) (xs.mapM f) (ys.mapM g) := by
  refine .intro ?_ fun as bs has hbs => ⟨fun a ha => ?_, fun b hb => ?_⟩
  · rw [exists_mapM_eq_ok, exists_mapM_eq_ok]
    exact h.forall_iff fun x y hxy => hxy.exists_ok_iff
  · obtain ⟨x, hx, hfx⟩ := (mem_of_mapM_eq_ok has).1 ha
    obtain ⟨y, hy, hxy⟩ := h.left x hx
    obtain ⟨b, hgy⟩ := hxy.exists_ok_iff.1 ⟨a, hfx⟩
    exact ⟨b, (mem_of_mapM_eq_ok hbs).2 ⟨y, hy, hgy⟩, hxy.rel hfx hgy⟩
  · obtain ⟨y, hy, hgy⟩ := (mem_of_mapM_eq_ok hbs).1 hb
    obtain ⟨x, hx, hxy⟩ := h.right y hy
    obtain ⟨a, hfx⟩ := hxy.exists_ok_iff.2 ⟨b, hgy⟩
    exact ⟨a, (mem_of_mapM_eq_ok has).2 ⟨x, hx, hfx⟩, hxy.rel hfx hgy⟩

end Both

end Matched

/-! ## Equivalent queries -/

variable {ι : Type}

/-- Two parts of queries have the same to be read, and the same meaning. -/
structure Interchangeable {α β : Type} (readings : α → List Reading) (holds : Nat → β → α → Prop)
    (a a' : α) : Prop where
  readings : ∀ r, r ∈ readings a ↔ r ∈ readings a'
  holds : ∀ limit x, holds limit x a ↔ holds limit x a'

theorem Interchangeable.refl {α β : Type} {readings : α → List Reading}
    {holds : Nat → β → α → Prop} (a : α) : Interchangeable readings holds a a :=
  ⟨fun _ => Iff.rfl, fun _ _ => Iff.rfl⟩

/-- Queries that stand for one another, -/
abbrev Query.Equivalent : Query ι → Query ι → Prop := Interchangeable Query.readings Query.Holds

/-- conditions, -/
abbrev Condition.Equivalent : Condition ι → Condition ι → Prop :=
  Interchangeable Condition.readings Condition.Holds

/-- and operators. -/
abbrev Operator.Equivalent : Operator ι → Operator ι → Prop :=
  Interchangeable Operator.readings Operator.Holds

/-- What queries have to have read is what each has. -/
theorem Query.mem_readingsOf {queries : List (Query ι)} {r : Reading} :
    r ∈ Query.readingsOf queries ↔ ∃ query ∈ queries, r ∈ query.readings := by
  induction queries with
  | nil => simp [Query.readingsOf]
  | cons query rest ih => rw [Query.readingsOf, List.mem_append, ih, List.exists_mem_cons_iff]

/-- Entries have to have read their paths, and what their conditions have. -/
theorem Condition.mem_readingsOf {entries : List (String × Condition ι)} {r : Reading} :
    r ∈ Condition.readingsOf entries ↔ ∃ e ∈ entries, r = .path e.1 ∨ r ∈ e.2.readings := by
  induction entries with
  | nil => simp [Condition.readingsOf]
  | cons e rest ih =>
    rw [Condition.readingsOf, List.mem_cons, List.mem_append, ih, List.exists_mem_cons_iff,
      or_assoc]

/-- What operators have to have read is what each has. -/
theorem Operator.mem_readingsOf {ops : List (Operator ι)} {r : Reading} :
    r ∈ Operator.readingsOf ops ↔ ∃ op ∈ ops, r ∈ op.readings := by
  induction ops with
  | nil => simp [Operator.readingsOf]
  | cons op rest ih => rw [Operator.readingsOf, List.mem_append, ih, List.exists_mem_cons_iff]

/-- **Logical nodes are equivalent** if their groups match. -/
theorem Query.Equivalent.logical {label label' : ι} {all all' any any' : List (Query ι)}
    (hall : Matched Query.Equivalent all all') (hany : Matched Query.Equivalent any any') :
    Query.Equivalent (.logical label all any none) (.logical label' all' any' none) where
  readings r := by
    simp only [Query.readings, List.mem_append, Query.mem_readingsOf]
    exact or_congr (hall.exists_iff fun _ _ h => h.readings r)
      (hany.exists_iff fun _ _ h => h.readings r)
  holds limit root := by
    have hall' := hall.forall_iff fun _ _ h => h.holds limit root
    have hany' := hany.exists_iff fun _ _ h => h.holds limit root
    simp only [Query.Holds, allHold_iff, anyHolds_iff]
    rw [hall', hany', hany.eq_nil_iff]

/-- **Field maps are equivalent** if their entries match, with the same
paths. -/
theorem Query.Equivalent.fields {label label' : ι} {entries entries' : List (String × Condition ι)}
    (h : Matched (fun e e' => e.1 = e'.1 ∧ e.2.Equivalent e'.2) entries entries') :
    Query.Equivalent (.fields label entries) (.fields label' entries') where
  readings r := by
    simp only [Query.readings, Condition.mem_readingsOf]
    refine h.exists_iff fun e e' he => ?_
    rw [he.1, he.2.readings r]
  holds limit root := by
    simp only [Query.Holds, entriesHold_iff]
    refine h.forall_iff fun e e' he => ?_
    simp only [he.1, he.2.holds limit]

/-- **Operators are equivalent** as a condition if they match. -/
theorem Condition.Equivalent.operators {ops ops' : List (Operator ι)}
    (h : Matched Operator.Equivalent ops ops') :
    Condition.Equivalent (.operators ops) (.operators ops') where
  readings r := by
    simp only [Condition.readings, Operator.mem_readingsOf]
    exact h.exists_iff fun _ _ h => h.readings r
  holds limit v := by
    simp only [Condition.Holds, opsHold_iff]
    exact h.forall_iff fun _ _ h => h.holds limit v

/-- An operator is equivalent if what it contains is, be it a condition -/
theorem Operator.Equivalent.not {condition condition' : Condition ι}
    (h : condition.Equivalent condition') :
    Operator.Equivalent (.not condition) (.not condition') where
  readings := h.readings
  holds limit v := not_congr (h.holds limit v)

/-- or a query. -/
theorem Operator.Equivalent.elemMatch {query query' : Query ι} (h : query.Equivalent query') :
    Operator.Equivalent (.elemMatch query) (.elemMatch query') where
  readings := h.readings
  holds limit v := by simp only [Operator.Holds, h.holds limit]

/-- Operators that hold sets are equivalent if the sets have the same
members. -/
theorem Operator.equivalent_sets {set set' : List Value} (h : ∀ s, s ∈ set ↔ s ∈ set') :
    Operator.Equivalent (.among set : Operator ι) (.among set') ∧
    Operator.Equivalent (.notAmong set : Operator ι) (.notAmong set') ∧
    Operator.Equivalent (.allOf set : Operator ι) (.allOf set') ∧
    Operator.Equivalent (.someOf set : Operator ι) (.someOf set') := by
  refine ⟨⟨fun _ => Iff.rfl, fun limit v => ?_⟩, ⟨fun _ => Iff.rfl, fun limit v => ?_⟩,
    ⟨fun _ => Iff.rfl, fun limit v => ?_⟩, ⟨fun _ => Iff.rfl, fun limit v => ?_⟩⟩
  · simp only [Operator.Holds, Value.Among, h]
  · simp only [Operator.Holds, Value.Among, h]
  · simp only [Operator.Holds, h]
  · simp only [Operator.Holds, h]

end DocQuery
