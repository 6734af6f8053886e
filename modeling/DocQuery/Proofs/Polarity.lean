import Mathlib.Algebra.Group.Nat.Even
import DocQuery.Proofs.Compilations
/-!
# Replacing an operator

A place of a query is where an operator stands in it, at any depth: through
groups and field maps, under negations and in what elements have to match
(`Query.Place`). Putting an operator there gives a query (`Query.Place.put`).

What an operator accepts is passed on by everything around it, from the place
outwards: members and entries are joined, values are looked for, elements are
looked for, and each of these accepts more if the operator does. A negation
turns this around. So a query follows the operator at a place under an even
number of negations, and runs against it under an odd one
(`Query.Place.follows`). An operator that is not known accepts nothing, which
under an even number is the least that can be said (`accepted_by_polarity`).
-/


namespace DocQuery

variable {ι : Type} {limit : Nat}

/-! ## Places -/

mutual

/-- A place for an operator in a query: in a member of one of the groups, or in
the condition of an entry. -/
inductive Query.Place (ι : Type) where
  | all (label : ι) (before : List (Query ι)) (inner : Query.Place ι) (after any : List (Query ι))
      (custom : Option (Document → Bool))
  | any (label : ι) (all before : List (Query ι)) (inner : Query.Place ι) (after : List (Query ι))
      (custom : Option (Document → Bool))
  | entry (label : ι) (before : List (String × Condition ι)) (path : String)
      (inner : Condition.Place ι) (after : List (String × Condition ι))

/-- A place for an operator in a condition: in one of its operators. -/
inductive Condition.Place (ι : Type) where
  | operator (before : List (Operator ι)) (inner : Operator.Place ι) (after : List (Operator ι))

/-- A place for an operator in an operator: all of it, or in what it negates or
what elements have to match. -/
inductive Operator.Place (ι : Type) where
  | here
  | not (inner : Condition.Place ι)
  | elemMatch (inner : Query.Place ι)

end

mutual

/-- The query with an operator at the place. -/
def Query.Place.put (op : Operator ι) : Query.Place ι → Query ι
  | .all label before inner after any custom =>
    .logical label (before ++ inner.put op :: after) any custom
  | .any label all before inner after custom =>
    .logical label all (before ++ inner.put op :: after) custom
  | .entry label before path inner after =>
    .fields label (before ++ (path, inner.put op) :: after)
  termination_by structural place => place

/-- The condition with an operator at the place. -/
def Condition.Place.put (op : Operator ι) : Condition.Place ι → Condition ι
  | .operator before inner after => .operators (before ++ inner.put op :: after)
  termination_by structural place => place

/-- The operator with another one at the place. -/
def Operator.Place.put (op : Operator ι) : Operator.Place ι → Operator ι
  | .here => op
  | .not inner => .not (inner.put op)
  | .elemMatch inner => .elemMatch (inner.put op)
  termination_by structural place => place

end

mutual

/-- The number of negations that a place is under. -/
def Query.Place.negations : Query.Place ι → Nat
  | .all _ _ inner _ _ _ => inner.negations
  | .any _ _ _ inner _ _ => inner.negations
  | .entry _ _ _ inner _ => inner.negations
  termination_by structural place => place

/-- The number of negations that a place in a condition is under. -/
def Condition.Place.negations : Condition.Place ι → Nat
  | .operator _ inner _ => inner.negations
  termination_by structural place => place

/-- The number of negations that a place in an operator is under. -/
def Operator.Place.negations : Operator.Place ι → Nat
  | .here => 0
  | .not inner => inner.negations + 1
  | .elemMatch inner => inner.negations
  termination_by structural place => place

end

/-! ## Around a place -/

section Around

variable {label : ι} {root : Root}

/-- One member of the group all of which must hold, taken out. -/
theorem holds_member_of_all {before after any : List (Query ι)} {q : Query ι}
    {custom : Option (Document → Bool)} :
    (Query.logical label (before ++ q :: after) any custom).Holds limit root ↔
      (Query.logical label (before ++ after) any custom).Holds limit root ∧ q.Holds limit root := by
  simp only [Query.Holds, allHold_iff, List.forall_mem_append, List.forall_mem_cons]
  constructor
  · rintro ⟨⟨hbefore, hq, hafter⟩, hrest⟩
    exact ⟨⟨⟨hbefore, hafter⟩, hrest⟩, hq⟩
  · rintro ⟨⟨⟨hbefore, hafter⟩, hrest⟩, hq⟩
    exact ⟨⟨hbefore, hq, hafter⟩, hrest⟩

/-- One member of the group any of which must hold, taken out. -/
theorem holds_member_of_any {all before after : List (Query ι)} {q : Query ι}
    {custom : Option (Document → Bool)} :
    (Query.logical label all (before ++ q :: after) custom).Holds limit root ↔
      (Query.logical label all [] custom).Holds limit root ∧
        (Query.AnyHolds limit root (before ++ after) ∨ q.Holds limit root) := by
  have hany : Query.AnyHolds limit root (before ++ q :: after) ↔
      Query.AnyHolds limit root (before ++ after) ∨ q.Holds limit root := by
    simp only [anyHolds_iff, List.mem_append, List.mem_cons, or_and_right, exists_or,
      exists_eq_left]
    rw [or_assoc, or_comm (b := q.Holds limit root)]
  simp only [Query.Holds, hany, List.append_eq_nil_iff, reduceCtorEq, and_false, false_or, true_or,
    true_and]
  constructor
  · rintro ⟨hall, hmember, hcustom⟩
    exact ⟨⟨hall, hcustom⟩, hmember⟩
  · rintro ⟨⟨hall, hcustom⟩, hmember⟩
    exact ⟨hall, hmember, hcustom⟩

/-- One entry taken out of a field map. -/
theorem holds_entry {before after : List (String × Condition ι)} {path : String}
    {c : Condition ι} : (Query.fields label (before ++ (path, c) :: after)).Holds limit root ↔
      (Query.fields label (before ++ after)).Holds limit root ∧
        ∃ p, Path.parse path = .ok p ∧ ∃ v, Reaches (some root) p.segments v ∧ c.Holds limit v := by
  simp only [Query.Holds, entriesHold_iff, List.forall_mem_append, List.forall_mem_cons]
  rw [and_assoc, and_comm (b := ∀ e ∈ after, _)]

/-- One operator taken out of a condition. -/
theorem holds_operator {before after : List (Operator ι)} {op : Operator ι} {v : Option Value} :
    (Condition.operators (before ++ op :: after)).Holds limit v ↔
      (Condition.operators (before ++ after)).Holds limit v ∧ op.Holds limit v := by
  simp only [Condition.Holds, opsHold_iff, List.forall_mem_append, List.forall_mem_cons]
  rw [and_assoc, and_comm (b := ∀ op ∈ after, _)]

end Around

/-! ## Polarity -/

/-- Under a number of negations, one proposition follows from another one if
the number is even, and the other way around if it is odd. -/
structure Follows (n : Nat) (P Q : Prop) : Prop where
  even : Even n → P → Q
  odd : Odd n → Q → P

namespace Follows

variable {n : Nat} {P Q : Prop}

/-- Under no negation there is one direction only. -/
theorem zero (h : P → Q) : Follows 0 P Q where
  even _ := h
  odd hodd := absurd hodd (by decide)

/-- A negation exchanges the directions. -/
protected theorem not (h : Follows n P Q) : Follows (n + 1) (¬ P) (¬ Q) where
  even heven hP hQ := hP (h.odd (Nat.even_add_one.1 heven |> Nat.not_even_iff_odd.1) hQ)
  odd hodd hQ hP := hQ (h.even (Nat.odd_add_one.1 hodd |> Nat.not_odd_iff_even.1) hP)

/-- What is asked for besides makes no difference, -/
protected theorem and (R : Prop) (h : Follows n P Q) : Follows n (R ∧ P) (R ∧ Q) where
  even heven := And.imp_right (h.even heven)
  odd hodd := And.imp_right (h.odd hodd)

/-- nor does what would do instead, -/
protected theorem or (R : Prop) (h : Follows n P Q) : Follows n (R ∨ P) (R ∨ Q) where
  even heven := Or.imp_right (h.even heven)
  odd hodd := Or.imp_right (h.odd hodd)

/-- nor does it matter where something is looked for. -/
theorem found {α : Sort*} {P Q : α → Prop} (h : ∀ a, Follows n (P a) (Q a)) :
    Follows n (∃ a, P a) (∃ a, Q a) where
  even heven := Exists.imp fun a => (h a).even heven
  odd hodd := Exists.imp fun a => (h a).odd hodd

end Follows

variable {op op' : Operator ι}

mutual

/-- **A query follows the operator at a place**, or runs against it, by the
number of negations that the place is under. -/
theorem Query.Place.follows (h : ∀ v, op.Holds limit v → op'.Holds limit v) (root : Root) :
    (place : Query.Place ι) →
      Follows place.negations ((place.put op).Holds limit root) ((place.put op').Holds limit root)
  | .all _ _ inner _ _ _ => by
    simp only [Query.Place.put, holds_member_of_all]
    exact (inner.follows h root).and _
  | .any _ _ _ inner _ _ => by
    simp only [Query.Place.put, holds_member_of_any]
    exact ((inner.follows h root).or _).and _
  | .entry _ _ _ inner _ => by
    simp only [Query.Place.put, holds_entry]
    exact (Follows.found fun _ => (Follows.found fun v => (inner.follows h v).and _).and _).and _
  termination_by structural place => place

/-- A condition does so on any value. -/
theorem Condition.Place.follows (h : ∀ v, op.Holds limit v → op'.Holds limit v)
    (v : Option Value) : (place : Condition.Place ι) →
      Follows place.negations ((place.put op).Holds limit v) ((place.put op').Holds limit v)
  | .operator _ inner _ => by
    simp only [Condition.Place.put, holds_operator]
    exact (inner.follows h v).and _
  termination_by structural place => place

/-- An operator does so, where a negation counts. -/
theorem Operator.Place.follows (h : ∀ v, op.Holds limit v → op'.Holds limit v)
    (v : Option Value) : (place : Operator.Place ι) →
      Follows place.negations ((place.put op).Holds limit v) ((place.put op').Holds limit v)
  | .here => .zero (h v)
  | .not inner => (inner.follows h v).not
  | .elemMatch inner => .found fun _ => (Follows.found fun _ =>
      (inner.follows h _).and _).and _
  termination_by structural place => place

end

/-! ## Readings at a place -/

mutual

/-- What the operator at a place has to have read, the query has. -/
theorem Query.Place.readings_subset : (place : Query.Place ι) →
    op.readings ⊆ (place.put op).readings
  | .all _ _ inner _ _ _ => fun _ hr => List.mem_append_left _
      (Query.mem_readingsOf.2 ⟨_, List.mem_append_cons_self, inner.readings_subset hr⟩)
  | .any _ _ _ inner _ _ => fun _ hr => List.mem_append_right _
      (Query.mem_readingsOf.2 ⟨_, List.mem_append_cons_self, inner.readings_subset hr⟩)
  | .entry _ _ _ inner _ => fun _ hr =>
      Condition.mem_readingsOf.2 ⟨_, List.mem_append_cons_self, .inr (inner.readings_subset hr)⟩
  termination_by structural place => place

/-- And so has a condition, -/
theorem Condition.Place.readings_subset : (place : Condition.Place ι) →
    op.readings ⊆ (place.put op).readings
  | .operator _ inner _ => fun _ hr =>
      Operator.mem_readingsOf.2 ⟨_, List.mem_append_cons_self, inner.readings_subset hr⟩
  termination_by structural place => place

/-- and another operator. -/
theorem Operator.Place.readings_subset : (place : Operator.Place ι) →
    op.readings ⊆ (place.put op).readings
  | .here => fun _ hr => hr
  | .not inner => inner.readings_subset
  | .elemMatch inner => inner.readings_subset
  termination_by structural place => place

end

/-! ## Compiled queries -/

variable {config : Config}

/-- **More at a place is more or less of the query.** Two queries that compile
and differ in one operator are given, and the second operator accepts whatever
the first does, absent values included. Under an even number of negations the
second query accepts the roots that the first one does, under an odd number the
first those of the second. An operator that is not known accepts nothing, so
that under an even number any operator in its place accepts at least as
much. -/
theorem accepted_by_polarity (place : Query.Place Unit) (op op' : Operator Unit)
    (before after : Compilation config) (hbefore : before.query.shape = place.put op)
    (hafter : after.query.shape = place.put op') (m m' : Matcher) (hm : before.result = .ok m)
    (hm' : after.result = .ok m') :
    ((∀ v, op.Accepts config.regexSizeLimit v → op'.Accepts config.regexSizeLimit v) →
      (Even place.negations → ∀ root, m.accepts root = true → m'.accepts root = true) ∧
      (Odd place.negations → ∀ root, m'.accepts root = true → m.accepts root = true)) ∧
    ∀ tag, op = .unknown tag → Even place.negations →
      ∀ root, m.accepts root = true → m'.accepts root = true := by
  have hread := before.compiles_iff.1 ⟨m, hm⟩
  have hread' := after.compiles_iff.1 ⟨m', hm'⟩
  rw [hbefore] at hread
  rw [hafter] at hread'
  have hiff (root : Root) := hbefore ▸ Compilation.accepts_iff_of_result hm root
  have hiff' (root : Root) := hafter ▸ Compilation.accepts_iff_of_result hm' root
  have hfollows (h : ∀ v, op.Holds config.regexSizeLimit v → op'.Holds config.regexSizeLimit v)
      (root : Root) : Follows place.negations (m.accepts root = true) (m'.accepts root = true) := by
    rw [hiff, hiff']
    exact place.follows h root
  refine ⟨fun h => ?_, ?_⟩
  · have hholds (v : Option Value) (hv : op.Holds config.regexSizeLimit v) :
        op'.Holds config.regexSizeLimit v :=
      (Operator.accepts_iff fun r hr => hread' r (place.readings_subset hr)).1
        (h v ((Operator.accepts_iff fun r hr => hread r (place.readings_subset hr)).2 hv))
    exact ⟨fun heven root => (hfollows hholds root).even heven,
      fun hodd root => (hfollows hholds root).odd hodd⟩
  · rintro tag rfl heven root
    exact (hfollows (fun _ => False.elim) root).even heven

/-- Alternatives one of which negates what elements have to match, with the
place of a bound in it. -/
def boundOfElements : Query.Place Unit :=
  .any () [] [.fields () [("x", .literal .null)]] (.entry () [] "teams" (.operator [.present true]
    (.not (.operator [] (.elemMatch (.entry () [] "age" (.operator [] .here []) [])) [])) []) [])
    [] none

/-- The bound is under one negation, so that fewer roots are accepted if it
admits equal numbers. -/
theorem fewer_with_equal_bound :
    Odd boundOfElements.negations ∧
    ∃ before after : Compilation {},
      before.query.shape = boundOfElements.put (.gt (.int32 30)) ∧
      after.query.shape = boundOfElements.put (.gte (.int32 30)) ∧
      ∃ m m', before.result = .ok m ∧ after.result = .ok m' ∧
        (∀ v, (Operator.gt (.int32 30) : Operator Unit).Accepts 1048576 v →
          (Operator.gte (.int32 30) : Operator Unit).Accepts 1048576 v) ∧
        ∀ root, m'.accepts root = true → m.accepts root = true := by
  obtain ⟨before, hbefore⟩ :=
    Compilation.exists_of_shape {} (boundOfElements.put (.gt (.int32 30)))
  obtain ⟨after, hafter⟩ :=
    Compilation.exists_of_shape {} (boundOfElements.put (.gte (.int32 30)))
  obtain ⟨m, hm⟩ : before.Compiles := by
    rw [before.compiles_iff, hbefore]
    exact firstProblem?_eq_none.1 rfl
  obtain ⟨m', hm'⟩ : after.Compiles := by
    rw [after.compiles_iff, hafter]
    exact firstProblem?_eq_none.1 rfl
  have hmore (v : Option Value) (h : (Operator.gt (.int32 30) : Operator Unit).Accepts 1048576 v) :
      (Operator.gte (.int32 30) : Operator Unit).Accepts 1048576 v := by
    rw [Operator.accepts_iff (firstProblem?_eq_none.1 rfl)] at h ⊢
    obtain ⟨x, hx, hgt⟩ := h
    exact ⟨x, hx, .inl hgt⟩
  have hodd : Odd boundOfElements.negations := by decide
  have hfewer := ((accepted_by_polarity boundOfElements _ _ before after hbefore hafter m m' hm
    hm').1 hmore).2 hodd
  exact ⟨hodd, before, after, hbefore, hafter, m, m', hm, hm', hmore, hfewer⟩

end DocQuery
