import Mathlib.Data.List.Basic
import DocQuery.Matcher
import DocQuery.Query
/-!
# The parts of queries and matchers

`Query.parts` lists a query and every query within it, in the order in which
`Query.labels` lists their labels. It is what is meant by the queries that a
query keeps alive, and by the occurrences of sub-queries in it.
`Matcher.parts` lists the matchers in a matcher in the same order, so that
the parts of a query and those of its matcher stand side by side.
-/


namespace DocQuery

variable {ι : Type}

mutual

/-- The query itself, and the parts of its sub-queries. -/
def Query.parts : Query ι → List (Query ι)
  | .logical label all any custom =>
    .logical label all any custom :: (Query.partsOf all ++ Query.partsOf any)
  | .fields label entries => .fields label entries :: Condition.partsOf entries
  termination_by structural query => query

/-- The parts of several queries. -/
def Query.partsOf : List (Query ι) → List (Query ι)
  | [] => []
  | query :: rest => query.parts ++ Query.partsOf rest
  termination_by structural queries => queries

/-- The parts that the conditions of entries have. -/
def Condition.partsOf : List (String × Condition ι) → List (Query ι)
  | [] => []
  | (_, condition) :: rest => condition.parts ++ Condition.partsOf rest
  termination_by structural entries => entries

/-- The parts that a condition has. -/
def Condition.parts : Condition ι → List (Query ι)
  | .literal _ => []
  | .operators ops => Operator.partsOf ops
  termination_by structural condition => condition

/-- The parts that operators have. -/
def Operator.partsOf : List (Operator ι) → List (Query ι)
  | [] => []
  | op :: rest => op.parts ++ Operator.partsOf rest
  termination_by structural ops => ops

/-- The parts that an operator has. -/
def Operator.parts : Operator ι → List (Query ι)
  | .not condition => condition.parts
  | .elemMatch query => query.parts
  | _ => []
  termination_by structural op => op

end

mutual

/-- The labels of a query are those of its parts. -/
theorem Query.map_label_parts : (q : Query ι) → q.parts.map Query.label = q.labels
  | .logical label all any _ => by
    rw [Query.parts, Query.labels, List.map_cons, List.map_append, Query.map_label_partsOf all,
      Query.map_label_partsOf any]
    rfl
  | .fields label entries => by
    rw [Query.parts, Query.labels, List.map_cons, Condition.map_label_partsOf entries]
    rfl
  termination_by structural q => q

/-- The labels of several queries are those of their parts. -/
theorem Query.map_label_partsOf : (qs : List (Query ι)) →
    (Query.partsOf qs).map Query.label = Query.labelsOf qs
  | [] => rfl
  | q :: rest => by
    rw [Query.partsOf, Query.labelsOf, List.map_append, q.map_label_parts,
      Query.map_label_partsOf rest]
  termination_by structural qs => qs

/-- The labels in entries are those of the parts there. -/
theorem Condition.map_label_partsOf : (entries : List (String × Condition ι)) →
    (Condition.partsOf entries).map Query.label = Condition.labelsOf entries
  | [] => rfl
  | (_, condition) :: rest => by
    rw [Condition.partsOf, Condition.labelsOf, List.map_append, condition.map_label_parts,
      Condition.map_label_partsOf rest]
  termination_by structural entries => entries

/-- The labels in a condition are those of the parts there. -/
theorem Condition.map_label_parts : (condition : Condition ι) →
    condition.parts.map Query.label = condition.labels
  | .literal _ => rfl
  | .operators ops => by
    rw [Condition.parts, Condition.labels, Operator.map_label_partsOf ops]
  termination_by structural condition => condition

/-- The labels in operators are those of the parts there. -/
theorem Operator.map_label_partsOf : (ops : List (Operator ι)) →
    (Operator.partsOf ops).map Query.label = Operator.labelsOf ops
  | [] => rfl
  | op :: rest => by
    rw [Operator.partsOf, Operator.labelsOf, List.map_append, op.map_label_parts,
      Operator.map_label_partsOf rest]
  termination_by structural ops => ops

/-- The labels in an operator are those of the parts there. -/
theorem Operator.map_label_parts : (op : Operator ι) → op.parts.map Query.label = op.labels
  | .not condition => by rw [Operator.parts, Operator.labels, condition.map_label_parts]
  | .elemMatch query => by rw [Operator.parts, Operator.labels, query.map_label_parts]
  | .eq _ | .ne _ | .gt _ | .gte _ | .lt _ | .lte _ | .among _ | .notAmong _ | .present _
  | .regex _ _ | .allOf _ | .someOf _ | .size _ | .unknown _ => rfl
  termination_by structural op => op

end

/-- A query is the first of its parts. -/
theorem Query.parts_eq_cons (q : Query ι) : q.parts = q :: q.parts.tail := by
  cases q <;> rfl

/-- A query is a part of itself. -/
theorem self_mem_parts (q : Query ι) : q ∈ q.parts := by
  rw [q.parts_eq_cons]
  exact List.mem_cons_self

/-- The parts of several queries are those of each. -/
theorem mem_partsOf {qs : List (Query ι)} {r : Query ι} :
    r ∈ Query.partsOf qs ↔ ∃ q ∈ qs, r ∈ q.parts := by
  induction qs with
  | nil => simp [Query.partsOf]
  | cons q rest ih => rw [Query.partsOf, List.mem_append, ih, List.exists_mem_cons_iff]

section Trans

variable {q r : Query ι}

mutual

/-- **A part of a part is a part** of a query, -/
theorem Query.parts_trans (hr : r ∈ q.parts) : (t : Query ι) → q ∈ t.parts → r ∈ t.parts
  | .logical label all any _, hq => by
    rw [Query.parts, List.mem_cons, List.mem_append] at hq
    rcases hq with rfl | hq | hq
    · exact hr
    · exact List.mem_cons_of_mem _ (List.mem_append_left _ (Query.partsOf_trans hr all hq))
    · exact List.mem_cons_of_mem _ (List.mem_append_right _ (Query.partsOf_trans hr any hq))
  | .fields label entries, hq => by
    rw [Query.parts, List.mem_cons] at hq
    rcases hq with rfl | hq
    · exact hr
    · exact List.mem_cons_of_mem _ (Condition.partsOf_trans hr entries hq)
  termination_by structural t => t

/-- of several queries, -/
theorem Query.partsOf_trans (hr : r ∈ q.parts) :
    (ts : List (Query ι)) → q ∈ Query.partsOf ts → r ∈ Query.partsOf ts
  | t :: rest, hq => by
    rcases List.mem_append.1 hq with hq | hq
    · exact List.mem_append_left _ (t.parts_trans hr hq)
    · exact List.mem_append_right _ (Query.partsOf_trans hr rest hq)
  termination_by structural ts => ts

/-- of entries, -/
theorem Condition.partsOf_trans (hr : r ∈ q.parts) :
    (entries : List (String × Condition ι)) → q ∈ Condition.partsOf entries →
    r ∈ Condition.partsOf entries
  | (_, condition) :: rest, hq => by
    rcases List.mem_append.1 hq with hq | hq
    · exact List.mem_append_left _ (condition.parts_trans hr hq)
    · exact List.mem_append_right _ (Condition.partsOf_trans hr rest hq)
  termination_by structural entries => entries

/-- of a condition, -/
theorem Condition.parts_trans (hr : r ∈ q.parts) :
    (condition : Condition ι) → q ∈ condition.parts → r ∈ condition.parts
  | .operators ops, hq => Operator.partsOf_trans hr ops hq
  termination_by structural condition => condition

/-- of operators, -/
theorem Operator.partsOf_trans (hr : r ∈ q.parts) :
    (ops : List (Operator ι)) → q ∈ Operator.partsOf ops → r ∈ Operator.partsOf ops
  | op :: rest, hq => by
    rcases List.mem_append.1 hq with hq | hq
    · exact List.mem_append_left _ (op.parts_trans hr hq)
    · exact List.mem_append_right _ (Operator.partsOf_trans hr rest hq)
  termination_by structural ops => ops

/-- and of an operator. -/
theorem Operator.parts_trans (hr : r ∈ q.parts) :
    (op : Operator ι) → q ∈ op.parts → r ∈ op.parts
  | .not condition, hq => condition.parts_trans hr hq
  | .elemMatch query, hq => query.parts_trans hr hq
  termination_by structural op => op

end

end Trans

/-! ## Matchers -/

mutual

/-- The matcher itself, and the parts of the matchers in it. -/
def Matcher.parts : Matcher → List Matcher
  | .logical serial all any custom =>
    .logical serial all any custom :: (Matcher.partsOf all ++ Matcher.partsOf any)
  | .fields serial tests => .fields serial tests :: Test.partsOf tests
  termination_by structural matcher => matcher

/-- The parts of several matchers. -/
def Matcher.partsOf : List Matcher → List Matcher
  | [] => []
  | matcher :: rest => matcher.parts ++ Matcher.partsOf rest
  termination_by structural matchers => matchers

/-- The parts that field tests have. -/
def Test.partsOf : List (Path × Test) → List Matcher
  | [] => []
  | (_, test) :: rest => test.parts ++ Test.partsOf rest
  termination_by structural tests => tests

/-- The parts that a test has. -/
def Test.parts : Test → List Matcher
  | .literal _ => []
  | .checks checks => Check.partsOf checks
  termination_by structural test => test

/-- The parts that checks have. -/
def Check.partsOf : List Check → List Matcher
  | [] => []
  | check :: rest => check.parts ++ Check.partsOf rest
  termination_by structural checks => checks

/-- The parts that a check has. -/
def Check.parts : Check → List Matcher
  | .not test => test.parts
  | .elemMatch matcher => matcher.parts
  | _ => []
  termination_by structural check => check

end

/-- A matcher is the first of its parts. -/
theorem Matcher.parts_eq_cons (m : Matcher) : m.parts = m :: m.parts.tail := by
  cases m <;> rfl

end DocQuery
