import DocQuery.Value
/-!
# Queries

A query says which documents match. It is either a conjunction of field tests
or a logical node: groups of sub-queries of which all or any must hold, with
an optional test that the caller supplies. Conditions, operators and queries
refer to one another, since an operator may negate a condition or hold a
sub-query for array elements.

Every query carries a label, the sub-queries included. What labels are is up
to the use: a query that has only been read has trivial ones, a query that
lives in a session is labelled with its identity.
-/


namespace DocQuery

mutual

/-- Which documents match. -/
inductive Query (ι : Type) where
  /-- All of the first group, any of the second unless it is empty, and the
  caller's test if there is one. -/
  | logical (label : ι) (all any : List (Query ι)) (custom : Option (Document → Bool))
  /-- Every condition, each on the values that its path reaches. -/
  | fields (label : ι) (entries : List (String × Condition ι))

/-- What a value has to satisfy. -/
inductive Condition (ι : Type) where
  /-- To equal a value. -/
  | literal (v : Value)
  /-- To satisfy every operator. -/
  | operators (ops : List (Operator ι))

/-- One test of a value. -/
inductive Operator (ι : Type) where
  | eq (v : Value)
  | ne (v : Value)
  | gt (v : Value)
  | gte (v : Value)
  | lt (v : Value)
  | lte (v : Value)
  | among (set : List Value)
  | notAmong (set : List Value)
  | present (expected : Bool)
  | regex (pattern options : String)
  | not (condition : Condition ι)
  | allOf (set : List Value)
  | someOf (set : List Value)
  | size (n : Nat)
  | elemMatch (query : Query ι)
  /-- An operator that is not known; nothing satisfies it. -/
  | unknown (tag : String)

end

namespace Query

variable {ι κ : Type}

/-- The query that every document matches. -/
def everything (label : ι) : Query ι := .fields label []

/-- The label of a query. -/
def label : Query ι → ι
  | logical label _ _ _ => label
  | fields label _ => label

/-- Whether a query is a logical node. -/
def isLogical : Query ι → Bool
  | logical .. => true
  | fields .. => false

end Query

namespace Operator

variable {ι : Type}

/-- The key under which an operator is written. -/
def tag : Operator ι → String
  | eq _ => "$eq"
  | ne _ => "$ne"
  | gt _ => "$gt"
  | gte _ => "$gte"
  | lt _ => "$lt"
  | lte _ => "$lte"
  | among _ => "$in"
  | notAmong _ => "$nin"
  | present _ => "$exists"
  | regex _ _ => "$regex"
  | not _ => "$not"
  | allOf _ => "$all"
  | someOf _ => "$some"
  | size _ => "$size"
  | elemMatch _ => "$elemMatch"
  | unknown tag => tag

end Operator

/-! ## Labels -/

section Labels

variable {ι κ : Type}

mutual

/-- The query with its labels replaced by their images. -/
def Query.mapLabel (f : ι → κ) : Query ι → Query κ
  | .logical label all any custom =>
    .logical (f label) (Query.mapLabels f all) (Query.mapLabels f any) custom
  | .fields label entries => .fields (f label) (Condition.mapLabels f entries)
  termination_by structural query => query

/-- The queries with their labels replaced by their images. -/
def Query.mapLabels (f : ι → κ) : List (Query ι) → List (Query κ)
  | [] => []
  | query :: rest => query.mapLabel f :: Query.mapLabels f rest
  termination_by structural queries => queries

/-- The entries with their labels replaced by their images. -/
def Condition.mapLabels (f : ι → κ) :
    List (String × Condition ι) → List (String × Condition κ)
  | [] => []
  | (path, condition) :: rest => (path, condition.mapLabel f) :: Condition.mapLabels f rest
  termination_by structural entries => entries

/-- The condition with its labels replaced by their images. -/
def Condition.mapLabel (f : ι → κ) : Condition ι → Condition κ
  | .literal v => .literal v
  | .operators ops => .operators (Operator.mapLabels f ops)
  termination_by structural condition => condition

/-- The operators with their labels replaced by their images. -/
def Operator.mapLabels (f : ι → κ) : List (Operator ι) → List (Operator κ)
  | [] => []
  | op :: rest => op.mapLabel f :: Operator.mapLabels f rest
  termination_by structural ops => ops

/-- The operator with its labels replaced by their images. -/
def Operator.mapLabel (f : ι → κ) : Operator ι → Operator κ
  | .eq v => .eq v
  | .ne v => .ne v
  | .gt v => .gt v
  | .gte v => .gte v
  | .lt v => .lt v
  | .lte v => .lte v
  | .among set => .among set
  | .notAmong set => .notAmong set
  | .present expected => .present expected
  | .regex pattern options => .regex pattern options
  | .not condition => .not (condition.mapLabel f)
  | .allOf set => .allOf set
  | .someOf set => .someOf set
  | .size n => .size n
  | .elemMatch query => .elemMatch (query.mapLabel f)
  | .unknown tag => .unknown tag
  termination_by structural op => op

end

mutual

/-- The labels of a query and of all sub-queries. -/
def Query.labels : Query ι → List ι
  | .logical label all any _ => label :: (Query.labelsOf all ++ Query.labelsOf any)
  | .fields label entries => label :: Condition.labelsOf entries
  termination_by structural query => query

/-- The labels of several queries. -/
def Query.labelsOf : List (Query ι) → List ι
  | [] => []
  | query :: rest => query.labels ++ Query.labelsOf rest
  termination_by structural queries => queries

/-- The labels in the conditions of entries. -/
def Condition.labelsOf : List (String × Condition ι) → List ι
  | [] => []
  | (_, condition) :: rest => condition.labels ++ Condition.labelsOf rest
  termination_by structural entries => entries

/-- The labels in a condition. -/
def Condition.labels : Condition ι → List ι
  | .literal _ => []
  | .operators ops => Operator.labelsOf ops
  termination_by structural condition => condition

/-- The labels in operators. -/
def Operator.labelsOf : List (Operator ι) → List ι
  | [] => []
  | op :: rest => op.labels ++ Operator.labelsOf rest
  termination_by structural ops => ops

/-- The labels in an operator. -/
def Operator.labels : Operator ι → List ι
  | .not condition => condition.labels
  | .elemMatch query => query.labels
  | _ => []
  termination_by structural op => op

end

end Labels

end DocQuery
