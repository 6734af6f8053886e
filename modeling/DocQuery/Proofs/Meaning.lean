import Mathlib.Data.List.Basic
import DocQuery.Matcher.Compile
import DocQuery.Proofs.Reaches
/-!
# What queries mean

`Query.Holds` evaluates a query where it stands, without compiling it: paths
and patterns are read where they are met, `Reaches` says what a path reaches,
and each operator is a statement about a value that is present or absent.
There are no matchers in it and no identities; `limit` is the size that a
pattern may have.

Groups, entries and operators are lists, and the definition goes through
them one member at a time; `allHold_iff`, `anyHolds_iff`,
`entriesHold_iff` and `opsHold_iff` say what that comes to.
-/


namespace DocQuery

open Compile

variable {ι : Type}

/-- A value is one of a set, or is an array with an item that is. -/
def Value.Among (set : List Value) (x : Value) : Prop :=
  (∃ s ∈ set, s.equals x = true) ∨
    ∃ items, x = .array items ∧ ∃ item ∈ items, ∃ s ∈ set, s.equals item = true

mutual

/-- A query holds at a root. A logical node asks for all of one group, for
some of the other unless that is empty, and for its custom test, which no
root passes that is not a document. -/
def Query.Holds (limit : Nat) (root : Root) : Query ι → Prop
  | .logical _ all any custom =>
    Query.AllHold limit root all ∧ (any = [] ∨ Query.AnyHolds limit root any) ∧
      ∀ test, custom = some test → ∃ d, root.document? = some d ∧ test d = true
  | .fields _ entries => Condition.EntriesHold limit root entries
  termination_by structural query => query

/-- Every query of a list holds. -/
def Query.AllHold (limit : Nat) (root : Root) : List (Query ι) → Prop
  | [] => True
  | query :: rest => query.Holds limit root ∧ Query.AllHold limit root rest
  termination_by structural queries => queries

/-- Some query of a list holds. -/
def Query.AnyHolds (limit : Nat) (root : Root) : List (Query ι) → Prop
  | [] => False
  | query :: rest => query.Holds limit root ∨ Query.AnyHolds limit root rest
  termination_by structural queries => queries

/-- For every entry, its path reaches something that its condition holds
of. -/
def Condition.EntriesHold (limit : Nat) (root : Root) : List (String × Condition ι) → Prop
  | [] => True
  | (text, condition) :: rest =>
    (∃ path, Path.parse text = .ok path ∧
      ∃ v, Reaches (some root) path.segments v ∧ condition.Holds limit v) ∧
    Condition.EntriesHold limit root rest
  termination_by structural entries => entries

/-- A condition holds of a value, present or absent. -/
def Condition.Holds (limit : Nat) (v : Option Value) : Condition ι → Prop
  | .literal expected => ∃ x, v = some x ∧ x.equals expected = true
  | .operators ops => Operator.AllHold limit v ops
  termination_by structural condition => condition

/-- Every operator of a list holds of the same value. -/
def Operator.AllHold (limit : Nat) (v : Option Value) : List (Operator ι) → Prop
  | [] => True
  | op :: rest => op.Holds limit v ∧ Operator.AllHold limit v rest
  termination_by structural ops => ops

/-- **The operator table**: what each operator says of a value, present or
absent. -/
def Operator.Holds (limit : Nat) (v : Option Value) : Operator ι → Prop
  | .eq expected => ∃ x, v = some x ∧ x.equals expected = true
  | .ne expected => ¬ ∃ x, v = some x ∧ x.equals expected = true
  | .gt operand => ∃ x, v = some x ∧ x.compareRange? operand = some .gt
  | .gte operand =>
    ∃ x, v = some x ∧ (x.compareRange? operand = some .gt ∨ x.compareRange? operand = some .eq)
  | .lt operand => ∃ x, v = some x ∧ x.compareRange? operand = some .lt
  | .lte operand =>
    ∃ x, v = some x ∧ (x.compareRange? operand = some .lt ∨ x.compareRange? operand = some .eq)
  | .among set => ∃ x, v = some x ∧ x.Among set
  | .notAmong set => ¬ ∃ x, v = some x ∧ x.Among set
  | .present expected => (∃ x, v = some x) ↔ expected = true
  | .regex pattern options =>
    ∃ s regex, v = some (.string s) ∧ readRegex limit pattern options = .ok regex ∧
      regex.isMatch s = true
  | .not condition => ¬ condition.Holds limit v
  | .allOf set =>
    ∃ items, v = some (.array items) ∧ ∀ s ∈ set, ∃ item ∈ items, item.equals s = true
  | .someOf set =>
    ∃ items, v = some (.array items) ∧ ∃ item ∈ items, ∃ s ∈ set, s.equals item = true
  | .size n => ∃ items, v = some (.array items) ∧ items.length = n
  | .elemMatch query =>
    ∃ items, v = some (.array items) ∧ ∃ item ∈ items, query.Holds limit (.value item)
  | .unknown _ => False
  termination_by structural op => op

end

/-! ## Lists -/

variable {limit : Nat} {root : Root} {v : Option Value}

/-- All of a group hold if each member does. -/
theorem allHold_iff {queries : List (Query ι)} :
    Query.AllHold limit root queries ↔ ∀ query ∈ queries, query.Holds limit root := by
  induction queries with
  | nil => simp [Query.AllHold]
  | cons query rest ih => rw [Query.AllHold, ih, List.forall_mem_cons]

/-- Some of a group hold if a member does. -/
theorem anyHolds_iff {queries : List (Query ι)} :
    Query.AnyHolds limit root queries ↔ ∃ query ∈ queries, query.Holds limit root := by
  induction queries with
  | nil => simp [Query.AnyHolds]
  | cons query rest ih => rw [Query.AnyHolds, ih, List.exists_mem_cons_iff]

/-- Entries hold if each does on its own. -/
theorem entriesHold_iff {entries : List (String × Condition ι)} :
    Condition.EntriesHold limit root entries ↔
      ∀ entry ∈ entries, ∃ path, Path.parse entry.1 = .ok path ∧
        ∃ v, Reaches (some root) path.segments v ∧ entry.2.Holds limit v := by
  induction entries with
  | nil => simp [Condition.EntriesHold]
  | cons entry rest ih => rw [Condition.EntriesHold, ih, List.forall_mem_cons]

/-- Operators hold of a value if each does. -/
theorem opsHold_iff {ops : List (Operator ι)} :
    Operator.AllHold limit v ops ↔ ∀ op ∈ ops, op.Holds limit v := by
  induction ops with
  | nil => simp [Operator.AllHold]
  | cons op rest ih => rw [Operator.AllHold, ih, List.forall_mem_cons]

/-! ## Single entries -/

/-- A single entry holds if its path reaches something that its condition
holds of. -/
theorem field_holds_iff {label : ι} {text : String} {path : Path}
    (hparse : Path.parse text = .ok path) {condition : Condition ι} :
    (Query.fields label [(text, condition)]).Holds limit root ↔
      ∃ v, Reaches (some root) path.segments v ∧ condition.Holds limit v := by
  simp only [Query.Holds, Condition.EntriesHold, and_true, hparse, Except.ok.injEq,
    exists_eq_left']

/-- A condition that only asks for an element holds of the arrays that have
one. -/
theorem elemMatch_holds_iff {query : Query ι} :
    (Condition.operators [.elemMatch query]).Holds limit v ↔
      ∃ items, v = some (.array items) ∧ ∃ item ∈ items, query.Holds limit (.value item) := by
  simp only [Condition.Holds, Operator.AllHold, Operator.Holds, and_true]

end DocQuery
