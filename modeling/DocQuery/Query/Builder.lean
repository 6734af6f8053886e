import DocQuery.Query
/-!
# Building queries step by step

A builder collects field conditions and groups. A path that is named again
gets the new condition in its old place, a group that is given again replaces
the earlier one, and a builder that has been given a group or a test of the
caller's builds a logical node, without its field conditions.
-/


namespace DocQuery

/-- The groups and the test of a logical node. -/
structure Query.Groups (ι : Type) where
  all : List (Query ι) := []
  any : List (Query ι) := []
  custom : Option (Document → Bool) := none

/-- A query under construction. -/
structure QueryBuilder (ι : Type) where
  fields : List (String × Condition ι) := []
  groups : Option (Query.Groups ι) := none

namespace QueryBuilder

variable {ι : Type}

/-- The builder without any steps. -/
def empty : QueryBuilder ι := {}

/-- Sets the condition of a path. -/
def whereField (b : QueryBuilder ι) (path : String) (condition : Condition ι) :
    QueryBuilder ι :=
  { b with fields := Entries.insert path condition b.fields }

/-- Sets the queries of which all must hold. -/
def all (b : QueryBuilder ι) (queries : List (Query ι)) : QueryBuilder ι :=
  { b with groups := some { b.groups.getD {} with all := queries } }

/-- Sets the queries of which any must hold. -/
def any (b : QueryBuilder ι) (queries : List (Query ι)) : QueryBuilder ι :=
  { b with groups := some { b.groups.getD {} with any := queries } }

/-- Sets the test of the caller's. -/
def custom (b : QueryBuilder ι) (test : Document → Bool) : QueryBuilder ι :=
  { b with groups := some { b.groups.getD {} with custom := some test } }

/-- The query that has been built, under a label. -/
def build (b : QueryBuilder ι) (label : ι) : Query ι :=
  match b.groups with
  | some groups => .logical label groups.all groups.any groups.custom
  | none => .fields label b.fields

end QueryBuilder

end DocQuery
