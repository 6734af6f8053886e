import DocQuery.Matcher.Compile
import DocQuery.Proofs.Parts
/-!
# The traversal of a query

Compilation goes through a query the same way in every monad. So a relation
between computations in two monads that is kept by `pure` and `bind`, and by
each thing that a compiler does, relates the two compilations of a query
(`Query.related`). What a compiler does for a query may be asked about for
some queries only, as long as all parts of the query that is compiled are
among them.

This is the one induction over queries for all that is said of compilation
without regard to the matchers that come out of it. A map from one monad to
the other is the relation of being its value (`Query.map_compileWith` in
DocQuery/Proofs/Log), and a property of computations in one monad is a
relation of a computation to itself.
-/


namespace DocQuery

variable {ι : Type} {m n : Type → Type} [Monad m] [Monad n]
  {R : {α : Type} → m α → n α → Prop} {known : Query ι → Prop}
  {c : Compiler ι m} {d : Compiler ι n}

/-- A relation between computations that two compilers keep on known
queries. -/
structure Compiler.Related (R : {α : Type} → m α → n α → Prop) (known : Query ι → Prop)
    (c : Compiler ι m) (d : Compiler ι n) : Prop where
  pure {α : Type} (a : α) : R (pure a : m α) (pure a)
  bind {α β : Type} {x : m α} {y : n α} {f : α → m β} {g : α → n β} :
    R x y → (∀ a, R (f a) (g a)) → R (x >>= f) (y >>= g)
  path (text : String) : R (c.path text) (d.path text)
  regex (pattern options : String) : R (c.regex pattern options) (d.regex pattern options)
  query {q : Query ι} {build : m (Nat → Matcher)} {build' : n (Nat → Matcher)} :
    known q → R build build' → R (c.query q build) (d.query q build')

mutual

/-- **Compilations of a query are related**, if its parts are known. -/
theorem Query.related (h : Compiler.Related R known c d) :
    (q : Query ι) → (∀ r ∈ q.parts, known r) → R (q.compileWith c) (q.compileWith d)
  | .logical label all any custom, hparts => by
    have hsub := hparts
    rw [Query.parts, List.forall_mem_cons, List.forall_mem_append] at hsub
    obtain ⟨hself, hall, hany⟩ := hsub
    rw [Query.compileWith, Query.compileWith]
    refine h.query hself (h.bind (Query.allRelated h all hall) fun ms => ?_)
    exact h.bind (Query.allRelated h any hany) fun ms' => h.pure _
  | .fields label entries, hparts => by
    have hsub := hparts
    rw [Query.parts, List.forall_mem_cons] at hsub
    obtain ⟨hself, hentries⟩ := hsub
    rw [Query.compileWith, Query.compileWith]
    exact h.query hself (h.bind (Condition.entriesRelated h entries hentries) fun tests => h.pure _)
  termination_by structural q => q

/-- So are those of a group, -/
theorem Query.allRelated (h : Compiler.Related R known c d) :
    (qs : List (Query ι)) → (∀ r ∈ Query.partsOf qs, known r) →
    R (Query.compileAllWith c qs) (Query.compileAllWith d qs)
  | [], _ => h.pure []
  | q :: rest, hparts => by
    rw [Query.partsOf, List.forall_mem_append] at hparts
    rw [Query.compileAllWith, Query.compileAllWith]
    refine h.bind (q.related h hparts.1) fun matcher => ?_
    exact h.bind (Query.allRelated h rest hparts.2) fun ms => h.pure _
  termination_by structural qs => qs

/-- of entries, -/
theorem Condition.entriesRelated (h : Compiler.Related R known c d) :
    (entries : List (String × Condition ι)) → (∀ r ∈ Condition.partsOf entries, known r) →
    R (Condition.compileEntriesWith c entries) (Condition.compileEntriesWith d entries)
  | [], _ => h.pure []
  | (text, condition) :: rest, hparts => by
    rw [Condition.partsOf, List.forall_mem_append] at hparts
    rw [Condition.compileEntriesWith, Condition.compileEntriesWith]
    refine h.bind (h.path text) fun path => ?_
    refine h.bind (condition.related h hparts.1) fun test => ?_
    exact h.bind (Condition.entriesRelated h rest hparts.2) fun tests => h.pure _
  termination_by structural entries => entries

/-- of a condition, -/
theorem Condition.related (h : Compiler.Related R known c d) :
    (condition : Condition ι) → (∀ r ∈ condition.parts, known r) →
    R (condition.compileWith c) (condition.compileWith d)
  | .literal v, _ => h.pure _
  | .operators ops, hparts => by
    rw [Condition.compileWith, Condition.compileWith]
    exact h.bind (Operator.allRelated h ops hparts) fun checks => h.pure _
  termination_by structural condition => condition

/-- of operators, -/
theorem Operator.allRelated (h : Compiler.Related R known c d) :
    (ops : List (Operator ι)) → (∀ r ∈ Operator.partsOf ops, known r) →
    R (Operator.compileAllWith c ops) (Operator.compileAllWith d ops)
  | [], _ => h.pure []
  | op :: rest, hparts => by
    rw [Operator.partsOf, List.forall_mem_append] at hparts
    rw [Operator.compileAllWith, Operator.compileAllWith]
    refine h.bind (op.related h hparts.1) fun check => ?_
    exact h.bind (Operator.allRelated h rest hparts.2) fun checks => h.pure _
  termination_by structural ops => ops

/-- and of an operator. -/
theorem Operator.related (h : Compiler.Related R known c d) :
    (op : Operator ι) → (∀ r ∈ op.parts, known r) → R (op.compileWith c) (op.compileWith d)
  | .regex pattern options, _ => by
    rw [Operator.compileWith, Operator.compileWith]
    exact h.bind (h.regex pattern options) fun regex => h.pure _
  | .not condition, hparts => by
    rw [Operator.compileWith, Operator.compileWith]
    exact h.bind (condition.related h hparts) fun test => h.pure _
  | .elemMatch query, hparts => by
    rw [Operator.compileWith, Operator.compileWith]
    exact h.bind (query.related h hparts) fun matcher => h.pure _
  | .eq _, _ | .ne _, _ | .gt _, _ | .gte _, _ | .lt _, _ | .lte _, _ | .among _, _
  | .notAmong _, _ | .present _, _ | .allOf _, _ | .someOf _, _ | .size _, _
  | .unknown _, _ => h.pure _
  termination_by structural op => op

end

end DocQuery
