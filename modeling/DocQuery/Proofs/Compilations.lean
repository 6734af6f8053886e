import DocQuery.Proofs.Reordering
/-!
# Answers of compiled queries

A compilation is one that an engine makes of a living query after any history
of a session (`Compilation`). What it comes to does not depend on the
history: whether there is a matcher is a question of what the shape of the
query has to have read (`Compilation.compiles_iff`), and what the matcher
accepts is what the shape means (`Compilation.accepts_iff`). So queries can be
compared by their shapes, wherever they live, and there are compilations of
every shape (`Compilation.exists_of_shape`).

Conditions and operators have no matcher of their own. What they accept is
what the tests and the checks made of them do (`Condition.Accepts`,
`Operator.Accepts`).
-/


namespace DocQuery

/-- A result has a property if every result is known to have it or not to. -/
theorem exists_ok_and_iff {ε α : Type} {x : Except ε α} {p : α → Prop} {P : Prop}
    (h : ∃ a, x = .ok a) (hp : ∀ a, x = .ok a → (p a ↔ P)) : (∃ a, x = .ok a ∧ p a) ↔ P := by
  obtain ⟨a, ha⟩ := h
  constructor
  · rintro ⟨b, hb, hpb⟩
    exact (hp b hb).1 hpb
  · intro hP
    exact ⟨a, ha, (hp a ha).2 hP⟩

/-! ## Conditions and operators -/

section Accepts

variable {ι : Type} {limit : Nat} {v : Option Value}

/-- The test made of a condition accepts a value, present or absent. -/
def Condition.Accepts (limit : Nat) (c : Condition ι) (v : Option Value) : Prop :=
  ∃ test, c.compileWith (Compiler.plain limit) = .ok test ∧ test.accepts v = true

/-- The check made of an operator accepts a value, present or absent. -/
def Operator.Accepts (limit : Nat) (op : Operator ι) (v : Option Value) : Prop :=
  ∃ check, op.compileWith (Compiler.plain limit) = .ok check ∧ check.accepts v = true

/-- What a condition accepts is what it says, if it can be read. -/
theorem Condition.accepts_iff {c : Condition ι} (h : ∀ r ∈ c.readings, ¬ r.Unreadable limit) :
    c.Accepts limit v ↔ c.Holds limit v :=
  exists_ok_and_iff (c.reports_content.exists_ok_iff.2 h) fun _ htest => c.accepts_content v htest

/-- And so for an operator. -/
theorem Operator.accepts_iff {op : Operator ι} (h : ∀ r ∈ op.readings, ¬ r.Unreadable limit) :
    op.Accepts limit v ↔ op.Holds limit v :=
  exists_ok_and_iff (op.reports_content.exists_ok_iff.2 h) fun _ hcheck => op.accepts_content v hcheck

end Accepts

/-! ## Queries -/

/-- An engine compiles a query of a session: where new queries are placed, how
rows are sorted, what has happened before, which queries are taken for alive,
and the query, which is among the living ones. -/
structure Compilation (config : Config) where
  placement : Placement
  sorting : Sorting
  events : List Event
  alive : Nat → Bool
  query : Query Identity
  living : query ∈ ((Session.new placement sorting config).after events).world []

namespace Compilation

variable {config : Config}

/-- The session at the time. -/
def session (c : Compilation config) : Session :=
  (Session.new c.placement c.sorting config).after c.events

/-- The matcher, or what is wrong with the query. -/
def result (c : Compilation config) : Except EngineError Matcher :=
  (c.session.engine.compile c.alive c.query).1

/-- The query has a matcher. -/
def Compiles (c : Compilation config) : Prop := ∃ m, c.result = .ok m

/-- The query has a matcher, and it accepts a root. -/
def Accepts (c : Compilation config) (root : Root) : Prop :=
  ∃ m, c.result = .ok m ∧ m.accepts root = true

/-- **Whether a query compiles** is up to what its shape has to have read. -/
theorem compiles_iff (c : Compilation config) :
    c.Compiles ↔ ∀ r ∈ c.query.shape.readings, ¬ r.Unreadable config.regexSizeLimit :=
  (Session.sound_after c.placement c.sorting config c.events).compile_ok_iff c.alive c.living

/-- **What a matcher accepts** is what the shape of the query says. -/
theorem accepts_iff_of_result {c : Compilation config} {m : Matcher} (hm : c.result = .ok m)
    (root : Root) : m.accepts root = true ↔ c.query.shape.Holds config.regexSizeLimit root :=
  (Session.sound_after c.placement c.sorting config c.events).accepts_iff c.living hm root

/-- A query that compiles accepts what its shape says. -/
theorem accepts_iff {c : Compilation config} (h : c.Compiles) (root : Root) :
    c.Accepts root ↔ c.query.shape.Holds config.regexSizeLimit root :=
  exists_ok_and_iff h fun _ hm => accepts_iff_of_result hm root

/-- A query that accepts something compiles. -/
theorem Accepts.compiles {c : Compilation config} {root : Root} (h : c.Accepts root) :
    c.Compiles :=
  let ⟨m, hm, _⟩ := h
  ⟨m, hm⟩

/-- There are compilations of every shape. -/
theorem exists_of_shape (config : Config) (t : Query Unit) :
    ∃ c : Compilation config, c.query.shape = t := by
  obtain ⟨q, -, hq, hshape⟩ := Session.stores_every_shape (Session.new .above .strict config) "q" t
  refine ⟨⟨.above, .strict, [.step (.store "q" (t.mapLabel fun _ => .new))], fun _ => true, q,
    hq⟩, ?_⟩
  rw [hshape, t.shape_eq_self]

/-- Queries of equivalent shapes are compiled both or neither, and accept the
same roots. -/
theorem alike (c c' : Compilation config) (h : c.query.shape.Equivalent c'.query.shape) :
    (c.Compiles ↔ c'.Compiles) ∧ ∀ root, c.Accepts root ↔ c'.Accepts root := by
  have hcompiles : c.Compiles ↔ c'.Compiles := by
    rw [c.compiles_iff, c'.compiles_iff]
    exact forall_congr' fun r => imp_congr_left (h.readings r)
  refine ⟨hcompiles, fun root => ?_⟩
  by_cases hc : c.Compiles
  · rw [accepts_iff hc, accepts_iff (hcompiles.1 hc)]
    exact h.holds config.regexSizeLimit root
  · -- what does not compile accepts nothing
    have hc' : ¬ c'.Compiles := fun hc' => hc (hcompiles.2 hc')
    exact iff_of_false (fun ha => hc ha.compiles) fun ha => hc' ha.compiles

end Compilation

/-! ## Queries with one test -/

/-- The query with a single test, of a condition on what a path reaches. -/
def Query.single (text : String) (condition : Condition Unit) : Query Unit :=
  .fields () [(text, condition)]

namespace Compilation

variable {text : String} {condition : Condition Unit}

/-- It compiles if the path can be read, and what the condition has. -/
theorem single_compiles_iff {c : Compilation config} (hc : c.query.shape = .single text condition) :
    c.Compiles ↔ (∃ path, Path.parse text = .ok path) ∧
      ∀ r ∈ condition.readings, ¬ r.Unreadable config.regexSizeLimit := by
  have hpath : ¬ (Reading.path text).Unreadable config.regexSizeLimit ↔
      ∃ path, Path.parse text = .ok path := by
    cases hparse : Path.parse text <;> simp [Reading.Unreadable, hparse]
  rw [c.compiles_iff, hc, Query.single]
  simp only [Query.readings, Condition.readingsOf, List.append_nil, List.forall_mem_cons, hpath]

/-- And it accepts a root from which the path reaches something that the
condition holds of. -/
theorem single_accepts_iff {c : Compilation config} (hc : c.query.shape = .single text condition)
    (h : c.Compiles) {path : Path} (hparse : Path.parse text = .ok path) (root : Root) :
    c.Accepts root ↔ ∃ v, Reaches (some root) path.segments v ∧
      condition.Holds config.regexSizeLimit v := by
  rw [accepts_iff h, hc, Query.single, field_holds_iff hparse]

end Compilation

end DocQuery
