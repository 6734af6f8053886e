import DocQuery.Engine
/-!
# What computations come to

Compilation runs from a state and comes to a result and a state. This file
opens its steps once: what two steps come to (`outcome_bind`), and how a
query gets its matcher (`outcome_query`). On an engine, filtering and finding
are then compilation with something done to the matcher afterwards, which
neither touches the cache nor depends on it (`filter_eq`, `find_eq`).
-/


namespace DocQuery

open Compile

variable {α β : Type}

/-! ## Running a computation -/

/-- What a computation with state comes to from a state. -/
def outcome {σ : Type} (x : ExceptT EngineError (StateM σ) α) (s : σ) :
    Except EngineError α × σ := x.run.run s

@[simp] theorem outcome_pure {σ : Type} (a : α) (s : σ) :
    outcome (pure a : ExceptT EngineError (StateM σ) α) s = (.ok a, s) := rfl

/-- The second of two steps starts where the first has ended, if that has
not failed. -/
theorem outcome_bind {σ : Type} (x : ExceptT EngineError (StateM σ) α)
    (f : α → ExceptT EngineError (StateM σ) β) (s : σ) :
    outcome (x >>= f) s = match outcome x s with
      | (.ok a, s) => outcome (f a) s
      | (.error e, s) => (.error e, s) := by
  simp only [outcome, ExceptT.run_bind, StateT.run_bind]
  rcases x.run.run s with ⟨result, s⟩
  cases result <;> rfl

@[simp] theorem outcome_lift (result : Except EngineError α) (s : CompileState) :
    outcome (Compile.lift result) s = (result, s) := rfl

/-- Computations that come to the same from every state are the same. -/
theorem outcome_ext {σ : Type} {x y : ExceptT EngineError (StateM σ) α}
    (h : ∀ s, outcome x s = outcome y s) : x = y := funext h

/-- How a query gets its matcher: from the cache, or built and registered. -/
theorem outcome_query {settings : CompileSettings} {query : Query Identity}
    {build : Compile (Nat → Matcher)} {s : CompileState} :
    outcome ((compiler settings).query query build) s = match s.find? query.label with
      | some m => (.ok m, s)
      | none => match outcome build s with
        | (.ok make, s) => (.ok (s.register settings query.label make).1,
            (s.register settings query.label make).2)
        | (.error e, s) => (.error e, s) := by
  have hcached : outcome (cached? query.label) s = (.ok (s.find? query.label), s) := rfl
  simp only [compiler, outcome_bind, hcached]
  cases s.find? query.label with
  | some m => rfl
  | none =>
    simp only [outcome_bind]
    rcases outcome build s with ⟨- | make, s⟩ <;> rfl

/-! ## On an engine -/

/-- The plan that options make of a matcher. -/
def Plan.ofMatcher (options : FindOptions) (m : Matcher) : Except EngineError Plan := do
  let plan ← withSort options.sort (.filter m .scan)
  withProjection options.projection (withLimit options.limit plan)

/-- Planning goes on from a matcher without touching the state. -/
theorem outcome_ofFind {settings : CompileSettings} {query : Query Identity}
    {options : FindOptions} {s : CompileState} :
    outcome (Plan.ofFind settings query options) s =
      ((outcome (query.compile settings) s).1 >>= Plan.ofMatcher options,
        (outcome (query.compile settings) s).2) := by
  simp only [Plan.ofFind, Plan.ofQuery, outcome_bind]
  rcases outcome (query.compile settings) s with ⟨e | m, s⟩
  · rfl
  · simp only [outcome_pure, outcome_lift]
    show _ = (Plan.ofMatcher options m, s)
    unfold Plan.ofMatcher
    rcases Plan.withSort options.sort (.filter m .scan) with e | plan <;> rfl

namespace Engine

variable {engine : Engine} {alive : Nat → Bool} {query : Query Identity}

/-- Compiling on an engine is running compilation from its state. -/
theorem compile_eq : engine.compile alive query =
    ((outcome (query.compile (engine.settings alive)) engine.state).1,
      engine.withState (outcome (query.compile (engine.settings alive)) engine.state).2) := rfl

/-- **Filtering** is compiling, and keeping the rows that are accepted. It never
comes to nothing. -/
theorem filter_eq {document : α → Document} {input : List α} :
    engine.filter alive query document input =
      ((engine.compile alive query).1.map fun m =>
          some (input.filter fun row => m.acceptsDocument (document row)),
        (engine.compile alive query).2) := by
  have hplan : outcome (Plan.ofQuery (engine.settings alive) query) engine.state =
      ((outcome (query.compile (engine.settings alive)) engine.state).1.map (.filter · .scan),
        (outcome (query.compile (engine.settings alive)) engine.state).2) := by
    simp only [Plan.ofQuery, outcome_bind]
    rcases outcome (query.compile (engine.settings alive)) engine.state with ⟨e | m, s⟩ <;> rfl
  rw [compile_eq]
  show ((outcome (Plan.ofQuery (engine.settings alive) query) engine.state).1.map _,
    engine.withState (outcome (Plan.ofQuery (engine.settings alive) query) engine.state).2) = _
  rw [hplan]
  rcases (outcome (query.compile (engine.settings alive)) engine.state).1 with e | m <;> rfl

/-- **Finding** is compiling, and running the plan that the options make of
the matcher. -/
theorem find_eq {options : FindOptions} {document : α → Document} {input : List α} :
    engine.find alive query options document input =
      (((engine.compile alive query).1 >>= Plan.ofMatcher options).map fun plan =>
          plan.values engine.sorting engine.config.stringOrdering document input,
        (engine.compile alive query).2) := by
  rw [compile_eq]
  show ((outcome (Plan.ofFind (engine.settings alive) query options) engine.state).1.map _,
    engine.withState (outcome (Plan.ofFind (engine.settings alive) query options)
      engine.state).2) = _
  rw [outcome_ofFind]
  rfl

end Engine

end DocQuery
