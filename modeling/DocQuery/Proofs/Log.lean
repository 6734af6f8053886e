import Mathlib.Control.Monad.Writer
import DocQuery.Proofs.Outcome
import DocQuery.Proofs.Traversal
/-!
# The log of a compilation

A query that has been compiled is one that compilation has come by a matcher
for, be it as the root or within another query, and be it that compilation
failed later on. This file writes that down: `Compile.logging` is the
compiler of the engine with a log of the queries that it has served, each
with its matcher. That keeping a log changes nothing else is `plain_logging`.
It follows from how compilation goes through a query (`Query.related`): a map
between monads that keeps `pure` and `bind` keeps compilation
(`Query.map_compileWith`).
-/


namespace DocQuery

open Compile

/-! ## Compilation in two monads -/

/-- A map of computations that takes one compiler to another. -/
structure Compiler.Hom {ι : Type} {m n : Type → Type} [Monad m] [Monad n]
    (φ : {α : Type} → m α → n α) (c : Compiler ι m) (d : Compiler ι n) : Prop where
  pure {α : Type} (a : α) : φ (Pure.pure a) = Pure.pure a
  bind {α β : Type} (x : m α) (f : α → m β) : φ (x >>= f) = φ x >>= fun a => φ (f a)
  path (text : String) : φ (c.path text) = d.path text
  regex (pattern options : String) : φ (c.regex pattern options) = d.regex pattern options
  query (q : Query ι) (build : m (Nat → Matcher)) : φ (c.query q build) = d.query q (φ build)

/-- **Compilation is kept by a map of compilers.** -/
theorem Query.map_compileWith {ι : Type} {m n : Type → Type} [Monad m] [Monad n]
    {φ : {α : Type} → m α → n α} {c : Compiler ι m} {d : Compiler ι n}
    (h : Compiler.Hom φ c d) (q : Query ι) : φ (q.compileWith c) = q.compileWith d := by
  have hrelated : Compiler.Related (fun x y => φ x = y) (fun _ => True) c d :=
    { pure := h.pure
      bind := fun hx hf => by
        rw [h.bind, hx]
        exact congrArg _ (funext hf)
      path := h.path
      regex := h.regex
      query := fun _ hbuild => by rw [h.query, hbuild] }
  exact q.related hrelated fun _ _ => trivial

/-! ## Logging -/

/-- A query, and the matcher that compilation has come by for it. -/
structure Served where
  query : Query Identity
  matcher : Matcher

/-- A compilation that keeps a log, also when it fails. -/
abbrev Logged (α : Type) := ExceptT EngineError (WriterT (List Served) (StateM CompileState)) α

namespace Logged

variable {α β : Type}

/-- What a compilation with a log comes to from a state: the result, the log
and the state that is left. -/
def outcome (x : Logged α) (s : CompileState) :
    (Except EngineError α × List Served) × CompileState := x.run.run.run s

/-- The compilation without its log. -/
def plain (x : Logged α) : Compile α :=
  ExceptT.mk fun s => ((x.outcome s).1.1, (x.outcome s).2)

/-- A compilation with nothing to log. -/
def ofCompile (x : Compile α) : Logged α := ExceptT.mk (WriterT.mk ((·, []) <$> x.run))

/-- Logs that a query has been served. -/
def serve (query : Query Identity) (matcher : Matcher) : Logged Unit :=
  ExceptT.lift (tell [⟨query, matcher⟩])

/-- Dropping the log leaves the result and the state. -/
theorem outcome_plain (x : Logged α) (s : CompileState) :
    DocQuery.outcome x.plain s = ((x.outcome s).1.1, (x.outcome s).2) := rfl

@[simp] theorem outcome_pure (a : α) (s : CompileState) :
    (pure a : Logged α).outcome s = ((.ok a, []), s) := rfl

@[simp] theorem outcome_serve (query : Query Identity) (matcher : Matcher) (s : CompileState) :
    (serve query matcher).outcome s = ((.ok (), [⟨query, matcher⟩]), s) := rfl

@[simp] theorem outcome_ofCompile (x : Compile α) (s : CompileState) :
    (ofCompile x).outcome s = (((x.run.run s).1, []), (x.run.run s).2) := rfl

/-- The second of two steps starts where the first has ended, and its log
continues that of the first. -/
theorem outcome_bind (x : Logged α) (f : α → Logged β) (s : CompileState) :
    (x >>= f).outcome s = match x.outcome s with
      | ((.ok a, log), s) =>
        (((f a |>.outcome s).1.1, log ++ ((f a).outcome s).1.2), ((f a).outcome s).2)
      | ((.error e, log), s) => ((.error e, log), s) := by
  have hrun : (x >>= f).outcome s =
      (fun p => (fun q => ((q.1.1, p.1.2 ++ q.1.2), q.2))
        ((ExceptT.bindCont f p.1.1).run.run p.2)) (x.outcome s) := rfl
  rw [hrun]
  rcases x.outcome s with ⟨⟨e | a, log⟩, s⟩
  · show ((Except.error e, log ++ []), s) = _
    rw [List.append_nil]
  · rfl

end Logged

/-- The compiler of the engine, keeping a log. -/
def Compile.logging (settings : CompileSettings) : Compiler Identity Logged where
  path text := Logged.ofCompile ((compiler settings).path text)
  regex pattern options := Logged.ofCompile ((compiler settings).regex pattern options)
  query query build := do
    match ← Logged.ofCompile (cached? query.label) with
    | some matcher =>
      Logged.serve query matcher
      return matcher
    | none =>
      let matcher ← Logged.ofCompile (register settings query.label (← build))
      Logged.serve query matcher
      return matcher

/-- How a query gets its matcher when a log is kept. -/
theorem Logged.outcome_query {settings : CompileSettings} {query : Query Identity}
    {build : Logged (Nat → Matcher)} {s : CompileState} :
    ((logging settings).query query build).outcome s = match s.find? query.label with
      | some m => ((.ok m, [⟨query, m⟩]), s)
      | none => match build.outcome s with
        | ((.ok make, log), s) =>
          ((.ok (s.register settings query.label make).1,
              log ++ [⟨query, (s.register settings query.label make).1⟩]),
            (s.register settings query.label make).2)
        | ((.error e, log), s) => ((.error e, log), s) := by
  have hcached : (ofCompile (cached? query.label)).outcome s =
      ((.ok (s.find? query.label), []), s) := rfl
  simp only [logging, outcome_bind, hcached]
  cases s.find? query.label with
  | some m => rfl
  | none =>
    simp only [outcome_bind]
    rcases build.outcome s with ⟨⟨e | make, log⟩, s⟩ <;> rfl

/-- **Keeping a log changes nothing else.** -/
theorem plain_logging (settings : CompileSettings) (q : Query Identity) :
    (q.compileWith (logging settings)).plain = q.compile settings := by
  refine q.map_compileWith ⟨fun _ => rfl, fun x f => ?_, fun _ => rfl, fun _ _ => rfl,
    fun q build => ?_⟩
  · refine outcome_ext fun s => ?_
    rw [outcome_bind, Logged.outcome_plain, Logged.outcome_plain, Logged.outcome_bind]
    rcases x.outcome s with ⟨⟨e | a, log⟩, s⟩ <;> rfl
  · refine outcome_ext fun s => ?_
    rw [outcome_query, Logged.outcome_plain, Logged.outcome_plain, Logged.outcome_query]
    cases s.find? q.label with
    | some m => rfl
    | none => rcases build.outcome s with ⟨⟨e | make, log⟩, s⟩ <;> rfl

/-- The queries that an engine serves when it compiles one. -/
def Engine.served (engine : Engine) (alive : Nat → Bool) (query : Query Identity) :
    List Served :=
  ((query.compileWith (logging (engine.settings alive))).outcome engine.state).1.2

/-- What an engine serves and what it comes to, in one run. -/
theorem Engine.outcome_logging {engine : Engine} {alive : Nat → Bool} {query : Query Identity} :
    (query.compileWith (logging (engine.settings alive))).outcome engine.state =
      (((engine.compile alive query).1, engine.served alive query),
        (outcome (query.compile (engine.settings alive)) engine.state).2) := by
  rw [Engine.compile_eq, ← plain_logging]
  rfl

end DocQuery
