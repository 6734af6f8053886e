import DocQuery.Config
import DocQuery.Plan
/-!
# The engine

An engine is a configuration with a matcher cache. Compiling, filtering and
finding may add to the cache, so each gives back the engine along with its
result; what is found never depends on the cache. Which queries are alive is
known to the caller and is passed in.

A result is an error, found in planning, or what running the plan comes to,
which is nothing if a sort is given up.
-/


namespace DocQuery

/-- A configuration, a way of sorting, the matchers that are kept, and the serial
number of the next matcher. -/
structure Engine where
  sorting : Sorting
  config : Config
  cache : Cache := {}
  nextMatcher : Nat := 0

namespace Engine

/-- An engine with nothing in its cache. -/
def new (sorting : Sorting) (config : Config) : Engine := { sorting, config }

/-- What compilation depends on in an engine. -/
def settings (engine : Engine) (alive : Nat → Bool) : CompileSettings :=
  { regexSizeLimit := engine.config.regexSizeLimit, alive }

/-- What compilation changes in an engine: the cache is left out if the
configuration says so. -/
def state (engine : Engine) : CompileState where
  nextSerial := engine.nextMatcher
  cache := if engine.config.cacheMatchers then some engine.cache else none

/-- The engine with what compilation has changed. -/
def withState (engine : Engine) (state : CompileState) : Engine :=
  { engine with cache := state.cache.getD engine.cache, nextMatcher := state.nextSerial }

/-- Runs a computation on the cache of an engine, or without one if the
configuration says so. -/
def run {α : Type} (engine : Engine) (alive : Nat → Bool)
    (computation : CompileSettings → Compile α) : Except EngineError α × Engine :=
  let (result, state) := (computation (engine.settings alive)).run.run engine.state
  (result, engine.withState state)

/-- The matcher of a query. -/
def compile (engine : Engine) (alive : Nat → Bool) (query : Query Identity) :
    Except EngineError Matcher × Engine :=
  engine.run alive query.compile

/-- The rows whose document a query accepts, in their order. -/
def filter {α : Type} (engine : Engine) (alive : Nat → Bool) (query : Query Identity)
    (document : α → Document) (input : List α) : Except EngineError (Option (List α)) × Engine :=
  let (plan, engine) := engine.run alive fun settings => Plan.ofQuery settings query
  (plan.map fun plan => plan.rows engine.sorting engine.config.stringOrdering document input,
    engine)

/-- What a query with options makes of documents. -/
def find {α : Type} (engine : Engine) (alive : Nat → Bool) (query : Query Identity)
    (options : FindOptions) (document : α → Document) (input : List α) :
    Except EngineError (Option (List Value)) × Engine :=
  let (plan, engine) := engine.run alive fun settings => Plan.ofFind settings query options
  (plan.map fun plan => plan.values engine.sorting engine.config.stringOrdering document input,
    engine)

/-- The number of matchers that are kept for queries that are alive. -/
def cachedMatchers (engine : Engine) (alive : Nat → Bool) : Nat × Engine :=
  let (count, cache) := engine.cache.count alive
  (count, { engine with cache })

end Engine

end DocQuery
