import DocQuery.FindOptions
import DocQuery.Matcher.Compile
import DocQuery.Projection.Projector
import DocQuery.Sorting
/-!
# Plans

A plan is the sequence of stages that documents go through, the last stage
outermost: scan, filter, sort, limit, projection. Making a plan finds every
error in what is asked for. Running one may still come to nothing, but only
where the sort keys of documents contradict each other.

A plan runs over rows of any type that carry a document each, so that rows
can remember where their document came from. The stages up to the projection
choose and order rows (`Plan.rows`); the projection makes values of them
(`Plan.values`).
-/


namespace DocQuery

/-- A path by whose values rows are sorted, ready for use. -/
structure SortPath where
  path : List Segment
  direction : Direction

/-- The stages that documents go through. -/
inductive Plan where
  | scan
  | filter (matcher : Matcher) (source : Plan)
  | sort (paths : List SortPath) (source : Plan)
  | limit (count : Nat) (source : Plan)
  | project (projector : Projector) (source : Plan)

namespace SortPath

/-- Reads the path of a sort key. -/
def ofKey (key : SortKey) : Except EngineError SortPath := do
  return { path := (← Path.read key.field).segments, direction := key.direction }

/-- The order of two documents by one path. -/
def compare (strings : StringOrdering) (p : SortPath) (a b : Document) : Ordering :=
  let upwards := Value.compareKeys strings ((Root.document a).resolve p.path)
    ((Root.document b).resolve p.path)
  match p.direction with
  | .ascending => upwards
  | .descending => upwards.swap

/-- The order of two documents by several paths, the first that tells them
apart. -/
def compareAll (strings : StringOrdering) : List SortPath → Document → Document → Ordering
  | [], _, _ => .eq
  | p :: rest, a, b => (p.compare strings a b).then (compareAll strings rest a b)

end SortPath

namespace Plan

/-- The plan that keeps the documents a query accepts. -/
def ofQuery (settings : CompileSettings) (query : Query Identity) : Compile Plan := do
  return .filter (← query.compile settings) .scan

/-- Puts a sort stage on a plan, if there is anything to sort by. -/
def withSort (keys : List SortKey) (plan : Plan) : Except EngineError Plan :=
  if keys.isEmpty then .ok plan
  else do return .sort (← keys.mapM SortPath.ofKey) plan

/-- Puts a limit on a plan, if there is one. -/
def withLimit (limit : Option Nat) (plan : Plan) : Plan :=
  match limit with
  | some count => .limit count plan
  | none => plan

/-- Puts a projection on a plan, if there is one. -/
def withProjection (projection : Option Projection) (plan : Plan) : Except EngineError Plan :=
  match projection with
  | some projection => do return .project (← Projector.ofProjection projection) plan
  | none => .ok plan

/-- The plan for a query with options. -/
def ofFind (settings : CompileSettings) (query : Query Identity) (options : FindOptions) :
    Compile Plan := do
  let plan ← ofQuery settings query
  let plan ← Compile.lift (withSort options.sort plan)
  Compile.lift (withProjection options.projection (withLimit options.limit plan))

/-- The rows that a plan chooses, in its order. A sort stage may come to
nothing, and then so does the plan. -/
def rows {α : Type} (sorting : Sorting) (strings : StringOrdering) (document : α → Document) :
    Plan → List α → Option (List α)
  | scan, input => some input
  | filter matcher source, input =>
    (rows sorting strings document source input).map fun rows =>
      rows.filter fun row => matcher.acceptsDocument (document row)
  | sort paths source, input =>
    (rows sorting strings document source input).bind <|
      sorting.sortBy fun a b => SortPath.compareAll strings paths (document a) (document b)
  | limit count source, input =>
    (rows sorting strings document source input).map fun rows => rows.take count
  | project _ source, input => rows sorting strings document source input

/-- The values that a plan makes of its rows, if it comes to any. A plan
without a projection gives the documents themselves. -/
def values {α : Type} (sorting : Sorting) (strings : StringOrdering) (document : α → Document)
    (plan : Plan) (input : List α) : Option (List Value) :=
  match plan with
  | project projector source =>
    (rows sorting strings document source input).map fun rows =>
      rows.map fun row => projector.apply (document row)
  | other =>
    (rows sorting strings document other input).map fun rows =>
      rows.map fun row => .document (document row)

end Plan

end DocQuery
