import DocQuery.Path.Resolve
/-!
# What a path reaches

A field test looks at more than the one value that a path leads to: where a
named segment meets an array, it is applied to every item instead, through
arrays within arrays. `Root.reached` lists all values that are reached that
way. A branch of the walk that leads nowhere reaches the absent value, and a
named segment that meets an empty array reaches nothing at all.
-/


namespace DocQuery

namespace Value

mutual

/-- What a named segment is applied to: the value itself, or the items of an
array and of the arrays within it. -/
def targets : Value → List Value
  | .array items => itemTargets items
  | v => [v]
  termination_by structural v => v

/-- What a named segment is applied to in a list of items. -/
def itemTargets : List Value → List Value
  | [] => []
  | v :: rest => targets v ++ itemTargets rest
  termination_by structural items => items

end

/-- The values that segments reach from a value. -/
def reached (v : Value) : List Segment → List (Option Value)
  | [] => [some v]
  | .named name :: rest =>
    v.targets.flatMap fun target =>
      match (Root.value target).step (.named name) with
      | some next => next.reached rest
      | none => [none]
  | segment :: rest =>
    match (Root.value v).step segment with
    | some next => next.reached rest
    | none => [none]

end Value

/-- The values that a path reaches from a root. A document that is the root
is no value, so the empty path reaches the absent value from it. -/
def Root.reached : Root → List Segment → List (Option Value)
  | .value v, path => v.reached path
  | .document _, [] => [none]
  | .document d, segment :: rest =>
    match (Root.document d).step segment with
    | some next => next.reached rest
    | none => [none]

end DocQuery
