import DocQuery.Error
import DocQuery.Path.Resolve
/-!
# Field trees

The paths of a field list, arranged by their parts: paths with a first part
in common share a branch, and a path whose parts begin another path's takes
the place of it. Projecting a document fills the tree's leaves with what
their paths lead to; leaves whose path leads nowhere are left out, branches
never are.
-/


namespace DocQuery

/-- A leaf with the full path of its value, or a branch. -/
inductive FieldTree where
  | leaf (path : List Segment)
  | branch (children : List (String × FieldTree))

/-- The trees below one node, by key. -/
abbrev FieldForest := List (String × FieldTree)

namespace FieldForest

/-- Adds a path under its parts. A leaf replaces the branch in its place, and
nothing is added below a leaf. -/
def insert (path : List Segment) : List String → FieldForest → FieldForest
  | [], forest => forest
  | [last], forest => Entries.insert last (.leaf path) forest
  | first :: rest, forest =>
    match Entries.get? first forest with
    | none => Entries.insert first (.branch (insert path rest [])) forest
    | some (.leaf _) => forest
    | some (.branch children) =>
      Entries.insert first (.branch (insert path rest children)) forest

/-- The forest of a list of paths, each with its parts. -/
def ofPaths (paths : List (List Segment × List String)) : FieldForest :=
  paths.foldl (fun forest path => insert path.1 path.2 forest) []

/-- The forest of a field list; the first path that cannot be read is the
error. -/
def read (texts : List String) : Except EngineError FieldForest := do
  let paths ← texts.mapM fun text => do
    return ((← Path.read text).segments, Path.parts text)
  return ofPaths paths

mutual

/-- The entries that a forest selects from a document. -/
def select (d : Document) : FieldForest → List (String × Value)
  | [] => []
  | (key, tree) :: rest =>
    match selectTree d tree with
    | some v => (key, v) :: select d rest
    | none => select d rest
  termination_by structural forest => forest

/-- The value that a tree selects from a document. -/
def selectTree (d : Document) : FieldTree → Option Value
  | .leaf path => (Root.document d).resolve path
  | .branch children => some (.document (Entries.ofList (select d children)))
  termination_by structural tree => tree

end

/-- The document that a forest makes of a document. -/
def project (d : Document) (forest : FieldForest) : Document := Entries.ofList (select d forest)

end FieldForest

end DocQuery
