import DocQuery.Path.Resolve
/-!
# Templates

A template describes the shape of output documents: values copied from a
path, constants, nested objects, and arrays whose items are made from the
items of an array in the source. The type of paths is a parameter, text while
a template is only written down and segments once its paths have been read.

Rendering is relative to a root, and within an array the root is the item.
An absent value is left out of an object and becomes null in an array.
-/


namespace DocQuery

/-- The shape of an output value. -/
inductive Template (π : Type) where
  /-- The value that a path leads to. -/
  | path (p : π)
  /-- A fixed value. -/
  | const (v : Value)
  /-- A document, entry by entry. -/
  | object (entries : List (String × Template π))
  /-- An array: for each item of the array at a path, the element rendered
  with the item as root. -/
  | array (p : π) (element : Template π)

namespace Template

mutual

/-- The template that a value describes: a string is a path, a document an
object, a string and a document in an array of two an array; everything else
is a constant. -/
def ofValue : Value → Template String
  | .string p => .path p
  | .document entries => .object (ofEntries entries)
  | .array [.string p, .document entries] => .array p (.object (ofEntries entries))
  | v => .const v
  termination_by structural v => v

/-- The templates that the values of entries describe. -/
def ofEntries : List (String × Value) → List (String × Template String)
  | [] => []
  | (key, v) :: rest => (key, ofValue v) :: ofEntries rest
  termination_by structural entries => entries

end

/-- The template that a document describes. -/
def ofDocument (d : Document) : Template String := .object (ofEntries d)

mutual

/-- Reads the paths of a template, in order. -/
def mapPaths {π ρ ε : Type} (f : π → Except ε ρ) : Template π → Except ε (Template ρ)
  | .path p => return .path (← f p)
  | .const v => return .const v
  | .object entries => return .object (← mapEntries f entries)
  | .array p element => do
    let p ← f p
    return .array p (← mapPaths f element)
  termination_by structural template => template

/-- Reads the paths of the templates of entries, in order. -/
def mapEntries {π ρ ε : Type} (f : π → Except ε ρ) :
    List (String × Template π) → Except ε (List (String × Template ρ))
  | [] => return []
  | (key, template) :: rest => do
    let template ← mapPaths f template
    return (key, template) :: (← mapEntries f rest)
  termination_by structural entries => entries

end

mutual

/-- The value that a template makes of a root, if any. -/
def render (root : Root) : Template (List Segment) → Option Value
  | .path p => root.resolve p
  | .const v => some v
  | .object entries => some (.document (Entries.ofList (renderEntries root entries)))
  | .array p element =>
    match root.resolve p with
    | some (.array items) =>
      some (.array (items.map fun item => (render (.value item) element).getD .null))
    | _ => some (.array [])
  termination_by structural template => template

/-- The entries that the templates of entries make of a root, without the
absent ones. -/
def renderEntries (root : Root) :
    List (String × Template (List Segment)) → List (String × Value)
  | [] => []
  | (key, template) :: rest =>
    match render root template with
    | some v => (key, v) :: renderEntries root rest
    | none => renderEntries root rest
  termination_by structural entries => entries

end

end Template

end DocQuery
