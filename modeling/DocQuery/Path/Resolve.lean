import DocQuery.Path
import DocQuery.Value
/-!
# Where paths lead

Resolving a path follows its segments one by one and never fails: a field
that is missing, an index out of range and a segment that does not suit the
value it meets all lead nowhere, and so does the empty path. A root is a
whole document or a value; a document that is the root is not a value, so
index and wildcard segments lead nowhere from it, while a value that is a
document has fields like any other.
-/


namespace DocQuery

/-- Where a path starts. -/
inductive Root where
  | document (d : Document)
  | value (v : Value)

namespace Value

/-- The document that a value is. -/
def document? : Value → Option Document
  | .document d => some d
  | _ => none

/-- The items of an array. -/
def items? : Value → Option (List Value)
  | .array items => some items
  | _ => none

end Value

namespace Root

/-- The document at the root. -/
def document? : Root → Option Document
  | document d => some d
  | value v => v.document?

/-- The value at the root. -/
def value? : Root → Option Value
  | document _ => none
  | value v => some v

/-- Where one segment leads. A wildcard leads from an array to the array
itself. -/
def step (root : Root) : Segment → Option Value
  | .named name => root.document?.bind (Entries.get? name)
  | .index n => (root.value?.bind Value.items?).bind (·[n]?)
  | .wildcard => root.value?.filter fun v => v.items?.isSome

end Root

/-- Where segments lead from a value. -/
def Value.follow (v : Value) : List Segment → Option Value
  | [] => some v
  | segment :: rest => ((Root.value v).step segment).bind fun next => next.follow rest

/-- Where a path leads from a root. -/
def Root.resolve (root : Root) : List Segment → Option Value
  | [] => none
  | segment :: rest => (root.step segment).bind fun next => next.follow rest

/-- Where a path leads from a document. -/
def Document.resolve (d : Document) (path : List Segment) : Option Value :=
  (Root.document d).resolve path

/-- Where a path leads from a value. -/
def Value.resolve (v : Value) (path : List Segment) : Option Value :=
  (Root.value v).resolve path

end DocQuery
