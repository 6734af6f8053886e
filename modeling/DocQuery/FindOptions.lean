import DocQuery.Query.ParseError
import DocQuery.Template
/-!
# Options of a find

What happens to the documents that match: the keys by which they are sorted,
how many are kept, and what is made of each. Sort orders and projections can
be read from documents, `SortKey.ofDocument?` and `Projection.ofValue?`; a
transformation can only be given as a function.
-/


namespace DocQuery

/-- Whether a sort key orders upwards or downwards. -/
inductive Direction where
  | ascending
  | descending
  deriving DecidableEq, Inhabited

/-- A path by whose values documents are sorted. -/
structure SortKey where
  field : String
  direction : Direction
  deriving DecidableEq

/-- What is made of each document. -/
inductive Projection where
  /-- The parts of the document at some paths. -/
  | fields (paths : List String)
  /-- The value of a function. -/
  | transform (f : Document → Value)
  /-- The rendering of a template. -/
  | template (t : Template String)

/-- What happens to the documents that match. -/
structure FindOptions where
  sort : List SortKey := []
  limit : Option Nat := none
  projection : Option Projection := none

namespace FindOptions

/-- The options without any steps. -/
def empty : FindOptions := {}

/-- Adds a sort key; the first one is the most significant. -/
def sortBy (o : FindOptions) (field : String) (direction : Direction) : FindOptions :=
  { o with sort := o.sort ++ [⟨field, direction⟩] }

/-- Adds sort keys. -/
def sortByAll (o : FindOptions) (keys : List SortKey) : FindOptions :=
  { o with sort := o.sort ++ keys }

/-- Sets the number of documents to keep. -/
def keep (o : FindOptions) (limit : Nat) : FindOptions := { o with limit := some limit }

/-- Sets what is made of each document. -/
def project (o : FindOptions) (projection : Projection) : FindOptions :=
  { o with projection := some projection }

end FindOptions

/-! ## Reading options -/

namespace Direction

/-- Whether a text is a word in any mixture of ASCII case. -/
def isWord (word text : String) : Bool := text.toList.map Char.toLower == word.toList

/-- The direction that a value gives: one or minus one, or a word. -/
def ofValue? : Value → Option Direction
  | .int32 n => ofWhole n.toInt
  | .int64 n => ofWhole n.toInt
  | .double x =>
    if x.numEq .one then some ascending
    else if x.numEq .minusOne then some descending
    else none
  | .string s =>
    if isWord "asc" s then some ascending
    else if isWord "desc" s then some descending
    else none
  | _ => none
where
  /-- The direction that a whole number gives. -/
  ofWhole (n : Int) : Option Direction :=
    if n = 1 then some ascending else if n = -1 then some descending else none

end Direction

/-- The sort keys that a document gives, in its order. -/
def SortKey.ofDocument? (d : Document) : Except ParseError (List SortKey) :=
  d.mapM fun (field, v) =>
    match Direction.ofValue? v with
    | some direction => .ok ⟨field, direction⟩
    | none => .error (.sortDirection field v)

/-- The projection that a value gives: an array of paths, or a template. -/
def Projection.ofValue? : Value → Except ParseError Projection
  | .array items => Projection.fields <$> items.mapM fun
    | .string path => .ok path
    | other => .error (.projectionPath other)
  | .document d => .ok (.template (Template.ofDocument d))
  | other => .error (.projectionShape other)

end DocQuery
