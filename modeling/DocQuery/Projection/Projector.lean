import DocQuery.FieldTree
import DocQuery.FindOptions
/-!
# Projectors

A projection whose paths have been read. Reading finds every error that a
projection can have, so that applying it to a document cannot fail.
-/


namespace DocQuery

/-- A projection that is ready for use. -/
inductive Projector where
  | identity
  | fields (forest : FieldForest)
  | transform (f : Document → Value)
  | template (entries : List (String × Template (List Segment)))

namespace Projector

/-- Makes a projection ready for use. An empty field list changes nothing,
and a template must be an object. -/
def ofProjection : Projection → Except EngineError Projector
  | .fields [] => .ok .identity
  | .fields paths => fields <$> FieldForest.read paths
  | .transform f => .ok (.transform f)
  | .template (.object entries) =>
    template <$> Template.mapEntries (fun text => (·.segments) <$> Path.read text) entries
  | .template _ => .error .templateNotObject

/-- What the projection makes of a document. -/
def apply (p : Projector) (d : Document) : Value :=
  match p with
  | identity => .document d
  | fields forest => .document (FieldForest.project d forest)
  | transform f => f d
  | template entries =>
    .document (Entries.ofList (Template.renderEntries (.document d) entries))

end Projector

end DocQuery
