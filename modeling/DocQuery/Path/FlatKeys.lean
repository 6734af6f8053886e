import DocQuery.Value
/-!
# Flat keys

The keys of a document and of the documents nested in it, each written with
the keys that lead to it and dots in between. Arrays are not entered. A key
comes before the keys below it, and siblings come in document order.
-/


namespace DocQuery

namespace FlatKeys

/-- A key below another one; the empty key has no dot behind it. -/
def below (above key : String) : String :=
  if above.isEmpty then key else above ++ "." ++ key

mutual

/-- The keys of a list of entries that lie below `above`, `depth` levels
deep. -/
def ofEntries (depth : Nat) (above : String) : List (String × Value) → List String
  | [] => []
  | (key, value) :: rest =>
    if depth = 0 then []
    else
      below above key ::
        (ofValue (depth - 1) (below above key) value ++ ofEntries depth above rest)
  termination_by structural entries => entries

/-- The keys within a value that is found under `above`. -/
def ofValue (depth : Nat) (above : String) : Value → List String
  | .document entries => ofEntries depth above entries
  | _ => []
  termination_by structural value => value

end

end FlatKeys

/-- The keys of a document and of its nested documents, down to a number of
levels. -/
def Document.flatKeys (d : Document) (depth : Nat) : List String := FlatKeys.ofEntries depth "" d

end DocQuery
