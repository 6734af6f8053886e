/-!
# Keyed lists

A list of keys with values in which the order of the keys counts.
`Entries.insert` puts a value under a key that is present in the place of
that key, and under a new key at the end, so that a list built by inserting
has each key once, in the order of first insertion. Documents, field maps and
the names of a session are such lists.
-/


namespace DocQuery

namespace Entries

variable {α : Type}

/-- The value under a key. -/
def get? (key : String) : List (String × α) → Option α
  | [] => none
  | (k, v) :: rest => if k = key then some v else get? key rest

/-- Whether a key is present. -/
def hasKey (key : String) (entries : List (String × α)) : Bool := (get? key entries).isSome

/-- Puts a value under a key: in the place of the key's earlier value, or at
the end. -/
def insert (key : String) (value : α) : List (String × α) → List (String × α)
  | [] => [(key, value)]
  | (k, v) :: rest =>
    if k = key then (k, value) :: rest else (k, v) :: insert key value rest

/-- Removes a key. -/
def erase (key : String) (entries : List (String × α)) : List (String × α) :=
  entries.filter fun entry => entry.1 != key

/-- The keyed list that arises when entries are inserted one after
another. -/
def ofList (entries : List (String × α)) : List (String × α) :=
  entries.foldl (fun list entry => insert entry.1 entry.2 list) []

/-- The keys, in order. -/
def keys (entries : List (String × α)) : List String := entries.map (·.1)

end Entries

end DocQuery
