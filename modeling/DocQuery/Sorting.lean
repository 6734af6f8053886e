/-!
# Sorting

Items are sorted by comparing two of them at a time. Where the comparison is
one of a total preorder, it is known what comes of this: the items, stably
sorted. Where it contradicts itself, as when a first item comes before a
second one and that before a third, which comes before the first, nothing is
promised. The items may come out in any order, or sorting them may fail.

A `Sorting` is any way to keep that promise. What it does with a comparison
that contradicts itself is left open.
-/


namespace DocQuery

/-- A way of sorting. All it sees of the items is how they compare, so it is
given the comparison of their places, and gives the places in another order or
gives up. -/
structure Sorting where
  sort : (count : Nat) → (cmp : Fin count → Fin count → Ordering) → Option (List (Fin count))
  /-- Every item comes out once. -/
  perm : ∀ {count : Nat} {cmp : Fin count → Fin count → Ordering} {places : List (Fin count)},
    sort count cmp = some places → places.Perm (List.finRange count)
  /-- By a total preorder items are sorted stably. -/
  stable : ∀ {count : Nat} (cmp : Fin count → Fin count → Ordering) [Std.TransCmp cmp],
    sort count cmp = some ((List.finRange count).mergeSort fun i j => (cmp i j).isLE)

namespace Sorting

variable {α : Type}

/-- Sorts items by a comparison. -/
def sortBy (sorting : Sorting) (cmp : α → α → Ordering) (items : List α) : Option (List α) :=
  (sorting.sort items.length fun i j => cmp items[i] items[j]).map fun places =>
    places.map fun i => items[i]

/-- Whether a comparison never contradicts itself. -/
def Consistent {count : Nat} (cmp : Fin count → Fin count → Ordering) : Prop :=
  ∀ i j k, (cmp i j).isLE → (cmp j k).isLE → (cmp i k).isLE

instance {count : Nat} (cmp : Fin count → Fin count → Ordering) : Decidable (Consistent cmp) :=
  inferInstanceAs (Decidable (∀ i j k, (cmp i j).isLE → (cmp j k).isLE → (cmp i k).isLE))

/-- The places, stably sorted, if the comparison never contradicts itself. -/
def merge? {count : Nat} (cmp : Fin count → Fin count → Ordering) : Option (List (Fin count)) :=
  if Consistent cmp then some ((List.finRange count).mergeSort fun i j => (cmp i j).isLE) else none

/-- The same, with each two places compared once. -/
def mergeRecorded? {count : Nat} (cmp : Fin count → Fin count → Ordering) :
    Option (List (Fin count)) :=
  let record : Vector (Vector Ordering count) count := .ofFn fun i => .ofFn (cmp i)
  merge? fun i j => record[i][j]

theorem mergeRecorded?_eq {count : Nat} (cmp : Fin count → Fin count → Ordering) :
    mergeRecorded? cmp = merge? cmp := by
  simp [mergeRecorded?]

/-- Sorting that is given up wherever a comparison contradicts itself. -/
def strict : Sorting where
  sort _ cmp := mergeRecorded? cmp
  perm h := by
    rw [mergeRecorded?_eq, merge?, Option.ite_none_right_eq_some, Option.some.injEq] at h
    exact h.2 ▸ List.mergeSort_perm _ _
  stable cmp := by
    intro _
    rw [mergeRecorded?_eq]
    exact if_pos fun _ _ _ => Std.TransCmp.isLE_trans

end Sorting

end DocQuery
