import Mathlib.Data.List.Basic
import DocQuery.Path.Reach
import DocQuery.Proofs.Nesting
/-!
# Reaching values, by rules

`Root.reached` lists the values that a path reaches. This file gives the
same thing as rules on the position of a walk (`Reaches`), which is what
later results induct on: a position is a root, or nowhere once a segment has
led nowhere. The hinge is `mem_reached`: what the list holds is what the
rules derive. The nesting of arrays in arrays enters through
`reaches_named_iff` alone.

`Starved` says of a walk that each of its branches ends at a named segment
that meets an empty array. By `starved_iff` these are the walks that reach
nothing at all, not even the absent value.
-/


namespace DocQuery

/-- The items that a segment is applied to in the place of the root: those of
an array, if the segment is a name. -/
def Root.spread? : Root → Segment → Option (List Value)
  | .value (.array items), .named _ => some items
  | _, _ => none

/-- The position that a segment leads to. -/
def Root.next (root : Root) (segment : Segment) : Option Root := (root.step segment).map .value

/-- What a walk reaches from a position, when the segments of a path are still
to be followed. -/
inductive Reaches : Option Root → List Segment → Option Value → Prop
  /-- A walk that has led nowhere reaches the absent value. -/
  | absent {path : List Segment} : Reaches none path none
  /-- At the end of its path a walk has reached where it stands. -/
  | done {root : Root} : Reaches (some root) [] root.value?
  /-- A name that meets an array is followed from an item instead. -/
  | item {root : Root} {segment : Segment} {rest : List Segment} {items : List Value}
      {item : Value} {v : Option Value} :
      root.spread? segment = some items → item ∈ items →
      Reaches (some (.value item)) (segment :: rest) v → Reaches (some root) (segment :: rest) v
  /-- Any other segment is followed from where the walk stands. -/
  | step {root : Root} {segment : Segment} {rest : List Segment} {v : Option Value} :
      root.spread? segment = none → Reaches (root.next segment) rest v →
      Reaches (some root) (segment :: rest) v

/-! ## Where a segment is applied -/

/-- Nothing is spread but an array under a name. -/
theorem spread?_eq_some {root : Root} {segment : Segment} {items : List Value}
    (h : root.spread? segment = some items) :
    root = .value (.array items) ∧ ∃ name, segment = .named name := by
  unfold Root.spread? at h
  split at h
  · cases h
    exact ⟨rfl, _, rfl⟩
  · cases h

/-- A name that meets an array is spread over its items. -/
@[simp] theorem spread?_array (items : List Value) (name : String) :
    (Root.value (.array items)).spread? (.named name) = some items := rfl

@[simp] theorem spread?_document (d : Document) (segment : Segment) :
    (Root.document d).spread? segment = none := rfl

@[simp] theorem spread?_index (root : Root) (n : Nat) : root.spread? (.index n) = none := by
  unfold Root.spread?
  split
  · cases ‹Segment.index n = .named _›
  · rfl

@[simp] theorem spread?_wildcard (root : Root) : root.spread? .wildcard = none := by
  unfold Root.spread?
  split
  · cases ‹Segment.wildcard = .named _›
  · rfl

/-- Walks from nowhere reach the absent value and nothing else. -/
theorem reaches_none {path : List Segment} {v : Option Value} : Reaches none path v ↔ v = none := by
  constructor
  · intro h
    cases h
    rfl
  · rintro rfl
    exact .absent

/-- A walk whose path is at its end has reached where it stands. -/
theorem reaches_nil {root : Root} {v : Option Value} :
    Reaches (some root) [] v ↔ v = root.value? := by
  constructor
  · intro h
    cases h
    rfl
  · rintro rfl
    exact .done

/-- Where a segment is spread, what is reached is what any item reaches. -/
theorem reaches_spread {root : Root} {segment : Segment} {rest : List Segment}
    {items : List Value} {v : Option Value} (h : root.spread? segment = some items) :
    Reaches (some root) (segment :: rest) v ↔
      ∃ item ∈ items, Reaches (some (.value item)) (segment :: rest) v := by
  constructor
  · intro hv
    cases hv with
    | item h' hmem hitem =>
      obtain rfl : items = _ := Option.some.inj (h.symm.trans h')
      exact ⟨_, hmem, hitem⟩
    | step h' _ => rw [h] at h'; cases h'
  · rintro ⟨item, hmem, hitem⟩
    exact .item h hmem hitem

/-- Where it is not, the walk goes on from where the segment leads. -/
theorem reaches_step {root : Root} {segment : Segment} {rest : List Segment} {v : Option Value}
    (h : root.spread? segment = none) :
    Reaches (some root) (segment :: rest) v ↔ Reaches (root.next segment) rest v := by
  constructor
  · intro hv
    cases hv with
    | item h' _ _ => rw [h] at h'; cases h'
    | step _ hnext => exact hnext
  · exact .step h

/-! ## Induction through nested arrays -/

/-- To prove something of every value it is enough to prove it of a value
whose items, if it is an array, have it. -/
theorem Value.items_induction {P : Value → Prop}
    (h : ∀ v, (∀ items, v = .array items → ∀ item ∈ items, P item) → P v) (v : Value) : P v :=
  nested_induction (fun v hitems _ => h v hitems) v

/-- The targets in a list of items are those of its members. -/
theorem mem_itemTargets {items : List Value} {t : Value} :
    t ∈ Value.itemTargets items ↔ ∃ item ∈ items, t ∈ item.targets := by
  induction items with
  | nil => simp [Value.itemTargets]
  | cons first rest ih => simp [Value.itemTargets, ih]

/-- **A name is applied to targets**, through all arrays within arrays: what
a walk reaches over a name is what it reaches from where the name leads from
some target. -/
theorem reaches_named_iff {name : String} {rest : List Segment} {r : Option Value} (v : Value) :
    Reaches (some (.value v)) (.named name :: rest) r ↔
      ∃ t ∈ v.targets, Reaches ((Root.value t).next (.named name)) rest r := by
  induction v using Value.items_induction with
  | h v ih =>
    by_cases harr : ∃ items, v = .array items
    · obtain ⟨items, rfl⟩ := harr
      rw [reaches_spread (spread?_array items name)]
      simp only [Value.targets, mem_itemTargets]
      constructor
      · rintro ⟨item, hmem, hitem⟩
        obtain ⟨t, ht, hr⟩ := (ih items rfl item hmem).1 hitem
        exact ⟨t, ⟨item, hmem, ht⟩, hr⟩
      · rintro ⟨t, ⟨item, hmem, ht⟩, hr⟩
        exact ⟨item, hmem, (ih items rfl item hmem).2 ⟨t, ht, hr⟩⟩
    · -- anything but an array is its own and only target
      have hself : v.targets = [v] := by
        cases v <;> first | rfl | exact absurd ⟨_, rfl⟩ harr
      have hnone : (Root.value v).spread? (.named name) = none := by
        cases v <;> first | rfl | exact absurd ⟨_, rfl⟩ harr
      rw [reaches_step hnone, hself]
      simp

/-! ## The list of what is reached -/

/-- What a value reaches is what the rules derive from it. -/
theorem mem_value_reached {path : List Segment} {v : Value} {r : Option Value} :
    r ∈ v.reached path ↔ Reaches (some (.value v)) path r := by
  induction path generalizing v with
  | nil => rw [Value.reached, reaches_nil, List.mem_singleton]; rfl
  | cons segment rest ih =>
    -- what follows a step that leads somewhere, and one that leads nowhere
    have hsome : ∀ {t next : Value}, (Root.value t).step segment = some next →
        (r ∈ next.reached rest ↔ Reaches ((Root.value t).next segment) rest r) := by
      intro t next h
      rw [Root.next, h]
      exact ih
    have hnone : ∀ {t : Value}, (Root.value t).step segment = none →
        (r ∈ [none] ↔ Reaches ((Root.value t).next segment) rest r) := by
      intro t h
      rw [Root.next, h, List.mem_singleton]
      exact reaches_none.symm
    cases segment with
    | named name =>
      rw [Value.reached, List.mem_flatMap, reaches_named_iff]
      refine exists_congr fun t => and_congr_right fun _ => ?_
      split
      · exact hsome ‹_›
      · exact hnone ‹_›
    | index n =>
      rw [Value.reached.eq_3 _ _ _ (by simp), reaches_step (spread?_index _ n)]
      split
      · exact hsome ‹_›
      · exact hnone ‹_›
    | wildcard =>
      rw [Value.reached.eq_3 _ _ _ (by simp), reaches_step (spread?_wildcard _)]
      split
      · exact hsome ‹_›
      · exact hnone ‹_›

/-- **The list and the rules agree**: a path reaches exactly the values that
the rules derive at its root. -/
theorem mem_reached {root : Root} {path : List Segment} {r : Option Value} :
    r ∈ root.reached path ↔ Reaches (some root) path r := by
  cases root with
  | value v => rw [Root.reached, mem_value_reached]
  | document d =>
    cases path with
    | nil => rw [Root.reached, reaches_nil, List.mem_singleton]; rfl
    | cons segment rest =>
      rw [Root.reached, reaches_step (spread?_document d segment)]
      unfold Root.next
      cases (Root.document d).step segment with
      | some next => exact mem_value_reached
      | none => rw [List.mem_singleton]; exact reaches_none.symm

/-! ## Walks that reach nothing -/

/-- Every branch of the walk ends at a name that meets an empty array. -/
inductive Starved : Option Root → List Segment → Prop
  /-- A name that meets an array, from each of whose items the walk is
  starved; the array may be empty. -/
  | items {root : Root} {segment : Segment} {rest : List Segment} {items : List Value} :
      root.spread? segment = some items →
      (∀ item ∈ items, Starved (some (.value item)) (segment :: rest)) →
      Starved (some root) (segment :: rest)
  /-- Any other segment, behind which the walk is starved. -/
  | step {root : Root} {segment : Segment} {rest : List Segment} :
      root.spread? segment = none → Starved (root.next segment) rest →
      Starved (some root) (segment :: rest)

/-- A starved walk reaches nothing. -/
theorem not_reaches_of_starved {pos : Option Root} {path : List Segment} (h : Starved pos path)
    (v : Option Value) : ¬ Reaches pos path v := by
  induction h with
  | items h _ ih =>
    rw [reaches_spread h]
    rintro ⟨item, hmem, hitem⟩
    exact ih item hmem hitem
  | step h _ ih => rwa [reaches_step h]

/-- A name from whose leads nothing is reached starves the walk, through
nested arrays. -/
theorem starved_value {segment : Segment} {rest : List Segment}
    (ih : ∀ pos, (∀ r, ¬ Reaches pos rest r) → Starved pos rest) (v : Value)
    (h : ∀ r, ¬ Reaches (some (.value v)) (segment :: rest) r) :
    Starved (some (.value v)) (segment :: rest) := by
  induction v using Value.items_induction with
  | h v ihv =>
    cases hs : (Root.value v).spread? segment with
    | some items =>
      -- the segment stays, the value gets smaller
      obtain ⟨hv, -⟩ := spread?_eq_some hs
      have harr : v = .array items := by injection hv
      refine .items hs fun item hmem => ihv items harr item hmem fun r hr => ?_
      exact h r (.item hs hmem hr)
    | none => exact .step hs (ih _ fun r hr => h r (.step hs hr))

/-- **The starved walks are those that reach nothing.** -/
theorem starved_iff {pos : Option Root} {path : List Segment} :
    Starved pos path ↔ ∀ v, ¬ Reaches pos path v := by
  refine ⟨not_reaches_of_starved, ?_⟩
  induction path generalizing pos with
  | nil =>
    intro h
    cases pos with
    | none => exact absurd .absent (h none)
    | some root => exact absurd .done (h root.value?)
  | cons segment rest ih =>
    intro h
    cases pos with
    | none => exact absurd .absent (h none)
    | some root =>
      cases root with
      | value v => exact starved_value (fun _ => ih) v h
      | document d => exact .step rfl (ih fun r hr => h r (.step rfl hr))

end DocQuery
