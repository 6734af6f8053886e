import DocQuery.Matcher
import DocQuery.Proofs.Reaches
/-!
# Field tests and the resolver

The resolver follows a path to one value and knows nothing of arrays under
names; a field test looks at every value that the path reaches. This file
relates the two: an expansion of a path has indices put in before the names
that meet arrays, so that it is a path that the resolver can follow, and what
a path reaches is what its expansions resolve to
(`reaches_iff_exists_expansion`). A field test is thus a resolver test on
some expansion, and one on a starved walk, which has no expansion, accepts
nothing.
-/


namespace DocQuery

/-- The expansions of a path at a position: segments got from the path by
putting in indices, as the walk along them goes. -/
inductive Expansion : Option Root → List Segment → List Segment → Prop
  /-- Once the walk is nowhere, nothing more is put in. -/
  | absent {path : List Segment} : Expansion none path path
  /-- Nothing is put in at the end. -/
  | done {root : Root} : Expansion (some root) [] []
  /-- Before a name that meets an array stands an index in its range. -/
  | insert {root : Root} {segment : Segment} {rest expansion : List Segment}
      {items : List Value} {item : Value} {i : Nat} :
      root.spread? segment = some items → items[i]? = some item →
      Expansion (some (.value item)) (segment :: rest) expansion →
      Expansion (some root) (segment :: rest) (.index i :: expansion)
  /-- A segment of the path itself is no name that meets an array. -/
  | keep {root : Root} {segment : Segment} {rest expansion : List Segment} :
      root.spread? segment = none → Expansion (root.next segment) rest expansion →
      Expansion (some root) (segment :: rest) (segment :: expansion)

/-- Where segments lead from a root; none lead to where the root is. -/
def Root.follow (root : Root) : List Segment → Option Value
  | [] => root.value?
  | segment :: rest => (root.step segment).bind fun next => next.follow rest

/-- From a value, this is how the resolver goes on behind its first
segment. -/
@[simp] theorem follow_value (v : Value) (path : List Segment) :
    (Root.value v).follow path = v.follow path := by
  cases path <;> rfl

/-- And it is the resolver itself, on a path that is not empty. -/
theorem follow_eq_resolve {root : Root} {path : List Segment} (h : path ≠ []) :
    root.follow path = root.resolve path := by
  cases path with
  | nil => exact absurd rfl h
  | cons segment rest => rfl

/-- A segment is followed from where it leads. -/
theorem follow_cons (root : Root) (segment : Segment) (rest : List Segment) :
    root.follow (segment :: rest) = (root.next segment).bind (·.follow rest) := by
  simp only [Root.follow, Root.next]
  cases root.step segment with
  | none => rfl
  | some next => exact (follow_value next rest).symm

/-- An index put in before a name leads to the item it names. -/
theorem next_index {root : Root} {segment : Segment} {items : List Value} (i : Nat)
    (h : root.spread? segment = some items) : root.next (.index i) = items[i]?.map .value := by
  obtain ⟨rfl, -⟩ := spread?_eq_some h
  rfl

/-- An expansion of a path with a segment has one too. -/
theorem expansion_ne_nil {pos : Option Root} {path expansion : List Segment}
    (h : Expansion pos path expansion) (hne : path ≠ []) : expansion ≠ [] := by
  cases h with
  | absent => exact hne
  | done => exact absurd rfl hne
  | insert _ _ _ => exact List.cons_ne_nil _ _
  | keep _ _ => exact List.cons_ne_nil _ _

/-- Whatever is reached, some expansion leads to it. -/
theorem exists_expansion_of_reaches {pos : Option Root} {path : List Segment} {v : Option Value}
    (h : Reaches pos path v) :
    ∃ expansion, Expansion pos path expansion ∧ pos.bind (·.follow expansion) = v := by
  induction h with
  | @absent path => exact ⟨path, .absent, rfl⟩
  | done => exact ⟨[], .done, rfl⟩
  | item h hmem _ ih =>
    obtain ⟨expansion, hexp, hv⟩ := ih
    -- an item stands at some index, and that is what is put in
    obtain ⟨i, hi⟩ := List.getElem?_of_mem hmem
    refine ⟨.index i :: expansion, .insert h hi hexp, ?_⟩
    rw [Option.bind_some, follow_cons, next_index i h, hi]
    exact hv
  | @step _ segment _ _ h _ ih =>
    obtain ⟨expansion, hexp, hv⟩ := ih
    refine ⟨segment :: expansion, .keep h hexp, ?_⟩
    rw [Option.bind_some, follow_cons]
    exact hv

/-- And where an expansion leads is reached. -/
theorem reaches_of_expansion {pos : Option Root} {path expansion : List Segment}
    (h : Expansion pos path expansion) : Reaches pos path (pos.bind (·.follow expansion)) := by
  induction h with
  | absent => exact .absent
  | done => exact .done
  | @insert root _ _ expansion items item i h hi _ ih =>
    have hfollow : root.follow (.index i :: expansion) = (Root.value item).follow expansion := by
      rw [follow_cons, next_index i h, hi]
      rfl
    rw [Option.bind_some, hfollow]
    exact .item h (List.mem_of_getElem? hi) ih
  | keep h _ ih =>
    rw [Option.bind_some, follow_cons]
    exact .step h ih

/-- **What a path reaches is what its expansions resolve to.** -/
theorem reaches_iff_exists_expansion {root : Root} {path : List Segment} {v : Option Value}
    (hne : path ≠ []) :
    Reaches (some root) path v ↔
      ∃ expansion, Expansion (some root) path expansion ∧ root.resolve expansion = v := by
  constructor
  · intro h
    obtain ⟨expansion, hexp, hv⟩ := exists_expansion_of_reaches h
    exact ⟨expansion, hexp, (follow_eq_resolve (expansion_ne_nil hexp hne)).symm.trans hv⟩
  · rintro ⟨expansion, hexp, rfl⟩
    rw [← follow_eq_resolve (expansion_ne_nil hexp hne)]
    exact reaches_of_expansion hexp

/-- The starved walks are those without an expansion. -/
theorem starved_iff_no_expansion {pos : Option Root} {path : List Segment} :
    Starved pos path ↔ ¬ ∃ expansion, Expansion pos path expansion := by
  rw [starved_iff]
  constructor
  · rintro h ⟨expansion, hexp⟩
    exact h _ (reaches_of_expansion hexp)
  · intro h v hv
    obtain ⟨expansion, hexp, -⟩ := exists_expansion_of_reaches hv
    exact h ⟨expansion, hexp⟩

/-! ## Field tests -/

/-- A single field test accepts if its path reaches something that it
accepts. -/
theorem accepts_field {serial : Nat} {root : Root} {path : Path} {test : Test} :
    (Matcher.fields serial [(path, test)]).accepts root = true ↔
      ∃ v, Reaches (some root) path.segments v ∧ test.accepts v = true := by
  simp only [Matcher.accepts, Test.allAccept, Bool.and_true, List.any_eq_true, mem_reached]

/-- **A field test refines the resolver.** With at least one segment, it
accepts a root if and only if its condition accepts what some expansion of
its path resolves to; without any, the condition is put to the root itself,
which is absent if it is a bare document. The walks without an expansion are
the starved ones, on which every condition is rejected. -/
theorem field_test_refines_resolver (serial : Nat) (root : Root) (path : Path) (test : Test) :
    ((Matcher.fields serial [(path, test)]).accepts root = true ↔
      if path.segments = [] then test.accepts root.value? = true
      else ∃ expansion, Expansion (some root) path.segments expansion ∧
        test.accepts (root.resolve expansion) = true) ∧
    (Starved (some root) path.segments ↔
      ¬ ∃ expansion, Expansion (some root) path.segments expansion) ∧
    (Starved (some root) path.segments →
      (Matcher.fields serial [(path, test)]).accepts root = false) := by
  refine ⟨?_, starved_iff_no_expansion, fun hstarved => ?_⟩
  · rw [accepts_field]
    split
    · rename_i hnil
      simp only [hnil, reaches_nil, exists_eq_left]
    · rename_i hne
      constructor
      · rintro ⟨v, hv, hacc⟩
        obtain ⟨expansion, hexp, rfl⟩ := (reaches_iff_exists_expansion hne).1 hv
        exact ⟨expansion, hexp, hacc⟩
      · rintro ⟨expansion, hexp, hacc⟩
        exact ⟨_, (reaches_iff_exists_expansion hne).2 ⟨expansion, hexp, rfl⟩, hacc⟩
  · rw [← Bool.not_eq_true, accepts_field]
    rintro ⟨v, hv, -⟩
    exact starved_iff.1 hstarved v hv

/-- Asking that a field under an empty array be absent: the walk is starved,
and even this is rejected. -/
theorem absent_under_empty_array_rejected :
    Starved (some (.document [("a", .array [])])) [.named "a", .named "b"] ∧
      (Matcher.fields 0 [(⟨"a.b", [.named "a", .named "b"]⟩, .checks [.present false])]).accepts
        (.document [("a", .array [])]) = false := by
  have hempty : Starved (some (.value (.array []))) [.named "b"] :=
    .items (spread?_array [] "b") fun item hmem => absurd hmem (List.not_mem_nil)
  have hstarved : Starved (some (.document [("a", .array [])])) [.named "a", .named "b"] :=
    .step rfl hempty
  exact ⟨hstarved, (field_test_refines_resolver 0 _ ⟨"a.b", _⟩ _).2.2 hstarved⟩

end DocQuery
