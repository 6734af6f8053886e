import DocQuery.Proofs.Compilations
import DocQuery.Proofs.JoinedPaths
/-!
# Three ways to the elements of an array

A query can ask something of the elements of an array in three ways: by a
sub-query for an element, by a path that goes on with a name, which is then
followed from each element, and by such a path with wildcards in between,
which stay at the array. What is reached through two paths is reached through
one after the other (`reaches_append`), and from an array a name goes the way
of its elements, whatever wildcards stand before it
(`reaches_wildcards_array`).

An element that is found is reached by the longer path. Conversely the longer
path may also reach what is no element, if the first path reaches something
else than arrays; where it reaches arrays only, the three ways agree on every
condition (`elements_reached_alike`).
-/


namespace DocQuery

variable {limit : Nat}

/-! ## Paths one after another -/

/-- A segment is followed from a value by following it from one of some
targets. -/
theorem exists_targets (v : Value) (segment : Segment) : ∃ targets : List Value, ∀ rest r,
    Reaches (some (.value v)) (segment :: rest) r ↔
      ∃ t ∈ targets, Reaches ((Root.value t).next segment) rest r := by
  cases segment with
  | named name => exact ⟨v.targets, fun rest r => reaches_named_iff v⟩
  | index n => exact ⟨[v], fun rest r => by simp [reaches_step (spread?_index _ n)]⟩
  | wildcard => exact ⟨[v], fun rest r => by simp [reaches_step (spread?_wildcard _)]⟩

/-- What is reached through two paths from a value, or from nowhere, is what
the second reaches from where the first leads. -/
theorem reaches_append_value {first second : List Segment} (start : Option Value)
    {r : Option Value} : Reaches (start.map .value) (first ++ second) r ↔
      ∃ v, Reaches (start.map .value) first v ∧ Reaches (v.map .value) second r := by
  induction first generalizing start with
  | nil =>
    cases start with
    | none => simp [reaches_none]
    | some x => simp [reaches_nil, Root.value?]
  | cons segment rest ih =>
    cases start with
    | none => simp [reaches_none]
    | some x =>
      obtain ⟨targets, htargets⟩ := exists_targets x segment
      have hnext (t : Value) : Reaches ((Root.value t).next segment) (rest ++ second) r ↔
          ∃ v, Reaches ((Root.value t).next segment) rest v ∧ Reaches (v.map .value) second r :=
        ih ((Root.value t).step segment)
      rw [Option.map_some, List.cons_append, htargets]
      simp only [htargets, hnext]
      constructor
      · rintro ⟨t, ht, v, hv, hr⟩
        exact ⟨v, ⟨t, ht, hv⟩, hr⟩
      · rintro ⟨v, ⟨t, ht, hv⟩, hr⟩
        exact ⟨t, ht, v, hv, hr⟩

/-- **What is reached through two paths** is what the second reaches from where
the first leads, if the first has a segment. -/
theorem reaches_append {root : Root} {first second : List Segment} (h : first ≠ [])
    {r : Option Value} : Reaches (some root) (first ++ second) r ↔
      ∃ v, Reaches (some root) first v ∧ Reaches (v.map .value) second r := by
  cases root with
  | value x => exact reaches_append_value (some x)
  | document d =>
    cases first with
    | nil => exact absurd rfl h
    | cons segment rest =>
      simp only [List.cons_append, reaches_step (spread?_document d segment)]
      exact reaches_append_value ((Root.document d).step segment)

/-! ## Wildcards -/

/-- Wildcards stay at an array, -/
theorem reaches_wildcards_array {items : List Value} {path : List Segment} {r : Option Value}
    (n : Nat) :
    Reaches (some (.value (.array items))) (List.replicate n .wildcard ++ path) r ↔
      Reaches (some (.value (.array items))) path r := by
  induction n with
  | zero => rfl
  | succ n ih =>
    rw [List.replicate_succ, List.cons_append, reaches_step (spread?_wildcard _)]
    exact ih

/-- and lead nowhere from anything else, so that more than one of them do what
one does. -/
theorem reaches_wildcards_again {v r : Option Value} {path : List Segment} (n : Nat) :
    Reaches (v.map .value) (List.replicate (n + 1) .wildcard ++ path) r ↔
      Reaches (v.map .value) (.wildcard :: path) r := by
  cases v with
  | none => simp [reaches_none]
  | some x =>
    by_cases harr : ∃ items, x = .array items
    · obtain ⟨items, rfl⟩ := harr
      rw [Option.map_some, reaches_wildcards_array, reaches_step (spread?_wildcard _)]
      rfl
    · have hnext : (Root.value x).next .wildcard = none := by
        cases x <;> first | rfl | exact absurd ⟨_, rfl⟩ harr
      rw [Option.map_some, List.replicate_succ, List.cons_append,
        reaches_step (spread?_wildcard _), reaches_step (spread?_wildcard _), hnext,
        reaches_none, reaches_none]

/-! ## The three ways -/

/-- The query that asks a condition of what a path reaches from the elements of
an array which another path leads to. -/
def Query.atElement (first second : String) (c : Condition Unit) : Query Unit :=
  .fields () [(first, .operators [.elemMatch (.fields () [(second, c)])])]

/-- The query that asks it of what the two paths reach as one, with a number of
wildcards between them. -/
def Query.atJoined (first : String) (n : Nat) (second : String) (c : Condition Unit) :
    Query Unit :=
  .fields () [(Path.joined first n second, c)]

section

variable {first second : String} {p q : Path} {name : String} {rest : List Segment}
  {c : Condition Unit} {root : Root}

/-- What is asked of elements. -/
theorem atElement_holds_iff (hp : Path.parse first = .ok p) (hq : Path.parse second = .ok q) :
    (Query.atElement first second c).Holds limit root ↔
      ∃ items, Reaches (some root) p.segments (some (.array items)) ∧
        ∃ item ∈ items, ∃ r, Reaches (some (.value item)) q.segments r ∧ c.Holds limit r := by
  rw [Query.atElement, field_holds_iff hp]
  simp only [elemMatch_holds_iff, field_holds_iff hq]
  constructor
  · rintro ⟨v, hv, items, rfl, hitem⟩
    exact ⟨items, hv, hitem⟩
  · rintro ⟨items, hv, hitem⟩
    exact ⟨_, hv, items, rfl, hitem⟩

/-- What is asked of two paths as one. -/
theorem atJoined_holds_iff (hp : Path.parse first = .ok p) (hne : p.segments ≠ [])
    (hq : Path.parse second = .ok q) (n : Nat) :
    (Query.atJoined first n second c).Holds limit root ↔
      ∃ v, Reaches (some root) p.segments v ∧ ∃ r,
        Reaches (v.map .value) (List.replicate n .wildcard ++ q.segments) r ∧ c.Holds limit r := by
  rw [Query.atJoined, field_holds_iff (Path.parse_joined hp hq n)]
  simp only [reaches_append hne]
  constructor
  · rintro ⟨r, ⟨v, hv, hr⟩, hc⟩
    exact ⟨v, hv, r, hr, hc⟩
  · rintro ⟨v, hv, r, hr, hc⟩
    exact ⟨r, ⟨v, hv, hr⟩, hc⟩

/-- Beside the two paths, only the condition has anything to be read, -/
theorem atElement_readable_iff (hp : Path.parse first = .ok p) (hq : Path.parse second = .ok q) :
    (∀ r ∈ (Query.atElement first second c).readings, ¬ r.Unreadable limit) ↔
      ∀ r ∈ c.readings, ¬ r.Unreadable limit := by
  have hfirst : ¬ (Reading.path first).Unreadable limit := by simp [Reading.Unreadable, hp]
  have hsecond : ¬ (Reading.path second).Unreadable limit := by simp [Reading.Unreadable, hq]
  simp [Query.atElement, Query.readings, Condition.readingsOf, Condition.readings,
    Operator.readingsOf, Operator.readings, hfirst, hsecond]

/-- and the two as one can be read if each of them can. -/
theorem atJoined_readable_iff (hp : Path.parse first = .ok p) (hq : Path.parse second = .ok q)
    (n : Nat) : (∀ r ∈ (Query.atJoined first n second c).readings, ¬ r.Unreadable limit) ↔
      ∀ r ∈ c.readings, ¬ r.Unreadable limit := by
  have hjoined : ¬ (Reading.path (Path.joined first n second)).Unreadable limit := by
    simp [Reading.Unreadable, Path.parse_joined hp hq n]
  simp [Query.atJoined, Query.readings, Condition.readingsOf, hjoined]

/-- What holds of an element holds on the longer path: a name is followed from
the items of an array, and wildcards before it stay at the array. -/
theorem atJoined_of_atElement (hp : Path.parse first = .ok p) (hne : p.segments ≠ [])
    (hq : Path.parse second = .ok q) (hname : q.segments = .named name :: rest) (n : Nat)
    (h : (Query.atElement first second c).Holds limit root) :
    (Query.atJoined first n second c).Holds limit root := by
  obtain ⟨items, hitems, item, hmem, r, hr, hc⟩ := (atElement_holds_iff hp hq).1 h
  refine (atJoined_holds_iff hp hne hq n).2 ⟨_, hitems, r, ?_, hc⟩
  rw [hname] at hr ⊢
  exact (reaches_wildcards_array n).2 (.item (spread?_array items name) hmem hr)

/-- What holds on the longer path holds of an element, if the first path
reaches arrays only. -/
theorem atElement_of_atJoined (hp : Path.parse first = .ok p) (hne : p.segments ≠ [])
    (hq : Path.parse second = .ok q) (hname : q.segments = .named name :: rest) {n : Nat}
    (harrays : ∀ v ∈ root.reached p.segments, ∃ items, v = some (.array items))
    (h : (Query.atJoined first n second c).Holds limit root) :
    (Query.atElement first second c).Holds limit root := by
  obtain ⟨v, hv, r, hr, hc⟩ := (atJoined_holds_iff hp hne hq n).1 h
  obtain ⟨items, rfl⟩ := harrays v (mem_reached.2 hv)
  rw [Option.map_some, reaches_wildcards_array, hname, reaches_spread (spread?_array items name),
    ← hname] at hr
  obtain ⟨item, hmem, hr⟩ := hr
  exact (atElement_holds_iff hp hq).2 ⟨items, hv, item, hmem, r, hr, hc⟩

/-- Any number of wildcards do what one does. -/
theorem atJoined_again (hp : Path.parse first = .ok p) (hne : p.segments ≠ [])
    (hq : Path.parse second = .ok q) (n : Nat) :
    (Query.atJoined first (n + 1) second c).Holds limit root ↔
      (Query.atJoined first 1 second c).Holds limit root := by
  rw [atJoined_holds_iff hp hne hq, atJoined_holds_iff hp hne hq]
  simp only [reaches_wildcards_again]

end

/-- **Three ways to the elements of an array**, through a path that has a
segment and another one that begins with a name. `em` asks a condition of what
the second reaches from elements, `joined n` of what the two reach with `n`
wildcards in between, so that `joined 0` has the dotted path; they may be
compiled anywhere. All of them compile or none. What `em` accepts the others
accept, and nothing else if the first path reaches arrays only. More than one
wildcard does what one does, whatever is reached. -/
theorem elements_reached_alike {config : Config} {first second : String} {p q : Path}
    {name : String} {rest : List Segment} (hp : Path.parse first = .ok p)
    (hne : p.segments ≠ []) (hq : Path.parse second = .ok q)
    (hname : q.segments = .named name :: rest) (c : Condition Unit)
    (em : Compilation config) (hem : em.query.shape = .atElement first second c)
    (joined : Nat → Compilation config)
    (hjoined : ∀ n, (joined n).query.shape = .atJoined first n second c) :
    (∀ n, em.Compiles ↔ (joined n).Compiles) ∧ ∀ root : Root,
      (∀ n, em.Accepts root → (joined n).Accepts root) ∧
      ((∀ v ∈ root.reached p.segments, ∃ items, v = some (.array items)) →
        ∀ n, em.Accepts root ↔ (joined n).Accepts root) ∧
      ∀ n, (joined (n + 1)).Accepts root ↔ (joined 1).Accepts root := by
  have hcompiles (n : Nat) : em.Compiles ↔ (joined n).Compiles := by
    rw [em.compiles_iff, (joined n).compiles_iff, hem, hjoined, atElement_readable_iff hp hq,
      atJoined_readable_iff hp hq]
  have hforward (root : Root) (n : Nat) (h : em.Accepts root) : (joined n).Accepts root := by
    have hholds := (Compilation.accepts_iff h.compiles root).1 h
    rw [Compilation.accepts_iff ((hcompiles n).1 h.compiles), hjoined]
    rw [hem] at hholds
    exact atJoined_of_atElement hp hne hq hname n hholds
  refine ⟨hcompiles, fun root => ⟨hforward root, fun harrays n => ⟨hforward root n, ?_⟩, ?_⟩⟩
  · intro h
    have hholds := (Compilation.accepts_iff h.compiles root).1 h
    rw [Compilation.accepts_iff ((hcompiles n).2 h.compiles), hem]
    rw [hjoined] at hholds
    exact atElement_of_atJoined hp hne hq hname harrays hholds
  · intro n
    by_cases h : em.Compiles
    · rw [Compilation.accepts_iff ((hcompiles (n + 1)).1 h),
        Compilation.accepts_iff ((hcompiles 1).1 h), hjoined, hjoined]
      exact atJoined_again hp hne hq n
    · -- a query that does not compile accepts nothing
      have hnone (k : Nat) : ¬ (joined k).Accepts root := fun ha => h ((hcompiles k).2 ha.compiles)
      exact iff_of_false (hnone _) (hnone _)

/-- Two divisions of teams: none at all, and an array of players in an array
beside a number. -/
def divisions : Root :=
  .document [("teams", .array [.null, .array
    [.array [.document [("name", .document [("first", .string "Ada")])]], .int32 7]])]

/-- In the second division the number has no name, which is found in all three
ways. -/
theorem nameless_found_alike :
    ∃ (em : Compilation {}) (joined : Nat → Compilation {}),
      em.query.shape = .atElement "teams[1]" "name.first" (.operators [.present false]) ∧
      (∀ n, (joined n).query.shape =
        .atJoined "teams[1]" n "name.first" (.operators [.present false])) ∧
      (∀ v ∈ divisions.reached [.named "teams", .index 1], ∃ items, v = some (.array items)) ∧
      em.Accepts divisions ∧ ∀ n, (joined n).Accepts divisions := by
  obtain ⟨em, hem⟩ := Compilation.exists_of_shape {}
    (.atElement "teams[1]" "name.first" (.operators [.present false]))
  choose joined hjoined using fun n => Compilation.exists_of_shape {}
    (.atJoined "teams[1]" n "name.first" (.operators [.present false]))
  have hteams : Path.parse "teams[1]" = .ok ⟨"teams[1]", [.named "teams", .index 1]⟩ := by
    decide +kernel
  have hname : Path.parse "name.first" =
      .ok ⟨"name.first", [.named "name", .named "first"]⟩ := by decide +kernel
  have harrays : ∀ v ∈ divisions.reached [.named "teams", .index 1],
      ∃ items, v = some (.array items) := by
    intro v hv
    obtain rfl := List.mem_singleton.1 hv
    exact ⟨_, rfl⟩
  have hcompiles : em.Compiles := by
    rw [em.compiles_iff, hem, atElement_readable_iff hteams hname]
    exact firstProblem?_eq_none.1 rfl
  have hfound : em.Accepts divisions := by
    rw [Compilation.accepts_iff hcompiles, hem, atElement_holds_iff hteams hname]
    refine ⟨_, mem_reached.1 (List.mem_singleton_self _), .int32 7, by simp, none, ?_, ?_⟩
    · exact .step rfl .absent
    · simp [Condition.Holds, Operator.AllHold, Operator.Holds]
  obtain ⟨-, halike⟩ := elements_reached_alike hteams (List.cons_ne_nil _ _) hname rfl
    (.operators [.present false]) em hem joined hjoined
  exact ⟨em, joined, hem, hjoined, harrays, hfound, fun n =>
    ((halike divisions).2.1 harrays n).1 hfound⟩

end DocQuery
