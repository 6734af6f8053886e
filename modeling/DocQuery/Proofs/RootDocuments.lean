import DocQuery.Proofs.Compilations
/-!
# Documents at the root and elsewhere

A document that is the root of a query is no value, while one that is an item
of an array is. Behind a first segment there is no difference: a name leads
to the same field, and indices and wildcards lead nowhere from either
(`reaches_document_iff`). A test whose path has no segment is put to the root
itself, and there the difference shows: it sees nothing at all in one place
and the document in the other (`empty_path_tells_roots_apart`).

A query overlooks a document if none of its tests of that kind tells it from
nothing (`Query.Overlooks`); one that has no such test overlooks everything.
What a query overlooks is judged alike wherever it stands, and an array has a
matching element if the query accepts one of its elements on its own
(`elements_judged_as_documents`).
-/


namespace DocQuery

variable {ι : Type} {limit : Nat} {d : Document}

/-! ## Walks -/

/-- A segment leads to the same from a document at the root as from one that
is a value. -/
theorem next_document (d : Document) (segment : Segment) :
    (Root.document d).next segment = (Root.value (.document d)).next segment := by
  cases segment <;> rfl

/-- **Behind a first segment roots do not differ.** -/
theorem reaches_document_iff {path : List Segment} (h : path ≠ []) {v : Option Value} :
    Reaches (some (.document d)) path v ↔ Reaches (some (.value (.document d))) path v := by
  cases path with
  | nil => exact absurd rfl h
  | cons segment rest =>
    rw [reaches_step (spread?_document d segment), reaches_step rfl, next_document]

/-! ## Tests of the root -/

mutual

/-- The entries that a query tests the root by, those of the members of its
groups included. What array elements have to match is not among them. -/
def Query.rootEntries : Query ι → List (String × Condition ι)
  | .logical _ all any _ => Query.rootEntriesOf all ++ Query.rootEntriesOf any
  | .fields _ entries => entries
  termination_by structural query => query

/-- The entries that several queries test the root by. -/
def Query.rootEntriesOf : List (Query ι) → List (String × Condition ι)
  | [] => []
  | query :: rest => query.rootEntries ++ Query.rootEntriesOf rest
  termination_by structural queries => queries

end

/-- No entry without a segment in its path tells a document from nothing. -/
def Condition.AllOverlook (limit : Nat) (d : Document) (entries : List (String × Condition ι)) :
    Prop :=
  ∀ e ∈ entries, ∀ path, Path.parse e.1 = .ok path → path.segments = [] →
    (e.2.Accepts limit none ↔ e.2.Accepts limit (some (.document d)))

/-- No test that a query puts to the root itself tells a document from
nothing. -/
def Query.Overlooks (limit : Nat) (d : Document) (q : Query ι) : Prop :=
  Condition.AllOverlook limit d q.rootEntries

/-- Entries that overlook a document hold of it in either place. -/
theorem entriesHold_document_iff {entries : List (String × Condition ι)}
    (hread : ∀ r ∈ Condition.readingsOf entries, ¬ r.Unreadable limit)
    (h : Condition.AllOverlook limit d entries) :
    Condition.EntriesHold limit (.document d) entries ↔
      Condition.EntriesHold limit (.value (.document d)) entries := by
  rw [entriesHold_iff, entriesHold_iff]
  refine forall₂_congr fun e he => exists_congr fun path => and_congr_right fun hparse => ?_
  by_cases hnil : path.segments = []
  · -- the condition is put to the root itself
    have hcondition : ∀ r ∈ e.2.readings, ¬ r.Unreadable limit := fun r hr =>
      hread r (Condition.mem_readingsOf.2 ⟨e, he, .inr hr⟩)
    have halike := h e he path hparse hnil
    rw [Condition.accepts_iff hcondition, Condition.accepts_iff hcondition] at halike
    simp only [hnil, reaches_nil, exists_eq_left]
    exact halike
  · simp only [reaches_document_iff hnil]

mutual

/-- **What a query overlooks is judged alike** at the root and as a value. -/
theorem Query.holds_document_iff : (q : Query ι) →
    (∀ r ∈ q.readings, ¬ r.Unreadable limit) → q.Overlooks limit d →
    (q.Holds limit (.document d) ↔ q.Holds limit (.value (.document d)))
  | .logical _ all any custom, hread, h => by
    rw [Query.readings] at hread
    rw [Query.Overlooks, Query.rootEntries] at h
    obtain ⟨hallRead, hanyRead⟩ := List.forall_mem_append.1 hread
    obtain ⟨hallOver, hanyOver⟩ := List.forall_mem_append.1 h
    rw [Query.Holds, Query.Holds, (Query.hold_document_iff all hallRead hallOver).1,
      (Query.hold_document_iff any hanyRead hanyOver).2]
    rfl
  | .fields _ entries, hread, h => entriesHold_document_iff hread h
  termination_by structural q => q

/-- So are documents that a group overlooks, whether all of its members are
asked for or some. -/
theorem Query.hold_document_iff : (qs : List (Query ι)) →
    (∀ r ∈ Query.readingsOf qs, ¬ r.Unreadable limit) →
    Condition.AllOverlook limit d (Query.rootEntriesOf qs) →
    (Query.AllHold limit (.document d) qs ↔ Query.AllHold limit (.value (.document d)) qs) ∧
    (Query.AnyHolds limit (.document d) qs ↔ Query.AnyHolds limit (.value (.document d)) qs)
  | [], _, _ => ⟨Iff.rfl, Iff.rfl⟩
  | q :: rest, hread, h => by
    rw [Query.readingsOf] at hread
    rw [Query.rootEntriesOf] at h
    obtain ⟨hqRead, hrestRead⟩ := List.forall_mem_append.1 hread
    obtain ⟨hqOver, hrestOver⟩ := List.forall_mem_append.1 h
    have hq := q.holds_document_iff hqRead hqOver
    obtain ⟨hall, hany⟩ := Query.hold_document_iff rest hrestRead hrestOver
    simp only [Query.AllHold, Query.AnyHolds]
    exact ⟨and_congr hq hall, or_congr hq hany⟩
  termination_by structural qs => qs

end

/-! ## Elements -/

/-- The query that asks for an array under a key with an element that matches
another query. -/
def Query.elementOf (key : String) (q : Query Unit) : Query Unit :=
  .fields () [(key, .operators [.elemMatch q])]

/-- A key that is read as the one segment with its name. -/
def Path.IsPlain (key : String) : Prop :=
  ∃ path, Path.parse key = .ok path ∧ path.segments = [.named key]

/-- Asking for an element under a plain key has nothing to be read but what
the query for the element has. -/
theorem elementOf_readable_iff {key : String} (hkey : Path.IsPlain key) {q : Query Unit} :
    (∀ r ∈ (q.elementOf key).readings, ¬ r.Unreadable limit) ↔
      ∀ r ∈ q.readings, ¬ r.Unreadable limit := by
  obtain ⟨path, hparse, -⟩ := hkey
  have hpath : ¬ (Reading.path key).Unreadable limit := by
    simp [Reading.Unreadable, hparse]
  simp [Query.elementOf, Query.readings, Condition.readingsOf, Condition.readings,
    Operator.readingsOf, Operator.readings, hpath]

/-- It is put to the items of the array under the key. -/
theorem elementOf_holds_iff {key : String} (hkey : Path.IsPlain key) {q : Query Unit}
    {items : List Value} : (q.elementOf key).Holds limit (.document [(key, .array items)]) ↔
      ∃ item ∈ items, q.Holds limit (.value item) := by
  obtain ⟨path, hparse, hsegments⟩ := hkey
  have hnext : (Root.document [(key, .array items)]).next (.named key) =
      some (.value (.array items)) := by
    simp [Root.next, Root.step, Root.document?, Entries.get?]
  rw [Query.elementOf, field_holds_iff hparse, hsegments]
  simp [reaches_step (spread?_document _ _), hnext, reaches_nil, Root.value?, elemMatch_holds_iff]

variable {config : Config}

/-- **A document is judged alike wherever it stands**, at the root or as a
value, if the query overlooks it. Under a plain key, documents in an array
have an element that a query asks for if the query, compiled on its own,
accepts one of them: as a value, and if it overlooks them all, as a root. The
query for the element compiles because the other one does. -/
theorem elements_judged_as_documents (inner : Compilation config) (m : Matcher)
    (hm : inner.result = .ok m) :
    (∀ d, inner.query.shape.Overlooks config.regexSizeLimit d →
      m.acceptsDocument d = m.acceptsValue (.document d)) ∧
    ∀ (key : String) (outer : Compilation config), Path.IsPlain key →
      outer.query.shape = inner.query.shape.elementOf key →
      ∃ m', outer.result = .ok m' ∧ ∀ ds : List Document,
        m'.acceptsDocument [(key, .array (ds.map .document))] =
            ds.any (fun d => m.acceptsValue (.document d)) ∧
        ((∀ d ∈ ds, inner.query.shape.Overlooks config.regexSizeLimit d) →
          m'.acceptsDocument [(key, .array (ds.map .document))] = ds.any m.acceptsDocument) := by
  have hreadable := inner.compiles_iff.1 ⟨m, hm⟩
  have halike (d : Document) (h : inner.query.shape.Overlooks config.regexSizeLimit d) :
      m.acceptsDocument d = m.acceptsValue (.document d) := by
    rw [Bool.eq_iff_iff, Matcher.acceptsDocument, Matcher.acceptsValue,
      Compilation.accepts_iff_of_result hm, Compilation.accepts_iff_of_result hm]
    exact inner.query.shape.holds_document_iff hreadable h
  refine ⟨halike, fun key outer hkey hshape => ?_⟩
  have houter : ∀ r ∈ outer.query.shape.readings, ¬ r.Unreadable config.regexSizeLimit := by
    rw [hshape]
    exact (elementOf_readable_iff hkey).2 hreadable
  obtain ⟨m', hm'⟩ := outer.compiles_iff.2 houter
  have hvalues (ds : List Document) : m'.acceptsDocument [(key, .array (ds.map .document))] =
      ds.any fun d => m.acceptsValue (.document d) := by
    rw [Bool.eq_iff_iff, Matcher.acceptsDocument, Compilation.accepts_iff_of_result hm', hshape,
      elementOf_holds_iff hkey, List.any_eq_true]
    simp only [List.mem_map, exists_exists_and_eq_and]
    exact exists_congr fun d => and_congr_right fun _ =>
      (Compilation.accepts_iff_of_result hm _).symm
  refine ⟨m', hm', fun ds => ⟨hvalues ds, fun hover => ?_⟩⟩
  rw [hvalues ds, Bool.eq_iff_iff, List.any_eq_true, List.any_eq_true]
  refine exists_congr fun d => and_congr_right fun hd => ?_
  rw [halike d (hover d hd)]

/-- Asking whether the root is there at all tells the two places apart, -/
theorem empty_path_tells_roots_apart :
    ∃ inner outer : Compilation {},
      inner.query.shape = .fields () [("", .operators [.present true])] ∧
      Path.IsPlain "f" ∧ outer.query.shape = inner.query.shape.elementOf "f" ∧
      ∃ m m', inner.result = .ok m ∧ outer.result = .ok m' ∧
        m.acceptsDocument [] = false ∧ m.acceptsValue (.document []) = true ∧
        m'.acceptsDocument [("f", .array [.document []])] = true := by
  let events : List Event :=
    [.step (.store "q" (.fields .new [("", .operators [.present true])])),
      .step (.store "e" (.fields .new [("f", .operators [.elemMatch (.fields (.held "q") [])])]))]
  refine ⟨⟨.above, .strict, events, fun _ => true,
      .fields ⟨0, 1⟩ [("", .operators [.present true])], ?_⟩,
    ⟨.above, .strict, events, fun _ => true, .fields ⟨1, 2⟩ [("f", .operators
      [.elemMatch (.fields ⟨0, 1⟩ [("", .operators [.present true])])])], ?_⟩, rfl, ⟨_, rfl, rfl⟩, rfl, _, _, rfl, rfl,
    rfl, rfl, rfl⟩
  · exact Session.mem_world_of_get? (rfl : Entries.get? "q" _ = some _)
  · exact Session.mem_world_of_get? (rfl : Entries.get? "e" _ = some _)

/-- and asking whether it is unequal to a number does not, whatever is asked
besides. -/
theorem unequal_root_judged_alike :
    ∃ inner outer : Compilation {},
      inner.query.shape =
        .fields () [("", .operators [.ne (.int32 1)]), ("x", .operators [.gt (.int32 3)])] ∧
      (∀ d, inner.query.shape.Overlooks 1048576 d) ∧ Path.IsPlain "f" ∧
      outer.query.shape = inner.query.shape.elementOf "f" ∧
      ∃ m m', inner.result = .ok m ∧ outer.result = .ok m' ∧
        m'.acceptsDocument [("f", .array [.document [], .document [("x", .double .one)]])] =
          [[], [("x", .double .one)]].any m.acceptsDocument := by
  obtain ⟨inner, hinner⟩ := Compilation.exists_of_shape {}
    (.fields () [("", .operators [.ne (.int32 1)]), ("x", .operators [.gt (.int32 3)])])
  obtain ⟨outer, houter⟩ := Compilation.exists_of_shape {} (inner.query.shape.elementOf "f")
  have hover : ∀ d, inner.query.shape.Overlooks 1048576 d := by
    rw [hinner]
    intro d e he path hparse hnil
    rcases List.mem_cons.1 he with rfl | he
    · -- neither an absent value nor a document equals a number
      have hread : ∀ r ∈ (Condition.operators [.ne (.int32 1)] : Condition Unit).readings,
          ¬ r.Unreadable 1048576 := firstProblem?_eq_none.1 rfl
      rw [Condition.accepts_iff hread, Condition.accepts_iff hread]
      simp [Condition.Holds, Operator.AllHold, Operator.Holds, Value.equals, Value.equalScalars,
        Value.number?, Value.identical]
    · obtain rfl := List.mem_singleton.1 he
      cases hparse
      cases hnil
  have hplain : Path.IsPlain "f" := ⟨_, rfl, rfl⟩
  obtain ⟨m, hm⟩ : inner.Compiles := by
    rw [inner.compiles_iff, hinner]
    exact firstProblem?_eq_none.1 rfl
  obtain ⟨m', hm', helements⟩ :=
    (elements_judged_as_documents inner m hm).2 "f" outer hplain houter
  have h := (helements [[], [("x", .double .one)]]).2 fun d _ => hover d
  exact ⟨inner, outer, hinner, hover, hplain, houter, m, m', hm, hm', h⟩

end DocQuery
