import DocQuery.Proofs.Content
import DocQuery.Proofs.Outcome
import DocQuery.Proofs.SortPaths
/-!
# The pipeline of a find

A find goes by a plan, a tree that two functions run: `Plan.values` looks for
a projection at the root, and `Plan.rows` runs what lies below. Read as stages
(`Stages`), the options of a find say directly what is done to the documents
that a query accepts: they are sorted, the first of them are kept, and each is
shown as it is or as a projection makes it. If they cannot be sorted there is
nothing to be shown. The tree of a find is the one that its stages spell
(`ofMatcher_eq`), running it is going through them (`find_eq_stages`), and no
projection lies below its root (`rootOnly_ofFind`).
-/


namespace DocQuery

variable {α : Type}

/-! ## Stages -/

/-- The rows whose document a matcher accepts. -/
def Matcher.kept (m : Matcher) (document : α → Document) (input : List α) : List α :=
  input.filter fun row => m.acceptsDocument (document row)

/-- The options of a find, ready for use. -/
structure Stages where
  paths : List SortPath
  limit : Option Nat
  projector : Option Projector

namespace Stages

/-- Reads options: the sort keys first, then the projection. -/
def ofOptions (options : FindOptions) : Except EngineError Stages := do
  let paths ← options.sort.mapM SortPath.ofKey
  let projector ← options.projection.mapM Projector.ofProjection
  return { paths, limit := options.limit, projector }

/-- Rows in the order of the sort paths, if there are any. -/
def sorted (stages : Stages) (sorting : Sorting) (strings : StringOrdering)
    (document : α → Document) (rows : List α) : Option (List α) :=
  if stages.paths.isEmpty then some rows
  else sorting.sortBy (SortPath.compareRows strings document stages.paths) rows

/-- The first rows, up to the limit if there is one. -/
def limited (stages : Stages) (rows : List α) : List α :=
  match stages.limit with
  | some count => rows.take count
  | none => rows

/-- What is made of a document. -/
def shown (stages : Stages) (d : Document) : Value :=
  match stages.projector with
  | some projector => projector.apply d
  | none => .document d

/-- The rows that are chosen from those that a matcher accepts. -/
def chosen (stages : Stages) (sorting : Sorting) (strings : StringOrdering) (m : Matcher)
    (document : α → Document) (input : List α) : Option (List α) :=
  (stages.sorted sorting strings document (m.kept document input)).map stages.limited

/-- The values that stages make of what a matcher accepts. -/
def values (stages : Stages) (sorting : Sorting) (strings : StringOrdering) (m : Matcher)
    (document : α → Document) (input : List α) : Option (List Value) :=
  (stages.chosen sorting strings m document input).map fun rows =>
    rows.map fun row => stages.shown (document row)

/-- The plan that chooses rows. -/
def choosing (stages : Stages) (m : Matcher) : Plan :=
  Plan.withLimit stages.limit <|
    if stages.paths.isEmpty then .filter m .scan else .sort stages.paths (.filter m .scan)

/-- The plan that stages spell. -/
def plan (stages : Stages) (m : Matcher) : Plan :=
  match stages.projector with
  | some projector => .project projector (stages.choosing m)
  | none => stages.choosing m

end Stages

/-- The limit is read as it stands. -/
theorem Stages.ofOptions_limit (options : FindOptions) (limit : Option Nat) :
    ofOptions { options with limit } =
      (ofOptions options).map fun stages => { stages with limit } := by
  unfold ofOptions
  rcases options.sort.mapM SortPath.ofKey with e | paths
  · rfl
  rcases options.projection.mapM Projector.ofProjection with e | projector <;> rfl

/-- Options that can be read can be read without their projection. -/
theorem Stages.ofOptions_unprojected {options : FindOptions} {stages : Stages}
    (h : ofOptions options = .ok stages) :
    ofOptions { options with projection := none } = .ok { stages with projector := none } := by
  obtain ⟨paths, hpaths, hstages⟩ := bind_eq_ok h
  obtain ⟨projector, -, hprojector⟩ := bind_eq_ok hstages
  cases hprojector
  show (options.sort.mapM SortPath.ofKey >>= _) = _
  rw [hpaths]
  rfl

namespace Plan

/-- A sort stage is put on a plan if there are paths to sort by. -/
theorem withSort_eq (keys : List SortKey) (source : Plan) :
    withSort keys source = (keys.mapM SortPath.ofKey).map fun paths =>
      if paths.isEmpty then source else .sort paths source := by
  cases keys with
  | nil => rfl
  | cons key keys =>
    simp only [withSort, List.isEmpty_cons, List.mapM_cons]
    rcases SortPath.ofKey key with e | path
    · rfl
    rcases keys.mapM SortPath.ofKey with e | paths <;> rfl

/-- **The plan that options make of a matcher** is the one that their stages
spell. -/
theorem ofMatcher_eq (options : FindOptions) (m : Matcher) :
    ofMatcher options m = (Stages.ofOptions options).map fun stages => stages.plan m := by
  unfold ofMatcher Stages.ofOptions
  rw [withSort_eq]
  rcases options.sort.mapM SortPath.ofKey with e | paths
  · rfl
  rcases hprojection : options.projection with - | projection
  · rfl
  simp only [withProjection, Option.mapM_some]
  rcases Projector.ofProjection projection with e | projector <;> rfl

/-! ## Where projections stand -/

/-- Whether a plan has no projection at all. -/
def ProjectionFree : Plan → Prop
  | scan => True
  | filter _ source | sort _ source | limit _ source => source.ProjectionFree
  | project _ _ => False

/-- Whether a plan has a projection at its root only. -/
def RootOnly : Plan → Prop
  | project _ source => source.ProjectionFree
  | plan => plan.ProjectionFree

theorem ProjectionFree.rootOnly {plan : Plan} (h : plan.ProjectionFree) : plan.RootOnly := by
  cases plan with
  | project => exact h.elim
  | _ => exact h

variable {stages : Stages} {m : Matcher}

theorem projectionFree_choosing : (stages.choosing m).ProjectionFree := by
  unfold Stages.choosing withLimit
  split <;> split <;> trivial

theorem rootOnly_plan : (stages.plan m).RootOnly := by
  unfold Stages.plan
  cases stages.projector with
  | some projector => exact projectionFree_choosing
  | none => exact projectionFree_choosing.rootOnly

/-- **In the plan of a find a projection stands at the root only.** -/
theorem rootOnly_ofFind {settings : CompileSettings} {query : Query Identity}
    {options : FindOptions} {s : CompileState} {plan : Plan}
    (h : (outcome (ofFind settings query options) s).1 = .ok plan) : plan.RootOnly := by
  rw [outcome_ofFind] at h
  obtain ⟨m, -, hplan⟩ := bind_eq_ok h
  rw [ofMatcher_eq] at hplan
  obtain ⟨stages, -, rfl⟩ := map_eq_ok hplan
  exact rootOnly_plan

/-! ## Running a plan -/

variable {sorting : Sorting} {strings : StringOrdering} {document : α → Document}
  {input : List α}

/-- What the rows of a plan come to, with a projection refused instead of
passed over. -/
def rows? (sorting : Sorting) (strings : StringOrdering) (document : α → Document) :
    Plan → List α → Option (Option (List α))
  | scan, input => some (some input)
  | filter matcher source, input =>
    (rows? sorting strings document source input).map fun rows =>
      rows.map fun rows => rows.filter fun row => matcher.acceptsDocument (document row)
  | sort paths source, input =>
    (rows? sorting strings document source input).map fun rows =>
      rows.bind <|
        sorting.sortBy fun a b => SortPath.compareAll strings paths (document a) (document b)
  | limit count source, input =>
    (rows? sorting strings document source input).map fun rows =>
      rows.map fun rows => rows.take count
  | project _ _, _ => none

/-- What the values of a plan come to, with a projection below the root
refused. -/
def values? (sorting : Sorting) (strings : StringOrdering) (document : α → Document)
    (plan : Plan) (input : List α) : Option (Option (List Value)) :=
  match plan with
  | project projector source =>
    (rows? sorting strings document source input).map fun rows =>
      rows.map fun rows => rows.map fun row => projector.apply (document row)
  | other =>
    (rows? sorting strings document other input).map fun rows =>
      rows.map fun rows => rows.map fun row => .document (document row)

theorem ProjectionFree.rows?_eq {plan : Plan} (h : plan.ProjectionFree) :
    plan.rows? sorting strings document input =
      some (plan.rows sorting strings document input) := by
  induction plan with
  | scan => rfl
  | filter _ _ ih | sort _ _ ih | limit _ _ ih => rw [rows?, rows, ih h]; rfl
  | project => exact h.elim

theorem values_of_projectionFree {plan : Plan} (h : plan.ProjectionFree) :
    plan.values sorting strings document input =
      (plan.rows sorting strings document input).map fun rows =>
        rows.map fun row => .document (document row) := by
  cases plan with
  | project => exact h.elim
  | _ => rfl

theorem values?_of_projectionFree {plan : Plan} (h : plan.ProjectionFree) :
    plan.values? sorting strings document input =
      some (plan.values sorting strings document input) := by
  have hrows : plan.rows? sorting strings document input =
      some (plan.rows sorting strings document input) := h.rows?_eq
  rw [values_of_projectionFree h]
  cases plan with
  | project => exact h.elim
  | _ => exact congrArg (Option.map _) hrows

/-- A plan with a projection at its root only never passes over one. -/
theorem RootOnly.values?_eq {plan : Plan} (h : plan.RootOnly) :
    plan.values? sorting strings document input =
      some (plan.values sorting strings document input) := by
  cases plan with
  | project _ source =>
    have hrows : source.rows? sorting strings document input =
        some (source.rows sorting strings document input) := ProjectionFree.rows?_eq h
    exact congrArg (Option.map _) hrows
  | _ => exact values?_of_projectionFree h

theorem rows_withLimit (plan : Plan) :
    (withLimit stages.limit plan).rows sorting strings document input =
      (plan.rows sorting strings document input).map stages.limited := by
  unfold withLimit Stages.limited
  cases stages.limit with
  | some count => rfl
  | none => exact Option.map_id'.symm

theorem rows_choosing : (stages.choosing m).rows sorting strings document input =
    stages.chosen sorting strings m document input := by
  rw [Stages.choosing, rows_withLimit, Stages.chosen, Stages.sorted]
  split <;> rfl

/-- **Running the plan of stages** is going through them. -/
theorem values_plan : (stages.plan m).values sorting strings document input =
    stages.values sorting strings m document input := by
  unfold Stages.plan Stages.values Stages.shown
  rw [← rows_choosing]
  cases stages.projector with
  | some projector => rfl
  | none => exact values_of_projectionFree projectionFree_choosing

end Plan

/-! ## Finding -/

section Find

variable {engine : Engine} {alive : Nat → Bool} {query : Query Identity} {options : FindOptions}
  {document : α → Document} {input : List α}

/-- **Finding is going through the stages** that the options are read as. -/
theorem Engine.find_eq_stages : engine.find alive query options document input =
    ((engine.compile alive query).1 >>= fun m => (Stages.ofOptions options).map fun stages =>
        stages.values engine.sorting engine.config.stringOrdering m document input,
      (engine.compile alive query).2) := by
  rw [find_eq]
  congr 1
  rcases (engine.compile alive query).1 with e | m
  · rfl
  · show (Plan.ofMatcher options m).map _ = (Stages.ofOptions options).map _
    rw [Plan.ofMatcher_eq]
    rcases Stages.ofOptions options with e | stages
    · rfl
    · exact congrArg Except.ok Plan.values_plan

namespace Engine

variable {m : Matcher} {stages : Stages}

/-- A find comes to what its stages do if the query compiles and the options
can be read. -/
theorem find_of_ok (hm : (engine.compile alive query).1 = .ok m)
    (hread : Stages.ofOptions options = .ok stages) :
    (engine.find alive query options document input).1 =
      .ok (stages.values engine.sorting engine.config.stringOrdering m document input) := by
  rw [find_eq_stages, hm, hread]
  rfl

/-- A find has no error only if the query compiles and the options can be
read. -/
theorem find_eq_ok {values : Option (List Value)}
    (h : (engine.find alive query options document input).1 = .ok values) :
    ∃ m stages, (engine.compile alive query).1 = .ok m ∧ Stages.ofOptions options = .ok stages ∧
      stages.values engine.sorting engine.config.stringOrdering m document input = values := by
  rw [find_eq_stages] at h
  obtain ⟨m, hm, hstages⟩ := bind_eq_ok h
  obtain ⟨stages, hread, hvalues⟩ := map_eq_ok hstages
  exact ⟨m, stages, hm, hread, hvalues⟩

/-- Without options, finding is filtering. -/
theorem find_empty : engine.find alive query .empty document input =
    ((engine.filter alive query document input).1.map fun rows =>
        rows.map fun rows => rows.map fun row => .document (document row),
      (engine.filter alive query document input).2) := by
  rw [find_eq_stages, filter_eq]
  rcases (engine.compile alive query).1 with e | m <;> rfl

/-- A limit keeps the first values. -/
theorem find_limit {count : Nat} :
    (engine.find alive query { options with limit := some count } document input).1 =
      (engine.find alive query { options with limit := none } document input).1.map
        fun values => values.map fun values => values.take count := by
  rw [find_eq_stages, find_eq_stages, Stages.ofOptions_limit options (some count),
    Stages.ofOptions_limit options none]
  rcases (engine.compile alive query).1 with e | m
  · rfl
  rcases Stages.ofOptions options with e | stages
  · rfl
  refine congrArg Except.ok ?_
  let sorted := stages.sorted engine.sorting engine.config.stringOrdering document
    (m.kept document input)
  let shown (rows : List α) : List Value := rows.map fun row => stages.shown (document row)
  show (sorted.map fun rows => rows.take count).map shown =
    ((sorted.map fun rows => rows).map shown).map fun values => values.take count
  cases sorted with
  | none => rfl
  | some rows => exact congrArg some List.map_take

end Engine

namespace Stages

variable {β : Type} {sorting : Sorting} {strings : StringOrdering} {m : Matcher} (stages : Stages)

/-- Rows are chosen by their documents alone, so what they remember beside
them can be dropped before or after. -/
theorem chosen_map (f : β → α) (input : List β) :
    stages.chosen sorting strings m document (input.map f) =
      (stages.chosen sorting strings m (fun row => document (f row)) input).map
        fun rows => rows.map f := by
  have hsorted (rows : List β) : stages.sorted sorting strings document (rows.map f) =
      (stages.sorted sorting strings (fun row => document (f row)) rows).map
        fun rows => rows.map f := by
    unfold sorted
    split
    · rfl
    · exact Sorting.sortBy_map f rows
  have hlimited (rows : List β) : stages.limited (rows.map f) = (stages.limited rows).map f := by
    unfold limited
    cases stages.limit with
    | some count => exact List.map_take.symm
    | none => rfl
  unfold chosen Matcher.kept
  rw [List.filter_map, hsorted, Option.map_map, Option.map_map]
  exact congrArg (Option.map · _) (funext hlimited)

/-! ### Sorting -/

/-- Sorting loses no row and doubles none. -/
theorem perm_of_sorted {rows sorted : List α}
    (h : stages.sorted sorting strings document rows = some sorted) : sorted.Perm rows := by
  unfold Stages.sorted at h
  split at h
  · obtain rfl := Option.some.inj h
    exact .refl _
  · exact Sorting.perm_of_sortBy h

/-- **Stages sort stably** where the order of sort keys is transitive. -/
theorem exists_sorted {rows : List α}
    (h : ∀ p ∈ stages.paths, TransitiveOn (Value.compareKeys strings) (p.keysOf document rows)) :
    ∃ sorted, stages.sorted sorting strings document rows = some sorted ∧
      StableSort (SortPath.compareRows strings document stages.paths) rows sorted := by
  unfold Stages.sorted
  split <;> rename_i hpaths
  · rw [List.isEmpty_iff.1 hpaths]
    exact ⟨rows, rfl, .refl fun _ _ => rfl⟩
  · exact Sorting.exists_sortBy (SortPath.transitiveOn_compareRows h)

theorem chosen_subperm {rows : List α}
    (h : stages.chosen sorting strings m document input = some rows) : rows.Subperm input := by
  obtain ⟨sorted, hsorted, rfl⟩ := Option.map_eq_some_iff.1 h
  have hlimited : (stages.limited sorted).Sublist sorted := by
    unfold limited
    cases stages.limit with
    | some count => exact List.take_sublist count sorted
    | none => exact List.Sublist.refl sorted
  have hperm : sorted.Perm (m.kept document input) := stages.perm_of_sorted hsorted
  exact hlimited.subperm.trans (hperm.subperm.trans List.filter_sublist.subperm)

/-- **What is chosen stands at different places of the input.** -/
theorem exists_places {rows : List α}
    (h : stages.chosen sorting strings m document input = some rows) :
    ∃ places : List Nat, places.Nodup ∧ rows.map some = places.map fun i => input[i]? := by
  -- The same is chosen from rows that remember their places.
  have hplaced : (stages.chosen sorting strings m (fun row : α × Nat => document row.1)
      input.zipIdx).map (fun rows => rows.map (·.1)) = some rows := by
    rw [← stages.chosen_map, List.zipIdx_map_fst, h]
  obtain ⟨placed, hchosen, rfl⟩ := Option.map_eq_some_iff.1 hplaced
  have hsub : placed.Subperm input.zipIdx := stages.chosen_subperm hchosen
  refine ⟨placed.map (·.2), ?_, ?_⟩
  · obtain ⟨kept, hperm, hkept⟩ := hsub
    have hnodup : (input.zipIdx.map (·.2)).Nodup := by
      rw [List.zipIdx_map_snd]
      exact List.nodup_range'
    exact (hperm.map _).nodup_iff.1 ((hkept.map _).nodup hnodup)
  · rw [List.map_map, List.map_map]
    refine List.map_congr_left fun row hrow => ?_
    exact (List.mem_zipIdx_iff_getElem?.1 (hsub.subset hrow)).symm

/-- So each value is shown from a place of its own. -/
theorem exists_places_shown {values : List Value}
    (h : stages.values sorting strings m document input = some values) :
    ∃ places : List Nat, places.Nodup ∧ values.map some =
      places.map fun i => input[i]?.map fun row => stages.shown (document row) := by
  obtain ⟨rows, hrows, rfl⟩ := Option.map_eq_some_iff.1 h
  obtain ⟨places, hnodup, hplaces⟩ := stages.exists_places hrows
  refine ⟨places, hnodup, ?_⟩
  calc (rows.map fun row => stages.shown (document row)).map some
      = (rows.map some).map (Option.map fun row => stages.shown (document row)) := by
        rw [List.map_map, List.map_map]
        rfl
    _ = places.map fun i => input[i]?.map fun row => stages.shown (document row) := by
        rw [hplaces, List.map_map]
        rfl

end Stages

/-- **Planning and running a plan is going through stages.** For every engine,
query, options and input:

* a find comes to what the stages make of the rows that the compiled query
  accepts, errors included;
* its values are shown from rows at different places of the input;
* filtering gives the rows that the query accepts, and a find without options
  shows these;
* a limit keeps the first values of the find without one;
* a projection shows the same rows in the same order;
* stages sort by putting rows in another order, and they do sort, stably,
  where the order of sort keys is transitive on what each path leads to;
* in the plan a projection stands at the root only, so that running the plan
  never passes over one.
-/
theorem find_through_stages (engine : Engine) (alive : Nat → Bool) (query : Query Identity)
    (options : FindOptions) (document : α → Document) (input : List α) :
    let sorting := engine.sorting
    let strings := engine.config.stringOrdering
    engine.find alive query options document input =
      (do
        let m ← (engine.compile alive query).1
        let stages ← Stages.ofOptions options
        return stages.values sorting strings m document input,
      (engine.compile alive query).2) ∧
    (∀ values, (engine.find alive query options document input).1 = .ok (some values) →
      ∃ (stages : Stages) (places : List Nat), Stages.ofOptions options = .ok stages ∧
        places.Nodup ∧ values.map some =
          places.map fun i => input[i]?.map fun row => stages.shown (document row)) ∧
    (engine.filter alive query document input =
        ((engine.compile alive query).1.map fun m => some (m.kept document input),
          (engine.compile alive query).2) ∧
      engine.find alive query .empty document input =
        ((engine.filter alive query document input).1.map fun rows =>
            rows.map fun rows => rows.map fun row => .document (document row),
          (engine.filter alive query document input).2)) ∧
    (∀ count, (engine.find alive query { options with limit := some count } document input).1 =
      (engine.find alive query { options with limit := none } document input).1.map
        fun values => values.map fun values => values.take count) ∧
    (∀ values, (engine.find alive query options document input).1 = .ok (some values) →
      ∃ (stages : Stages) (rows : List α), Stages.ofOptions options = .ok stages ∧
        (engine.find alive query { options with projection := none } document input).1 =
          .ok (some (rows.map fun row => .document (document row))) ∧
        values = rows.map fun row => stages.shown (document row)) ∧
    (∀ (stages : Stages) (rows : List α),
      (∀ sorted, stages.sorted sorting strings document rows = some sorted →
        sorted.Perm rows) ∧
      ((∀ p ∈ stages.paths,
          TransitiveOn (Value.compareKeys strings) (p.keysOf document rows)) →
        ∃ sorted, stages.sorted sorting strings document rows = some sorted ∧
          StableSort (SortPath.compareRows strings document stages.paths) rows sorted)) ∧
    (∀ settings s plan, (outcome (Plan.ofFind settings query options) s).1 = .ok plan →
      plan.RootOnly ∧ ∀ rows : List α,
        plan.values? sorting strings document rows =
          some (plan.values sorting strings document rows)) := by
  intro sorting strings
  refine ⟨Engine.find_eq_stages, ?_, ⟨Engine.filter_eq, Engine.find_empty⟩,
    fun count => Engine.find_limit, ?_,
    fun stages rows => ⟨fun _ => stages.perm_of_sorted, stages.exists_sorted⟩, ?_⟩
  · intro values hvalues
    obtain ⟨m, stages, -, hread, hvalues⟩ := Engine.find_eq_ok hvalues
    obtain ⟨places, hnodup, hplaces⟩ := stages.exists_places_shown hvalues
    exact ⟨stages, places, hread, hnodup, hplaces⟩
  · intro values hvalues
    obtain ⟨m, stages, hm, hread, hvalues⟩ := Engine.find_eq_ok hvalues
    obtain ⟨rows, hrows, rfl⟩ := Option.map_eq_some_iff.1 hvalues
    have hunprojected : (engine.find alive query { options with projection := none }
        document input).1 = _ := Engine.find_of_ok hm (Stages.ofOptions_unprojected hread)
    refine ⟨stages, rows, hread, hunprojected.trans (congrArg Except.ok ?_), rfl⟩
    exact Option.map_eq_some_iff.2 ⟨rows, hrows, rfl⟩
  · intro settings s plan hplan
    have hroot := Plan.rootOnly_ofFind hplan
    exact ⟨hroot, fun rows => hroot.values?_eq⟩

end Find

/-- Documents with letters, one without an a. -/
def letters : List Document :=
  [[("a", .int32 3), ("b", .int32 1)], [("b", .int32 5)], [("a", .int32 2), ("b", .int32 1)],
    [("a", .int32 1), ("b", .int32 2)]]

/-- The a of the two documents with the largest b. -/
def largestB : FindOptions :=
  { sort := [⟨"b", .descending⟩], limit := some 2, projection := some (.fields ["a"]) }

/-- Of the documents that have an a, the last one comes first, and the first
one comes before the third, with which it ties. -/
theorem letters_by_largestB :
    let engine := Engine.new .strict {}
    let havingA : Query Identity := .fields ⟨0, 1⟩ [("a", .operators [.present true])]
    let values : List Value := [.document [("a", .int32 1)], .document [("a", .int32 3)]]
    (engine.find (fun _ => true) havingA largestB id letters).1 = .ok (some values) ∧
      (∃ (stages : Stages) (rows : List Document), Stages.ofOptions largestB = .ok stages ∧
        (engine.find (fun _ => true) havingA { largestB with projection := none } id letters).1 =
          .ok (some (rows.map .document)) ∧ values = rows.map stages.shown) ∧
      ∃ plan, (outcome (Plan.ofFind (engine.settings fun _ => true) havingA largestB)
        engine.state).1 = .ok plan ∧ plan.RootOnly := by
  intro engine havingA values
  let byB : SortPath := ⟨[.named "b"], .descending⟩
  obtain ⟨m, hm, hkept⟩ : ∃ m, (engine.compile (fun _ => true) havingA).1 = .ok m ∧
      m.kept id letters = [letters[0], letters[2], letters[3]] := ⟨_, rfl, rfl⟩
  obtain ⟨projector, hread, hshown⟩ : ∃ projector,
      Stages.ofOptions largestB = .ok ⟨[byB], some 2, some projector⟩ ∧
        [letters[3], letters[0]].map projector.apply = values := ⟨_, rfl, rfl⟩
  have hunmixed : Value.Unmixed (byB.keysOf id (m.kept id letters)) := by
    rw [hkept]
    constructor
    · rintro s t ⟨key, ⟨row, hrow, rfl⟩, hs⟩ -
      simp only [List.mem_cons, List.not_mem_nil, or_false] at hrow
      obtain rfl | rfl | rfl := hrow <;> cases hs
    · rintro n x ⟨key, ⟨row, hrow, rfl⟩, hn⟩ -
      simp only [List.mem_cons, List.not_mem_nil, or_false] at hrow
      obtain rfl | rfl | rfl := hrow <;> cases hn
  obtain ⟨sorted, hsorted, hstable⟩ : ∃ sorted,
      Stages.sorted ⟨[byB], some 2, some projector⟩ .strict .locale id (m.kept id letters) =
        some sorted ∧
      StableSort (SortPath.compareRows .locale id [byB]) (m.kept id letters) sorted :=
    Stages.exists_sorted _ (List.forall_mem_singleton.2 hunmixed.transitiveOn)
  -- the first document ties with the third and comes after the fourth
  have horder : StableSort (SortPath.compareRows .locale id [byB])
      [letters[0], letters[2], letters[3]] [letters[3], letters[0], letters[2]] := by
    refine ⟨by decide, ?_, fun a ha => ?_⟩
    · show ([letters[3]] ++ [letters[0], letters[2]]).Perm ([letters[0], letters[2]] ++ _)
      exact List.perm_append_comm
    · simp only [List.mem_cons, List.not_mem_nil, or_false] at ha
      obtain rfl | rfl | rfl := ha <;> rfl
  obtain rfl : sorted = [letters[3], letters[0], letters[2]] := hstable.unique (hkept ▸ horder)
  have hvalues : (engine.find (fun _ => true) havingA largestB id letters).1 =
      .ok (some values) := by
    refine (Engine.find_of_ok hm hread).trans (congrArg Except.ok ?_)
    show ((Stages.sorted _ .strict .locale id (m.kept id letters)).map _).map _ = _
    rw [hsorted]
    exact congrArg some hshown
  obtain ⟨plan, hplan⟩ : ∃ plan, (outcome (Plan.ofFind (engine.settings fun _ => true) havingA
    largestB) engine.state).1 = .ok plan := ⟨_, rfl⟩
  obtain ⟨-, -, -, -, hprojection, -, hroot⟩ :=
    find_through_stages engine (fun _ => true) havingA largestB id letters
  exact ⟨hvalues, hprojection values hvalues, plan, hplan, (hroot _ _ plan hplan).1⟩

end DocQuery
