import DocQuery.Proofs.Compilations
/-!
# Rewriting queries

Queries are written in more than one way. Entries of a field map may be tests
of their own in a group, or in groups within it (`Conjoins`); a set may be
taken apart into alternatives; a denial may be denied. Each of these leaves a
query equivalent, so that it is compiled and accepts as before
(`Query.AcceptAlike`).

Operators on one path may be tests of their own as well, but then each looks
for a value for itself. Such tests are weaker than the one test that asks all
of a single value, except where there is only one value to be found
(`rewritten_queries_accept_alike`).
-/


namespace DocQuery

variable {limit : Nat} {root : Root}

/-- Wherever two queries are compiled, both have a matcher or neither has, and
the matchers accept the same roots. -/
def Query.AcceptAlike (config : Config) (q q' : Query Unit) : Prop :=
  ∀ c c' : Compilation config, c.query.shape = q → c'.query.shape = q' →
    (c.Compiles ↔ c'.Compiles) ∧ ∀ root, c.Accepts root ↔ c'.Accepts root

/-- Equivalent queries do. -/
theorem Query.Equivalent.acceptAlike {q q' : Query Unit} (h : q.Equivalent q') (config : Config) :
    Query.AcceptAlike config q q' := by
  rintro c c' rfl rfl
  exact c.alike c' h

/-! ## Entries in groups -/

/-- A group holds entries as single tests, each of them in it or in a group
within it, at any depth. -/
inductive Conjoins : List (Query Unit) → List (String × Condition Unit) → Prop
  | nil : Conjoins [] []
  | test {text : String} {condition : Condition Unit} {rest : List (Query Unit)}
      {entries : List (String × Condition Unit)} :
      Conjoins rest entries → Conjoins (.single text condition :: rest) ((text, condition) :: entries)
  | group {inner rest : List (Query Unit)} {entries entries' : List (String × Condition Unit)} :
      Conjoins inner entries → Conjoins rest entries' →
      Conjoins (.logical () inner [] none :: rest) (entries ++ entries')

/-- A group without alternatives and without a test of the caller's holds if
its members do. -/
theorem group_holds_iff {qs : List (Query Unit)} :
    (Query.logical () qs [] none).Holds limit root ↔ Query.AllHold limit root qs := by
  simp [Query.Holds]

namespace Conjoins

variable {qs : List (Query Unit)} {entries : List (String × Condition Unit)}

/-- **The members of such a group hold** if the entries do. -/
theorem allHold_iff (h : Conjoins qs entries) :
    Query.AllHold limit root qs ↔ Condition.EntriesHold limit root entries := by
  induction h with
  | nil => exact Iff.rfl
  | test _ ih =>
    rw [Query.AllHold, ih, Query.single, Query.Holds, Condition.EntriesHold, Condition.EntriesHold,
      Condition.EntriesHold, and_true]
  | group _ _ ihInner ihRest =>
    rw [Query.AllHold, group_holds_iff, ihInner, ihRest]
    simp only [entriesHold_iff, List.forall_mem_append]

/-- They have the same to be read. -/
theorem mem_readingsOf_iff (h : Conjoins qs entries) {r : Reading} :
    r ∈ Query.readingsOf qs ↔ r ∈ Condition.readingsOf entries := by
  induction h with
  | nil => exact Iff.rfl
  | test _ ih =>
    rw [Query.readingsOf, List.mem_append, ih, Query.single, Query.readings]
    simp only [Condition.readingsOf, List.append_nil, List.mem_cons, List.mem_append, or_assoc]
  | group _ _ ihInner ihRest =>
    rw [Query.readingsOf, List.mem_append, ihRest, Query.readings, List.mem_append, ihInner]
    simp only [Query.readingsOf, List.not_mem_nil, or_false, Condition.mem_readingsOf,
      List.mem_append, or_and_right, exists_or]

/-- **A field map is equivalent to a group** that holds its entries, in any
order. -/
theorem equivalent (h : Conjoins qs entries) {entries' : List (String × Condition Unit)}
    (hperm : entries.Perm entries') :
    Query.Equivalent (.fields () entries') (.logical () qs [] none) where
  readings r := by
    simp only [Query.readings, Query.readingsOf, List.append_nil, h.mem_readingsOf_iff,
      Condition.mem_readingsOf, hperm.mem_iff]
  holds limit root := by
    rw [group_holds_iff, h.allHold_iff, Query.Holds, entriesHold_iff, entriesHold_iff]
    simp only [hperm.mem_iff]

end Conjoins

/-! ## Sets as alternatives -/

/-- A value is among a set if it is among the set of one of its members. -/
theorem Value.among_iff_singleton {set : List Value} {x : Value} :
    x.Among set ↔ ∃ s ∈ set, x.Among [s] := by
  simp only [Value.Among, List.mem_singleton, exists_eq_left]
  constructor
  · rintro (⟨s, hs, heq⟩ | ⟨items, rfl, item, hitem, s, hs, heq⟩)
    · exact ⟨s, hs, .inl heq⟩
    · exact ⟨s, hs, .inr ⟨items, rfl, item, hitem, heq⟩⟩
  · rintro ⟨s, hs, heq | ⟨items, rfl, item, hitem, heq⟩⟩
    · exact .inl ⟨s, hs, heq⟩
    · exact .inr ⟨items, rfl, item, hitem, s, hs, heq⟩

/-- The test whether a path reaches something among a set. -/
def Query.amongAt (text : String) (set : List Value) : Query Unit :=
  .single text (.operators [.among set])

theorem amongAt_holds_iff {text : String} {set : List Value} :
    (Query.amongAt text set).Holds limit root ↔ ∃ path, Path.parse text = .ok path ∧
      ∃ v, Reaches (some root) path.segments v ∧ ∃ x, v = some x ∧ x.Among set := by
  simp only [Query.amongAt, Query.single, Query.Holds, Condition.EntriesHold, Condition.Holds,
    Operator.AllHold, Operator.Holds, and_true]

/-- **A set is equivalent to alternatives**, one for each member. There has to
be one, since no alternatives at all would accept everything. -/
theorem amongAt_equivalent (text : String) {set : List Value} (hne : set ≠ []) :
    (Query.amongAt text set).Equivalent
      (.logical () [] (set.map fun s => .amongAt text [s]) none) where
  readings r := by
    obtain ⟨s, hs⟩ := List.exists_mem_of_ne_nil set hne
    simp only [Query.readings, Query.readingsOf, List.nil_append, Query.mem_readingsOf,
      List.mem_map, exists_exists_and_eq_and]
    exact ⟨fun hr => ⟨s, hs, hr⟩, fun ⟨_, _, hr⟩ => hr⟩
  holds limit root := by
    have hmap : set.map (fun s => Query.amongAt text [s]) ≠ [] := by simpa using hne
    simp only [Query.Holds, Query.AllHold, anyHolds_iff, hmap, false_or, List.mem_map,
      exists_exists_and_eq_and, true_and, reduceCtorEq, false_imp_iff, implies_true, and_true,
      amongAt_holds_iff]
    constructor
    · rintro ⟨path, hparse, v, hv, x, rfl, hamong⟩
      obtain ⟨s, hs, hamong⟩ := Value.among_iff_singleton.1 hamong
      exact ⟨s, hs, path, hparse, _, hv, x, rfl, hamong⟩
    · rintro ⟨s, hs, path, hparse, v, hv, x, rfl, hamong⟩
      exact ⟨path, hparse, _, hv, x, rfl, Value.among_iff_singleton.2 ⟨s, hs, hamong⟩⟩

/-! ## Denials and operators -/

/-- **A denial that is denied** is equivalent to what it is a denial of. -/
theorem Condition.equivalent_not_not (c : Condition Unit) :
    Condition.Equivalent (.operators [.not (.operators [.not c])]) c where
  readings r := by
    simp only [Condition.readings, Operator.readingsOf, Operator.readings, List.append_nil]
  holds limit v := by
    simp only [Condition.Holds, Operator.AllHold, Operator.Holds, and_true, not_not]

/-- A single test may have an equivalent condition. -/
theorem single_equivalent (text : String) {c c' : Condition Unit} (h : c.Equivalent c') :
    (Query.single text c).Equivalent (.single text c') :=
  .fields (.of_forall₂ (.cons ⟨rfl, h⟩ .nil))

/-- Operators one after another hold of a value if both lists do. -/
theorem operators_append_holds_iff {ops ops' : List (Operator Unit)} {v : Option Value} :
    (Condition.operators (ops ++ ops')).Holds limit v ↔
      (Condition.operators ops).Holds limit v ∧ (Condition.operators ops').Holds limit v := by
  simp only [Condition.Holds, opsHold_iff, List.forall_mem_append]

/-- They have to have read what both lists have. -/
theorem operators_append_readable_iff {ops ops' : List (Operator Unit)} :
    (∀ r ∈ (Condition.operators (ops ++ ops')).readings, ¬ r.Unreadable limit) ↔
      (∀ r ∈ (Condition.operators ops).readings, ¬ r.Unreadable limit) ∧
        ∀ r ∈ (Condition.operators ops').readings, ¬ r.Unreadable limit := by
  have happend : ∀ r, r ∈ (Condition.operators (ops ++ ops')).readings ↔
      r ∈ (Condition.operators ops).readings ∨ r ∈ (Condition.operators ops').readings := by
    intro r
    simp only [Condition.readings, Operator.mem_readingsOf, List.mem_append, or_and_right,
      exists_or]
  simp only [happend, or_imp, forall_and]

section

variable {config : Config} {text : String} {path : Path} {ops ops' : List (Operator Unit)}
  {both first second : Compilation config}

/-- **Operators together and apart.** `both` asks for one value of which all
operators hold, `first` and `second` for one each. -/
theorem operators_apart (hparse : Path.parse text = .ok path)
    (hboth : both.query.shape = .single text (.operators (ops ++ ops')))
    (hfirst : first.query.shape = .single text (.operators ops))
    (hsecond : second.query.shape = .single text (.operators ops')) :
    (both.Compiles ↔ first.Compiles ∧ second.Compiles) ∧ ∀ root : Root,
      (both.Accepts root → first.Accepts root ∧ second.Accepts root) ∧
      ((∀ v ∈ root.reached path.segments, ∀ w ∈ root.reached path.segments, v = w) →
        first.Accepts root → second.Accepts root → both.Accepts root) := by
  have hcompiles : both.Compiles ↔ first.Compiles ∧ second.Compiles := by
    rw [Compilation.single_compiles_iff hboth, Compilation.single_compiles_iff hfirst,
      Compilation.single_compiles_iff hsecond, operators_append_readable_iff]
    exact and_and_left
  refine ⟨hcompiles, fun root => ⟨fun haccepts => ?_, fun honly haccepts haccepts' => ?_⟩⟩
  · have hapart := hcompiles.1 haccepts.compiles
    rw [Compilation.single_accepts_iff hboth haccepts.compiles hparse] at haccepts
    rw [Compilation.single_accepts_iff hfirst hapart.1 hparse,
      Compilation.single_accepts_iff hsecond hapart.2 hparse]
    obtain ⟨v, hv, hall⟩ := haccepts
    have hholds := operators_append_holds_iff.1 hall
    exact ⟨⟨v, hv, hholds.1⟩, v, hv, hholds.2⟩
  · have htogether := hcompiles.2 ⟨haccepts.compiles, haccepts'.compiles⟩
    rw [Compilation.single_accepts_iff hfirst haccepts.compiles hparse] at haccepts
    rw [Compilation.single_accepts_iff hsecond haccepts'.compiles hparse] at haccepts'
    rw [Compilation.single_accepts_iff hboth htogether hparse]
    obtain ⟨v, hv, hholds⟩ := haccepts
    obtain ⟨w, hw, hholds'⟩ := haccepts'
    -- what the one test has found is what the other has
    have hsame : v = w := honly v (mem_reached.2 hv) w (mem_reached.2 hw)
    subst hsame
    exact ⟨v, hv, operators_append_holds_iff.2 ⟨hholds, hholds'⟩⟩

end

/-- **Rewritten queries accept the same roots.** A field map may be rewritten
as a group that holds its entries, in any order and through any groups within
it; a test for a set that is not empty as alternatives; and what is denied
twice as what is denied. Operators on one path accept no more together than
they do apart, and no less where the path reaches at most one value, an absent
one counted. -/
theorem rewritten_queries_accept_alike (config : Config) :
    (∀ entries qs held, Conjoins qs held → held.Perm entries →
      Query.AcceptAlike config (.fields () entries) (.logical () qs [] none)) ∧
    (∀ text set, set ≠ [] → Query.AcceptAlike config (.amongAt text set)
      (.logical () [] (set.map fun s => .amongAt text [s]) none)) ∧
    (∀ text path ops ops', Path.parse text = .ok path → ∀ both first second : Compilation config,
      both.query.shape = .single text (.operators (ops ++ ops')) →
      first.query.shape = .single text (.operators ops) →
      second.query.shape = .single text (.operators ops') →
      (both.Compiles ↔ first.Compiles ∧ second.Compiles) ∧ ∀ root : Root,
        (both.Accepts root → first.Accepts root ∧ second.Accepts root) ∧
        ((∀ v ∈ root.reached path.segments, ∀ w ∈ root.reached path.segments, v = w) →
          first.Accepts root → second.Accepts root → both.Accepts root)) ∧
    ∀ text c, Query.AcceptAlike config (.single text (.operators [.not (.operators [.not c])]))
      (.single text c) := by
  refine ⟨?_, ?_, ?_, ?_⟩
  · intro entries qs held h hperm
    exact (h.equivalent hperm).acceptAlike config
  · intro text set hne
    exact (amongAt_equivalent text hne).acceptAlike config
  · intro text path ops ops' hparse both first second hboth hfirst hsecond
    exact operators_apart hparse hboth hfirst hsecond
  · intro text c
    exact (single_equivalent text c.equivalent_not_not).acceptAlike config

/-- Three tests of players, -/
def playerEntries : List (String × Condition Unit) :=
  [("name", .operators [.present true]), ("age", .operators [.gt (.int32 18)]),
    ("tags[0]", .literal (.string "new"))]

/-- which may stand in groups within groups, the first of them last. -/
def playerGroups : List (Query Unit) :=
  [.logical () [.logical () [] [] none, .single "tags[0]" (.literal (.string "new")),
      .logical () [.single "age" (.operators [.gt (.int32 18)])] [] none] [] none,
    .single "name" (.operators [.present true])]

/-- A player to whom two bounds apply. -/
def playerOfAge : Root := .document [("age", .double .one)]

/-- The tests of players may be grouped and a set of two taken apart. Two bounds
that a number is within are within one test, because the path reaches it and
nothing else. -/
theorem players_rewritten :
    Query.AcceptAlike {} (.fields () playerEntries) (.logical () playerGroups [] none) ∧
    Query.AcceptAlike {} (.amongAt "tags" [.string "new", .null])
      (.logical () [] [.amongAt "tags" [.string "new"], .amongAt "tags" [.null]] none) ∧
    ∃ both first second : Compilation {},
      both.query.shape = .single "age" (.operators [.gt (.int32 0), .lt (.int32 2)]) ∧
      first.query.shape = .single "age" (.operators [.gt (.int32 0)]) ∧
      second.query.shape = .single "age" (.operators [.lt (.int32 2)]) ∧
      (∀ v ∈ playerOfAge.reached [.named "age"], ∀ w ∈ playerOfAge.reached [.named "age"], v = w) ∧
      (first.Accepts playerOfAge ∧ second.Accepts playerOfAge) ∧ both.Accepts playerOfAge := by
  obtain ⟨hgroups, hsets, hoperators, -⟩ := rewritten_queries_accept_alike {}
  have hconjoins : Conjoins playerGroups [("tags[0]", .literal (.string "new")),
      ("age", .operators [.gt (.int32 18)]), ("name", .operators [.present true])] :=
    .group (.group .nil (.test (.group (.test .nil) .nil))) (.test .nil)
  refine ⟨hgroups _ _ _ hconjoins (List.reverse_perm playerEntries),
    hsets _ _ (List.cons_ne_nil _ _), ?_⟩
  obtain ⟨both, hboth⟩ := Compilation.exists_of_shape {}
    (.single "age" (.operators [.gt (.int32 0), .lt (.int32 2)]))
  obtain ⟨first, hfirst⟩ := Compilation.exists_of_shape {}
    (.single "age" (.operators [.gt (.int32 0)]))
  obtain ⟨second, hsecond⟩ := Compilation.exists_of_shape {}
    (.single "age" (.operators [.lt (.int32 2)]))
  have hparse : Path.parse "age" = .ok ⟨"age", [.named "age"]⟩ := by decide +kernel
  have honly : ∀ v ∈ playerOfAge.reached [.named "age"],
      ∀ w ∈ playerOfAge.reached [.named "age"], v = w := by
    intro v hv w hw
    obtain rfl := List.mem_singleton.1 hv
    obtain rfl := List.mem_singleton.1 hw
    rfl
  have hage : Reaches (some playerOfAge) [.named "age"] (some (.double .one)) :=
    mem_reached.1 List.mem_cons_self
  have haccepts : first.Accepts playerOfAge := by
    have hcompiles := (Compilation.single_compiles_iff hfirst).2
      ⟨⟨_, hparse⟩, firstProblem?_eq_none.1 rfl⟩
    rw [Compilation.single_accepts_iff hfirst hcompiles hparse]
    exact ⟨_, hage, ⟨_, rfl, by decide⟩, trivial⟩
  have haccepts' : second.Accepts playerOfAge := by
    have hcompiles := (Compilation.single_compiles_iff hsecond).2
      ⟨⟨_, hparse⟩, firstProblem?_eq_none.1 rfl⟩
    rw [Compilation.single_accepts_iff hsecond hcompiles hparse]
    exact ⟨_, hage, ⟨_, rfl, by decide⟩, trivial⟩
  obtain ⟨-, htogether⟩ := hoperators "age" _ [.gt (.int32 0)] [.lt (.int32 2)] hparse both first
    second hboth hfirst hsecond
  exact ⟨both, first, second, hboth, hfirst, hsecond, honly, ⟨haccepts, haccepts'⟩,
    (htogether playerOfAge).2 honly haccepts haccepts'⟩

end DocQuery
