import Mathlib.Data.List.Induction
import DocQuery.Proofs.EntryReaders
import DocQuery.Proofs.KeyedLists
import DocQuery.Query.Builder
/-!
# What the steps of a builder come to

A builder is given fields, groups and tests, one step after another. What it
holds after any steps is said by the steps alone: of each kind of group the last
one, and the fields as entries that are inserted in order (`groups_ofSteps`,
`fields_ofSteps`). One step decides over all fields: with a group or a test
among the steps the query is a logical node, whatever else there is
(`build_ofSteps_logical`, `build_ofSteps_fields`).

A query document is read entry by entry, and a builder can do the same, with a
step for each entry (`Replays`). Both come to the same query, since reading
picks the last groups too and inserts the fields in the order of the document.
-/


namespace DocQuery

namespace QueryBuilder

variable {ι : Type}

/-! ## Steps -/

/-- A step of building a query. -/
inductive Step (ι : Type) where
  | field (path : String) (condition : Condition ι)
  | all (queries : List (Query ι))
  | any (queries : List (Query ι))
  | custom (test : Document → Bool)

namespace Step

/-- The field that a step gives, with its condition. -/
def field? : Step ι → Option (String × Condition ι)
  | field path condition => some (path, condition)
  | _ => none

/-- The queries of which a step says that all must hold. -/
def all? : Step ι → Option (List (Query ι))
  | all queries => some queries
  | _ => none

/-- The queries of which a step says that any must hold. -/
def any? : Step ι → Option (List (Query ι))
  | any queries => some queries
  | _ => none

/-- The test that a step gives. -/
def custom? : Step ι → Option (Document → Bool)
  | custom test => some test
  | _ => none

/-- Whether a step makes the query a logical node. -/
def isLogical : Step ι → Bool
  | field .. => false
  | _ => true

end Step

/-- A builder after one more step. -/
def step (b : QueryBuilder ι) : Step ι → QueryBuilder ι
  | .field path condition => b.whereField path condition
  | .all queries => b.all queries
  | .any queries => b.any queries
  | .custom test => b.custom test

/-- The builder after some steps. -/
def ofSteps (steps : List (Step ι)) : QueryBuilder ι := steps.foldl step empty

theorem ofSteps_concat (steps : List (Step ι)) (s : Step ι) :
    ofSteps (steps ++ [s]) = (ofSteps steps).step s := by
  rw [ofSteps, List.foldl_append]
  rfl

/-! ## What a builder holds -/

/-- What the last step that gives something of a kind gives. -/
def last? {β : Type} (pick : Step ι → Option β) (steps : List (Step ι)) : Option β :=
  (steps.filterMap pick).getLast?

/-- The last step comes first. -/
theorem last?_concat {β : Type} (pick : Step ι → Option β) (steps : List (Step ι)) (s : Step ι) :
    last? pick (steps ++ [s]) = (pick s).or (last? pick steps) := by
  rw [last?, last?, List.filterMap_append, List.getLast?_append]
  cases hpick : pick s <;> simp [hpick]

/-- The groups and the test that steps give last. -/
def lastGroups (steps : List (Step ι)) : Query.Groups ι where
  all := (last? Step.all? steps).getD []
  any := (last? Step.any? steps).getD []
  custom := last? Step.custom? steps

/-- **A builder holds the fields in the order of their insertion**: by induction
on the steps, from the last one. -/
theorem fields_ofSteps (steps : List (Step ι)) :
    (ofSteps steps).fields = Entries.ofList (steps.filterMap Step.field?) := by
  induction steps using List.reverseRecOn with
  | nil => rfl
  | append_singleton steps s ih =>
    rw [ofSteps_concat, List.filterMap_append]
    cases s with
    | field path condition =>
      have hstep : ((ofSteps steps).step (.field path condition)).fields =
          Entries.insert path condition (ofSteps steps).fields := rfl
      rw [hstep, ih]
      exact (Entries.ofList_concat _ (path, condition)).symm
    -- no other step touches the fields
    | all queries => exact ih.trans (congrArg Entries.ofList (List.append_nil _).symm)
    | any queries => exact ih.trans (congrArg Entries.ofList (List.append_nil _).symm)
    | custom test => exact ih.trans (congrArg Entries.ofList (List.append_nil _).symm)

/-- **It holds the last group of each kind and the last test.** -/
theorem groups_ofSteps (steps : List (Step ι)) :
    (ofSteps steps).groups.getD {} = lastGroups steps := by
  induction steps using List.reverseRecOn with
  | nil => rfl
  | append_singleton steps s ih =>
    simp only [lastGroups, last?_concat] at ih ⊢
    rw [ofSteps_concat]
    cases s with
    | field path condition => exact ih
    | all queries => simp [step, QueryBuilder.all, ih, Step.all?, Step.any?, Step.custom?]
    | any queries => simp [step, QueryBuilder.any, ih, Step.all?, Step.any?, Step.custom?]
    | custom test => simp [step, QueryBuilder.custom, ih, Step.all?, Step.any?, Step.custom?]

/-- There are groups once a step has given one. -/
theorem isSome_groups_ofSteps (steps : List (Step ι)) :
    (ofSteps steps).groups.isSome = steps.any Step.isLogical := by
  induction steps using List.reverseRecOn with
  | nil => rfl
  | append_singleton steps s ih =>
    rw [ofSteps_concat, List.any_append, ← ih]
    cases s <;> simp [step, whereField, QueryBuilder.all, QueryBuilder.any, QueryBuilder.custom,
      Step.isLogical]

/-! ## What it builds -/

/-- Groups make a logical node, -/
theorem build_ofSteps_logical {steps : List (Step ι)} (h : steps.any Step.isLogical = true)
    (label : ι) : (ofSteps steps).build label = .logical label ((last? Step.all? steps).getD [])
      ((last? Step.any? steps).getD []) (last? Step.custom? steps) := by
  rw [← isSome_groups_ofSteps] at h
  obtain ⟨groups, hgroups⟩ := Option.isSome_iff_exists.1 h
  have hlast := groups_ofSteps steps
  rw [hgroups, Option.getD_some] at hlast
  rw [build, hgroups, hlast]
  rfl

/-- and without any there are only fields. -/
theorem build_ofSteps_fields {steps : List (Step ι)} (h : steps.any Step.isLogical = false)
    (label : ι) : (ofSteps steps).build label =
      .fields label (Entries.ofList (steps.filterMap Step.field?)) := by
  rw [← isSome_groups_ofSteps] at h
  rw [build, Option.not_isSome_iff_eq_none.1 (Bool.eq_false_iff.1 h), fields_ofSteps]

/-! ## Replaying documents -/

/-- An item is read as a query. -/
def ReadsAs (item : Value) (q : Query Unit) : Prop :=
  ∃ d, item = .document d ∧ Query.ofDocument? d = .ok q

/-- A step does what an entry of a query document says. -/
inductive Replays : String × Value → Step Unit → Prop
  /-- A path gets its condition. -/
  | field {path : String} {v : Value} {condition : Condition Unit} :
      Grammar.isOperatorKey path = false → Condition.ofValue? v = .ok condition →
      Replays (path, v) (.field path condition)
  /-- The groups get their members. -/
  | all {items : List Value} {queries : List (Query Unit)} : List.Forall₂ ReadsAs items queries →
      Replays ("$and", .array items) (.all queries)
  | any {items : List Value} {queries : List (Query Unit)} : List.Forall₂ ReadsAs items queries →
      Replays ("$or", .array items) (.any queries)

end QueryBuilder

namespace Query.Entry

open QueryBuilder (Step)

/-- The step that an entry is replayed by. -/
def toStep : Entry → Step Unit
  | all queries => .all queries
  | any queries => .any queries
  | field path condition => .field path condition

/-- What is picked last is what is given last. -/
theorem last_eq_getLast? (pick : Entry → Option (List (Query Unit))) (es : List Entry) :
    last pick es = (es.filterMap pick).getLast?.getD [] := by
  induction es using List.reverseRecOn with
  | nil => rfl
  | append_singleton es e ih =>
    rw [last, List.foldl_append, ← last, ih, List.filterMap_append, List.getLast?_append]
    cases hpick : pick e <;> simp [hpick]

/-- **A builder that replays entries builds what they make up.** -/
theorem build_toStep (es : List Entry) :
    (QueryBuilder.ofSteps (es.map toStep)).build () = assemble es := by
  have hany : (es.map toStep).any Step.isLogical = es.any isGroup := by
    rw [List.any_map]
    refine congrArg es.any (funext fun e => ?_)
    cases e <;> rfl
  have hpick {β : Type} (pick : Step Unit → Option β) :
      QueryBuilder.last? pick (es.map toStep) = (es.filterMap (pick ∘ toStep)).getLast? := by
    rw [QueryBuilder.last?, List.filterMap_map]
  have hall : (Step.all? ∘ toStep : Entry → _) = all? := funext fun e => by cases e <;> rfl
  have hanyOf : (Step.any? ∘ toStep : Entry → _) = any? := funext fun e => by cases e <;> rfl
  have hcustom : es.filterMap (Step.custom? ∘ toStep) = [] :=
    List.filterMap_eq_nil_iff.2 fun e _ => by cases e <;> rfl
  have hfield : (es.map toStep).filterMap Step.field? = conditions es := by
    rw [List.filterMap_map, conditions]
    refine congrArg (es.filterMap ·) (funext fun e => ?_)
    cases e <;> rfl
  rw [assemble]
  by_cases h : es.any isGroup = true
  · rw [if_pos h, QueryBuilder.build_ofSteps_logical (hany.trans h), hpick, hpick, hpick, hall,
      hanyOf, hcustom, lastAll_eq, lastAny_eq, last_eq_getLast?, last_eq_getLast?]
    rfl
  · rw [if_neg h, QueryBuilder.build_ofSteps_fields (hany.trans (Bool.eq_false_iff.2 h)), hfield]

end Query.Entry

namespace QueryBuilder

/-- The members of a group are read one by one. -/
theorem forall₂_readsAs_iff (key : String) {items : List Value} {queries : List (Query Unit)} :
    List.Forall₂ ReadsAs items queries ↔ Grammar.group key (.array items) = .ok queries := by
  have hmember (item : Value) (q : Query Unit) :
      ReadsAs item q ↔ Grammar.member key item = .ok q := by
    constructor
    · rintro ⟨d, rfl, hd⟩
      exact hd
    · exact Grammar.member_eq_ok
  rw [Grammar.group, Grammar.members_eq, mapM_eq_ok_iff]
  exact ⟨fun h => h.imp fun _ _ => (hmember _ _).1, fun h => h.imp fun _ _ => (hmember _ _).2⟩

/-- **An entry that is read is replayed by its step**, and by no other. -/
theorem replays_iff {key : String} {v : Value} {e : Query.Entry}
    (h : Grammar.entry key v = .ok e) {s : Step Unit} : Replays (key, v) s ↔ s = e.toStep := by
  -- the keys of groups look like those of operators, so that they are no paths
  have hand : Grammar.isOperatorKey "$and" = true := by decide
  have hor : Grammar.isOperatorKey "$or" = true := by decide
  have hne : "$and" ≠ "$or" := by decide
  obtain ⟨hkey, queries, hgroup, rfl⟩ | ⟨hkey, queries, hgroup, rfl⟩ | ⟨hkey, c, hc, rfl⟩ :=
    Grammar.entry_eq_ok h
  · constructor
    · intro hs
      cases hs with
      | field hpath _ => cases hand.symm.trans (hkey ▸ hpath)
      | all hitems =>
        rw [forall₂_readsAs_iff, hgroup] at hitems
        cases hitems
        rfl
      | any _ => exact absurd hkey hne.symm
    · rintro rfl
      subst hkey
      obtain ⟨items, rfl, -⟩ := Grammar.group_eq_ok hgroup
      exact .all ((forall₂_readsAs_iff _).2 hgroup)
  · constructor
    · intro hs
      cases hs with
      | field hpath _ => cases hor.symm.trans (hkey ▸ hpath)
      | all _ => exact absurd hkey hne
      | any hitems =>
        rw [forall₂_readsAs_iff, hgroup] at hitems
        cases hitems
        rfl
    · rintro rfl
      subst hkey
      obtain ⟨items, rfl, -⟩ := Grammar.group_eq_ok hgroup
      exact .any ((forall₂_readsAs_iff _).2 hgroup)
  · constructor
    · intro hs
      cases hs with
      | field _ hc' =>
        cases hc.symm.trans hc'
        rfl
      | all _ => cases hand.symm.trans hkey
      | any _ => cases hor.symm.trans hkey
    · rintro rfl
      exact .field hkey hc

/-- So a query document that is read is replayed by the steps of its entries. -/
theorem forall₂_replays_iff {d : Document} {es : List Query.Entry}
    (h : Grammar.queryEntries d = .ok es) {steps : List (Step Unit)} :
    List.Forall₂ Replays d steps ↔ steps = es.map Query.Entry.toStep := by
  rw [Grammar.queryEntries_eq, mapM_eq_ok_iff] at h
  induction h generalizing steps with
  | nil => rw [List.forall₂_nil_left_iff, List.map_nil]
  | @cons x e rest es hx _ ih =>
    rw [List.forall₂_cons_left_iff, List.map_cons]
    constructor
    · rintro ⟨s, steps, hs, hsteps, rfl⟩
      rw [(replays_iff hx).1 hs, ih.1 hsteps]
    · rintro rfl
      exact ⟨_, _, (replays_iff hx).2 rfl, ih.2 rfl, rfl⟩

end QueryBuilder

open QueryBuilder (Step Replays)

/-- **Building step by step agrees with reading a document.**

* After any steps, the query is a logical node exactly if one of them gave a
  group or a test; it then has the members of the last group of each kind, none
  where there was no such group, and the last test, if any. Else it is a field
  map with each path once, in the order of their first insertion, and with the
  condition that the path was given last.
* A document that is read as a query can be replayed, entry by entry, and
  whatever steps replay it build the query that it is read as. -/
theorem builder_agrees_with_documents :
    (∀ {ι : Type} (steps : List (Step ι)) (label : ι),
      (((QueryBuilder.ofSteps steps).build label).isLogical = true ↔
        ∃ s ∈ steps, s.isLogical = true) ∧
      ((∃ s ∈ steps, s.isLogical = true) → (QueryBuilder.ofSteps steps).build label =
        .logical label ((steps.filterMap Step.all?).getLast?.getD [])
          ((steps.filterMap Step.any?).getLast?.getD [])
          (steps.filterMap Step.custom?).getLast?) ∧
      ((¬ ∃ s ∈ steps, s.isLogical = true) →
        ∃ fields, (QueryBuilder.ofSteps steps).build label = .fields label fields ∧
          (Entries.keys fields).Nodup ∧
          Entries.keys fields = (Entries.keys (steps.filterMap Step.field?)).eraseDups ∧
          ∀ path, Entries.get? path fields =
            (Entries.given path (steps.filterMap Step.field?)).getLast?)) ∧
    ∀ (d : Document) (q : Query Unit), Query.ofDocument? d = .ok q →
      (∃ steps, List.Forall₂ Replays d steps) ∧
      ∀ steps, List.Forall₂ Replays d steps → (QueryBuilder.ofSteps steps).build () = q := by
  refine ⟨fun {ι} steps label => ?_, fun d q h => ?_⟩
  · have hany : steps.any Step.isLogical = true ↔ ∃ s ∈ steps, s.isLogical = true := List.any_eq_true
    rw [← hany, Bool.not_eq_true]
    refine ⟨?_, fun h => QueryBuilder.build_ofSteps_logical h label, fun h => ?_⟩
    · cases h : steps.any Step.isLogical with
      | true =>
        rw [QueryBuilder.build_ofSteps_logical h]
        rfl
      | false =>
        rw [QueryBuilder.build_ofSteps_fields h]
        rfl
    · exact ⟨_, QueryBuilder.build_ofSteps_fields h label, Entries.nodup_keys_ofList _,
        Entries.keys_ofList _, fun path => Entries.get?_ofList path _⟩
  · obtain ⟨es, hread, rfl⟩ := map_eq_ok h
    refine ⟨⟨_, (QueryBuilder.forall₂_replays_iff hread).2 rfl⟩, fun steps hsteps => ?_⟩
    rw [(QueryBuilder.forall₂_replays_iff hread).1 hsteps]
    exact Query.Entry.build_toStep es

/-- A group among fields is all that is kept of a document; of groups and tests
the last ones are kept, also when the last group is empty; and fields alone are
kept in order, with the last condition of each. -/
theorem mixed_document_replayed :
    let d : Document := [("a", .int32 1), ("$or", .array [.document [("b", .int32 2)]]),
      ("c", .int32 3)]
    let q : Query Unit := .logical () [] [.fields () [("b", .literal (.int32 2))]] none
    let steps : List (Step Unit) := [.field "a" (.literal (.int32 1)),
      .any [.fields () [("b", .literal (.int32 2))]], .field "c" (.literal (.int32 3))]
    let regrouped : List (Step Unit) := [.all [q], .custom fun _ => false,
      .field "a" (.literal (.int32 1)), .custom List.isEmpty, .all []]
    let again : List (Step Unit) := [.field "a" (.literal (.int32 1)),
      .field "b" (.literal (.int32 2)), .field "a" (.operators [])]
    Query.ofDocument? d = .ok q ∧ List.Forall₂ Replays d steps ∧
      (QueryBuilder.ofSteps steps).build () = q ∧
      (∃ s ∈ regrouped, s.isLogical = true) ∧
      (QueryBuilder.ofSteps regrouped).build () = .logical () [] [] (some List.isEmpty) ∧
      (¬ ∃ s ∈ again, s.isLogical = true) ∧
      ∃ fields, (QueryBuilder.ofSteps again).build () = .fields () fields ∧
        Entries.keys fields = ["a", "b"] ∧
        Entries.get? "a" fields = some (.operators []) := by
  intro d q steps regrouped again
  have hread : Query.ofDocument? d = .ok q := rfl
  have hmember : QueryBuilder.ReadsAs (.document [("b", .int32 2)])
      (.fields () [("b", .literal (.int32 2))]) := ⟨_, rfl, rfl⟩
  have hreplayed : List.Forall₂ Replays d steps :=
    .cons (.field (by decide) rfl)
      (.cons (.any (.cons hmember .nil)) (.cons (.field (by decide) rfl) .nil))
  have hlogical : ∃ s ∈ regrouped, s.isLogical = true := ⟨.all [q], List.mem_cons_self, rfl⟩
  have hfields : ¬ ∃ s ∈ again, s.isLogical = true := by simp [again, Step.isLogical]
  obtain ⟨hsteps, hdocuments⟩ := builder_agrees_with_documents
  obtain ⟨fields, hbuild, -, hkeys, hlast⟩ := (hsteps again ()).2.2 hfields
  exact ⟨hread, hreplayed, (hdocuments d q hread).2 steps hreplayed, hlogical,
    (hsteps regrouped ()).2.1 hlogical, hfields, fields, hbuild, hkeys, hlast "a"⟩

end DocQuery
