import DocQuery.Proofs.Acceptance
import DocQuery.Proofs.Interchange
import DocQuery.Proofs.Planning
/-!
# Reordering query documents

What may change places in a query document without a difference: its entries,
the members of a group, the entries of an operator document as long as one
with the key of an operator comes first, and the members of the sets that
operators hold; all of this at every depth, and literals stay as they are
(`Grammar.ReorderedQuery`).

Reading goes entry by entry, so that a document and its reordering are read as
entries that match (`Grammar.readsReordered`, by induction over the nesting of
values). Two places look beyond a single entry. The last of two equal group
keys would win, and a pattern looks up its letters under their key; since the
keys of a document are distinct, neither depends on the order. What is read is
then equivalent, and compiles to matchers that accept the same
(`reordering_invisible`).
-/


namespace DocQuery

namespace Grammar

/-! ## Reorderings -/

mutual

/-- A query document in another order: its entries are reordered, each in
itself, and then permuted. -/
inductive ReorderedQuery : Document → Document → Prop
  | intro {d m d' : Document} : List.Forall₂ ReorderedEntry d m → m.Perm d' → ReorderedQuery d d'

/-- An entry of a query document in another order: the members of a group are
reordered and permuted, the condition of a field is reordered, and anything
may stay as it is. -/
inductive ReorderedEntry : String × Value → String × Value → Prop
  | group {key : String} {items m items' : List Value} : key = "$and" ∨ key = "$or" →
      List.Forall₂ ReorderedSubQuery items m → m.Perm items' →
      ReorderedEntry (key, .array items) (key, .array items')
  | field {key : String} {v v' : Value} : isOperatorKey key = false → ReorderedCondition v v' →
      ReorderedEntry (key, v) (key, v')
  | same {e : String × Value} : ReorderedEntry e e

/-- A query document in the place of a value, in another order. -/
inductive ReorderedSubQuery : Value → Value → Prop
  | document {d d' : Document} : ReorderedQuery d d' →
      ReorderedSubQuery (.document d) (.document d')
  | same {v : Value} : ReorderedSubQuery v v

/-- A condition in another order: the operators of a document are reordered
and permuted, so that it still holds operators, and a literal stays as it
is. -/
inductive ReorderedCondition : Value → Value → Prop
  | operators {d m d' : Document} : holdsOperators d = true →
      List.Forall₂ ReorderedOperator d m → m.Perm d' → holdsOperators d' = true →
      ReorderedCondition (.document d) (.document d')
  | same {v : Value} : ReorderedCondition v v

/-- An entry of an operator document in another order. -/
inductive ReorderedOperator : String × Value → String × Value → Prop
  | set {key : String} {items items' : List Value} : key ∈ setKeys → items.Perm items' →
      ReorderedOperator (key, .array items) (key, .array items')
  | not {v v' : Value} : ReorderedCondition v v' → ReorderedOperator ("$not", v) ("$not", v')
  | elemMatch {v v' : Value} : ReorderedSubQuery v v' →
      ReorderedOperator ("$elemMatch", v) ("$elemMatch", v')
  | same {e : String × Value} : ReorderedOperator e e

end

variable {d m d' : Document} {e e' : String × Value}

/-- Entries keep their keys, -/
theorem ReorderedEntry.key (h : ReorderedEntry e e') : e.1 = e'.1 := by
  cases h <;> rfl

/-- and so do operators. -/
theorem ReorderedOperator.key (h : ReorderedOperator e e') : e.1 = e'.1 := by
  cases h <;> rfl

/-- Patterns and their letters stay as they are. -/
theorem ReorderedOperator.eq_of_options (h : ReorderedOperator e e') (hkey : e.1 = "$options") :
    e = e' := by
  cases h with
  | set hset _ =>
    dsimp only at hkey
    subst hkey
    exact absurd hset (by decide)
  | not _ => exact absurd hkey (show "$not" ≠ "$options" by decide)
  | elemMatch _ => exact absurd hkey (show "$elemMatch" ≠ "$options" by decide)
  | same => rfl

/-- Distinct keys stay distinct. -/
theorem nodup_keys_of_reordered {r : String × Value → String × Value → Prop}
    (hr : ∀ e e', r e e' → e.1 = e'.1) (h : List.Forall₂ r d m) (hperm : m.Perm d')
    (hdistinct : (Entries.keys d).Nodup) : (Entries.keys d').Nodup := by
  have hkeys : Entries.keys d = Entries.keys m := by
    clear hperm hdistinct
    induction h with
    | nil => rfl
    | cons he _ ih => exact congrArg₂ (· :: ·) (hr _ _ he) ih
  rw [hkeys] at hdistinct
  exact (hperm.map _).nodup_iff.1 hdistinct

/-! ## Operators -/

/-- What patterns look for among siblings is the same in two documents. -/
def SameForPatterns (siblings siblings' : Document) : Prop :=
  Entries.get? "$options" siblings = Entries.get? "$options" siblings' ∧
    Entries.hasKey "$regex" siblings = Entries.hasKey "$regex" siblings'

/-- Reordering makes no difference to patterns. -/
theorem sameForPatterns (h : Matched ReorderedOperator d d') (hd : (Entries.keys d).Nodup)
    (hd' : (Entries.keys d').Nodup) : SameForPatterns d d' := by
  constructor
  · refine Entries.get?_congr hd hd' fun v => ⟨fun hv => ?_, fun hv => ?_⟩
    · obtain ⟨e', he', hr⟩ := h.left _ hv
      rwa [hr.eq_of_options rfl]
    · obtain ⟨e, he, hr⟩ := h.right _ hv
      rwa [← hr.eq_of_options hr.key]
  · rw [Bool.eq_iff_iff, Entries.hasKey_iff, Entries.hasKey_iff]
    constructor
    · rintro ⟨v, hv⟩
      obtain ⟨⟨key, v'⟩, he', hr⟩ := h.left _ hv
      obtain rfl : "$regex" = key := hr.key
      exact ⟨v', he'⟩
    · rintro ⟨v', hv'⟩
      obtain ⟨⟨key, v⟩, he, hr⟩ := h.right _ hv'
      obtain rfl : key = "$regex" := hr.key
      exact ⟨v, he⟩

/-- An operator looks at its siblings in no other way. -/
theorem SameForPatterns.operator_eq {siblings siblings' : Document}
    (h : SameForPatterns siblings siblings') (key : String) (v : Value) :
    operator siblings key v = operator siblings' key v := by
  unfold operator plainOperator
  rw [h.1, h.2]

/-- Sets in another order make equivalent operators. -/
theorem both_set {siblings siblings' : Document} {key : String} (hkey : key ∈ setKeys)
    {items items' : List Value} (hperm : items.Perm items') :
    Both (Option.Rel Operator.Equivalent) (operator siblings key (.array items))
      (operator siblings' key (.array items')) := by
  obtain ⟨hamong, hnotAmong, hall, hsome⟩ :=
    @Operator.equivalent_sets Unit items items' fun s => hperm.mem_iff
  simp only [setKeys, List.mem_cons, List.not_mem_nil, or_false] at hkey
  rcases hkey with rfl | rfl | rfl | rfl | rfl
  · exact .ok (.some hamong)
  · exact .ok (.some hnotAmong)
  · exact .ok (.some hall)
  · exact .ok (.some hsome)
  · exact .ok (.some hsome)

/-- Operators are read as ones that match, if the entries are. -/
theorem both_operators {siblings siblings' : Document}
    (h : Matched (fun e e' => Both (Option.Rel Operator.Equivalent) (operator siblings e.1 e.2)
      (operator siblings' e'.1 e'.2)) d d') :
    Both (Matched Operator.Equivalent) (operators siblings d) (operators siblings' d') := by
  rw [operators_eq, operators_eq]
  refine (Both.mapM h).map fun found found' hfound => ⟨fun op hop => ?_, fun op' hop' => ?_⟩
  · obtain ⟨op', hop', hrel⟩ := hfound.left _ (List.reduceOption_mem_iff.1 hop)
    cases hrel with
    | some hop => exact ⟨_, List.reduceOption_mem_iff.2 hop', hop⟩
  · obtain ⟨op, hop, hrel⟩ := hfound.right _ (List.reduceOption_mem_iff.1 hop')
    cases hrel with
    | some hop' => exact ⟨_, List.reduceOption_mem_iff.2 hop, hop'⟩

end Grammar

/-! ## Entries -/

namespace Query.Entry

/-- Entries of query documents that stand for one another. -/
inductive Equivalent : Entry → Entry → Prop
  | all {qs qs' : List (Query Unit)} : Matched Query.Equivalent qs qs' →
      Equivalent (.all qs) (.all qs')
  | any {qs qs' : List (Query Unit)} : Matched Query.Equivalent qs qs' →
      Equivalent (.any qs) (.any qs')
  | field {path : String} {c c' : Condition Unit} : c.Equivalent c' →
      Equivalent (.field path c) (.field path c')

theorem Equivalent.refl (e : Entry) : Equivalent e e := by
  have hqs (qs : List (Query Unit)) : Matched Query.Equivalent qs qs :=
    ⟨fun q hq => ⟨q, hq, .refl q⟩, fun q hq => ⟨q, hq, .refl q⟩⟩
  cases e with
  | all qs => exact .all (hqs qs)
  | any qs => exact .any (hqs qs)
  | field path c => exact .field (.refl c)

variable {es es' : List Entry}

/-- The members of the last group match, if there is only one. -/
theorem last_matched {pick : Entry → Option (List (Query Unit))}
    (h : Matched (fun e e' => Option.Rel (Matched Query.Equivalent) (pick e) (pick e')) es es')
    (hunique : ∀ e ∈ es', ∀ e' ∈ es', ∀ qs qs', pick e = some qs → pick e' = some qs' → qs = qs') :
    Matched Query.Equivalent (last pick es) (last pick es') := by
  rcases last_cases pick es with ⟨hnil, hnone⟩ | ⟨e, he, hlast⟩
  · rcases last_cases pick es' with ⟨hnil', -⟩ | ⟨e', he', hlast'⟩
    · rw [hnil, hnil']
      exact .of_forall₂ .nil
    · obtain ⟨e, he, hrel⟩ := h.right e' he'
      rw [hnone e he, hlast'] at hrel
      cases hrel
  · obtain ⟨e', he', hrel⟩ := h.left e he
    rw [hlast] at hrel
    generalize hpick : pick e' = picked at hrel
    cases hrel with
    | @some _ qs' hqs =>
      -- what is picked last need not be what the last group of es matches, but there is only one
      rcases last_cases pick es' with ⟨-, hnone'⟩ | ⟨e'', he'', hlast'⟩
      · exact absurd ((hnone' e' he').symm.trans hpick) (by simp)
      · rwa [hunique e'' he'' e' he' _ _ hlast' hpick]

/-- Equivalent entries are groups of the same kind, with members that match,
or are none. -/
theorem Equivalent.groups {e e' : Entry} (h : Equivalent e e') :
    Option.Rel (Matched Query.Equivalent) e.all? e'.all? ∧
      Option.Rel (Matched Query.Equivalent) e.any? e'.any? := by
  cases h with
  | all hqs => exact ⟨.some hqs, .none⟩
  | any hqs => exact ⟨.none, .some hqs⟩
  | field _ => exact ⟨.none, .none⟩

/-- The conditions match. -/
theorem conditions_matched (h : Matched Equivalent es es') :
    Matched (fun e e' => e.1 = e'.1 ∧ e.2.Equivalent e'.2) (conditions es) (conditions es') := by
  constructor
  · rintro ⟨path, c⟩ hc
    obtain ⟨e', he', heq⟩ := h.left _ (mem_conditions.1 hc)
    cases heq with
    | field hc' => exact ⟨_, mem_conditions.2 he', rfl, hc'⟩
  · rintro ⟨path, c'⟩ hc'
    obtain ⟨e, he, heq⟩ := h.right _ (mem_conditions.1 hc')
    cases heq with
    | field hc => exact ⟨_, mem_conditions.2 he, rfl, hc⟩

/-- Groups are matched by groups. -/
theorem any_isGroup_eq (h : Matched Equivalent es es') : es.any isGroup = es'.any isGroup := by
  rw [Bool.eq_iff_iff, List.any_eq_true, List.any_eq_true]
  refine h.exists_iff fun e e' he => ?_
  cases he <;> exact Iff.rfl

end Query.Entry

namespace Grammar

variable {d d' : Document}

/-- **Query documents are read as equivalent queries**, if their entries
match. -/
theorem both_ofDocument? (h : Matched (fun e e' => Both Query.Entry.Equivalent (entry e.1 e.2)
      (entry e'.1 e'.2)) d d') (hd : (Entries.keys d).Nodup) (hd' : (Entries.keys d').Nodup) :
    Both Query.Equivalent (Query.ofDocument? d) (Query.ofDocument? d') := by
  have hentries : Both (Matched Query.Entry.Equivalent) (queryEntries d) (queryEntries d') := by
    rw [queryEntries_eq, queryEntries_eq]
    exact .mapM h
  refine .intro ?_ fun q q' hq hq' => ?_
  · exact exists_map_eq_ok.trans (hentries.exists_ok_iff.trans exists_map_eq_ok.symm)
  obtain ⟨es, hes, rfl⟩ := map_eq_ok hq
  obtain ⟨es', hes', rfl⟩ := map_eq_ok hq'
  have hmatched : Matched Query.Entry.Equivalent es es' := hentries.rel hes hes'
  -- both documents are logical nodes, or neither is
  unfold Query.Entry.assemble
  rw [Query.Entry.any_isGroup_eq hmatched]
  split
  · -- a group key stands once, so that the last group under it is the only one
    have hgroup {key : String} {v v' : Value} {qs qs' : List (Query Unit)} (hv : (key, v) ∈ d')
        (hv' : (key, v') ∈ d') (hread : group key v = .ok qs) (hread' : group key v' = .ok qs') :
        qs = qs' := by
      rw [Entries.eq_of_mem hd' hv hv', hread'] at hread
      exact (Except.ok.inj hread).symm
    rw [Query.Entry.lastAll_eq, Query.Entry.lastAll_eq, Query.Entry.lastAny_eq,
      Query.Entry.lastAny_eq]
    refine .logical
      (Query.Entry.last_matched (hmatched.imp fun _ _ _ _ he => he.groups.1)
        fun e he e' he' qs qs' hqs hqs' => ?_)
      (Query.Entry.last_matched (hmatched.imp fun _ _ _ _ he => he.groups.2)
        fun e he e' he' qs qs' hqs hqs' => ?_)
    · rw [Query.Entry.all?_eq_some.1 hqs] at he
      rw [Query.Entry.all?_eq_some.1 hqs'] at he'
      obtain ⟨v, hv, hread⟩ := (all_mem_queryEntries hes').1 he
      obtain ⟨v', hv', hread'⟩ := (all_mem_queryEntries hes').1 he'
      exact hgroup hv hv' hread hread'
    · rw [Query.Entry.any?_eq_some.1 hqs] at he
      rw [Query.Entry.any?_eq_some.1 hqs'] at he'
      obtain ⟨v, hv, hread⟩ := (any_mem_queryEntries hes').1 he
      obtain ⟨v', hv', hread'⟩ := (any_mem_queryEntries hes').1 he'
      exact hgroup hv hv' hread hread'
  · rw [Entries.ofList_eq_self (hd.sublist (keys_conditions_sublist hes)),
      Entries.ofList_eq_self (hd'.sublist (keys_conditions_sublist hes'))]
    exact .fields (Query.Entry.conditions_matched hmatched)

/-! ## Reading -/

/-- Each reader reads a value and its reordering as parts of queries that are
equivalent, or neither. -/
structure ReadsReordered (v : Value) : Prop where
  condition : ∀ v', ReorderedCondition v v' →
    Both Condition.Equivalent (Grammar.condition v) (Grammar.condition v')
  subQuery : ∀ v', ReorderedSubQuery v v' →
    Both Query.Equivalent (Grammar.subQuery v) (Grammar.subQuery v')
  entry : ∀ key e', ReorderedEntry (key, v) e' →
    Both Query.Entry.Equivalent (Grammar.entry key v) (Grammar.entry e'.1 e'.2)
  operator : ∀ siblings siblings' key e', SameForPatterns siblings siblings' →
    ReorderedOperator (key, v) e' → Both (Option.Rel Operator.Equivalent)
      (Grammar.operator siblings key v) (Grammar.operator siblings' e'.1 e'.2)

/-- A member of a group is read as what array elements match is. -/
theorem ReadsReordered.member {v v' : Value} (h : ReadsReordered v) (hr : ReorderedSubQuery v v')
    (key : String) : Both Query.Equivalent (Grammar.member key v) (Grammar.member key v') := by
  cases hr with
  | document hd => exact h.subQuery _ (.document hd)
  | same => exact .refl .refl _

section

variable {v v' : Value}

/-- A condition is read as its reordering is, if what its operators contain
is. -/
theorem both_condition (h : v.WellFormed)
    (hparts : ∀ d, v = .document d → ∀ e ∈ d, ReadsReordered e.2) (hr : ReorderedCondition v v') :
    Both Condition.Equivalent (condition v) (condition v') := by
  cases hr with
  | same => exact .refl .refl _
  | operators hholds hforall hperm hholds' =>
    have hmatched := (Matched.of_forall₂ hforall).perm hperm
    have hdistinct := (Value.wellFormed_document.1 h).1
    have hdistinct' :=
      nodup_keys_of_reordered (fun _ _ => ReorderedOperator.key) hforall hperm hdistinct
    -- either document is read among its own entries
    have hsame := sameForPatterns hmatched hdistinct hdistinct'
    rw [condition_operators hholds, condition_operators hholds']
    refine (both_operators (hmatched.imp fun e he e' _ hr => ?_)).map fun _ _ => .operators
    exact (hparts _ rfl e he).operator _ _ e.1 e' hsame hr

/-- A query document is read as its reordering is, if what its entries contain
is. -/
theorem both_subQuery (h : v.WellFormed)
    (hparts : ∀ d, v = .document d → ∀ e ∈ d, ReadsReordered e.2) (hr : ReorderedSubQuery v v') :
    Both Query.Equivalent (subQuery v) (subQuery v') := by
  cases hr with
  | same => exact .refl .refl _
  | document hd =>
    cases hd with
    | intro hforall hperm =>
      have hdistinct := (Value.wellFormed_document.1 h).1
      have hmatched := (Matched.of_forall₂ hforall).perm hperm
      refine both_ofDocument? (hmatched.imp fun e he e' _ hr => ?_) hdistinct
        (nodup_keys_of_reordered (fun _ _ => ReorderedEntry.key) hforall hperm hdistinct)
      exact (hparts _ rfl e he).entry e.1 e' hr

/-- A group is read as its reordering is, if its members are. -/
theorem both_group {items m items' : List Value} (hparts : ∀ item ∈ items, ReadsReordered item)
    (hforall : List.Forall₂ ReorderedSubQuery items m) (hperm : m.Perm items') (key : String) :
    Both (Matched Query.Equivalent) (group key (.array items)) (group key (.array items')) := by
  have hmatched := (Matched.of_forall₂ hforall).perm hperm
  rw [group, group, members_eq, members_eq]
  exact .mapM (hmatched.imp fun item hitem item' _ hr => (hparts item hitem).member hr key)

end

/-- **Every value is read as its reordering is.** -/
theorem readsReordered (v : Value) (h : v.WellFormed) : ReadsReordered v := by
  induction v using Value.nested_induction with
  | h v hitems hentries =>
    have hvalues (d : Document) (hv : v = .document d) (e : String × Value) (he : e ∈ d) :
        ReadsReordered e.2 :=
      hentries d hv e he ((Value.wellFormed_document.1 (hv ▸ h)).2 e he)
    have hmembers (items : List Value) (hv : v = .array items) (item : Value)
        (hitem : item ∈ items) : ReadsReordered item :=
      hitems items hv item hitem (Value.wellFormed_array.1 (hv ▸ h) item hitem)
    refine ⟨fun v' hr => both_condition h hvalues hr, fun v' hr => both_subQuery h hvalues hr,
      fun key e' hr => ?_, fun siblings siblings' key e' hsame hr => ?_⟩
    · cases hr with
      | same => exact .refl .refl _
      | field hkey hc =>
        rw [entry_field hkey, entry_field hkey]
        exact (both_condition h hvalues hc).map fun _ _ => .field
      | group hkey hforall hperm =>
        have hgroup := both_group (hmembers _ rfl) hforall hperm key
        rcases hkey with rfl | rfl
        · exact hgroup.map fun _ _ => .all
        · exact hgroup.map fun _ _ => .any
    · cases hr with
      | same =>
        rw [hsame.operator_eq]
        refine .refl (fun op => ?_) _
        cases op with
        | none => exact .none
        | some op => exact .some (.refl op)
      | set hkey hperm => exact both_set hkey hperm
      | not hc => exact (both_condition h hvalues hc).map fun _ _ hc => .some (.not hc)
      | elemMatch hq => exact (both_subQuery h hvalues hq).map fun _ _ hq => .some (.elemMatch hq)

end Grammar

/-! ## Compiling -/

namespace Session

variable {sorting : Sorting} {config : Config} {s : Session} {inUse : List (Query Identity)}
  {q : Query Identity}

/-- Whether a living query compiles depends on what its shape has to have
read, -/
theorem Sound.compile_ok_iff (h : Sound sorting config s inUse) (alive : Nat → Bool)
    (hq : q ∈ s.world inUse) : (∃ m, (s.engine.compile alive q).1 = .ok m) ↔
      ∀ r ∈ q.shape.readings, ¬ r.Unreadable config.regexSizeLimit := by
  have hcontent : Reports config.regexSizeLimit (q.content config.regexSizeLimit)
      q.shape.readings := by
    rw [← content_mapLabel fun _ => ()]
    exact q.shape.reports_content
  exact ((h.compile_agrees alive hq).reports hcontent).exists_ok_iff

/-- and what its matcher accepts on the meaning of its shape. -/
theorem Sound.accepts_iff (h : Sound sorting config s inUse) {alive : Nat → Bool}
    (hq : q ∈ s.world inUse) {m : Matcher} (hm : (s.engine.compile alive q).1 = .ok m)
    (root : Root) : m.accepts root = true ↔ q.shape.Holds config.regexSizeLimit root := by
  have hagree := h.compile_agrees alive hq
  rw [hm, ← content_mapLabel fun _ => ()] at hagree
  rcases hcontent : (q.mapLabel fun _ => ()).content config.regexSizeLimit with e | c
  · rw [hcontent] at hagree
    cases hagree
  · rw [hcontent] at hagree
    cases hagree with
    | ok hmc => rw [← m.accepts_unnumbered root, hmc, q.shape.accepts_content root hcontent]

end Session

/-- **The order of a query document makes no difference.** If a document is
another one with entries, members of groups, operators or members of sets in
other places, at whatever depth:

* both can be read as queries, or neither;
* wherever the two queries live, in one session or in two of the same
  configuration, after any history, both compile or neither does;
* and their matchers accept the same documents and the same values.

There are living queries of every shape (`Session.stores_every_shape`). -/
theorem reordering_invisible (d d' : Document) (h : d.WellFormed)
    (hr : Grammar.ReorderedQuery d d') :
    ((∃ t, Query.ofDocument? d = .ok t) ↔ ∃ t, Query.ofDocument? d' = .ok t) ∧
    ∀ (config : Config) (placement placement' : Placement) (sorting sorting' : Sorting)
      (events events' : List Event) (alive alive' : Nat → Bool) (q q' : Query Identity),
      let s := (Session.new placement sorting config).after events
      let s' := (Session.new placement' sorting' config).after events'
      q ∈ s.world [] → Query.ofDocument? d = .ok q.shape →
      q' ∈ s'.world [] → Query.ofDocument? d' = .ok q'.shape →
      ((∃ m, (s.engine.compile alive q).1 = .ok m) ↔
        ∃ m', (s'.engine.compile alive' q').1 = .ok m') ∧
      ∀ m m', (s.engine.compile alive q).1 = .ok m → (s'.engine.compile alive' q').1 = .ok m' →
        (∀ document, m.acceptsDocument document = m'.acceptsDocument document) ∧
          ∀ v, m.acceptsValue v = m'.acceptsValue v := by
  have hread : Both Query.Equivalent (Query.ofDocument? d) (Query.ofDocument? d') :=
    (Grammar.readsReordered (.document d) h).subQuery _ (.document hr)
  refine ⟨hread.exists_ok_iff, ?_⟩
  intro config placement placement' sorting sorting' events events' alive alive' q q' s s'
    hq hshape hq' hshape'
  have hequiv : Query.Equivalent q.shape q'.shape := hread.rel hshape hshape'
  have hsound := Session.sound_after placement sorting config events
  have hsound' := Session.sound_after placement' sorting' config events'
  constructor
  · rw [hsound.compile_ok_iff alive hq, hsound'.compile_ok_iff alive' hq']
    exact forall_congr' fun r => imp_congr_left (hequiv.readings r)
  · intro m m' hm hm'
    have haccepts (root : Root) : m.accepts root = m'.accepts root := by
      rw [Bool.eq_iff_iff, hsound.accepts_iff hq hm, hsound'.accepts_iff hq' hm']
      exact hequiv.holds config.regexSizeLimit root
    exact ⟨fun document => haccepts (.document document), fun v => haccepts (.value v)⟩

/-- Groups, members, operators and letters in other places. -/
theorem alternatives_in_another_order :
    let d : Document := [("$or", .array [.document [("a", .null)], .document [("b", .document
      [("$in", .array [.null, .bool true]),
        ("$not", .document [("$options", .string "s"), ("$regex", .string "x")])])]]),
      ("$and", .array [])]
    let d' : Document := [("$and", .array []), ("$or", .array [.document [("b", .document
      [("$not", .document [("$regex", .string "x"), ("$options", .string "s")]),
        ("$in", .array [.bool true, .null])])], .document [("a", .null)]])]
    let member : Query Origin := .fields .new [("a", .literal .null)]
    let s := (Session.new .above .strict {}).after
      [.step (.store "q" (.logical .new [] [member, .fields .new [("b", .operators
          [.among [.null, .bool true], .not (.operators [.regex "x" "s"])])]] none)),
        .step (.store "p" (.logical .new [] [.fields .new [("b", .operators
          [.not (.operators [.regex "x" "s"]), .among [.bool true, .null]])], member] none))]
    ∃ q q', Entries.get? "q" s.queries = some q ∧ Entries.get? "p" s.queries = some q' ∧
      Query.ofDocument? d = .ok q.shape ∧ Query.ofDocument? d' = .ok q'.shape ∧
      ∃ m m', (s.engine.compile (s.alive []) q).1 = .ok m ∧
        (s.engine.compile (s.alive []) q').1 = .ok m' ∧
        ∀ document, m.acceptsDocument document = m'.acceptsDocument document := by
  intro d d' member s
  have hpattern : Grammar.ReorderedCondition
      (.document [("$options", .string "s"), ("$regex", .string "x")])
      (.document [("$regex", .string "x"), ("$options", .string "s")]) :=
    .operators rfl (.cons .same (.cons .same .nil)) (.swap _ _ _) rfl
  have hmember : Grammar.ReorderedSubQuery
      (.document [("b", .document [("$in", .array [.null, .bool true]), ("$not", .document
        [("$options", .string "s"), ("$regex", .string "x")])])])
      (.document [("b", .document [("$not", .document [("$regex", .string "x"),
        ("$options", .string "s")]), ("$in", .array [.bool true, .null])])]) := by
    refine .document (.intro (.cons (.field rfl (.operators rfl (.cons (.set ?_ (.swap _ _ _))
      (.cons (.not hpattern) .nil)) (.swap _ _ _) rfl)) .nil) (.refl _))
    decide
  have hreordered : Grammar.ReorderedQuery d d' :=
    .intro (.cons (.group (.inr rfl) (.cons .same (.cons hmember .nil)) (.swap _ _ _))
      (.cons .same .nil)) (.swap _ _ _)
  have hwell : d.WellFormed := by
    simp [d, Document.WellFormed, Value.WellFormed, Value.EntriesWellFormed, Value.AllWellFormed,
      Entries.keys]
  obtain ⟨q, q', hget, hget', hshape, hshape', m, hm⟩ : ∃ q q',
      Entries.get? "q" s.queries = some q ∧ Entries.get? "p" s.queries = some q' ∧
      Query.ofDocument? d = .ok q.shape ∧ Query.ofDocument? d' = .ok q'.shape ∧
      ∃ m, (s.engine.compile (s.alive []) q).1 = .ok m := ⟨_, _, rfl, rfl, rfl, rfl, _, rfl⟩
  obtain ⟨hok, hsame⟩ := (reordering_invisible d d' hwell hreordered).2 {} .above .above .strict
    .strict _ _ (s.alive []) (s.alive []) q q' (Session.mem_world_of_get? hget) hshape
    (Session.mem_world_of_get? hget') hshape'
  obtain ⟨m', hm'⟩ := hok.1 ⟨m, hm⟩
  exact ⟨q, q', hget, hget', hshape, hshape', m, m', hm, hm', (hsame m m' hm hm').1⟩

end DocQuery
