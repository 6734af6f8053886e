import Mathlib.Data.List.ReduceOption
import DocQuery.Proofs.Results
import DocQuery.Query.Grammar
/-!
# Reading entry by entry

Query documents, groups and operator documents are read one entry after
another, and the first entry that cannot be read is the error. Said at once
for a whole list, that is a reader of a single entry carried through the list:
`queryEntries_eq`, `members_eq` and `operators_eq` give these readers.

What a reader can give is then said once for each of them, in terms of the
readers that it calls (`entry_eq_ok`, `condition_eq_ok`, `operator_eq_ok` and
the others), and what is proved of whatever has been read begins there. Which
entries a query document has been read as is said by membership, and the
query that they make up by what is picked from them last (`last_cases`).
-/


namespace DocQuery

namespace Grammar

/-- Reads an entry of a query document. -/
def entry (key : String) (v : Value) : Except ParseError Query.Entry :=
  if key = "$and" then Query.Entry.all <$> group key v
  else if key = "$or" then Query.Entry.any <$> group key v
  else if key = "$where" then .error .customTest
  else if isOperatorKey key then .error (.unknownTopLevel key)
  else Query.Entry.field key <$> condition v

/-- Reads a member of a group. -/
def member (key : String) : Value → Except ParseError (Query Unit)
  | .document d => Query.ofDocument? d
  | _ => .error (.notDocuments key)

/-- Reads an entry of an operator document. -/
def operator (siblings : List (String × Value)) (key : String) (v : Value) :
    Except ParseError (Option (Operator Unit)) :=
  if key = "$not" then (some ∘ Operator.not) <$> condition v
  else if key = "$elemMatch" then (some ∘ Operator.elemMatch) <$> subQuery v
  else plainOperator siblings key v

/-- A query document is read entry by entry. -/
theorem queryEntries_eq (d : Document) : queryEntries d = d.mapM fun e => entry e.1 e.2 := by
  induction d with
  | nil => rw [queryEntries]; rfl
  | cons e rest ih =>
    rw [queryEntries, List.mapM_cons, ih, entry]
    split_ifs <;> rfl

/-- A group is read member by member. -/
theorem members_eq (key : String) (items : List Value) :
    members key items = items.mapM (member key) := by
  induction items with
  | nil => rw [members]; rfl
  | cons item rest ih =>
    rw [List.mapM_cons, ← ih]
    cases item <;> rfl

/-- One entry of an operator document after another. -/
theorem operators_cons (siblings : Document) (e : String × Value) (rest : Document) :
    operators siblings (e :: rest) = operator siblings e.1 e.2 >>= fun op =>
      operators siblings rest >>= fun ops => pure (op.toList ++ ops) := by
  rw [operators, operator]
  split_ifs <;> rfl

/-- An operator document is read entry by entry, and options entries leave
nothing behind. -/
theorem operators_eq (siblings d : Document) :
    operators siblings d =
      List.reduceOption <$> d.mapM fun e => operator siblings e.1 e.2 := by
  induction d with
  | nil => rw [operators]; rfl
  | cons e rest ih =>
    rw [operators_cons, List.mapM_cons, ih]
    generalize (rest.mapM fun e => operator siblings e.1 e.2) = read
    rcases operator siblings e.1 e.2 with error | - | op
    · rfl
    · rcases read with error | ops <;> rfl
    · rcases read with error | ops <;> rfl

/-! ## Entries of query documents -/

/-- An entry under a group key. -/
theorem entry_group {key : String} (h : key = "$and" ∨ key = "$or") (v : Value) :
    ∃ make : List (Query Unit) → Query.Entry, entry key v = make <$> group key v := by
  unfold entry
  rcases h with rfl | rfl
  · exact ⟨.all, if_pos rfl⟩
  · exact ⟨.any, (if_neg (by decide)).trans (if_pos rfl)⟩

/-- An entry under a path. -/
theorem entry_field {key : String} (h : isOperatorKey key = false) (v : Value) :
    entry key v = Query.Entry.field key <$> condition v := by
  have hne {op : String} (hop : isOperatorKey op = true) : key ≠ op := by
    rintro rfl
    rw [hop] at h
    cases h
  rw [entry, if_neg (hne rfl), if_neg (hne rfl), if_neg (hne rfl), h,
    if_neg Bool.false_ne_true]

/-- **What an entry can be**: a group under one of the two group keys, or a
condition under a path. -/
theorem entry_eq_ok {key : String} {v : Value} {e : Query.Entry} (h : entry key v = .ok e) :
    (key = "$and" ∧ ∃ qs, group key v = .ok qs ∧ e = .all qs) ∨
      (key = "$or" ∧ ∃ qs, group key v = .ok qs ∧ e = .any qs) ∨
      (isOperatorKey key = false ∧ ∃ c, condition v = .ok c ∧ e = .field key c) := by
  unfold entry at h
  split at h
  · obtain ⟨qs, hqs, rfl⟩ := map_eq_ok h
    exact .inl ⟨‹_›, qs, hqs, rfl⟩
  split at h
  · obtain ⟨qs, hqs, rfl⟩ := map_eq_ok h
    exact .inr (.inl ⟨‹_›, qs, hqs, rfl⟩)
  split at h
  · cases h
  split at h
  · cases h
  · rename_i hkey
    obtain ⟨c, hc, rfl⟩ := map_eq_ok h
    exact .inr (.inr ⟨Bool.eq_false_iff.2 hkey, c, hc, rfl⟩)

/-- The entries of a query document, each read by itself. -/
theorem mem_queryEntries {d : Document} {es : List Query.Entry} (h : queryEntries d = .ok es)
    {e : Query.Entry} : e ∈ es ↔ ∃ x ∈ d, entry x.1 x.2 = .ok e :=
  mem_of_mapM_eq_ok (queryEntries_eq d ▸ h)

/-- The groups of which all must hold are those under their key, -/
theorem all_mem_queryEntries {d : Document} {es : List Query.Entry} (h : queryEntries d = .ok es)
    {qs : List (Query Unit)} :
    .all qs ∈ es ↔ ∃ v, ("$and", v) ∈ d ∧ group "$and" v = .ok qs := by
  rw [mem_queryEntries h]
  constructor
  · rintro ⟨⟨key, v⟩, hmem, he⟩
    rcases entry_eq_ok he with ⟨rfl, qs', hqs, heq⟩ | ⟨-, qs', -, heq⟩ | ⟨-, c, -, heq⟩
    · cases heq
      exact ⟨v, hmem, hqs⟩
    · cases heq
    · cases heq
  · rintro ⟨v, hmem, hqs⟩
    refine ⟨_, hmem, ?_⟩
    show Query.Entry.all <$> group "$and" v = _
    rw [hqs]
    rfl

/-- those of which any must hold are those under theirs, -/
theorem any_mem_queryEntries {d : Document} {es : List Query.Entry} (h : queryEntries d = .ok es)
    {qs : List (Query Unit)} :
    .any qs ∈ es ↔ ∃ v, ("$or", v) ∈ d ∧ group "$or" v = .ok qs := by
  rw [mem_queryEntries h]
  constructor
  · rintro ⟨⟨key, v⟩, hmem, he⟩
    rcases entry_eq_ok he with ⟨-, qs', -, heq⟩ | ⟨rfl, qs', hqs, heq⟩ | ⟨-, c, -, heq⟩
    · cases heq
    · cases heq
      exact ⟨v, hmem, hqs⟩
    · cases heq
  · rintro ⟨v, hmem, hqs⟩
    refine ⟨_, hmem, ?_⟩
    show Query.Entry.any <$> group "$or" v = _
    rw [hqs]
    rfl

/-- and the conditions are those under paths. -/
theorem field_mem_queryEntries {d : Document} {es : List Query.Entry}
    (h : queryEntries d = .ok es) {path : String} {c : Condition Unit} :
    .field path c ∈ es ↔
      isOperatorKey path = false ∧ ∃ v, (path, v) ∈ d ∧ condition v = .ok c := by
  rw [mem_queryEntries h]
  constructor
  · rintro ⟨⟨key, v⟩, hmem, he⟩
    rcases entry_eq_ok he with ⟨-, qs, -, heq⟩ | ⟨-, qs, -, heq⟩ | ⟨hpath, c', hc, heq⟩
    · cases heq
    · cases heq
    · cases heq
      exact ⟨hpath, v, hmem, hc⟩
  · rintro ⟨hpath, v, hmem, hc⟩
    refine ⟨_, hmem, ?_⟩
    rw [entry_field hpath, hc]
    rfl

/-- A group is an array of members. -/
theorem group_eq_ok {key : String} {v : Value} {qs : List (Query Unit)}
    (h : group key v = .ok qs) : ∃ items, v = .array items ∧ items.mapM (member key) = .ok qs := by
  cases v with
  | array items => exact ⟨items, rfl, by rwa [group, members_eq] at h⟩
  | _ => cases h

/-- A member of a group is a query document. -/
theorem member_eq_ok {key : String} {v : Value} {q : Query Unit} (h : member key v = .ok q) :
    ∃ d, v = .document d ∧ Query.ofDocument? d = .ok q := by
  cases v with
  | document d => exact ⟨d, rfl, h⟩
  | _ => cases h

/-! ## Conditions and their operators -/

/-- What is not a document of operators is read as it stands. -/
theorem condition_literal {v : Value} (h : ∀ d, v = .document d → holdsOperators d = false) :
    condition v = .ok (.literal v) := by
  cases v with
  | document d => rw [condition, h d rfl, if_neg Bool.false_ne_true]
  | _ => rfl

/-- A document of operators. -/
theorem condition_operators {d : Document} (h : holdsOperators d = true) :
    condition (.document d) = Condition.operators <$> operators d d := by
  rw [condition, if_pos h]

/-- **What a condition can be**: the value as it stands, or operators. -/
theorem condition_eq_ok {v : Value} {c : Condition Unit} (h : condition v = .ok c) :
    ((∀ d, v = .document d → holdsOperators d = false) ∧ c = .literal v) ∨
      ∃ d ops, v = .document d ∧ holdsOperators d = true ∧ operators d d = .ok ops ∧
        c = .operators ops := by
  by_cases hops : ∃ d, v = .document d ∧ holdsOperators d = true
  · obtain ⟨d, rfl, hd⟩ := hops
    rw [condition_operators hd] at h
    obtain ⟨ops, hread, rfl⟩ := map_eq_ok h
    exact .inr ⟨d, ops, rfl, hd, hread, rfl⟩
  · have hliteral (d : Document) (hv : v = .document d) : holdsOperators d = false :=
      Bool.eq_false_iff.2 fun hd => hops ⟨d, hv, hd⟩
    rw [condition_literal hliteral] at h
    exact .inl ⟨hliteral, (Except.ok.inj h).symm⟩

/-- What array elements match is a query document. -/
theorem subQuery_eq_ok {v : Value} {q : Query Unit} (h : subQuery v = .ok q) :
    ∃ d, v = .document d ∧ Query.ofDocument? d = .ok q := by
  cases v with
  | document d => exact ⟨d, rfl, h⟩
  | _ => cases h

/-- **What an operator can be**: a negated condition, a query for array
elements, or one that contains neither. -/
theorem operator_eq_ok {siblings : Document} {key : String} {v : Value}
    {op : Option (Operator Unit)} (h : operator siblings key v = .ok op) :
    (key = "$not" ∧ ∃ c, condition v = .ok c ∧ op = some (.not c)) ∨
      (key = "$elemMatch" ∧ ∃ q, subQuery v = .ok q ∧ op = some (.elemMatch q)) ∨
      (key ≠ "$not" ∧ key ≠ "$elemMatch" ∧ plainOperator siblings key v = .ok op) := by
  unfold operator at h
  split at h
  · obtain ⟨c, hc, rfl⟩ := map_eq_ok h
    exact .inl ⟨‹_›, c, hc, rfl⟩
  split at h
  · obtain ⟨q, hq, rfl⟩ := map_eq_ok h
    exact .inr (.inl ⟨‹_›, q, hq, rfl⟩)
  · exact .inr (.inr ⟨‹_›, ‹_›, h⟩)

/-- The operators of a document are those of its entries. -/
theorem mem_operators {siblings d : Document} {ops : List (Operator Unit)}
    (h : operators siblings d = .ok ops) {op : Operator Unit} :
    op ∈ ops ↔ ∃ e ∈ d, operator siblings e.1 e.2 = .ok (some op) := by
  rw [operators_eq] at h
  obtain ⟨found, hfound, rfl⟩ := map_eq_ok h
  rw [List.reduceOption_mem_iff, mem_of_mapM_eq_ok hfound]

/-- Paths are the keys of their entries, in order. -/
theorem keys_conditions_sublist {d : Document} {es : List Query.Entry}
    (h : queryEntries d = .ok es) :
    (Entries.keys (Query.Entry.conditions es)).Sublist (Entries.keys d) := by
  rw [queryEntries_eq] at h
  have hread := mapM_eq_ok_iff.1 h
  clear h
  induction hread with
  | nil => exact List.Sublist.slnil
  | cons he _ ih =>
    rcases entry_eq_ok he with ⟨-, qs, -, rfl⟩ | ⟨-, qs, -, rfl⟩ | ⟨-, c, -, rfl⟩
    · exact ih.cons _
    · exact ih.cons _
    · exact ih.cons_cons _

end Grammar

/-! ## What entries make up -/

namespace Query.Entry

/-- The members of an entry for all, if it is one. -/
def all? : Entry → Option (List (Query Unit))
  | all queries => some queries
  | _ => none

/-- The members of an entry for any, if it is one. -/
def any? : Entry → Option (List (Query Unit))
  | any queries => some queries
  | _ => none

theorem all?_eq_some {e : Entry} {qs : List (Query Unit)} : e.all? = some qs ↔ e = all qs := by
  cases e <;> simp [all?]

theorem any?_eq_some {e : Entry} {qs : List (Query Unit)} : e.any? = some qs ↔ e = any qs := by
  cases e <;> simp [any?]

/-- The members that are picked from the last entry from which any are. -/
def last (pick : Entry → Option (List (Query Unit))) (es : List Entry) : List (Query Unit) :=
  es.foldl (fun found e => (pick e).getD found) []

theorem lastAll_eq (es : List Entry) : lastAll es = last all? es := by
  refine congrArg (fun step => es.foldl step []) (funext fun found => funext fun e => ?_)
  cases e <;> rfl

theorem lastAny_eq (es : List Entry) : lastAny es = last any? es := by
  refine congrArg (fun step => es.foldl step []) (funext fun found => funext fun e => ?_)
  cases e <;> rfl

/-- What is picked last is picked from some entry, unless nothing is. -/
theorem last_cases (pick : Entry → Option (List (Query Unit))) (es : List Entry) :
    (last pick es = [] ∧ ∀ e ∈ es, pick e = none) ∨ ∃ e ∈ es, pick e = some (last pick es) := by
  -- over what has been found before
  have hfold (es : List Entry) : ∀ start,
      (es.foldl (fun found e => (pick e).getD found) start = start ∧ ∀ e ∈ es, pick e = none) ∨
        ∃ e ∈ es, pick e = some (es.foldl (fun found e => (pick e).getD found) start) := by
    induction es with
    | nil => exact fun start => .inl ⟨rfl, fun e he => absurd he List.not_mem_nil⟩
    | cons e rest ih =>
      intro start
      rw [List.foldl_cons]
      rcases ih ((pick e).getD start) with ⟨hlast, hnone⟩ | ⟨e', he', hlast⟩
      · cases hpick : pick e with
        | none =>
          rw [hpick] at hlast
          exact .inl ⟨hlast, List.forall_mem_cons.2 ⟨hpick, hnone⟩⟩
        | some qs =>
          rw [hpick] at hlast
          exact .inr ⟨e, List.mem_cons_self, hpick.trans (congrArg some hlast.symm)⟩
      · exact .inr ⟨e', List.mem_cons_of_mem _ he', hlast⟩
  exact hfold es []

/-- An entry under a path is one of the conditions. -/
theorem mem_conditions {es : List Entry} {path : String} {c : Condition Unit} :
    (path, c) ∈ conditions es ↔ field path c ∈ es := by
  unfold conditions
  rw [List.mem_filterMap]
  constructor
  · rintro ⟨e, he, hpick⟩
    cases e with
    | field path' c' =>
      cases hpick
      exact he
    | _ => cases hpick
  · intro h
    exact ⟨_, h, rfl⟩

end Query.Entry

end DocQuery
