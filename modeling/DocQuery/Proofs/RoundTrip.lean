import DocQuery.Proofs.Writing
/-!
# Reading, writing and reading again

A query that has been read from a document can be written, unless the document
spells an operator in its other way or has keys among its operators that are
none of operators: behind a first key that is, such a key would come first
once the options entry before it is gone. Under this condition on the
documents of operators in a query document (`Grammar.InQuery` says which these
are) reading gives a query that can be written (`Grammar.readsWritable`, by
induction over the nesting of values), and so it gives it again from what is
written for it (`read_written_round_trip`).
-/


namespace DocQuery

namespace Grammar

/-! ## Documents of operators -/

mutual

/-- A document of operators is part of a query document: it is in the
condition of a field, or in a member of a group. -/
inductive InQuery (ops : Document) : Document → Prop
  | group {d m : Document} {key : String} {items : List Value} : key = "$and" ∨ key = "$or" →
      (key, .array items) ∈ d → .document m ∈ items → InQuery ops m → InQuery ops d
  | field {d : Document} {key : String} {v : Value} : isOperatorKey key = false →
      (key, v) ∈ d → InCondition ops v → InQuery ops d

/-- A document of operators is a condition, or part of one. -/
inductive InCondition (ops : Document) : Value → Prop
  | self : holdsOperators ops = true → InCondition ops (.document ops)
  | not {d : Document} {v : Value} : holdsOperators d = true → ("$not", v) ∈ d →
      InCondition ops v → InCondition ops (.document d)
  | elemMatch {d m : Document} : holdsOperators d = true → ("$elemMatch", .document m) ∈ d →
      InQuery ops m → InCondition ops (.document d)

end

/-- The keys of a document of operators are keys of operators, none of them
the other way to spell an operator. -/
def Spelled (ops : Document) : Prop :=
  ∀ e ∈ ops, isOperatorKey e.1 = true ∧ e.1 ≠ "$hasSome"

/-! ## Operators that have been read -/

/-- A length that has been read is one that 64 bits hold. -/
theorem size_lt {v : Value} {n : Nat} (h : size v = .ok n) : n < 1 <<< 63 := by
  have hsign {i : Int} (hi : i < 2 ^ 63) (hn : (if i < 0 then .error .sizeNegative
      else .ok i.toNat : Except ParseError Nat) = .ok n) : n < 1 <<< 63 := by
    split at hn
    · cases hn
    · cases hn
      omega
  cases v with
  | int32 i =>
    have hi := i.toInt_lt
    exact hsign (by omega) h
  | int64 i => exact hsign i.toInt_lt h
  | double x =>
    rw [size] at h
    cases hwhole : x.whole? with
    | none => rw [hwhole] at h; cases h
    | some i =>
      rw [hwhole] at h
      -- a longer double counts as the largest length
      have hmin : min i ((1 <<< 63 - 1 : Nat) : Int) ≤ ((1 <<< 63 - 1 : Nat) : Int) :=
        Int.min_le_right _ _
      exact hsign (Int.lt_of_le_of_lt hmin (by decide)) h
  | _ => cases h

/-- What is read of a pattern is a pattern. -/
theorem regex_eq_ok {sibling : Option Value} {v : Value} {op : Operator Unit}
    (h : regex sibling v = .ok op) : ∃ source letters, op = .regex source letters := by
  obtain ⟨explicit, -, h⟩ := bind_eq_ok h
  cases v with
  | string source =>
    cases h
    exact ⟨_, _, rfl⟩
  | pattern source letters =>
    cases h
    exact ⟨_, _, rfl⟩
  | _ => cases h

/-- An operator without condition or query stands under its tag and can be
written; only an options entry leaves nothing behind, and only beside a
pattern. -/
theorem plainOperator_eq_ok {siblings : Document} {key : String} {v : Value}
    {op : Option (Operator Unit)} (h : plainOperator siblings key v = .ok op)
    (hnot : key ≠ "$not") (helem : key ≠ "$elemMatch") (hsome : key ≠ "$hasSome") :
    (key = "$options" ∧ op = none ∧ Entries.hasKey "$regex" siblings = true) ∨
      key ≠ "$options" ∧ ∃ o, op = some o ∧ o.tag = key ∧ o.Writable := by
  by_cases hknown : key ∉ knownKeys
  · have hne : key ≠ "$options" := by
      rintro rfl
      exact hknown (by decide)
    rw [plainOperator_unknown hknown] at h
    cases h
    exact .inr ⟨hne, _, rfl, rfl, hknown⟩
  · have hkey := not_not.1 hknown
    simp only [knownKeys, boundKeys, setKeys, List.cons_append, List.nil_append, List.mem_cons,
      List.not_mem_nil, or_false, hnot, helem, hsome, false_or] at hkey
    rcases hkey with rfl | rfl | rfl | rfl | rfl | rfl | rfl | rfl | rfl | rfl | rfl | rfl | rfl |
      rfl
    -- the six comparisons hold any value, the four sets an array
    iterate 6
      cases h
      exact .inr ⟨by decide, _, rfl, rfl, trivial⟩
    iterate 4
      obtain ⟨xs, -, hop⟩ := bind_eq_ok h
      cases hop
      exact .inr ⟨by decide, _, rfl, rfl, trivial⟩
    · cases v with
      | bool b =>
        cases h
        exact .inr ⟨by decide, _, rfl, rfl, trivial⟩
      | _ => cases h
    · obtain ⟨n, hn, hop⟩ := bind_eq_ok h
      cases hop
      exact .inr ⟨by decide, _, rfl, rfl, size_lt hn⟩
    · obtain ⟨r, hr, hop⟩ := bind_eq_ok h
      cases hop
      obtain ⟨source, letters, rfl⟩ := regex_eq_ok hr
      exact .inr ⟨by decide, _, rfl, rfl, trivial⟩
    · have hregex : Entries.hasKey "$regex" siblings = true := by
        by_contra hno
        simp [plainOperator, hno] at h
      have hnone : op = none := by
        simpa [plainOperator, hregex] using h.symm
      exact .inl ⟨rfl, hnone, hregex⟩

/-- An operator stands under its tag, and options entries leave nothing
behind. -/
theorem operator_tag {siblings : Document} {key : String} {v : Value}
    {op : Option (Operator Unit)} (h : operator siblings key v = .ok op)
    (hsome : key ≠ "$hasSome") :
    (key = "$options" ∧ op = none ∧ Entries.hasKey "$regex" siblings = true) ∨
      key ≠ "$options" ∧ ∃ o, op = some o ∧ o.tag = key := by
  rcases operator_eq_ok h with ⟨rfl, c, -, rfl⟩ | ⟨rfl, q, -, rfl⟩ | ⟨hnot, helem, hplain⟩
  · exact .inr ⟨by decide, _, rfl, rfl⟩
  · exact .inr ⟨by decide, _, rfl, rfl⟩
  · rcases plainOperator_eq_ok hplain hnot helem hsome with hoptions | ⟨hne, o, rfl, htag, -⟩
    · exact .inl hoptions
    · exact .inr ⟨hne, o, rfl, htag⟩

/-- The tags of the operators of a document are its keys, less the options
key. -/
theorem tags_operators {siblings d : Document} {ops : List (Operator Unit)}
    (h : operators siblings d = .ok ops) (hspelled : Spelled d) :
    ops.map Operator.tag = (Entries.keys d).filter (· != "$options") := by
  induction d generalizing ops with
  | nil =>
    cases h
    rfl
  | cons e rest ih =>
    rw [operators_cons] at h
    obtain ⟨op, hop, h⟩ := bind_eq_ok h
    obtain ⟨ops', hrest, h⟩ := bind_eq_ok h
    cases h
    obtain ⟨⟨-, hsome⟩, hspelled⟩ := List.forall_mem_cons.1 hspelled
    have hkeys : Entries.keys (e :: rest) = e.1 :: Entries.keys rest := rfl
    rw [List.map_append, ih hrest hspelled, hkeys, List.filter_cons]
    rcases operator_tag hop hsome with ⟨hkey, rfl, -⟩ | ⟨hkey, o, rfl, htag⟩
    · simp [hkey]
    · simp [hkey, htag]

/-- Operators that have been read from a document whose keys are distinct
begin with one, and have distinct tags, all of them keys of operators. -/
theorem operators_head {d : Document} {ops : List (Operator Unit)} (h : operators d d = .ok ops)
    (hholds : holdsOperators d = true) (hspelled : Spelled d) (hdistinct : (Entries.keys d).Nodup) :
    (∃ op rest, ops = op :: rest ∧ isOperatorKey op.tag = true) ∧ (ops.map Operator.tag).Nodup := by
  have htags := tags_operators h hspelled
  refine ⟨?_, htags ▸ hdistinct.filter _⟩
  -- a document of options alone cannot be read, since they need a pattern
  have hother : ∃ key ∈ Entries.keys d, key ≠ "$options" := by
    by_contra! hoptions
    cases d with
    | nil => cases hholds
    | cons e rest =>
      obtain ⟨op, hop, -⟩ := bind_eq_ok ((operators_cons _ e rest).symm.trans h)
      have hkey : e.1 = "$options" := hoptions e.1 List.mem_cons_self
      rcases operator_tag hop (hspelled e List.mem_cons_self).2 with ⟨-, -, hregex⟩ | ⟨hne, -⟩
      · obtain ⟨v, hv⟩ := Entries.hasKey_iff.1 hregex
        have hregexKey := hoptions "$regex" (List.mem_map.2 ⟨_, hv, rfl⟩)
        exact absurd hregexKey (by decide)
      · exact hne hkey
  obtain ⟨key, hkey, hne⟩ := hother
  have hmem : key ∈ ops.map Operator.tag := by
    rw [htags]
    exact List.mem_filter.2 ⟨hkey, by simpa using hne⟩
  cases ops with
  | nil => cases hmem
  | cons op rest =>
    have htag : op.tag ∈ (Entries.keys d).filter (· != "$options") := htags ▸ List.mem_cons_self
    obtain ⟨e, he, hop⟩ := List.mem_map.1 (List.mem_filter.1 htag).1
    exact ⟨op, rest, rfl, hop ▸ (hspelled e he).1⟩

/-! ## Queries that have been read -/

/-- What entries make up can be written if they can. -/
theorem assemble_writable {es : List Query.Entry}
    (hdistinct : (Entries.keys (Query.Entry.conditions es)).Nodup)
    (hgroup : ∀ qs, .all qs ∈ es ∨ .any qs ∈ es → Query.AllWritable qs)
    (hfield : ∀ path c, .field path c ∈ es → isOperatorKey path = false ∧ c.Writable) :
    (Query.Entry.assemble es).Writable := by
  unfold Query.Entry.assemble
  split
  · have hlast (pick : Query.Entry → Option (List (Query Unit)))
        (hpick : ∀ e ∈ es, ∀ qs, pick e = some qs → Query.AllWritable qs) :
        Query.AllWritable (Query.Entry.last pick es) := by
      rcases Query.Entry.last_cases pick es with ⟨hnil, -⟩ | ⟨e, he, hlast⟩
      · rw [hnil]
        trivial
      · exact hpick e he _ hlast
    rw [Query.Entry.lastAll_eq, Query.Entry.lastAny_eq]
    refine ⟨rfl, hlast _ fun e he qs hqs => hgroup qs (.inl ?_),
      hlast _ fun e he qs hqs => hgroup qs (.inr ?_)⟩
    · rwa [← Query.Entry.all?_eq_some.1 hqs]
    · rwa [← Query.Entry.any?_eq_some.1 hqs]
  · rw [Entries.ofList_eq_self hdistinct]
    exact ⟨hdistinct, Condition.allWritable_iff.2 fun e he =>
      hfield e.1 e.2 (Query.Entry.mem_conditions.1 he)⟩

/-- What has been read of a value can be written, if its documents of
operators are spelled as they are written. -/
structure ReadsWritable (v : Value) : Prop where
  condition : (∀ ops, InCondition ops v → Spelled ops) →
    ∀ c, Grammar.condition v = .ok c → c.Writable
  query : ∀ d, v = .document d → (∀ ops, InQuery ops d → Spelled ops) →
    ∀ q, Query.ofDocument? d = .ok q → q.Writable
  group : ∀ items, v = .array items →
    (∀ ops m, .document m ∈ items → InQuery ops m → Spelled ops) →
    ∀ key qs, Grammar.group key v = .ok qs → Query.AllWritable qs

section

variable {v : Value}

/-- A condition that has been read can be written, if what its operators
contain can. -/
theorem condition_writable (h : v.WellFormed)
    (hparts : ∀ d, v = .document d → ∀ e ∈ d, ReadsWritable e.2)
    (hspelled : ∀ ops, InCondition ops v → Spelled ops) {c : Condition Unit}
    (hc : Grammar.condition v = .ok c) : c.Writable := by
  rcases condition_eq_ok hc with ⟨hliteral, rfl⟩ | ⟨d, ops, rfl, hholds, hops, rfl⟩
  · exact hliteral
  have hown : Spelled d := hspelled d (.self hholds)
  obtain ⟨hhead, htags⟩ := operators_head hops hholds hown (Value.wellFormed_document.1 h).1
  refine ⟨hhead, htags, Operator.allWritable_iff.2 fun op hop => ?_⟩
  obtain ⟨⟨key, w⟩, he, hread⟩ := (mem_operators hops).1 hop
  have hpart : ReadsWritable w := hparts d rfl _ he
  rcases operator_eq_ok hread with ⟨rfl, c, hc, heq⟩ | ⟨rfl, q, hq, heq⟩ | ⟨hnot, helem, hplain⟩
  · cases heq
    exact hpart.condition (fun ops hin => hspelled ops (.not hholds he hin)) c hc
  · cases heq
    obtain ⟨m, rfl, hm⟩ := subQuery_eq_ok hq
    exact hpart.query m rfl (fun ops hin => hspelled ops (.elemMatch hholds he hin)) q hm
  · rcases plainOperator_eq_ok hplain hnot helem (hown _ he).2 with
      ⟨-, hnone, -⟩ | ⟨-, o, hsome, -, hwritable⟩
    · cases hnone
    · cases hsome
      exact hwritable

/-- A query that has been read can be written, if what its entries contain
can. -/
theorem query_writable {d : Document} (h : (Entries.keys d).Nodup)
    (hparts : ∀ e ∈ d, ReadsWritable e.2) (hspelled : ∀ ops, InQuery ops d → Spelled ops)
    {q : Query Unit} (hq : Query.ofDocument? d = .ok q) : q.Writable := by
  obtain ⟨es, hes, rfl⟩ := map_eq_ok hq
  have hmembers {key : String} {w : Value} {qs : List (Query Unit)}
      (hkey : key = "$and" ∨ key = "$or") (hmem : (key, w) ∈ d)
      (hread : group key w = .ok qs) : Query.AllWritable qs := by
    obtain ⟨items, rfl, -⟩ := group_eq_ok hread
    exact (hparts _ hmem).group items rfl
      (fun ops m hm hin => hspelled ops (.group hkey hmem hm hin)) key qs hread
  refine assemble_writable (h.sublist (keys_conditions_sublist hes)) (fun qs hqs => ?_)
    fun path c hc => ?_
  · rcases hqs with hall | hany
    · obtain ⟨w, hmem, hread⟩ := (all_mem_queryEntries hes).1 hall
      exact hmembers (.inl rfl) hmem hread
    · obtain ⟨w, hmem, hread⟩ := (any_mem_queryEntries hes).1 hany
      exact hmembers (.inr rfl) hmem hread
  · obtain ⟨hpath, w, hmem, hread⟩ := (field_mem_queryEntries hes).1 hc
    exact ⟨hpath, (hparts _ hmem).condition
      (fun ops hin => hspelled ops (.field hpath hmem hin)) c hread⟩

/-- The members of a group that has been read can be written, if what they
are read from can. -/
theorem group_writable {items : List Value} (hparts : ∀ item ∈ items, ReadsWritable item)
    (hspelled : ∀ ops m, .document m ∈ items → InQuery ops m → Spelled ops) {key : String}
    {qs : List (Query Unit)} (hqs : items.mapM (member key) = .ok qs) : Query.AllWritable qs := by
  refine Query.allWritable_iff.2 fun q hq => ?_
  obtain ⟨item, hitem, hmember⟩ := (mem_of_mapM_eq_ok hqs).1 hq
  obtain ⟨m, rfl, hm⟩ := member_eq_ok hmember
  exact (hparts _ hitem).query m rfl (fun ops hin => hspelled ops m hitem hin) q hm

end

/-- **What has been read can be written.** -/
theorem readsWritable (v : Value) (h : v.WellFormed) : ReadsWritable v := by
  induction v using Value.nested_induction with
  | h v hitems hentries =>
    -- what a well-formed value contains is well-formed
    have hvalues (d : Document) (hv : v = .document d) (e : String × Value) (he : e ∈ d) :
        ReadsWritable e.2 :=
      hentries d hv e he ((Value.wellFormed_document.1 (hv ▸ h)).2 e he)
    have hmembers (items : List Value) (hv : v = .array items) (item : Value)
        (hitem : item ∈ items) : ReadsWritable item :=
      hitems items hv item hitem (Value.wellFormed_array.1 (hv ▸ h) item hitem)
    refine ⟨fun hspelled c hc => condition_writable h hvalues hspelled hc,
      fun d hv hspelled q hq => ?_, fun items hv hspelled key qs hqs => ?_⟩
    · exact query_writable (Value.wellFormed_document.1 (hv ▸ h)).1 (hvalues d hv) hspelled hq
    · obtain ⟨items', heq, hread⟩ := group_eq_ok hqs
      cases hv.symm.trans heq
      exact group_writable (hmembers items hv) hspelled hread

end Grammar

/-- **Writing a query and reading it again gives the query**, and so does
writing what has been read and reading it again:

* for every query that can be written;
* for every query that has been read from a document, if the keys in its
  documents of operators are keys of operators, none of them the other way to
  spell one.

What is written for operators that are not known makes no difference. -/
theorem read_written_round_trip (operand : String → Value) :
    (∀ {ι : Type} (q : Query ι), q.Writable →
      Query.ofDocument? (q.written operand) = .ok q.shape) ∧
    ∀ (d : Document) (q : Query Unit), d.WellFormed →
      (∀ ops, Grammar.InQuery ops d → Grammar.Spelled ops) →
      Query.ofDocument? d = .ok q → Query.ofDocument? (q.written operand) = .ok q := by
  refine ⟨fun q hq => q.read_written hq, fun d q hwell hspelled hread => ?_⟩
  have hwritable : q.Writable :=
    (Grammar.readsWritable (.document d) hwell).query d rfl hspelled q hread
  rw [q.read_written hwritable, q.shape_eq_self]

/-- Letters may stand before their pattern when they are read, and are written
behind it. -/
theorem letters_before_pattern_written_behind :
    let operand : String → Value := fun _ => .null
    let q : Query Unit := .logical () [.fields () [("a", .operators [.not (.operators [.size 3])])]]
      [.fields () [("b", .literal (.document [("c", .null)]))]] none
    let d : Document := [("a", .document
      [("$options", .string "i"), ("$regex", .string "x"), ("$near", .bool true)])]
    let read : Query Unit := .fields () [("a", .operators [.regex "x" "i", .unknown "$near"])]
    Query.ofDocument? (q.written operand) = .ok q ∧ Query.ofDocument? d = .ok read ∧
      Query.ofDocument? (read.written operand) = .ok read ∧
      read.written operand = [("a", .document
        [("$regex", .string "x"), ("$options", .string "i"), ("$near", .null)])] := by
  intro operand q d read
  have hsize : (Condition.operators [.size 3] : Condition Unit).Writable :=
    ⟨⟨_, _, rfl, rfl⟩, by decide, show 3 < 1 <<< 63 by decide, trivial⟩
  have hliteral : (Condition.literal (.document [("c", .null)]) : Condition Unit).Writable := by
    rintro _ ⟨⟩
    rfl
  have hq : q.Writable :=
    ⟨rfl, ⟨⟨by decide, ⟨rfl, ⟨⟨_, _, rfl, rfl⟩, by decide, hsize, trivial⟩⟩, trivial⟩, trivial⟩,
      ⟨by decide, ⟨rfl, hliteral⟩, trivial⟩, trivial⟩
  have hspelled (ops : Document) (h : Grammar.InQuery ops d) : Grammar.Spelled ops := by
    cases h with
    | group hkey hmem _ _ => simp [d] at hmem
    | field _ hmem hin =>
      simp only [d, List.mem_singleton, Prod.mk.injEq] at hmem
      obtain ⟨-, rfl⟩ := hmem
      cases hin with
      | self _ => simp [Grammar.Spelled, Grammar.isOperatorKey]
      | not _ hmem _ => simp at hmem
      | elemMatch _ hmem _ => simp at hmem
  have hwell : d.WellFormed := by
    simp [d, Document.WellFormed, Value.WellFormed, Value.EntriesWellFormed, Entries.keys]
  have hread : Query.ofDocument? d = .ok read := rfl
  obtain ⟨hfirst, hsecond⟩ := read_written_round_trip operand
  exact ⟨(hfirst q hq).trans (congrArg Except.ok q.shape_eq_self), hread,
    hsecond d read hwell hspelled hread, rfl⟩

end DocQuery
