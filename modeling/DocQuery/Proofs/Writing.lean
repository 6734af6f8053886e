import DocQuery.Proofs.Acceptance
import DocQuery.Proofs.Shape
/-!
# Writing queries

How a query is written as a document: each operator under its tag, a pattern
with its letters under the options key behind it, a field map under its paths
and a logical node as its two groups. What is written for an operator that is
not known is up to the writer.

Not every query can be written. A literal that is itself a document of
operators would be read as one, a path or a tag may be a key with a meaning of
its own, and a document has no room for two operators of one tag.
`Query.Writable` excludes these, at every depth, and what remains is read back
as it was (`Query.read_written`).
-/


namespace DocQuery

variable {ι : Type}

/-! ## The writer -/

/-- What is written behind an operator: the letters of a pattern. -/
def Operator.beside : Operator ι → Document
  | .regex _ letters => [("$options", .string letters)]
  | _ => []

mutual

/-- The document of a query. -/
def Query.written (operand : String → Value) : Query ι → Document
  | .logical _ all any _ =>
    [("$and", .array (Query.writtenAll operand all)),
      ("$or", .array (Query.writtenAll operand any))]
  | .fields _ entries => Entries.ofList (Condition.writtenEntries operand entries)
  termination_by structural query => query

/-- The members of a group. -/
def Query.writtenAll (operand : String → Value) : List (Query ι) → List Value
  | [] => []
  | query :: rest => .document (query.written operand) :: Query.writtenAll operand rest
  termination_by structural queries => queries

/-- The entries of a field map. -/
def Condition.writtenEntries (operand : String → Value) : List (String × Condition ι) → Document
  | [] => []
  | (path, condition) :: rest =>
    (path, condition.written operand) :: Condition.writtenEntries operand rest
  termination_by structural entries => entries

/-- The value of a condition. -/
def Condition.written (operand : String → Value) : Condition ι → Value
  | .literal v => v
  | .operators ops => .document (Entries.ofList (Operator.writtenAll operand ops))
  termination_by structural condition => condition

/-- The entries of an operator document. -/
def Operator.writtenAll (operand : String → Value) : List (Operator ι) → Document
  | [] => []
  | op :: rest => (op.tag, op.written operand) :: (op.beside ++ Operator.writtenAll operand rest)
  termination_by structural ops => ops

/-- The value under the tag of an operator. -/
def Operator.written (operand : String → Value) : Operator ι → Value
  | .eq v | .ne v | .gt v | .gte v | .lt v | .lte v => v
  | .among set | .notAmong set | .allOf set | .someOf set => .array set
  | .present expected => .bool expected
  | .regex source _ => .string source
  | .not condition => condition.written operand
  | .size n => .int64 (Int64.ofNat n)
  | .elemMatch query => .document (query.written operand)
  | .unknown tag => operand tag
  termination_by structural op => op

end

/-! ## What can be written -/

/-- The keys that operators are known by. -/
def Grammar.knownKeys : List String :=
  ["$eq", "$ne", "$gt", "$gte", "$lt", "$lte"] ++ boundKeys

mutual

/-- A query that can be written has no test of the caller's, and the paths of
its field maps are distinct and not the keys of operators. -/
def Query.Writable : Query ι → Prop
  | .logical _ all any custom =>
    custom = none ∧ Query.AllWritable all ∧ Query.AllWritable any
  | .fields _ entries => (Entries.keys entries).Nodup ∧ Condition.AllWritable entries
  termination_by structural query => query

/-- Every query of a list can be written. -/
def Query.AllWritable : List (Query ι) → Prop
  | [] => True
  | query :: rest => query.Writable ∧ Query.AllWritable rest
  termination_by structural queries => queries

/-- Every entry can be written. -/
def Condition.AllWritable : List (String × Condition ι) → Prop
  | [] => True
  | (path, condition) :: rest =>
    (Grammar.isOperatorKey path = false ∧ condition.Writable) ∧ Condition.AllWritable rest
  termination_by structural entries => entries

/-- A literal must not look like operators. Operators must: there is a first
one, with the key of an operator as its tag, and no two have the same tag. -/
def Condition.Writable : Condition ι → Prop
  | .literal v => ∀ d, v = .document d → Grammar.holdsOperators d = false
  | .operators ops =>
    (∃ op rest, ops = op :: rest ∧ Grammar.isOperatorKey op.tag = true) ∧
      (ops.map Operator.tag).Nodup ∧ Operator.AllWritable ops
  termination_by structural condition => condition

/-- Every operator of a list can be written. -/
def Operator.AllWritable : List (Operator ι) → Prop
  | [] => True
  | op :: rest => op.Writable ∧ Operator.AllWritable rest
  termination_by structural ops => ops

/-- What an operator contains can be written, a length is one that 64 bits
hold, and a tag that is not known is not the key of anything else. -/
def Operator.Writable : Operator ι → Prop
  | .not condition => condition.Writable
  | .elemMatch query => query.Writable
  | .size n => n < 1 <<< 63
  | .unknown tag => tag ∉ Grammar.knownKeys
  | _ => True
  termination_by structural op => op

end

/-! ## Entry by entry -/

variable {operand : String → Value}

/-- Entries are written one by one. -/
theorem Condition.writtenEntries_eq (entries : List (String × Condition ι)) :
    Condition.writtenEntries operand entries = entries.map fun e => (e.1, e.2.written operand) := by
  induction entries with
  | nil => rfl
  | cons e rest ih => rw [Condition.writtenEntries, ih, List.map_cons]

/-- Entries are written under their paths. -/
theorem Condition.keys_writtenEntries (entries : List (String × Condition ι)) :
    Entries.keys (Condition.writtenEntries operand entries) = Entries.keys entries := by
  rw [Condition.writtenEntries_eq, Entries.keys, Entries.keys, List.map_map]
  rfl

/-- Labels have no part in the paths. -/
theorem Condition.keys_mapLabels {κ : Type} (f : ι → κ) (entries : List (String × Condition ι)) :
    Entries.keys (Condition.mapLabels f entries) = Entries.keys entries := by
  induction entries with
  | nil => rfl
  | cons e rest ih =>
    rw [Condition.mapLabels]
    exact congrArg (e.1 :: ·) ih

/-- Operators are written one by one. -/
theorem Operator.writtenAll_eq (ops : List (Operator ι)) :
    Operator.writtenAll operand ops =
      ops.flatMap fun op => (op.tag, op.written operand) :: op.beside := by
  induction ops with
  | nil => rfl
  | cons op rest ih => rw [Operator.writtenAll, ih, List.flatMap_cons, List.cons_append]

/-- Only letters are written behind an operator, and only behind a pattern. -/
theorem Operator.of_mem_beside {op : Operator ι} {key : String} (h : key ∈ Entries.keys op.beside) :
    key = "$options" ∧ op.tag = "$regex" := by
  cases op with
  | regex source letters => exact ⟨List.mem_singleton.1 h, rfl⟩
  | _ => cases h

/-- The keys under which operators are written. -/
theorem Operator.mem_keys_writtenAll {ops : List (Operator ι)} {key : String} :
    key ∈ Entries.keys (Operator.writtenAll operand ops) ↔
      ∃ op ∈ ops, key = op.tag ∨ key ∈ Entries.keys op.beside := by
  simp only [Operator.writtenAll_eq, Entries.keys, List.map_flatMap, List.mem_flatMap,
    List.map_cons, List.mem_cons]

/-- The keys of an operator document are distinct if the tags are. -/
theorem Operator.nodup_keys_writtenAll {ops : List (Operator ι)} (h : (ops.map Operator.tag).Nodup)
    (hoptions : "$options" ∉ ops.map Operator.tag) :
    (Entries.keys (Operator.writtenAll operand ops)).Nodup := by
  induction ops with
  | nil => exact List.nodup_nil
  | cons op rest ih =>
    rw [List.map_cons, List.nodup_cons] at h
    obtain ⟨hop, hrest⟩ := List.ne_and_not_mem_of_not_mem_cons hoptions
    have hkeys : Entries.keys (Operator.writtenAll operand (op :: rest)) = op.tag ::
        (Entries.keys op.beside ++ Entries.keys (Operator.writtenAll operand rest)) := by
      rw [Operator.writtenAll, Entries.keys, List.map_cons, List.map_append]
      rfl
    rw [hkeys, List.nodup_cons, List.nodup_append, List.mem_append, not_or]
    refine ⟨⟨fun hmem => hop (Operator.of_mem_beside hmem).1.symm, fun hmem => ?_⟩, ?_,
      ih h.2 hrest, fun key hmem key' hmem' heq => ?_⟩
    · obtain ⟨other, hother, htag | hbeside⟩ := Operator.mem_keys_writtenAll.1 hmem
      · exact h.1 (htag ▸ List.mem_map_of_mem hother)
      · exact hop (Operator.of_mem_beside hbeside).1.symm
    · cases op with
      | regex source letters => exact List.nodup_cons.2 ⟨List.not_mem_nil, List.nodup_nil⟩
      | _ => exact List.nodup_nil
    · -- the letters of a second pattern, whose tag would be that of the first
      obtain ⟨rfl, hregex⟩ := Operator.of_mem_beside hmem
      obtain ⟨other, hother, htag | hbeside⟩ := Operator.mem_keys_writtenAll.1 hmem'
      · exact hrest (heq ▸ htag ▸ List.mem_map_of_mem hother)
      · have hsame : other.tag = op.tag := (Operator.of_mem_beside hbeside).2.trans hregex.symm
        exact h.1 (hsame ▸ List.mem_map_of_mem hother)

/-- The options key is not the tag of an operator that can be written. -/
theorem Operator.Writable.tag_ne_options {op : Operator ι} (h : op.Writable) :
    op.tag ≠ "$options" := by
  cases op with
  | unknown tag =>
    rintro rfl
    exact absurd (show "$options" ∈ Grammar.knownKeys by decide) h
  | _ => simp [Operator.tag]

/-- All queries can be written if each can. -/
theorem Query.allWritable_iff {queries : List (Query ι)} :
    Query.AllWritable queries ↔ ∀ query ∈ queries, query.Writable := by
  induction queries with
  | nil => simp [Query.AllWritable]
  | cons query rest ih => rw [Query.AllWritable, ih, List.forall_mem_cons]

/-- All entries can be written if each can. -/
theorem Condition.allWritable_iff {entries : List (String × Condition ι)} :
    Condition.AllWritable entries ↔
      ∀ e ∈ entries, Grammar.isOperatorKey e.1 = false ∧ e.2.Writable := by
  induction entries with
  | nil => simp [Condition.AllWritable]
  | cons e rest ih => rw [Condition.AllWritable, ih, List.forall_mem_cons]

/-- All operators can be written if each can. -/
theorem Operator.allWritable_iff {ops : List (Operator ι)} :
    Operator.AllWritable ops ↔ ∀ op ∈ ops, op.Writable := by
  induction ops with
  | nil => simp [Operator.AllWritable]
  | cons op rest ih => rw [Operator.AllWritable, ih, List.forall_mem_cons]

/-! ## Reading what has been written -/

/-- What a pattern finds among its siblings: itself, and its letters. -/
def Operator.FoundIn (siblings : Document) (op : Operator ι) : Prop :=
  ∀ source letters, op = .regex source letters →
    Entries.get? "$options" siblings = some (.string letters) ∧
      Entries.hasKey "$regex" siblings = true

/-- Patterns find their letters in what is written for all operators. -/
theorem Operator.foundIn_writtenAll {ops : List (Operator ι)} (h : (ops.map Operator.tag).Nodup)
    (hoptions : "$options" ∉ ops.map Operator.tag) {op : Operator ι} (hop : op ∈ ops) :
    op.FoundIn (Operator.writtenAll operand ops) := by
  rintro source letters rfl
  have hwritten (e : String × Value)
      (he : e ∈ [("$regex", .string source), ("$options", .string letters)]) :
      e ∈ Operator.writtenAll operand ops := by
    rw [Operator.writtenAll_eq]
    exact List.mem_flatMap.2 ⟨_, hop, he⟩
  refine ⟨Entries.get?_of_mem (Operator.nodup_keys_writtenAll h hoptions) ?_,
    Entries.hasKey_iff.2 ⟨.string source, ?_⟩⟩
  · exact hwritten _ (by simp)
  · exact hwritten _ (by simp)

/-- A length that 64 bits hold is read as it is. -/
theorem Grammar.size_ofNat {n : Nat} (h : n < 1 <<< 63) :
    size (.int64 (Int64.ofNat n)) = .ok n := by
  have hvalue : (Int64.ofNat n).toInt = n := Int64.toInt_ofNat_of_lt h
  show (if (Int64.ofNat n).toInt < 0 then Except.error ParseError.sizeNegative
    else Except.ok (Int64.ofNat n).toInt.toNat) = _
  rw [hvalue, if_neg (by omega), Int.toNat_natCast]

/-- A key that is not known makes an operator that is not. -/
theorem Grammar.plainOperator_unknown {key : String} (h : key ∉ knownKeys) (siblings : Document)
    (v : Value) : plainOperator siblings key v = .ok (some (.unknown key)) := by
  simp only [knownKeys, boundKeys, setKeys, List.cons_append, List.nil_append, List.mem_cons,
    List.not_mem_nil, or_false, not_or] at h
  simp [plainOperator, h]

/-- A field map is made up of its entries. -/
theorem Query.Entry.assemble_fields {entries : List (String × Condition Unit)}
    (h : (Entries.keys entries).Nodup) :
    Query.Entry.assemble (entries.map fun e => .field e.1 e.2) = .fields () entries := by
  have hgroup : (entries.map fun e => Query.Entry.field e.1 e.2).any isGroup = false := by
    simp [Query.Entry.isGroup]
  have hconditions : Query.Entry.conditions (entries.map fun e => .field e.1 e.2) = entries := by
    simp [Query.Entry.conditions, List.filterMap_map]
  rw [Query.Entry.assemble, hgroup, hconditions, Entries.ofList_eq_self h,
    if_neg Bool.false_ne_true]

mutual

/-- **What is written for a query is read as the query**, if it can be
written. -/
theorem Query.read_written : (q : Query ι) → q.Writable →
    Query.ofDocument? (q.written operand) = .ok q.shape
  | .logical label all any custom, ⟨hcustom, hall, hany⟩ => by
    have hand : Grammar.entry "$and" (.array (Query.writtenAll operand all)) =
        .ok (.all (Query.mapLabels (fun _ => ()) all)) := by
      show Query.Entry.all <$> Grammar.members "$and" (Query.writtenAll operand all) = _
      rw [Query.members_written "$and" all hall]
      rfl
    have hor : Grammar.entry "$or" (.array (Query.writtenAll operand any)) =
        .ok (.any (Query.mapLabels (fun _ => ()) any)) := by
      show Query.Entry.any <$> Grammar.members "$or" (Query.writtenAll operand any) = _
      rw [Query.members_written "$or" any hany]
      rfl
    rw [Query.ofDocument?, Query.written, Grammar.queryEntries_eq, List.mapM_cons, List.mapM_cons,
      hand, hor, hcustom]
    rfl
  | .fields _ entries, ⟨hdistinct, hentries⟩ => by
    have hkeys : (Entries.keys (Condition.writtenEntries operand entries)).Nodup := by
      rwa [Condition.keys_writtenEntries]
    have hkeys' : (Entries.keys (Condition.mapLabels (fun _ => ()) entries)).Nodup := by
      rwa [Condition.keys_mapLabels]
    rw [Query.written, Entries.ofList_eq_self hkeys, Query.ofDocument?,
      Condition.queryEntries_written entries hentries]
    exact congrArg Except.ok (Query.Entry.assemble_fields hkeys')
  termination_by structural q => q

/-- Members of groups are read as what has been written, -/
theorem Query.members_written (key : String) : (qs : List (Query ι)) → Query.AllWritable qs →
    Grammar.members key (Query.writtenAll operand qs) = .ok (Query.mapLabels (fun _ => ()) qs)
  | [], _ => rfl
  | q :: rest, ⟨hq, hrest⟩ => by
    have hq' : Query.Entry.assemble <$> Grammar.queryEntries (q.written operand) = .ok q.shape :=
      q.read_written hq
    rw [Query.writtenAll, Grammar.members, hq', Query.members_written key rest hrest]
    rfl
  termination_by structural qs => qs

/-- so are the entries of field maps, -/
theorem Condition.queryEntries_written : (entries : List (String × Condition ι)) →
    Condition.AllWritable entries →
    Grammar.queryEntries (Condition.writtenEntries operand entries) =
      .ok ((Condition.mapLabels (fun _ => ()) entries).map fun e => .field e.1 e.2)
  | [], _ => rfl
  | (path, condition) :: rest, ⟨⟨hpath, hcondition⟩, hrest⟩ => by
    have hread := Condition.queryEntries_written rest hrest
    rw [Grammar.queryEntries_eq] at hread ⊢
    rw [Condition.writtenEntries, List.mapM_cons, Grammar.entry_field hpath,
      condition.read_written hcondition, hread]
    rfl
  termination_by structural entries => entries

/-- conditions, -/
theorem Condition.read_written : (condition : Condition ι) → condition.Writable →
    Grammar.condition (condition.written operand) = .ok (condition.mapLabel fun _ => ())
  | .literal v, h => Grammar.condition_literal h
  | .operators ops, ⟨⟨op, rest, hops, hkey⟩, hdistinct, hwritable⟩ => by
    have hoptions : "$options" ∉ ops.map Operator.tag := by
      intro hmem
      obtain ⟨other, hother, htag⟩ := List.mem_map.1 hmem
      exact (Operator.allWritable_iff.1 hwritable other hother).tag_ne_options htag
    have hholds : Grammar.holdsOperators (Operator.writtenAll operand ops) = true := by
      rw [hops]
      exact hkey
    rw [Condition.written, Condition.mapLabel,
      Entries.ofList_eq_self (Operator.nodup_keys_writtenAll hdistinct hoptions),
      Grammar.condition_operators hholds,
      Operator.operators_written ops hwritable fun op hop =>
        Operator.foundIn_writtenAll hdistinct hoptions hop]
    rfl
  termination_by structural condition => condition

/-- their operators, -/
theorem Operator.operators_written {siblings : Document} : (ops : List (Operator ι)) →
    Operator.AllWritable ops → (∀ op ∈ ops, op.FoundIn siblings) →
    Grammar.operators siblings (Operator.writtenAll operand ops) =
      .ok (Operator.mapLabels (fun _ => ()) ops)
  | [], _, _ => rfl
  | op :: rest, ⟨hop, hrest⟩, hfound => by
    have hread := Operator.operators_written rest hrest fun other hother =>
      hfound other (List.mem_cons_of_mem _ hother)
    have hbeside : Grammar.operators siblings (op.beside ++ Operator.writtenAll operand rest) =
        Grammar.operators siblings (Operator.writtenAll operand rest) := by
      cases op with
      | regex source letters =>
        -- the letters have been taken by the pattern, and leave nothing behind
        have hregex := (hfound _ List.mem_cons_self source letters rfl).2
        have hoptions : Grammar.operator siblings "$options" (.string letters) = .ok none :=
          if_pos hregex
        rw [Operator.beside, List.singleton_append, Grammar.operators_cons, hoptions, hread]
        rfl
      | _ => rfl
    rw [Operator.writtenAll, Grammar.operators_cons,
      op.read_written hop (hfound op List.mem_cons_self), hbeside, hread]
    rfl
  termination_by structural ops => ops

/-- and each of them. -/
theorem Operator.read_written {siblings : Document} : (op : Operator ι) → op.Writable →
    op.FoundIn siblings → Grammar.operator siblings op.tag (op.written operand) =
      .ok (some (op.mapLabel fun _ => ()))
  | .not condition, h, _ => by
    have hread := condition.read_written h
    show (some ∘ Operator.not) <$> Grammar.condition (condition.written operand) = _
    rw [hread]
    rfl
  | .elemMatch query, h, _ => by
    have hread := query.read_written h
    show (some ∘ Operator.elemMatch) <$> Query.ofDocument? (query.written operand) = _
    rw [hread]
    rfl
  | .size n, h, _ => by
    have hlength : Grammar.size (.int64 (Int64.ofNat n)) = .ok n := Grammar.size_ofNat h
    show (do return some (Operator.size (← Grammar.size (.int64 (Int64.ofNat n))))) = _
    rw [hlength]
    rfl
  | .unknown tag, h, _ => by
    have hne {key : String} (hkey : key ∈ Grammar.knownKeys) : tag ≠ key := by
      rintro rfl
      exact h hkey
    have hnot : tag ≠ "$not" := hne (by decide)
    have helem : tag ≠ "$elemMatch" := hne (by decide)
    exact (if_neg hnot).trans ((if_neg helem).trans (Grammar.plainOperator_unknown h _ _))
  | .regex source letters, _, hfound => by
    have hletters := (hfound source letters rfl).1
    show (do return some (← Grammar.regex (Entries.get? "$options" siblings) (.string source))) = _
    rw [hletters]
    rfl
  | .eq _, _, _ | .ne _, _, _ | .gt _, _, _ | .gte _, _, _ | .lt _, _, _ | .lte _, _, _
  | .among _, _, _ | .notAmong _, _, _ | .present _, _, _ | .allOf _, _, _ | .someOf _, _, _ => rfl
  termination_by structural op => op

end

end DocQuery
