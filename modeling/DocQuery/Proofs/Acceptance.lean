import Mathlib.Data.Int.Basic
import DocQuery.Proofs.EntryReaders
import DocQuery.Proofs.KeyedLists
import DocQuery.Proofs.Nesting
/-!
# What is a query document

The grammar of query documents, said as rules: `IsQuery`, `IsCondition` and
`IsOperatorEntry` refer to one another as query documents, conditions and
operator documents contain one another. A rule asks something of the entries
of a document, each by itself, so that the order of entries does not enter;
only an options entry and a pattern look for each other among their siblings.

Reading succeeds on what the rules derive and on nothing else
(`ofDocument?_accepts_grammar`). Since entries are read one by one, this is an
induction over the nesting of values in which each reader of a single entry is
compared with the rules for its key (`ReadsGrammar`).
-/


namespace DocQuery

/-- The whole number that a double is, in terms of its scaled value. -/
theorem Double.whole?_eq_some_iff {x : Double} {n : Int} :
    x.whole? = some n ↔
      x.isNaN = false ∧ x.isInfinite = false ∧ x.scaled = n * (Double.scale : Int) := by
  have hpos : (Double.scale : Int) ≠ 0 := by decide
  have hscaled : (if x.scaled % (Double.scale : Int) = 0 then some (x.scaled / (Double.scale : Int))
      else none) = some n ↔ x.scaled = n * (Double.scale : Int) := by
    constructor
    · intro h
      split at h
      · rename_i hmod
        cases h
        exact (Int.ediv_mul_cancel (Int.dvd_of_emod_eq_zero hmod)).symm
      · cases h
    · intro h
      rw [h, if_pos (Int.mul_emod_left n _), Int.mul_ediv_cancel n hpos]
  unfold Double.whole?
  rw [← hscaled]
  cases x.isNaN
  · cases x.isInfinite <;> simp only [Bool.or_false, Bool.or_true, Bool.false_eq_true, if_false,
      if_true, true_and, false_and, and_false, reduceCtorEq]
  · simp only [Bool.true_or, if_true, reduceCtorEq, false_and]

namespace Grammar

/-! ## Rules -/

/-- The operator keys that hold an array. -/
def setKeys : List String := ["$in", "$nin", "$all", "$some", "$hasSome"]

/-- The operator keys that ask something of what they hold. -/
def boundKeys : List String :=
  setKeys ++ ["$exists", "$size", "$not", "$elemMatch", "$regex", "$options"]

/-- A length: a whole number that is not negative, a double among them if it
has such a number as its value. -/
inductive IsLength : Value → Prop
  | int32 {n : Int32} : 0 ≤ n.toInt → IsLength (.int32 n)
  | int64 {n : Int64} : 0 ≤ n.toInt → IsLength (.int64 n)
  | double {x : Double} {n : Nat} : x.isNaN = false → x.isInfinite = false →
      x.scaled = n * (Double.scale : Int) → IsLength (.double x)

/-- A pattern, as a text or as a value of its own kind. -/
inductive IsPattern : Value → Prop
  | string (source : String) : IsPattern (.string source)
  | pattern (source letters : String) : IsPattern (.pattern source letters)

mutual

/-- A query document: each of its entries is a group or a field. -/
inductive IsQuery : Document → Prop
  | intro {d : Document} : (∀ e ∈ d, IsQueryEntry e.1 e.2) → IsQuery d

/-- An entry of a query document. No other key begins with a dollar sign. -/
inductive IsQueryEntry : String → Value → Prop
  | group {key : String} {items : List Value} : key = "$and" ∨ key = "$or" →
      (∀ item ∈ items, IsSubQuery item) → IsQueryEntry key (.array items)
  | field {key : String} {v : Value} : isOperatorKey key = false → IsCondition v →
      IsQueryEntry key v

/-- A query document in the place of a value. -/
inductive IsSubQuery : Value → Prop
  | intro {d : Document} : IsQuery d → IsSubQuery (.document d)

/-- A condition: a literal, or a document of operators. -/
inductive IsCondition : Value → Prop
  | literal {v : Value} : (∀ d, v = .document d → holdsOperators d = false) → IsCondition v
  | operators {d : Document} : holdsOperators d = true →
      (∀ e ∈ d, IsOperatorEntry d e.1 e.2) → IsCondition (.document d)

/-- An entry of an operator document, among its siblings. -/
inductive IsOperatorEntry : Document → String → Value → Prop
  | set {siblings : Document} {key : String} {items : List Value} : key ∈ setKeys →
      IsOperatorEntry siblings key (.array items)
  | presence {siblings : Document} {b : Bool} : IsOperatorEntry siblings "$exists" (.bool b)
  | size {siblings : Document} {v : Value} : IsLength v → IsOperatorEntry siblings "$size" v
  | not {siblings : Document} {v : Value} : IsCondition v → IsOperatorEntry siblings "$not" v
  | elemMatch {siblings : Document} {v : Value} : IsSubQuery v →
      IsOperatorEntry siblings "$elemMatch" v
  /-- A pattern; what stands beside it as options is a text. -/
  | regex {siblings : Document} {v : Value} : IsPattern v →
      (∀ o, Entries.get? "$options" siblings = some o → ∃ letters, o = .string letters) →
      IsOperatorEntry siblings "$regex" v
  | options {siblings : Document} {v : Value} : Entries.hasKey "$regex" siblings = true →
      IsOperatorEntry siblings "$options" v
  /-- Any other key holds anything. -/
  | free {siblings : Document} {key : String} {v : Value} : key ∉ boundKeys →
      IsOperatorEntry siblings key v

end

/-! ## Operands -/

theorem items_ok_iff {key : String} {v : Value} :
    (∃ xs, items key v = .ok xs) ↔ ∃ xs, v = .array xs := by
  cases v <;> simp [items]

/-- A length is what can be read as one. -/
theorem size_ok_iff {v : Value} : (∃ n, size v = .ok n) ↔ IsLength v := by
  have hsign (n : Int) : (∃ m, (if n < 0 then .error .sizeNegative else .ok n.toNat :
      Except ParseError Nat) = .ok m) ↔ 0 ≤ n := by
    split <;> simp <;> omega
  constructor
  · rintro ⟨m, h⟩
    cases v with
    | int32 n => exact .int32 ((hsign n.toInt).1 ⟨m, h⟩)
    | int64 n => exact .int64 ((hsign n.toInt).1 ⟨m, h⟩)
    | double x =>
      rw [size] at h
      cases hwhole : x.whole? with
      | none => rw [hwhole] at h; cases h
      | some n =>
        rw [hwhole] at h
        have hle : (0 : Int) ≤ min n (1 <<< 63 - 1 : Nat) := (hsign _).1 ⟨m, h⟩
        obtain ⟨k, rfl⟩ := Int.eq_ofNat_of_zero_le (Int.le_trans hle (Int.min_le_left _ _))
        obtain ⟨hnan, hinf, hscaled⟩ := Double.whole?_eq_some_iff.1 hwhole
        exact .double hnan hinf hscaled
    | _ => cases h
  · rintro (hn | hn | ⟨hnan, hinf, hscaled⟩)
    · exact (hsign _).2 hn
    · exact (hsign _).2 hn
    · have hwhole := Double.whole?_eq_some_iff.2 ⟨hnan, hinf, hscaled⟩
      rw [size, hwhole]
      exact (hsign _).2 (Int.le_min.2 ⟨Int.natCast_nonneg _, Int.natCast_nonneg _⟩)

/-- A pattern and its options are what can be read as such. -/
theorem regex_ok_iff {sibling : Option Value} {v : Value} :
    (∃ op, regex sibling v = .ok op) ↔
      IsPattern v ∧ ∀ o, sibling = some o → ∃ letters, o = .string letters := by
  have hoptions : (∃ explicit, options sibling = .ok explicit) ↔
      ∀ o, sibling = some o → ∃ letters, o = .string letters := by
    cases sibling with
    | none => simp [options]
    | some o => cases o <;> simp [options]
  rw [← hoptions]
  unfold regex
  cases options sibling with
  | error e =>
    constructor
    · rintro ⟨op, h⟩
      cases h
    · rintro ⟨-, explicit, h⟩
      cases h
  | ok explicit =>
    constructor
    · rintro ⟨op, h⟩
      refine ⟨?_, explicit, rfl⟩
      cases v with
      | string source => exact .string source
      | pattern source letters => exact .pattern source letters
      | _ => cases h
    · rintro ⟨hpattern, -⟩
      cases hpattern with
      | string source => exact ⟨_, rfl⟩
      | pattern source letters => exact ⟨_, rfl⟩

/-- A key that asks nothing of what it holds always has an operator. -/
theorem plainOperator_free {siblings : Document} {key : String} (h : key ∉ boundKeys)
    (v : Value) : ∃ op, plainOperator siblings key v = .ok op := by
  simp only [boundKeys, setKeys, List.cons_append, List.nil_append, List.mem_cons,
    List.not_mem_nil, or_false, not_or] at h
  obtain ⟨hin, hnin, hall, hsome, hhas, hexists, hsize, -, -, hregex, hoptions⟩ := h
  unfold plainOperator
  rw [if_neg hin, if_neg hnin, if_neg hall, if_neg (not_or.2 ⟨hsome, hhas⟩), if_neg hexists,
    if_neg hsize, if_neg hregex, if_neg hoptions]
  split_ifs <;> exact ⟨_, rfl⟩

/-- A key that holds an array has an operator if it does. -/
theorem plainOperator_set {siblings : Document} {key : String} (h : key ∈ setKeys) {v : Value} :
    (∃ op, plainOperator siblings key v = .ok op) ↔ ∃ items, v = .array items := by
  simp only [setKeys, List.mem_cons, List.not_mem_nil, or_false] at h
  constructor
  · rintro ⟨op, hop⟩
    have hitems : ∃ xs, items key v = .ok xs := by
      rcases h with rfl | rfl | rfl | rfl | rfl <;>
        exact (bind_eq_ok hop).imp fun _ h => h.1
    exact items_ok_iff.1 hitems
  · rintro ⟨xs, rfl⟩
    rcases h with rfl | rfl | rfl | rfl | rfl <;> exact ⟨_, rfl⟩

/-- **An operator without condition or query** is read if it follows the
rule for its key. -/
theorem plainOperator_ok_iff {siblings : Document} {key : String} {v : Value}
    (hnot : key ≠ "$not") (helem : key ≠ "$elemMatch") :
    (∃ op, plainOperator siblings key v = .ok op) ↔ IsOperatorEntry siblings key v := by
  constructor
  · intro h
    -- a key that asks nothing, the key of a set, or one of the four that remain
    by_cases hfree : key ∉ boundKeys
    · exact .free hfree
    by_cases hset : key ∈ setKeys
    · obtain ⟨xs, rfl⟩ := (plainOperator_set hset).1 h
      exact .set hset
    · obtain ⟨op, hop⟩ := h
      have hkey : key = "$exists" ∨ key = "$size" ∨ key = "$regex" ∨ key = "$options" := by
        have hrest := (List.mem_append.1 (not_not.1 hfree)).resolve_left hset
        simp only [List.mem_cons, List.not_mem_nil, or_false, hnot, helem, false_or] at hrest
        exact hrest
      rcases hkey with rfl | rfl | rfl | rfl
      · cases v with
        | bool b => exact .presence
        | _ => cases hop
      · obtain ⟨n, hn, -⟩ := bind_eq_ok hop
        exact .size (size_ok_iff.1 ⟨n, hn⟩)
      · obtain ⟨r, hr, -⟩ := bind_eq_ok hop
        obtain ⟨hpattern, hletters⟩ := regex_ok_iff.1 ⟨r, hr⟩
        exact .regex hpattern hletters
      · refine .options (by_contra fun hno => ?_)
        simp [plainOperator, hno] at hop
  · intro h
    cases h with
    | set hkey => exact (plainOperator_set hkey).2 ⟨_, rfl⟩
    | presence => exact ⟨_, rfl⟩
    | size h =>
      obtain ⟨n, hn⟩ := size_ok_iff.2 h
      exact ⟨some (.size n), by simp [plainOperator, hn]⟩
    | not => exact absurd rfl hnot
    | elemMatch => exact absurd rfl helem
    | regex hpattern hletters =>
      obtain ⟨op, hop⟩ := regex_ok_iff.2 ⟨hpattern, hletters⟩
      exact ⟨some op, by simp [plainOperator, hop]⟩
    | options hregex => exact ⟨none, by simp [plainOperator, hregex]⟩
    | free hfree => exact plainOperator_free hfree v

/-! ## Readers and rules -/

/-- Each reader of a single entry reads a value exactly if it follows the
rules for the entry. -/
structure ReadsGrammar (v : Value) : Prop where
  condition : (∃ c, Grammar.condition v = .ok c) ↔ IsCondition v
  member (key : String) : (∃ q, member key v = .ok q) ↔ IsSubQuery v
  entry (key : String) : (∃ e, entry key v = .ok e) ↔ IsQueryEntry key v
  operator (siblings : Document) (key : String) :
    (∃ op, operator siblings key v = .ok op) ↔ IsOperatorEntry siblings key v

/-- A query document is read if its entries follow the rules. -/
theorem queryEntries_ok_iff {d : Document} (h : ∀ e ∈ d, ReadsGrammar e.2) :
    (∃ es, queryEntries d = .ok es) ↔ IsQuery d := by
  have hentries : (∃ es, queryEntries d = .ok es) ↔ ∀ e ∈ d, IsQueryEntry e.1 e.2 := by
    rw [queryEntries_eq, exists_mapM_eq_ok]
    exact forall₂_congr fun e he => (h e he).entry e.1
  rw [hentries]
  constructor
  · exact .intro
  · rintro ⟨hd⟩
    exact hd

/-- A member of a group is read if a query that array elements match is. -/
theorem member_ok_iff {key : String} {v : Value} :
    (∃ q, member key v = .ok q) ↔ ∃ q, subQuery v = .ok q := by
  cases v with
  | document d =>
    rw [member, subQuery]
    rfl
  | _ => simp [member, subQuery]

/-- A condition is read if its operators follow the rules. -/
theorem condition_ok_iff {v : Value}
    (h : ∀ d, v = .document d → ∀ e ∈ d,
      ((∃ op, operator d e.1 e.2 = .ok op) ↔ IsOperatorEntry d e.1 e.2)) :
    (∃ c, Grammar.condition v = .ok c) ↔ IsCondition v := by
  have hoperators (d : Document) (hv : v = .document d) :
      (∃ ops, operators d d = .ok ops) ↔ ∀ e ∈ d, IsOperatorEntry d e.1 e.2 := by
    rw [operators_eq, exists_map_eq_ok, exists_mapM_eq_ok]
    exact forall₂_congr (h d hv)
  constructor
  · rintro ⟨c, hc⟩
    rcases condition_eq_ok hc with ⟨hliteral, -⟩ | ⟨d, ops, rfl, hd, hops, -⟩
    · exact .literal hliteral
    · exact .operators hd ((hoperators d rfl).1 ⟨ops, hops⟩)
  · intro hcondition
    cases hcondition with
    | literal hliteral => exact ⟨_, condition_literal hliteral⟩
    | operators hd hentries =>
      rw [condition_operators hd]
      exact exists_map_eq_ok.2 ((hoperators _ rfl).2 hentries)

/-- A group is read if it is an array whose members are. -/
theorem group_ok_iff {key : String} {v : Value}
    (h : ∀ items, v = .array items → ∀ item ∈ items,
      ((∃ q, member key item = .ok q) ↔ IsSubQuery item)) :
    (∃ qs, group key v = .ok qs) ↔ ∃ items, v = .array items ∧ ∀ item ∈ items, IsSubQuery item := by
  have hmembers (items : List Value) (hv : v = .array items) :
      (∃ qs, items.mapM (member key) = .ok qs) ↔ ∀ item ∈ items, IsSubQuery item :=
    exists_mapM_eq_ok.trans (forall₂_congr (h items hv))
  constructor
  · rintro ⟨qs, hqs⟩
    obtain ⟨items, hv, hread⟩ := group_eq_ok hqs
    exact ⟨items, hv, (hmembers items hv).1 ⟨qs, hread⟩⟩
  · rintro ⟨items, hv, hitems⟩
    have hread := (hmembers items hv).2 hitems
    rwa [hv, group, members_eq]

/-- An entry of a query document is read if it follows the rules. -/
theorem entry_ok_iff {key : String} {v : Value}
    (hgroup : (∃ qs, group key v = .ok qs) ↔
      ∃ items, v = .array items ∧ ∀ item ∈ items, IsSubQuery item)
    (hcondition : (∃ c, Grammar.condition v = .ok c) ↔ IsCondition v) :
    (∃ e, entry key v = .ok e) ↔ IsQueryEntry key v := by
  have hentry (hkey : key = "$and" ∨ key = "$or") (hread : ∃ qs, group key v = .ok qs) :
      IsQueryEntry key v := by
    obtain ⟨items, rfl, hmembers⟩ := hgroup.1 hread
    exact .group hkey hmembers
  constructor
  · rintro ⟨e, he⟩
    rcases entry_eq_ok he with ⟨hkey, qs, hqs, -⟩ | ⟨hkey, qs, hqs, -⟩ | ⟨hkey, c, hc, -⟩
    · exact hentry (.inl hkey) ⟨qs, hqs⟩
    · exact hentry (.inr hkey) ⟨qs, hqs⟩
    · exact .field hkey (hcondition.1 ⟨c, hc⟩)
  · intro h
    cases h with
    | group hkey hmembers =>
      obtain ⟨make, hmake⟩ := entry_group hkey (.array _)
      rw [hmake]
      exact exists_map_eq_ok.2 (hgroup.2 ⟨_, rfl, hmembers⟩)
    | field hkey hc =>
      rw [entry_field hkey]
      exact exists_map_eq_ok.2 (hcondition.2 hc)

/-- What the rules ask under the two keys that hold a condition and a query.
The rules for other keys derive nothing under these. -/
theorem isOperatorEntry_nested {siblings : Document} {key : String} {v : Value}
    (h : IsOperatorEntry siblings key v) :
    (key = "$not" → IsCondition v) ∧ (key = "$elemMatch" → IsSubQuery v) := by
  cases h with
  | not hv => exact ⟨fun _ => hv, fun h => absurd h (by decide)⟩
  | elemMatch hv => exact ⟨fun h => absurd h (by decide), fun _ => hv⟩
  | set hkey =>
    constructor <;> rintro rfl <;> exact absurd hkey (by decide)
  | free hfree =>
    constructor <;> rintro rfl <;> exact absurd hfree (by decide)
  | _ => exact ⟨fun h => absurd h (by decide), fun h => absurd h (by decide)⟩

/-- An entry of an operator document is read if it follows the rules. -/
theorem operator_ok_iff {siblings : Document} {key : String} {v : Value}
    (hcondition : (∃ c, Grammar.condition v = .ok c) ↔ IsCondition v)
    (hsub : (∃ q, subQuery v = .ok q) ↔ IsSubQuery v) :
    (∃ op, operator siblings key v = .ok op) ↔ IsOperatorEntry siblings key v := by
  unfold operator
  by_cases hnot : key = "$not"
  · rw [if_pos hnot, exists_map_eq_ok, hcondition]
    exact ⟨fun h => hnot ▸ .not h, fun h => (isOperatorEntry_nested h).1 hnot⟩
  by_cases helem : key = "$elemMatch"
  · rw [if_neg hnot, if_pos helem, exists_map_eq_ok, hsub]
    exact ⟨fun h => helem ▸ .elemMatch h, fun h => (isOperatorEntry_nested h).2 helem⟩
  · rw [if_neg hnot, if_neg helem]
    exact plainOperator_ok_iff hnot helem

/-- **Every reader reads what the rules derive**, and nothing else. -/
theorem readsGrammar (v : Value) : ReadsGrammar v := by
  induction v using Value.nested_induction with
  | h v hitems hentries =>
    -- a document holds entries in either of its roles, as a condition and as a query
    have hcondition : (∃ c, Grammar.condition v = .ok c) ↔ IsCondition v :=
      condition_ok_iff fun d hv e he => (hentries d hv e he).operator d e.1
    have hsub : (∃ q, subQuery v = .ok q) ↔ IsSubQuery v := by
      constructor
      · rintro ⟨q, h⟩
        obtain ⟨d, rfl, hd⟩ := subQuery_eq_ok h
        exact .intro ((queryEntries_ok_iff (hentries d rfl)).1 (exists_map_eq_ok.1 ⟨q, hd⟩))
      · rintro ⟨hd⟩
        exact exists_map_eq_ok.2 ((queryEntries_ok_iff (hentries _ rfl)).2 hd)
    have hgroup (key : String) := group_ok_iff fun items hv item hitem =>
      (hitems items hv item hitem).member key
    exact {
      condition := hcondition
      member := fun key => member_ok_iff.trans hsub
      entry := fun key => entry_ok_iff (hgroup key) hcondition
      operator := fun siblings key => operator_ok_iff hcondition hsub }

/-- The entries that are groups are those under the two group keys. -/
theorem isGroup_iff {key : String} {v : Value} {e : Query.Entry} (h : entry key v = .ok e) :
    e.isGroup = true ↔ key = "$and" ∨ key = "$or" := by
  rcases entry_eq_ok h with ⟨hkey, qs, -, rfl⟩ | ⟨hkey, qs, -, rfl⟩ | ⟨hkey, c, -, rfl⟩
  · exact ⟨fun _ => .inl hkey, fun _ => rfl⟩
  · exact ⟨fun _ => .inr hkey, fun _ => rfl⟩
  · constructor
    · intro hgroup
      cases hgroup
    · rintro (rfl | rfl) <;> exact absurd hkey (by decide)

end Grammar

/-- Entries make up a logical node exactly if one of them is a group. -/
theorem Query.Entry.isLogical_assemble (entries : List Query.Entry) :
    (Query.Entry.assemble entries).isLogical = entries.any Query.Entry.isGroup := by
  unfold Query.Entry.assemble
  split
  · rename_i hgroup
    rw [hgroup]
    rfl
  · rename_i hgroup
    rw [Bool.eq_false_iff.2 hgroup]
    rfl

/-- **A document can be read as a query exactly if it follows the grammar**,
at every depth and in every position. The query is a logical node exactly if
the document has a group; the fields beside a group have to follow the grammar
all the same. -/
theorem ofDocument?_accepts_grammar (d : Document) :
    ((∃ q, Query.ofDocument? d = .ok q) ↔ Grammar.IsQuery d) ∧
      ∀ q, Query.ofDocument? d = .ok q → (q.isLogical = true ↔
        Entries.hasKey "$and" d = true ∨ Entries.hasKey "$or" d = true) := by
  refine ⟨exists_map_eq_ok.trans (Grammar.queryEntries_ok_iff fun e _ =>
    Grammar.readsGrammar e.2), fun q hq => ?_⟩
  obtain ⟨es, hes, rfl⟩ := map_eq_ok hq
  rw [Query.Entry.isLogical_assemble, List.any_eq_true, Entries.hasKey_iff, Entries.hasKey_iff]
  constructor
  · rintro ⟨e, he, hgroup⟩
    obtain ⟨⟨key, v⟩, hmem, hread⟩ := (Grammar.mem_queryEntries hes).1 he
    rcases (Grammar.isGroup_iff hread).1 hgroup with rfl | rfl
    · exact .inl ⟨v, hmem⟩
    · exact .inr ⟨v, hmem⟩
  · intro h
    have hkey : ∃ x ∈ d, x.1 = "$and" ∨ x.1 = "$or" := by
      rcases h with ⟨v, hmem⟩ | ⟨v, hmem⟩
      · exact ⟨_, hmem, .inl rfl⟩
      · exact ⟨_, hmem, .inr rfl⟩
    obtain ⟨x, hmem, hkey⟩ := hkey
    obtain ⟨e, he⟩ := exists_mapM_eq_ok.1 ⟨es, Grammar.queryEntries_eq d ▸ hes⟩ x hmem
    exact ⟨e, (Grammar.mem_queryEntries hes).2 ⟨x, hmem, he⟩, (Grammar.isGroup_iff he).2 hkey⟩

/-- A field beside a group is dropped, but letters without a pattern in it are
an error all the same. -/
theorem letters_beside_group :
    let d : Document := [("a", .document [("$options", .string "i"), ("$regex", .string "x")]),
      ("$or", .array [])]
    let d' : Document := [("a", .document [("$options", .string "i")]), ("$or", .array [])]
    Grammar.IsQuery d ∧ (∃ q, Query.ofDocument? d = .ok q ∧ q.isLogical = true) ∧
      ¬ Grammar.IsQuery d' := by
  intro d d'
  obtain ⟨haccepts, hlogical⟩ := ofDocument?_accepts_grammar d
  obtain ⟨q, hq⟩ : ∃ q, Query.ofDocument? d = .ok q := ⟨_, rfl⟩
  refine ⟨haccepts.1 ⟨q, hq⟩, ⟨q, hq, (hlogical q hq).2 (.inr rfl)⟩, fun h => ?_⟩
  obtain ⟨q', hq'⟩ := (ofDocument?_accepts_grammar d').1.2 h
  cases hq'

end DocQuery
