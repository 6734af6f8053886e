import Mathlib.Data.Set.Defs
import DocQuery.Proofs.Comparisons
import DocQuery.Proofs.ExactDoubles
import DocQuery.Proofs.Nesting
import DocQuery.Value.Order
/-!
# The order of sorting

`Value.compare` decides by the rank of kinds, and between values of one rank
by their contents (`compare_eq`): arrays and documents item by item, and all
other values by what a list of lemmas says for each rank. Comparing the other
way round turns the answer round for all values (`compare_swap`).

It is no preorder on all values. A string ties with every symbol, though
strings differ, and a double lies between whole numbers that round to the
same double, though these differ too. On sort keys without such pairs
(`Unmixed`) any three comparisons are coherent (`Unmixed.coherent`), and
sorting is by a total preorder (`compareKeys_preorder`).
-/


namespace DocQuery

/-- Numbers that are doubles without rounding. -/
def Number.Exact : Number → Prop
  | .whole n => n.toInt.natAbs ≤ 2 ^ 53
  | .double _ => True

namespace Value

variable {strings : StringOrdering}

/-! ## Values of one rank -/

/-- The order of two values of equal rank. -/
def compareContents (strings : StringOrdering) : Value → Value → Ordering
  | .array a, .array b => compareItems strings a b
  | .document a, .document b => compareEntries strings a b
  | a, b => compareScalars strings a b

/-- Ranks first, contents second. -/
theorem compare_eq (a b : Value) : compare strings a b =
    (Ord.compare a.rank b.rank).then (compareContents strings a b) := by
  fun_cases compareContents strings a b with
  | case1 => simp [compare, rank]
  | case2 => simp [compare, rank]
  | case3 ha hd => rw [compare] <;> assumption

/-- Values of different ranks are ordered by rank. -/
theorem compare_of_rank_ne {a b : Value} (h : a.rank ≠ b.rank) :
    compare strings a b = Ord.compare a.rank b.rank := by
  rw [compare_eq, then_of_ne_eq fun hr => h (Nat.compare_eq_eq.1 hr)]

/-- The order of two entries of documents. -/
def compareEntry (strings : StringOrdering) (e f : String × Value) : Ordering :=
  (StringOrdering.compare .binary e.1 f.1).then (compare strings e.2 f.2)

theorem compareItems_eq (as bs : List Value) :
    compareItems strings as bs = List.compareLex (compare strings) as bs := by
  induction as generalizing bs with
  | nil => cases bs <;> rfl
  | cons a as ih => cases bs with
    | nil => rfl
    | cons b bs => rw [compareItems, List.compareLex_cons_cons, ih]

theorem compareEntries_eq (as bs : List (String × Value)) :
    compareEntries strings as bs = List.compareLex (compareEntry strings) as bs := by
  induction as generalizing bs with
  | nil => cases bs <;> rfl
  | cons e as ih => cases bs with
    | nil => rfl
    | cons f bs =>
      rw [compareEntries, List.compareLex_cons_cons, ih, compareEntry, Ordering.then_assoc]

/-! Each rank has values of few shapes. -/

theorem array_of_rank {v : Value} (h : v.rank = 5) : ∃ items, v = .array items := by
  cases v <;> simp_all [rank]

theorem document_of_rank {v : Value} (h : v.rank = 4) : ∃ entries, v = .document entries := by
  cases v <;> simp_all [rank]

theorem text_of_rank {v : Value} (h : v.rank = 3) :
    (∃ s, v = .string s) ∨ ∃ s, v = .symbol s := by
  cases v <;> simp_all [rank]

theorem number_of_rank {v : Value} (h : v.rank = 1) : ∃ n, v.number? = some n := by
  cases v <;> simp_all [rank, number?]

/-- To prove something of every value it is enough to prove it of arrays and
of documents whose parts have it, and of all values of other ranks. -/
theorem parts_induction {P : Value → Prop}
    (array : ∀ items, (∀ v ∈ items, P v) → P (.array items))
    (document : ∀ entries, (∀ e ∈ entries, P e.2) → P (.document entries))
    (scalar : ∀ v, v.rank ≠ 5 → v.rank ≠ 4 → P v) (v : Value) : P v := by
  induction v using nested_induction with
  | h v hitems hentries =>
    cases v with
    | array items => exact array items (hitems items rfl)
    | document entries => exact document entries (hentries entries rfl)
    | _ => exact scalar _ (by simp [rank]) (by simp [rank])

/-! ## Scalars -/

theorem rank_of_number {v : Value} {n : Number} (h : v.number? = some n) : v.rank = 1 := by
  cases v <;> first | rfl | cases h

theorem compareScalars_numbers {a b : Value} {m n : Number} (ha : a.number? = some m)
    (hb : b.number? = some n) : compareScalars strings a b = compareNumbers m n := by
  cases a <;> cases ha <;> cases b <;> cases hb <;> rfl

/-- What values of ranks other than those of numbers and texts are ordered
by. -/
def digits : Value → List Int
  | .bool b => [b.toNat]
  | .date millis => [millis.toInt]
  | .timestamp time increment => [time.toNat, increment.toNat]
  | .objectId id => id.bytes.toList.map (·.toNat)
  | .binary _ bytes => bytes.map (·.toNat)
  | .decimal128 number => number.bytes.toList.map (·.toNat)
  | _ => []

theorem compare_natCast (m n : Nat) : Ord.compare (m : Int) (n : Int) = Ord.compare m n := by
  simp [Ord.compare, compareOfLessAndEq]

theorem compareBytes_eq (a b : List UInt8) :
    compareBytes a b = List.compareLex Ord.compare (a.map fun x => (x.toNat : Int))
      (b.map fun x => (x.toNat : Int)) := by
  unfold compareBytes
  induction a generalizing b with
  | nil => cases b <;> rfl
  | cons x a ih => cases b with
    | nil => rfl
    | cons y b =>
      simp only [List.compareLex_cons_cons, List.map_cons, compare_natCast, ih]

theorem compareScalars_digits {a b : Value} (h : a.rank = b.rank) (h1 : a.rank ≠ 1)
    (h3 : a.rank ≠ 3) :
    compareScalars strings a b = List.compareLex Ord.compare a.digits b.digits := by
  fun_cases compareScalars strings a b with
  | case1 | case2 => exact absurd rfl h3
  | case3 | case4 | case5 =>
    simp [digits, List.compareLex_cons_cons, List.compareLex_nil_nil, compare_natCast]
  | case6 | case7 | case8 => exact compareBytes_eq _ _
  | case9 => exact absurd (rank_of_number ‹a.number? = some _›) h1
  | case10 _ _ _ _ hbool hdate htime hid hbinary hdecimal =>
    -- Values of other kinds that have the same rank have no digits.
    cases a <;> cases b <;> first
      | rfl
      | (cases h; done)
      | exact (hbool _ _ rfl rfl).elim
      | exact (hdate _ _ rfl rfl).elim
      | exact (htime _ _ _ _ rfl rfl).elim
      | exact (hid _ _ rfl rfl).elim
      | exact (hbinary _ _ _ _ rfl rfl).elim
      | exact (hdecimal _ _ rfl rfl).elim

theorem compareContents_scalar {a : Value} (h5 : a.rank ≠ 5) (h4 : a.rank ≠ 4) (b : Value) :
    compareContents strings a b = compareScalars strings a b := by
  fun_cases compareContents strings a b with
  | case1 => exact absurd rfl h5
  | case2 => exact absurd rfl h4
  | case3 => rfl

/-! ## The other way round -/

/-- Exact numbers are ordered as doubles. -/
theorem compareNumbers_exact {m n : Number} (hm : m.Exact) (hn : n.Exact) :
    compareNumbers m n = Ord.compare m.toDouble.orderKey n.toDouble.orderKey := by
  cases m <;> cases n <;> first | rfl | exact (Double.compare_orderKey_ofInt64 hm hn).symm

theorem compareNumbers_swap (m n : Number) : compareNumbers n m = (compareNumbers m n).swap := by
  cases m <;> cases n <;> exact (Int.compare_swap _ _).symm

theorem compareScalars_swap {a b : Value} (h : a.rank = b.rank) :
    compareScalars strings b a = (compareScalars strings a b).swap := by
  by_cases h1 : a.rank = 1
  · obtain ⟨m, hm⟩ := number_of_rank h1
    obtain ⟨n, hn⟩ := number_of_rank (h ▸ h1)
    rw [compareScalars_numbers hm hn, compareScalars_numbers hn hm, compareNumbers_swap]
  by_cases h3 : a.rank = 3
  · obtain ⟨s, rfl⟩ | ⟨s, rfl⟩ := text_of_rank h3 <;>
      obtain ⟨t, rfl⟩ | ⟨t, rfl⟩ := text_of_rank (h ▸ h3)
    · simp only [compareScalars]; exact Std.OrientedCmp.eq_swap
    · rfl
    · rfl
    · simp only [compareScalars]; exact Std.OrientedCmp.eq_swap
  · rw [compareScalars_digits h h1 h3, compareScalars_digits h.symm (h ▸ h1) (h ▸ h3)]
    exact Std.OrientedCmp.eq_swap

/-- The other way round, the order is turned round, if that holds of contents
of one rank. -/
theorem compare_swap_of_contents {a b : Value}
    (h : a.rank = b.rank → compareContents strings b a = (compareContents strings a b).swap) :
    compare strings b a = (compare strings a b).swap := by
  by_cases hr : a.rank = b.rank
  · rw [compare_eq, compare_eq, Ordering.swap_then, Nat.compare_swap, h hr]
  · rw [compare_of_rank_ne hr, compare_of_rank_ne (Ne.symm hr), Nat.compare_swap]

/-- **The other way round, the order is turned round**, for all values. -/
theorem compare_swap (a b : Value) : compare strings b a = (compare strings a b).swap := by
  induction a using parts_induction generalizing b with
  | array as ih =>
    refine compare_swap_of_contents fun hr => ?_
    obtain ⟨bs, rfl⟩ := array_of_rank hr.symm
    simp only [compareContents, compareItems_eq]
    exact compareLex_swap fun a ha b _ => ih a ha b
  | document as ih =>
    refine compare_swap_of_contents fun hr => ?_
    obtain ⟨bs, rfl⟩ := document_of_rank hr.symm
    simp only [compareContents, compareEntries_eq]
    refine compareLex_swap fun e he f _ => ?_
    have hkeys : StringOrdering.compare .binary f.1 e.1 =
        (StringOrdering.compare .binary e.1 f.1).swap := Std.OrientedCmp.eq_swap
    rw [compareEntry, compareEntry, Ordering.swap_then, ih e he f.2, hkeys]
  | scalar a h5 h4 =>
    refine compare_swap_of_contents fun hr => ?_
    rw [compareContents_scalar h5 h4, compareContents_scalar (hr ▸ h5) (hr ▸ h4),
      compareScalars_swap hr]

/-- A value ties with itself. -/
theorem compare_self (a : Value) : compare strings a a = .eq :=
  Ordering.eq_eq_of_eq_swap (compare_swap a a)

/-! ## Sort keys that do not mix -/

/-- A value is within itself, and what is within an item of an array or under
a key of a document is within that. The scope of a piece of code plays no
part in sorting and is not entered. -/
inductive Within (v : Value) : Value → Prop where
  | self : Within v v
  | item {items : List Value} {w : Value} : w ∈ items → Within v w → Within v (.array items)
  | entry {entries : List (String × Value)} {e : String × Value} :
    e ∈ entries → Within v e.2 → Within v (.document entries)

theorem Within.trans {u v w : Value} (huv : u.Within v) (hvw : v.Within w) : u.Within w := by
  induction hvw with
  | self => exact huv
  | item hmem _ ih => exact .item hmem ih
  | entry hmem _ ih => exact .entry hmem ih

theorem within_array {v : Value} {items : List Value} :
    v.Within (.array items) ↔ v = .array items ∨ ∃ w ∈ items, v.Within w := by
  constructor
  · rintro (_ | ⟨hmem, hv⟩ | _)
    · exact .inl rfl
    · exact .inr ⟨_, hmem, hv⟩
  · rintro (rfl | ⟨w, hmem, hv⟩)
    · exact .self
    · exact .item hmem hv

/-- A value occurs in sort keys if it is within one of them, at any depth; an
absent key counts as null. -/
def OccursIn (v : Value) (keys : Set (Option Value)) : Prop :=
  ∃ key ∈ keys, v.Within (key.getD .null)

theorem OccursIn.within {v w : Value} {keys : Set (Option Value)} (h : w.OccursIn keys)
    (hv : v.Within w) : v.OccursIn keys :=
  let ⟨key, hkey, hw⟩ := h
  ⟨key, hkey, hv.trans hw⟩

/-- Sort keys that hold, at any depth, no string together with a symbol, and
no whole number beyond 2 ^ 53 together with a double. -/
structure Unmixed (keys : Set (Option Value)) : Prop where
  texts {s t : String} : (Value.string s).OccursIn keys → (Value.symbol t).OccursIn keys → False
  numbers {n : Int64} {x : Double} : (Value.int64 n).OccursIn keys →
    (Value.double x).OccursIn keys → n.toInt.natAbs ≤ 2 ^ 53

variable {keys : Set (Option Value)}

/-- A value of the numbers' rank is a whole number or a double. -/
theorem whole_or_double {v : Value} {n : Number} (h : v.number? = some n) :
    (∃ k, n = .whole k) ∨ ∃ x, v = .double x := by
  cases v <;> cases h
  · exact .inl ⟨_, rfl⟩
  · exact .inl ⟨_, rfl⟩
  · exact .inr ⟨_, rfl⟩

namespace Unmixed

/-- Beside a double all numbers are exact. -/
theorem exact_of_double (h : Unmixed keys) {x : Double} (hx : (Value.double x).OccursIn keys)
    {v : Value} (hv : v.OccursIn keys) {n : Number} (hn : v.number? = some n) : n.Exact := by
  cases v <;> cases hn
  case int32 k =>
    have hlow := k.le_toInt
    have hhigh := k.toInt_lt
    simp only [Number.Exact, Int32.toInt_toInt64]
    omega
  case int64 => exact h.numbers hv hx
  case double => trivial

/-- Beside a symbol all texts are symbols. -/
theorem symbol_of_symbol (h : Unmixed keys) {s : String} (hs : (Value.symbol s).OccursIn keys)
    {v : Value} (hv : v.OccursIn keys) (hr : v.rank = 3) : ∃ t, v = .symbol t := by
  obtain ⟨t, rfl⟩ | ht := text_of_rank hr
  · exact (h.texts hv hs).elim
  · exact ht

variable {a b c : Value} (h : Unmixed keys) (ha : a.OccursIn keys) (hb : b.OccursIn keys)
  (hc : c.OccursIn keys)

include h ha hb hc

/-- Numbers are compared all three as doubles, or else all three as whole
numbers. -/
theorem coherent_numbers {l m n : Number} (hl : a.number? = some l) (hm : b.number? = some m)
    (hn : c.number? = some n) :
    Coherent (compareNumbers l m) (compareNumbers m n) (compareNumbers l n) := by
  by_cases hx : ∃ x, (Value.double x).OccursIn keys
  · -- One double anywhere makes all numbers exact, not just the one beside it.
    obtain ⟨x, hx⟩ := hx
    have hl := h.exact_of_double hx ha hl
    have hm := h.exact_of_double hx hb hm
    have hn := h.exact_of_double hx hc hn
    rw [compareNumbers_exact hl hm, compareNumbers_exact hm hn, compareNumbers_exact hl hn]
    exact .of_transCmp Ord.compare _ _ _
  · have whole {v : Value} {n : Number} (hv : v.OccursIn keys) (hn : v.number? = some n) :
        ∃ k, n = .whole k :=
      (whole_or_double hn).resolve_right fun ⟨x, hvx⟩ => hx ⟨x, hvx ▸ hv⟩
    obtain ⟨l, rfl⟩ := whole ha hl
    obtain ⟨m, rfl⟩ := whole hb hm
    obtain ⟨n, rfl⟩ := whole hc hn
    exact .of_transCmp Ord.compare _ _ _

/-- Texts are all three strings, or else all three symbols. -/
theorem coherent_texts (hra : a.rank = 3) (hrb : b.rank = 3) (hrc : c.rank = 3) :
    Coherent (compareScalars strings a b) (compareScalars strings b c)
      (compareScalars strings a c) := by
  by_cases hs : ∃ s, (Value.symbol s).OccursIn keys
  · obtain ⟨s, hs⟩ := hs
    obtain ⟨s, rfl⟩ := h.symbol_of_symbol hs ha hra
    obtain ⟨t, rfl⟩ := h.symbol_of_symbol hs hb hrb
    obtain ⟨u, rfl⟩ := h.symbol_of_symbol hs hc hrc
    exact .of_transCmp strings.compare s t u
  · have string {v : Value} (hv : v.OccursIn keys) (hr : v.rank = 3) : ∃ s, v = .string s :=
      (text_of_rank hr).resolve_right fun ⟨s, hvs⟩ => hs ⟨s, hvs ▸ hv⟩
    obtain ⟨s, rfl⟩ := string ha hra
    obtain ⟨t, rfl⟩ := string hb hrb
    obtain ⟨u, rfl⟩ := string hc hrc
    exact .of_transCmp strings.compare s t u

theorem coherent_scalars (hab : a.rank = b.rank) (hbc : b.rank = c.rank) :
    Coherent (compareScalars strings a b) (compareScalars strings b c)
      (compareScalars strings a c) := by
  by_cases h1 : a.rank = 1
  · obtain ⟨l, hl⟩ := number_of_rank h1
    obtain ⟨m, hm⟩ := number_of_rank (hab ▸ h1)
    obtain ⟨n, hn⟩ := number_of_rank (hbc ▸ hab ▸ h1)
    rw [compareScalars_numbers hl hm, compareScalars_numbers hm hn, compareScalars_numbers hl hn]
    exact h.coherent_numbers ha hb hc hl hm hn
  by_cases h3 : a.rank = 3
  · exact h.coherent_texts ha hb hc h3 (hab ▸ h3) (hbc ▸ hab ▸ h3)
  · rw [compareScalars_digits hab h1 h3, compareScalars_digits hbc (hab ▸ h1) (hab ▸ h3),
      compareScalars_digits (hab.trans hbc) h1 h3]
    exact .of_transCmp (List.compareLex Ord.compare) _ _ _

end Unmixed

/-- Comparing is coherent, if comparing contents of one rank is. -/
theorem coherent_of_contents {a b c : Value}
    (h : a.rank = b.rank → b.rank = c.rank → Coherent (compareContents strings a b)
      (compareContents strings b c) (compareContents strings a c)) :
    Coherent (compare strings a b) (compare strings b c) (compare strings a c) := by
  simp only [compare_eq]
  refine .andThen (.of_transCmp Ord.compare _ _ _) fun hab hbc => h ?_ ?_
  · exact Nat.compare_eq_eq.1 hab
  · exact Nat.compare_eq_eq.1 hbc

/-- **Comparing is coherent** on what occurs in unmixed sort keys. -/
theorem Unmixed.coherent (h : Unmixed keys) {a b c : Value} (ha : a.OccursIn keys)
    (hb : b.OccursIn keys) (hc : c.OccursIn keys) :
    Coherent (compare strings a b) (compare strings b c) (compare strings a c) := by
  induction a using parts_induction generalizing b c with
  | array as ih =>
    refine coherent_of_contents fun hab hbc => ?_
    obtain ⟨bs, rfl⟩ := array_of_rank hab.symm
    obtain ⟨cs, rfl⟩ := array_of_rank hbc.symm
    simp only [compareContents, compareItems_eq]
    exact .compareLex fun x hx y hy z hz => ih x hx (ha.within (.item hx .self))
      (hb.within (.item hy .self)) (hc.within (.item hz .self))
  | document as ih =>
    refine coherent_of_contents fun hab hbc => ?_
    obtain ⟨bs, rfl⟩ := document_of_rank hab.symm
    obtain ⟨cs, rfl⟩ := document_of_rank hbc.symm
    simp only [compareContents, compareEntries_eq]
    refine .compareLex fun x hx y hy z hz => .andThen (.of_transCmp _ _ _ _) fun _ _ => ?_
    exact ih x hx (ha.within (.entry hx .self)) (hb.within (.entry hy .self))
      (hc.within (.entry hz .self))
  | scalar a h5 h4 =>
    refine coherent_of_contents fun hab hbc => ?_
    have hb5 := hab ▸ h5
    have hb4 := hab ▸ h4
    rw [compareContents_scalar h5 h4, compareContents_scalar hb5 hb4,
      compareContents_scalar h5 h4]
    exact h.coherent_scalars ha hb hc hab hbc

/-- Comparing is coherent on unmixed sort keys. -/
theorem Unmixed.coherent_keys (h : Unmixed keys) {a b c : Option Value} (ha : a ∈ keys)
    (hb : b ∈ keys) (hc : c ∈ keys) : Coherent (compareKeys strings a b)
      (compareKeys strings b c) (compareKeys strings a c) :=
  h.coherent ⟨a, ha, .self⟩ ⟨b, hb, .self⟩ ⟨c, hc, .self⟩

/-! ## Ranks -/

/-- What two values are decided by: themselves, or what two of their parts are
decided by, if the parts stand in one place, in arrays or under one key, and
everything before them ties. -/
inductive DecidedBy (strings : StringOrdering) (a b : Value) : Value → Value → Prop where
  | self : DecidedBy strings a b a b
  | items {as bs as' bs' : List Value} {v w : Value} : compareItems strings as bs = .eq →
    DecidedBy strings a b v w →
      DecidedBy strings a b (.array (as ++ v :: as')) (.array (bs ++ w :: bs'))
  | entries {as bs as' bs' : List (String × Value)} {key : String} {v w : Value} :
    compareEntries strings as bs = .eq → DecidedBy strings a b v w →
      DecidedBy strings a b (.document (as ++ (key, v) :: as')) (.document (bs ++ (key, w) :: bs'))

/-- Values compare as what they are decided by, unless that ties. -/
theorem DecidedBy.compare_eq {a b v w : Value} (h : DecidedBy strings a b v w)
    (hne : compare strings a b ≠ .eq) : compare strings v w = compare strings a b := by
  induction h with
  | self => rfl
  | items hties _ ih =>
    rw [compareItems_eq] at hties
    rw [compare, compareItems_eq, compareLex_append hties, List.compareLex_cons_cons, ih]
    exact then_of_ne_eq hne _
  | @entries _ _ _ _ key _ _ hties _ ih =>
    have hkey : StringOrdering.compare .binary key key = .eq := Std.ReflCmp.compare_self
    rw [compareEntries_eq] at hties
    rw [compare, compareEntries_eq, compareLex_append hties, List.compareLex_cons_cons,
      compareEntry, hkey, ih]
    exact then_of_ne_eq hne _

/-- Keys that sort below all others: an absent one, null and undefined. -/
def Missing (key : Option Value) : Prop := key = none ∨ key = some .null ∨ key = some .undefined

theorem missing_iff {key : Option Value} : Missing key ↔ (key.getD .null).rank = 0 := by
  cases key with
  | none => simp [Missing, rank]
  | some v => cases v <;> simp [Missing, rank]

theorem compareKeys_of_missing {a b : Option Value} (ha : Missing a) (hb : Missing b) :
    compareKeys strings a b = .eq := by
  obtain rfl | rfl | rfl := ha <;> obtain rfl | rfl | rfl := hb <;> rfl

theorem compareKeys_of_not_missing {a b : Option Value} (ha : Missing a) (hb : ¬ Missing b) :
    compareKeys strings a b = .lt := by
  rw [missing_iff] at ha hb
  rw [compareKeys, compare_of_rank_ne (by omega), ha]
  exact Nat.compare_eq_lt.2 (Nat.pos_of_ne_zero hb)

/-- **Sorting is by a total preorder.** Under either ordering of strings,
every sort key ties with itself, and the other way round the order is turned
round. Among unmixed keys the order is transitive, and so are ties. Missing
keys tie with each other and lie below all others. Values of different ranks
are ordered by rank whatever they hold, and so are values that are decided by
parts of different ranks. -/
theorem compareKeys_preorder (strings : StringOrdering) :
    (∀ a, compareKeys strings a a = .eq) ∧
    (∀ a b, compareKeys strings b a = (compareKeys strings a b).swap) ∧
    (∀ keys, Unmixed keys → ∀ a ∈ keys, ∀ b ∈ keys, ∀ c ∈ keys,
      (compareKeys strings a b ≠ .gt → compareKeys strings b c ≠ .gt →
        compareKeys strings a c ≠ .gt) ∧
      (compareKeys strings a b = .eq → compareKeys strings b c = .eq →
        compareKeys strings a c = .eq)) ∧
    (∀ a b, Missing a → Missing b → compareKeys strings a b = .eq) ∧
    (∀ a b, Missing a → ¬ Missing b → compareKeys strings a b = .lt) ∧
    (∀ a b v w, DecidedBy strings a b v w → a.rank ≠ b.rank →
      compareKeys strings (some v) (some w) = Ord.compare a.rank b.rank) := by
  refine ⟨fun a => compare_self _, fun a b => compare_swap _ _, ?_,
    fun a b => compareKeys_of_missing, fun a b => compareKeys_of_not_missing, ?_⟩
  · intro keys h a ha b hb c hc
    exact ⟨(h.coherent_keys ha hb hc).isLE, (h.coherent_keys ha hb hc).eq⟩
  · intro a b v w h hr
    have hrank : compare strings a b = Ord.compare a.rank b.rank := compare_of_rank_ne hr
    have hne : compare strings a b ≠ .eq := fun heq =>
      hr (Nat.compare_eq_eq.1 (hrank ▸ heq))
    exact (h.compare_eq hne).trans hrank

/-- Arrays of whole numbers up to 2 ^ 53 with strings, around an array of the
double 2 ^ 53. -/
def keysAroundDouble : List (Option Value) :=
  [some (.array [.int64 9007199254740991, .string "b"]),
    some (.array [.double ⟨0x4340000000000000⟩]),
    some (.array [.int64 9007199254740992, .string "a"])]

/-- Around a double that equals the largest of them, whole numbers keep their
order. -/
theorem keysAroundDouble_ordered :
    Unmixed {key | key ∈ keysAroundDouble} ∧
      compareKeys .locale keysAroundDouble[0] keysAroundDouble[1] ≠ .gt ∧
      compareKeys .locale keysAroundDouble[1] keysAroundDouble[2] ≠ .gt ∧
      compareKeys .locale keysAroundDouble[0] keysAroundDouble[2] ≠ .gt := by
  have hunmixed : Unmixed {key | key ∈ keysAroundDouble} := by
    constructor
    · intro s t _ ht
      simp [OccursIn, keysAroundDouble, within_array] at ht
      rcases ht with (h | h) | h | h | h <;> cases h
    · intro n x hn _
      simp [OccursIn, keysAroundDouble, within_array] at hn
      rcases hn with (h | h) | h | h | h <;> cases h <;> decide
  refine ⟨hunmixed, by decide, by decide, ?_⟩
  exact ((compareKeys_preorder .locale).2.2.1 _ hunmixed _ (by simp) _
    (by simp : keysAroundDouble[1] ∈ keysAroundDouble) _ (by simp)).1 (by decide) (by decide)

/-- Strings beside a symbol: each ties with it, and they differ. -/
example : compareKeys .binary (some (.string "b")) (some (.symbol "s")) = .eq ∧
    compareKeys .binary (some (.symbol "s")) (some (.string "a")) = .eq ∧
    compareKeys .binary (some (.string "b")) (some (.string "a")) = .gt := by decide

end Value

end DocQuery
