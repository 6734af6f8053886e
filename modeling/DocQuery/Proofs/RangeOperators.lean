import DocQuery.Proofs.DoubleOrder
import DocQuery.Proofs.ExactComparison
import DocQuery.Proofs.SortOrder
/-!
# Equality, range operators and sorting

Numbers, strings and dates are compared three times over: by equality, by the
range operators and in sorting. Each time numbers of different kinds are
brought together in another way. This file says that the three agree. Equality
is being level for the range operators (`equals_iff_compareRange?`), so that
an operator that admits equal values accepts what the strict one and equality
accept. And values in order for the range operators are sorted in that order,
if strings are compared by their code points. A negative zero is level with the
other zeros and is sorted before them, which is the only difference
(`equality_range_and_sorting_agree`).
-/


namespace DocQuery

/-! ## Numbers -/

namespace Number

variable {m n : Number}

/-- No integer is the negative zero, as a double. -/
theorem toDouble_eq_minusZero_iff : m.toDouble = Double.minusZero ↔ m = .double Double.minusZero := by
  cases m with
  | double x => exact ⟨fun h => congrArg Number.double h, fun h => by cases h; rfl⟩
  | whole k =>
    refine iff_of_false (fun h => ?_) nofun
    obtain ⟨hsign, hmagnitude⟩ := Double.eq_minusZero_iff.1 h
    rw [toDouble, Double.isNegative_ofInt64, decide_eq_true_eq] at hsign
    rw [toDouble, Double.magnitudeBits_ofInt64, Double.nearestBits_eq_zero_iff] at hmagnitude
    omega

/-- Numbers are sorted in the order of the range operators, -/
theorem compareNumbers_of_compare? {o : Ordering} (h : m.compare? n = some o) (hne : o ≠ .eq) :
    Value.compareNumbers m n = o := by
  cases m with
  | double x => exact Double.totalCompare_of_compare? h hne
  | whole k =>
    cases n with
    | double y => exact Double.totalCompare_of_compare? h hne
    | whole l => exact Option.some.inj h

/-- and those that are level tie, unless one of them is the negative zero and
the other one is not. -/
theorem compareNumbers_eq_iff (h : m.compare? n = some .eq) : Value.compareNumbers m n = .eq ↔
    (m = .double Double.minusZero ↔ n = .double Double.minusZero) := by
  rw [← toDouble_eq_minusZero_iff, ← toDouble_eq_minusZero_iff]
  cases m with
  | double x => exact Double.totalCompare_eq_iff h
  | whole k =>
    cases n with
    | double y => exact Double.totalCompare_eq_iff h
    | whole l =>
      have htie : Value.compareNumbers (.whole k) (.whole l) = .eq := Option.some.inj h
      simp [htie, toDouble_eq_minusZero_iff]

/-- A number whose double has no bits but its sign is a zero. -/
theorem amount?_of_magnitudeBits (h : m.toDouble.magnitudeBits = 0) : m.amount? = some 0 := by
  cases m with
  | whole k =>
    rw [toDouble, Double.magnitudeBits_ofInt64, Double.nearestBits_eq_zero_iff,
      Int.natAbs_eq_zero] at h
    rw [amount?, h]
    rfl
  | double x =>
    have hnan : x.isNaN = false := by
      rw [Double.isNaN, show x.magnitudeBits = 0 from h]
      rfl
    have hscaled : x.scaled = 0 := Double.scaled_eq_zero_iff.2 h
    have hpos := Double.infiniteMagnitude_pos
    rw [amount?, Double.amount?_eq hnan, hscaled, Amount.ofScaled,
      if_neg (by omega), if_neg (by omega), Int.cast_zero, zero_div]
    rfl

/-- Numbers that are level with the negative zero are zeros. -/
theorem amount?_of_compare?_minusZero (h : m.compare? (.double Double.minusZero) = some .eq) :
    m.amount? = some 0 := by
  have hlevel : m.toDouble.compare? Double.minusZero = some .eq := by
    cases m <;> exact h
  rw [Double.compare?] at hlevel
  split at hlevel
  · cases hlevel
  · refine amount?_of_magnitudeBits (Double.scaled_eq_zero_iff.1 ?_)
    exact compare_eq_iff_eq.1 (Option.some.inj hlevel)

/-- Numbers that are no NaNs are in some order. -/
theorem exists_compare? (hm : ∀ x, m = .double x → x.isNaN = false)
    (hn : ∀ x, n = .double x → x.isNaN = false) : ∃ o, m.compare? n = some o := by
  cases m with
  | double x =>
    cases n with
    | double y => exact ⟨_, Double.compare?_eq_some (hm x rfl) (hn y rfl)⟩
    | whole l => exact ⟨_, Double.compare?_eq_some (hm x rfl) (Double.isNaN_ofInt64 l)⟩
  | whole k =>
    cases n with
    | double y => exact ⟨_, Double.compare?_eq_some (Double.isNaN_ofInt64 k) (hn y rfl)⟩
    | whole l => exact ⟨_, rfl⟩

end Number

/-! ## Values -/

namespace Value

/-- Two numbers, two strings or two dates. -/
inductive Orderable : Value → Value → Prop
  | numbers {a b : Value} {m n : Number} : a.number? = some m → b.number? = some n → Orderable a b
  | strings (s t : String) : Orderable (.string s) (.string t)
  | dates (d e : Int64) : Orderable (.date d) (.date e)

variable {a b v : Value}

theorem Orderable.right (h : a.Orderable b) : b.Orderable b := by
  cases h with
  | numbers _ hb => exact .numbers hb hb
  | strings _ t => exact .strings t t
  | dates _ e => exact .dates e e

/-- **Equality is being level** for the range operators, with a number, a
string or a date. Nothing else is level with it, and nothing else equals
it. -/
theorem equals_iff_compareRange? (h : v.Orderable v) (x : Value) :
    x.equals v = true ↔ x.compareRange? v = some .eq := by
  cases h with
  | numbers hv _ =>
    have hnumber : v.number? ≠ none := by simp [hv]
    rw [equals_of_number (.inr hnumber), compareRange?_of_number (.inr hnumber), beq_iff_eq]
  | strings t _ =>
    cases x with
    | string s =>
      have hequals : (string s).equals (string t) = (s == t) := rfl
      rw [hequals, compareRange?, Option.some_inj, compare_binary_eq_iff, beq_iff_eq]
    | _ => exact iff_of_false nofun nofun
  | dates e _ =>
    cases x with
    | date d =>
      have hequals : (date d).equals (date e) = (d == e) := rfl
      rw [hequals, compareRange?, Option.some_inj, compare_eq_iff_eq, beq_iff_eq, Int64.toInt_inj]
    | _ => exact iff_of_false nofun nofun

/-- Numbers are compared as such. -/
theorem compareRange?_numbers {m n : Number} (ha : a.number? = some m) (hb : b.number? = some n) :
    a.compareRange? b = m.compare? n := by
  rw [compareRange?_of_number (.inl (by simp [ha])), numberOrder?, ha, hb]
  rfl

/-- Compared the other way round, values are in the reverse order. -/
theorem compareRange?_swap (h : a.Orderable b) :
    b.compareRange? a = (a.compareRange? b).map Ordering.swap := by
  cases h with
  | numbers ha hb =>
    rw [compareRange?_numbers ha hb, compareRange?_numbers hb ha, Number.compare?_swap]
  | strings s t => exact congrArg some Std.OrientedCmp.eq_swap
  | dates d e => exact congrArg some (Int.compare_swap _ _).symm

/-- Values that are no NaNs are in some order. -/
theorem exists_compareRange? (h : a.Orderable b) (ha : ¬ a.IsNaN) (hb : ¬ b.IsNaN) :
    ∃ o, a.compareRange? b = some o := by
  cases h with
  | @numbers _ _ m n hm hn =>
    have hnan {v : Value} {n : Number} (hn : v.number? = some n) (hv : ¬ v.IsNaN) (x : Double)
        (hx : n = .double x) : x.isNaN = false := by
      rw [hx] at hn
      rw [eq_double_of_number? hn] at hv
      exact not_isNaN_double_iff.1 hv
    obtain ⟨o, ho⟩ := Number.exists_compare? (hnan hm ha) (hnan hn hb)
    exact ⟨o, (compareRange?_numbers hm hn).trans ho⟩
  | strings s t => exact ⟨_, rfl⟩
  | dates d e => exact ⟨_, rfl⟩

/-! ## Sorting -/

/-- Two zeros, of which exactly one is the negative one. -/
def ZerosApart (a b : Value) : Prop :=
  a.amount? = some 0 ∧ b.amount? = some 0 ∧
    Xor (a = .double Double.minusZero) (b = .double Double.minusZero)

/-- A value is the negative zero if the number that it is compared as is. -/
theorem eq_minusZero_iff {n : Number} (hn : a.number? = some n) :
    a = .double Double.minusZero ↔ n = .double Double.minusZero := by
  constructor
  · rintro rfl
    exact (Option.some.inj hn).symm
  · rintro rfl
    exact eq_double_of_number? hn

/-- Level numbers are zeros of which one is the negative one, if one of them is
this and the other one is not. -/
theorem zerosApart_iff {m n : Number} (ha : a.number? = some m) (hb : b.number? = some n)
    (hlevel : m.compare? n = some .eq) : a.ZerosApart b ↔
      Xor (m = .double Double.minusZero) (n = .double Double.minusZero) := by
  rw [ZerosApart, eq_minusZero_iff ha, eq_minusZero_iff hb, amount?_eq, amount?_eq, ha, hb,
    Option.bind_some, Option.bind_some]
  refine ⟨fun h => h.2.2, fun hxor => ?_⟩
  -- what is level with the negative zero is a zero
  have hzero : (Number.double Double.minusZero).amount? = some 0 :=
    Number.amount?_of_magnitudeBits rfl
  rcases id hxor with ⟨rfl, -⟩ | ⟨rfl, -⟩
  · have hlevel' : n.compare? (.double Double.minusZero) = some .eq := by
      rw [Number.compare?_swap, hlevel]
      rfl
    exact ⟨hzero, Number.amount?_of_compare?_minusZero hlevel', hxor⟩
  · exact ⟨Number.amount?_of_compare?_minusZero hlevel, hzero, hxor⟩

theorem compareKeys_numbers {strings : StringOrdering} {m n : Number} (ha : a.number? = some m)
    (hb : b.number? = some n) : compareKeys strings (some a) (some b) = compareNumbers m n := by
  have hrank : a.rank = 1 := rank_of_number ha
  rw [compareKeys, Option.getD_some, Option.getD_some, compare_eq, hrank, rank_of_number hb,
    compareContents_scalar (by omega) (by omega), compareScalars_numbers ha hb]
  rfl

/-- Values in order are sorted in this order, -/
theorem compareKeys_of_compareRange? (h : a.Orderable b) {o : Ordering}
    (ho : a.compareRange? b = some o) (hne : o ≠ .eq) :
    compareKeys .binary (some a) (some b) = o := by
  cases h with
  | numbers ha hb =>
    rw [compareRange?_numbers ha hb] at ho
    rw [compareKeys_numbers ha hb]
    exact Number.compareNumbers_of_compare? ho hne
  | strings s t => exact Option.some.inj ho
  | dates d e => exact Option.some.inj ho

/-- and values that are level tie, unless they are zeros of which exactly one
is the negative one. -/
theorem compareKeys_eq_iff (h : a.Orderable b) (hlevel : a.compareRange? b = some .eq) :
    compareKeys .binary (some a) (some b) = .eq ↔ ¬ a.ZerosApart b := by
  cases h with
  | @numbers _ _ m n ha hb =>
    rw [compareRange?_numbers ha hb] at hlevel
    rw [compareKeys_numbers ha hb, Number.compareNumbers_eq_iff hlevel,
      zerosApart_iff ha hb hlevel, not_xor]
  | strings s t =>
    refine iff_of_true (Option.some.inj hlevel) ?_
    rintro ⟨-, -, ⟨hs, -⟩ | ⟨ht, -⟩⟩
    · cases hs
    · cases ht
  | dates d e =>
    refine iff_of_true (Option.some.inj hlevel) ?_
    rintro ⟨-, -, ⟨hd, -⟩ | ⟨he, -⟩⟩
    · cases hd
    · cases he

end Value

/-! ## Operators -/

section

variable {limit : Nat} {v : Value}

/-- What is judged by a number, a string or a date is judged by the order of
the two. -/
theorem Value.Orderable.comparedAs (limit : Nat) (h : v.Orderable v) (x : Value) :
    x.ComparedAs limit v (x.compareRange? v) :=
  Value.comparedAs_of limit (Value.equals_iff_compareRange? h x) rfl

/-- **Equal or beyond**: an operator that admits equal values accepts what the
strict one and equality accept. -/
theorem admits_equal_iff (h : v.Orderable v) (x : Option Value) :
    ((Operator.gte v : Operator Unit).Accepts limit x ↔
      (Operator.gt v : Operator Unit).Accepts limit x ∨
        (Operator.eq v : Operator Unit).Accepts limit x) ∧
    ((Operator.lte v : Operator Unit).Accepts limit x ↔
      (Operator.lt v : Operator Unit).Accepts limit x ∨
        (Operator.eq v : Operator Unit).Accepts limit x) := by
  cases x with
  | some x =>
    have hcompared := h.comparedAs limit x
    rw [hcompared.gte, hcompared.lte, hcompared.gt, hcompared.lt, hcompared.eq]
    exact ⟨Iff.rfl, Iff.rfl⟩
  | none =>
    -- an absent value is accepted by none of them
    constructor <;>
      rw [Operator.accepts_iff (by simp [Operator.readings]),
        Operator.accepts_iff (by simp [Operator.readings]),
        Operator.accepts_iff (by simp [Operator.readings])] <;>
      simp [Operator.Holds]

end

/-- Exactly one of three propositions holds. -/
def ExactlyOne (P Q R : Prop) : Prop := (P ∧ ¬ Q ∧ ¬ R) ∨ (¬ P ∧ Q ∧ ¬ R) ∨ (¬ P ∧ ¬ Q ∧ R)

/-- **Equality, range operators and sorting agree.** Two numbers, two strings or
two dates are equal if they are level for the range operators, and the other
way round they are in the reverse order. They are sorted by code points as they
are ordered, and if they are level they tie, unless they are zeros of which
exactly one is the negative one. Of any value, present or absent, an operator
that admits equal values says what the strict one or equality says. And if
neither of two values is a NaN, exactly one of smaller, equal and greater is
accepted. -/
theorem equality_range_and_sorting_agree (limit : Nat) :
    (∀ a b, Value.Orderable a b →
      (a.equals b = true ↔ a.compareRange? b = some .eq) ∧
      b.compareRange? a = (a.compareRange? b).map Ordering.swap ∧
      (a.compareRange? b = some .lt → Value.compareKeys .binary (some a) (some b) = .lt) ∧
      (a.compareRange? b = some .gt → Value.compareKeys .binary (some a) (some b) = .gt) ∧
      (a.compareRange? b = some .eq →
        (Value.compareKeys .binary (some a) (some b) = .eq ↔ ¬ a.ZerosApart b))) ∧
    (∀ v, Value.Orderable v v → ∀ x,
      ((Operator.gte v : Operator Unit).Accepts limit x ↔
        (Operator.gt v : Operator Unit).Accepts limit x ∨
          (Operator.eq v : Operator Unit).Accepts limit x) ∧
      ((Operator.lte v : Operator Unit).Accepts limit x ↔
        (Operator.lt v : Operator Unit).Accepts limit x ∨
          (Operator.eq v : Operator Unit).Accepts limit x)) ∧
    ∀ a b, Value.Orderable a b → ¬ a.IsNaN → ¬ b.IsNaN →
      ExactlyOne ((Operator.lt b : Operator Unit).Accepts limit (some a))
        ((Operator.eq b : Operator Unit).Accepts limit (some a))
        ((Operator.gt b : Operator Unit).Accepts limit (some a)) := by
  refine ⟨?_, fun v h x => admits_equal_iff h x, ?_⟩
  · intro a b h
    exact ⟨Value.equals_iff_compareRange? h.right a, Value.compareRange?_swap h,
      fun hlt => Value.compareKeys_of_compareRange? h hlt nofun,
      fun hgt => Value.compareKeys_of_compareRange? h hgt nofun, Value.compareKeys_eq_iff h⟩
  · intro a b h ha hb
    have hcompared := h.right.comparedAs limit a
    obtain ⟨o, ho⟩ := Value.exists_compareRange? h ha hb
    rw [ho] at hcompared
    rw [ExactlyOne, hcompared.lt, hcompared.eq, hcompared.gt]
    cases o with
    | lt => simp
    | eq => simp
    | gt => simp

/-- Zero equals the negative zero and does not tie with it. Code points put a
capital letter first, in sorting too. A date is on or after itself. And five is
either smaller than an integer that is no double, or equal, or greater. -/
theorem zeros_letters_dates_and_integers_agree :
    Value.Orderable (.int32 0) (.double Double.minusZero) ∧
    (Value.int32 0).ZerosApart (.double Double.minusZero) ∧
    (Value.int32 0).equals (.double Double.minusZero) = true ∧
    Value.compareKeys .binary (some (.int32 0)) (some (.double Double.minusZero)) ≠ .eq ∧
    Value.Orderable (.string "B") (.string "a") ∧
    Value.compareKeys .binary (some (.string "B")) (some (.string "a")) = .lt ∧
    Value.Orderable (.date 5) (.date 5) ∧
    (Operator.gte (.date 5) : Operator Unit).Accepts 1048576 (some (.date 5)) ∧
    Value.Orderable (.int32 5) (.int64 9007199254740993) ∧
    ¬ (Value.int32 5).IsNaN ∧ ¬ (Value.int64 9007199254740993).IsNaN ∧
    ExactlyOne
      ((Operator.lt (.int64 9007199254740993) : Operator Unit).Accepts 1048576 (some (.int32 5)))
      ((Operator.eq (.int64 9007199254740993) : Operator Unit).Accepts 1048576 (some (.int32 5)))
      ((Operator.gt (.int64 9007199254740993) : Operator Unit).Accepts 1048576
        (some (.int32 5))) := by
  obtain ⟨hagree, hbeyond, hone⟩ := equality_range_and_sorting_agree 1048576
  have hzeros : Value.Orderable (.int32 0) (.double Double.minusZero) := .numbers rfl rfl
  have hapart : (Value.int32 0).ZerosApart (.double Double.minusZero) := by
    refine ⟨?_, ?_, .inr ⟨rfl, by simp⟩⟩
    · have hzero : (0 : Int32).toInt = 0 := by decide
      rw [Value.amount?, hzero]
      rfl
    · exact Number.amount?_of_magnitudeBits (m := .double Double.minusZero) rfl
  have hlevel : (Value.int32 0).compareRange? (.double Double.minusZero) = some .eq := by decide
  have hletters : Value.Orderable (.string "B") (.string "a") := .strings _ _
  have hdate : Value.Orderable (.date 5) (.date 5) := .dates _ _
  have hintegers : Value.Orderable (.int32 5) (.int64 9007199254740993) := .numbers rfl rfl
  have hfive : ¬ (Value.int32 5).IsNaN := by simp [Value.IsNaN]
  have hlarge : ¬ (Value.int64 9007199254740993).IsNaN := by simp [Value.IsNaN]
  refine ⟨hzeros, hapart, (hagree _ _ hzeros).1.2 hlevel, ?_, hletters,
    (hagree _ _ hletters).2.2.1 (by decide), hdate, ?_, hintegers, hfive, hlarge,
    hone _ _ hintegers hfive hlarge⟩
  · exact fun htie => ((hagree _ _ hzeros).2.2.2.2 hlevel).1 htie hapart
  · exact (hbeyond _ hdate _).1.2 (.inr ((hdate.comparedAs 1048576 _).eq.2 rfl))

end DocQuery
