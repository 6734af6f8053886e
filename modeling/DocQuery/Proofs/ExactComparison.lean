import DocQuery.Proofs.Amounts
import DocQuery.Proofs.Compilations
/-!
# Comparing numbers by their amounts

Queries compare numbers across their kinds. Two integers are compared as they
are and two doubles as the amounts that they stand for; an integer beside a
double is rounded to a double first. No double lies between an integer and
what it is rounded to, so that rounding changes the result for a single
amount of the double, that of the rounded integer (`compare_rounded`). If
this is not the integer itself, two different numbers are taken for equal
(`Value.Blurred`); otherwise every comparison is that of the amounts
(`compared_by_amount_unless_rounded`).
-/


namespace DocQuery

/-- A whole number beside a double that it is rounded to, which is another
number. -/
def Number.RoundsTo (m n : Number) : Prop :=
  ∃ k x, m = .whole k ∧ n = .double x ∧ x.amount? = (Double.ofInt64 k).amount? ∧
    x.amount? ≠ (Number.whole k).amount?

/-- Two numbers one of which is rounded to the other, though it is another
number. -/
def Value.Blurred (a b : Value) : Prop :=
  ∃ m n, a.number? = some m ∧ b.number? = some n ∧ (m.RoundsTo n ∨ n.RoundsTo m)

/-! ## Numbers -/

namespace Double

/-- **An integer compares as it is rounded**, unless with what it is rounded to
if this is not the integer itself. -/
theorem compare_rounded {n : Int64} {x : Double}
    (h : x.scaled = (ofInt64 n).scaled → x.scaled = n.toInt * (scale : Int)) :
    compare (ofInt64 n).scaled x.scaled = compare (n.toInt * (scale : Int)) x.scaled := by
  have hnearest := scaled_nearest n x
  generalize n.toInt * (scale : Int) = z at *
  rcases lt_trichotomy (ofInt64 n).scaled x.scaled with hlt | heq | hgt
  · rw [compare_lt_iff_lt.2 hlt, eq_comm, compare_lt_iff_lt]
    omega
  · rw [heq, ← h heq.symm]
  · rw [compare_gt_iff_gt.2 hgt, eq_comm, compare_gt_iff_gt]
    omega

/-- Doubles that are numbers compare as scaled values do. -/
theorem compare?_eq_some {x y : Double} (hx : x.isNaN = false) (hy : y.isNaN = false) :
    x.compare? y = some (compare x.scaled y.scaled) := by
  simp [compare?, hx, hy]

/-- A double with an amount is a number. -/
theorem isNaN_of_amount? {x : Double} {p : Amount} (h : x.amount? = some p) :
    x.isNaN = false := by
  by_contra hnan
  simp [amount?, hnan] at h

end Double

namespace Number

variable {m n : Number} {p q : Amount}

/-- Comparisons the other way round are turned round. -/
theorem compare?_swap (m n : Number) : n.compare? m = (m.compare? n).map Ordering.swap := by
  have hdoubles (x y : Double) : y.compare? x = (x.compare? y).map Ordering.swap := by
    rw [Double.compare?, Double.compare?, Bool.or_comm]
    split
    · rfl
    · rw [Option.map_some, Int.compare_swap]
  cases m with
  | whole k =>
    cases n with
    | whole l => rw [compare?, compare?, Option.map_some, Int.compare_swap]
    | double y => exact hdoubles _ _
  | double x =>
    cases n with
    | whole l => exact hdoubles _ _
    | double y => exact hdoubles _ _

/-- **An integer compares with a double by amounts** unless it is rounded to it
as another number. -/
theorem compare?_whole_double {k : Int64} {x : Double} (h : x.amount? = some q)
    (hround : ¬ (Number.whole k).RoundsTo (.double x)) :
    (Number.whole k).compare? (.double x) = some (compare ((k.toInt : ℚ) : Amount) q) := by
  have hnan := Double.isNaN_of_amount? h
  have hx := Double.amount?_eq hnan
  have hq : q = .ofScaled x.scaled := Option.some.inj (h.symm.trans hx)
  have hsame (heq : x.scaled = (Double.ofInt64 k).scaled) :
      x.scaled = k.toInt * (Double.scale : Int) := by
    by_contra hne
    refine hround ⟨k, x, rfl, rfl, ?_, ?_⟩
    · rw [hx, Double.amount?_eq (Double.isNaN_ofInt64 k), heq]
    · rw [hx, amount?, ← ofScaled_whole]
      intro hamount
      exact hne (Amount.strictMonoOn_ofScaled.injOn (Double.scaled_mem hnan)
        (scaledRange_of_whole k) (Option.some.inj hamount))
  rw [hq, ← ofScaled_whole, Amount.compare_ofScaled (scaledRange_of_whole k)
    (Double.scaled_mem hnan), ← Double.compare_rounded hsame]
  exact Double.compare?_eq_some (Double.isNaN_ofInt64 k) hnan

/-- **Numbers compare by amounts** unless one is rounded to the other. -/
theorem compare?_eq (hm : m.amount? = some p) (hn : n.amount? = some q) (hround : ¬ m.RoundsTo n)
    (hround' : ¬ n.RoundsTo m) : m.compare? n = some (compare p q) := by
  cases m with
  | whole k =>
    cases hm
    cases n with
    | whole l =>
      cases hn
      rw [compare?, ← ofScaled_whole, ← ofScaled_whole,
        Amount.compare_ofScaled (scaledRange_of_whole k) (scaledRange_of_whole l)]
      rw [← cmp_eq_compare, ← cmp_eq_compare, cmp_mul_pos_right (by decide)]
    | double y => exact compare?_whole_double hn hround
  | double x =>
    cases n with
    | whole l =>
      cases hn
      rw [compare?_swap, compare?_whole_double hm hround', Option.map_some, ← cmp_eq_compare,
        cmp_swap, cmp_eq_compare]
    | double y =>
      have hx := Double.isNaN_of_amount? hm
      have hy := Double.isNaN_of_amount? hn
      have hp : p = .ofScaled x.scaled := Option.some.inj (hm.symm.trans (Double.amount?_eq hx))
      have hq : q = .ofScaled y.scaled := Option.some.inj (hn.symm.trans (Double.amount?_eq hy))
      rw [hp, hq, Amount.compare_ofScaled (Double.scaled_mem hx) (Double.scaled_mem hy)]
      exact Double.compare?_eq_some hx hy

/-- What an integer is rounded to has the scaled value of the rounded
integer. -/
theorem RoundsTo.scaled_eq {k : Int64} {x : Double} (h : (Number.whole k).RoundsTo (.double x)) :
    x.isNaN = false ∧ x.scaled = (Double.ofInt64 k).scaled := by
  obtain ⟨k', x', hk, hx, hsame, -⟩ := h
  cases hk
  cases hx
  have hrounded := Double.isNaN_ofInt64 k
  rw [Double.amount?_eq hrounded] at hsame
  have hnan := Double.isNaN_of_amount? hsame
  rw [Double.amount?_eq hnan] at hsame
  exact ⟨hnan, Amount.strictMonoOn_ofScaled.injOn (Double.scaled_mem hnan)
    (Double.scaled_mem hrounded) (Option.some.inj hsame)⟩

/-- A number is level with what it is rounded to. -/
theorem compare?_of_roundsTo (h : m.RoundsTo n) : m.compare? n = some .eq := by
  obtain ⟨k, x, rfl, rfl, -, -⟩ := id h
  obtain ⟨hnan, hscaled⟩ := h.scaled_eq
  have heq : compare (Double.ofInt64 k).scaled x.scaled = .eq := compare_eq_iff_eq.2 hscaled.symm
  exact (Double.compare?_eq_some (Double.isNaN_ofInt64 k) hnan).trans (congrArg some heq)

/-- An integer that is rounded to another number has more than fifty-three
digits, and no double is closer to it. -/
theorem RoundsTo.nearest {k : Int64} {x : Double} (h : (Number.whole k).RoundsTo (.double x)) :
    2 ^ 53 < k.toInt.natAbs ∧ ∀ y : Double,
      (x.scaled - k.toInt * (Double.scale : Int)).natAbs ≤
        (y.scaled - k.toInt * (Double.scale : Int)).natAbs := by
  obtain ⟨hnan, hscaled⟩ := h.scaled_eq
  constructor
  · by_contra hsmall
    obtain ⟨k', x', hk, hx, -, hother⟩ := h
    cases hk
    cases hx
    refine hother ?_
    rw [Double.amount?_eq hnan, hscaled, Double.scaled_ofInt64_of_le (Nat.le_of_not_lt hsmall),
      ofScaled_whole, amount?]
  · rw [hscaled]
    exact Double.scaled_nearest k

/-- What has no amount is a NaN, and compares with nothing. -/
theorem compare?_of_amount?_none (h : m.amount? = none) (n : Number) : m.compare? n = none := by
  cases m with
  | whole k => cases h
  | double x =>
    have hnan : x.isNaN = true := by
      by_contra hnan
      rw [amount?, Double.amount?_eq (by simpa using hnan)] at h
      cases h
    simp [compare?, toDouble, Double.compare?, hnan]

end Number

/-! ## Values -/

namespace Value

variable {a b : Value} {p : Amount}

/-- The order of the numbers that two values are compared as. -/
def numberOrder? (a b : Value) : Option Ordering :=
  a.number?.bind fun m => b.number?.bind m.compare?

/-- Equality with a number is a matter of this order, -/
theorem equals_of_number (h : a.number? ≠ none ∨ b.number? ≠ none) :
    a.equals b = (a.numberOrder? b == some .eq) := by
  cases a <;> cases b <;> first | rfl | simp [number?] at h

/-- and so is order. -/
theorem compareRange?_of_number (h : a.number? ≠ none ∨ b.number? ≠ none) :
    a.compareRange? b = a.numberOrder? b := by
  cases a <;> cases b <;> first | rfl | simp [number?] at h

theorem numberOrder?_swap (a b : Value) :
    b.numberOrder? a = (a.numberOrder? b).map Ordering.swap := by
  rw [numberOrder?, numberOrder?]
  cases a.number? with
  | none => cases b.number? <;> rfl
  | some m =>
    cases b.number? with
    | none => rfl
    | some n => exact Number.compare?_swap m n

theorem number?_of_amount? (h : a.amount? = some p) : a.number? ≠ none := by
  rw [amount?_eq] at h
  intro hnone
  rw [hnone] at h
  cases h

/-- **A number is ordered by amounts** with all values but those with which it
is blurred. -/
theorem numberOrder?_eq (ha : a.amount? = some p) (h : ¬ a.Blurred b) :
    a.numberOrder? b = b.amount?.map (Ord.compare p) := by
  rw [amount?_eq, Option.bind_eq_some_iff] at ha
  obtain ⟨m, hm, hp⟩ := ha
  rw [numberOrder?, hm, Option.bind_some, amount?_eq b]
  cases hn : b.number? with
  | none => rfl
  | some n =>
    rw [Option.bind_some, Option.bind_some]
    cases hq : n.amount? with
    | none =>
      rw [Number.compare?_swap, Number.compare?_of_amount?_none hq]
      rfl
    | some q =>
      exact Number.compare?_eq hp hq (fun hround => h ⟨m, n, hm, hn, .inl hround⟩)
        fun hround => h ⟨m, n, hm, hn, .inr hround⟩

/-- Blurred numbers are level. -/
theorem numberOrder?_of_blurred (h : a.Blurred b) : a.numberOrder? b = some .eq := by
  obtain ⟨m, n, hm, hn, hround⟩ := h
  rw [numberOrder?, hm, Option.bind_some, hn, Option.bind_some]
  rcases hround with hround | hround
  · exact Number.compare?_of_roundsTo hround
  · rw [Number.compare?_swap, Number.compare?_of_roundsTo hround]
    rfl

/-- What has no amount is ordered with nothing. -/
theorem numberOrder?_of_amount?_none (ha : a.amount? = none) (b : Value) :
    a.numberOrder? b = none := by
  rw [amount?_eq] at ha
  rw [numberOrder?]
  cases hm : a.number? with
  | none => rfl
  | some m =>
    rw [hm, Option.bind_some] at ha
    cases hn : b.number? with
    | none => rfl
    | some n => exact Number.compare?_of_amount?_none ha n

/-- The comparison operators judge a value by an operand as if the two stood
in an order, or in none. -/
structure ComparedAs (limit : Nat) (a b : Value) (o : Option Ordering) : Prop where
  equals : a.equals b = true ↔ o = some .eq
  order : a.compareRange? b = o
  eq : (Operator.eq b : Operator Unit).Accepts limit (some a) ↔ o = some .eq
  ne : (Operator.ne b : Operator Unit).Accepts limit (some a) ↔ o ≠ some .eq
  gt : (Operator.gt b : Operator Unit).Accepts limit (some a) ↔ o = some .gt
  gte : (Operator.gte b : Operator Unit).Accepts limit (some a) ↔ o = some .gt ∨ o = some .eq
  lt : (Operator.lt b : Operator Unit).Accepts limit (some a) ↔ o = some .lt
  lte : (Operator.lte b : Operator Unit).Accepts limit (some a) ↔ o = some .lt ∨ o = some .eq

/-- They do if equality is being level in the order of range operators. -/
theorem comparedAs_of (limit : Nat) {o : Option Ordering} (hequals : a.equals b = true ↔ o = some .eq)
    (horder : a.compareRange? b = o) : a.ComparedAs limit b o := by
  constructor
  · exact hequals
  · exact horder
  all_goals
    rw [Operator.accepts_iff (by simp [Operator.readings])]
    simp [Operator.Holds, hequals, horder]

/-- Comparison with a number is as the numbers are ordered. -/
theorem comparedAs (limit : Nat) (h : a.number? ≠ none ∨ b.number? ≠ none) :
    a.ComparedAs limit b (a.numberOrder? b) := by
  refine comparedAs_of limit ?_ (compareRange?_of_number h)
  rw [equals_of_number h, beq_iff_eq]

/-- Equality with a number, either way round, is having its amount. -/
theorem equals_iff_amount? (ha : a.amount? = some p) (h : ¬ a.Blurred b) :
    (a.equals b = true ↔ b.amount? = some p) ∧ (b.equals a = true ↔ b.amount? = some p) := by
  have hnumber := number?_of_amount? ha
  have horder := numberOrder?_eq ha h
  have hlevel : b.amount?.map (Ord.compare p) = some .eq ↔ b.amount? = some p := by
    cases b.amount? with
    | none => simp
    | some q =>
      rw [Option.map_some, Option.some_inj, Option.some_inj, compare_eq_iff_eq, eq_comm]
  rw [equals_of_number (.inl hnumber), equals_of_number (.inr hnumber), beq_iff_eq, beq_iff_eq,
    numberOrder?_swap a b, horder, ← hlevel]
  refine ⟨Iff.rfl, ?_⟩
  cases b.amount? with
  | none => simp
  | some q => simp [Ordering.swap_eq_iff_eq_swap]

/-- A value that has no amount and is compared as a number equals nothing. -/
theorem not_equals_of_amount?_none (ha : a.amount? = none) (hnumber : a.number? ≠ none)
    (b : Value) : a.equals b = false ∧ b.equals a = false := by
  have horder := numberOrder?_of_amount?_none ha b
  rw [equals_of_number (.inl hnumber), equals_of_number (.inr hnumber), numberOrder?_swap a b,
    horder]
  exact ⟨rfl, rfl⟩

/-- What is compared as an integer of more than fifty-three digits is one of
sixty-four bits, -/
theorem eq_int64_of_number? {n : Int64} (h : a.number? = some (.whole n))
    (hbig : 2 ^ 53 < n.toInt.natAbs) : a = .int64 n := by
  cases a with
  | int64 k =>
    cases h
    rfl
  | int32 k =>
    cases h
    have hlow := k.le_toInt
    have hhigh := k.toInt_lt
    rw [Int32.toInt_toInt64] at hbig
    omega
  | _ => cases h

/-- and what is compared as a double is that double. -/
theorem eq_double_of_number? {x : Double} (h : a.number? = some (.double x)) : a = .double x := by
  cases a with
  | double y =>
    cases h
    rfl
  | _ => cases h

/-- Blurred values are different numbers, an integer of more than fifty-three
digits and a double, than which none is closer to it. -/
theorem Blurred.integer_and_double (h : a.Blurred b) : a.amount? ≠ b.amount? ∧
    ∃ (n : Int64) (x : Double), (a = .int64 n ∧ b = .double x ∨ a = .double x ∧ b = .int64 n) ∧
      2 ^ 53 < n.toInt.natAbs ∧ ∀ y : Double,
        (x.scaled - n.toInt * (Double.scale : Int)).natAbs ≤
          (y.scaled - n.toInt * (Double.scale : Int)).natAbs := by
  obtain ⟨m, n, hm, hn, hround⟩ := h
  rcases hround with hround | hround
  · obtain ⟨k, x, rfl, rfl, -, hother⟩ := id hround
    obtain ⟨hbig, hnearest⟩ := hround.nearest
    obtain rfl := eq_int64_of_number? hm hbig
    obtain rfl := eq_double_of_number? hn
    exact ⟨hother.symm, k, x, .inl ⟨rfl, rfl⟩, hbig, hnearest⟩
  · obtain ⟨k, x, rfl, rfl, -, hother⟩ := id hround
    obtain ⟨hbig, hnearest⟩ := hround.nearest
    obtain rfl := eq_int64_of_number? hn hbig
    obtain rfl := eq_double_of_number? hm
    exact ⟨hother, k, x, .inr ⟨rfl, rfl⟩, hbig, hnearest⟩

end Value

/-! ## Operators -/

section

variable {limit : Nat} {a : Value} {p : Amount}

/-- A number is among values if it is blurred with none of them and one of them
has its amount. -/
theorem among_accepts_iff (ha : a.amount? = some p) {set : List Value}
    (h : ∀ s ∈ set, ¬ a.Blurred s) :
    (Operator.among set : Operator Unit).Accepts limit (some a) ↔ ∃ s ∈ set, s.amount? = some p := by
  have harray (items : List Value) : a ≠ .array items := by
    rintro rfl
    cases ha
  rw [Operator.accepts_iff (by simp [Operator.readings])]
  simp only [Operator.Holds, Option.some.injEq, exists_eq_left', Value.Among, harray, false_and,
    exists_false, or_false]
  exact exists_congr fun s => and_congr_right fun hs => (Value.equals_iff_amount? ha (h s hs)).2

/-- Items contain a number if it is blurred with none of them and one of them
has its amount. -/
theorem allOf_accepts_iff (ha : a.amount? = some p) {items : List Value}
    (h : ∀ item ∈ items, ¬ a.Blurred item) :
    (Operator.allOf [a] : Operator Unit).Accepts limit (some (.array items)) ↔
      ∃ item ∈ items, item.amount? = some p := by
  rw [Operator.accepts_iff (by simp [Operator.readings])]
  simp only [Operator.Holds, Option.some.injEq, Value.array.injEq, exists_eq_left',
    List.forall_mem_singleton]
  exact exists_congr fun item => and_congr_right fun hitem =>
    (Value.equals_iff_amount? ha (h item hitem)).2

/-- A NaN equals nothing and is ordered with nothing, is among nothing and
contained in nothing. -/
theorem nan_compares_with_nothing {x : Double} (hnan : x.isNaN = true) :
    (∀ v, (Value.double x).ComparedAs limit v none ∧ v.ComparedAs limit (.double x) none) ∧
    (∀ set, ¬ (Operator.among set : Operator Unit).Accepts limit (some (.double x))) ∧
    ∀ set v, .double x ∈ set → ¬ (Operator.allOf set : Operator Unit).Accepts limit v := by
  have hnone : (Value.double x).amount? = none := if_pos hnan
  have hnumber : (Value.double x).number? ≠ none := nofun
  have hunequal := Value.not_equals_of_amount?_none hnone hnumber
  refine ⟨fun v => ⟨?_, ?_⟩, fun set h => ?_, fun set v hmem h => ?_⟩
  · rw [← Value.numberOrder?_of_amount?_none hnone v]
    exact Value.comparedAs limit (.inl hnumber)
  · have horder : v.numberOrder? (.double x) = none := by
      rw [Value.numberOrder?_swap, Value.numberOrder?_of_amount?_none hnone]
      rfl
    rw [← horder]
    exact Value.comparedAs limit (.inr hnumber)
  · rw [Operator.accepts_iff (by simp [Operator.readings])] at h
    obtain ⟨v, hv, hamong⟩ := h
    cases hv
    obtain ⟨s, -, hs⟩ | ⟨items, hitems, -⟩ := hamong
    · exact absurd hs (by simp [(hunequal s).2])
    · cases hitems
  · rw [Operator.accepts_iff (by simp [Operator.readings])] at h
    obtain ⟨items, -, hall⟩ := h
    obtain ⟨item, -, hitem⟩ := hall _ hmem
    exact absurd hitem (by simp [(hunequal item).2])

end

/-- **Numbers are compared by amounts unless they are blurred.** A number equals
the values that have its amount and no others, is ordered with numbers by
amounts and with nothing else, is among values and contained in items if one
of them has its amount. Blurred values are different numbers that are taken
for equal: an integer of more than fifty-three digits and a double, than which
none is closer to it. A NaN equals nothing, is ordered with nothing, is among
nothing and contained in nothing. -/
theorem compared_by_amount_unless_rounded (limit : Nat) :
    (∀ a p, Value.amount? a = some p →
      (∀ b, ¬ a.Blurred b → a.ComparedAs limit b (b.amount?.map (compare p))) ∧
      (∀ set, (∀ s ∈ set, ¬ a.Blurred s) →
        ((Operator.among set : Operator Unit).Accepts limit (some a) ↔
          ∃ s ∈ set, s.amount? = some p)) ∧
      ∀ items, (∀ item ∈ items, ¬ a.Blurred item) →
        ((Operator.allOf [a] : Operator Unit).Accepts limit (some (.array items)) ↔
          ∃ item ∈ items, item.amount? = some p)) ∧
    (∀ a b, Value.Blurred a b → a.ComparedAs limit b (some .eq) ∧ a.amount? ≠ b.amount? ∧
      ∃ (n : Int64) (x : Double), (a = .int64 n ∧ b = .double x ∨ a = .double x ∧ b = .int64 n) ∧
        2 ^ 53 < n.toInt.natAbs ∧ ∀ y : Double,
          (x.scaled - n.toInt * (Double.scale : Int)).natAbs ≤
            (y.scaled - n.toInt * (Double.scale : Int)).natAbs) ∧
    ∀ x : Double, x.isNaN = true →
      (∀ v, (Value.double x).ComparedAs limit v none ∧ v.ComparedAs limit (.double x) none) ∧
      (∀ set, ¬ (Operator.among set : Operator Unit).Accepts limit (some (.double x))) ∧
      ∀ set v, .double x ∈ set → ¬ (Operator.allOf set : Operator Unit).Accepts limit v := by
  refine ⟨fun a p ha => ⟨fun b h => ?_, fun set h => among_accepts_iff ha h,
    fun items h => allOf_accepts_iff ha h⟩, fun a b h => ⟨?_, h.integer_and_double⟩,
    fun x hnan => nan_compares_with_nothing hnan⟩
  · rw [← Value.numberOrder?_eq ha h]
    exact Value.comparedAs limit (.inl (Value.number?_of_amount? ha))
  · rw [← Value.numberOrder?_of_blurred h]
    obtain ⟨m, n, hm, -, -⟩ := h
    exact Value.comparedAs limit (.inl (by simp [hm]))

/-- Two to the power of fifty-three. -/
def twoPow53 : Double := ⟨0x4340000000000000⟩

theorem amount?_twoPow53 : twoPow53.amount? = some ((9007199254740992 : ℚ) : Amount) := by
  have hsignificand : twoPow53.significand = 4503599627370496 := by decide
  have hexponent : twoPow53.storedExponent = 1076 := by decide
  rw [Double.amount?, if_neg (by decide), if_neg (by decide), if_neg (by decide), hsignificand,
    hexponent]
  norm_num

/-- The next integer is no double and is taken for this one. A smaller integer
is ordered before it, and a NaN is not what it is. -/
theorem next_integer_taken_for_double :
    (Value.double twoPow53).amount? ≠ (Value.int64 9007199254740993).amount? ∧
    (Value.int64 9007199254740993).Blurred (.double twoPow53) ∧
    (Value.int64 9007199254740993).ComparedAs 1048576 (.double twoPow53) (some .eq) ∧
    ¬ (Value.int32 5).Blurred (.double twoPow53) ∧
    (Value.int32 5).ComparedAs 1048576 (.double twoPow53) (some .lt) ∧
    ¬ (Operator.among [.double twoPow53] : Operator Unit).Accepts 1048576
      (some (.double ⟨0x7ff8000000000000⟩)) := by
  obtain ⟨hexact, hrounded, hnan⟩ := compared_by_amount_unless_rounded 1048576
  have hother : (Value.double twoPow53).amount? ≠ (Value.int64 9007199254740993).amount? := by
    have hinteger : (9007199254740993 : Int64).toInt = 9007199254740993 := by decide
    rw [Value.amount?, Value.amount?, amount?_twoPow53, hinteger]
    intro heq
    have hq : (9007199254740992 : ℚ) = ((9007199254740993 : Int) : ℚ) :=
      WithTop.coe_injective (WithBot.coe_injective (Option.some.inj heq))
    norm_num at hq
  have hblurred : (Value.int64 9007199254740993).Blurred (.double twoPow53) :=
    ⟨_, _, rfl, rfl, .inl ⟨_, _, rfl, rfl, congrArg Double.amount? (by decide), hother⟩⟩
  have hsmall : ¬ (Value.int32 5).Blurred (.double twoPow53) := by
    intro h
    obtain ⟨-, n, x, ⟨hn, -⟩ | ⟨hn, -⟩, -⟩ := h.integer_and_double
    · cases hn
    · cases hn
  have hfive : (5 : Int32).toInt = 5 := by decide
  have hlt : compare (((5 : Int32).toInt : ℚ) : Amount) ((9007199254740992 : ℚ) : Amount) = .lt := by
    rw [hfive]
    exact compare_lt_iff_lt.2 (WithBot.coe_lt_coe.2 (WithTop.coe_lt_coe.2 (by norm_num)))
  have hcompared := (hexact (.int32 5) _ rfl).1 (.double twoPow53) hsmall
  rw [Value.amount?, amount?_twoPow53, Option.map_some, hlt] at hcompared
  exact ⟨hother, hblurred, (hrounded _ _ hblurred).1, hsmall, hcompared,
    (hnan _ (by decide)).2.1 _⟩

end DocQuery
