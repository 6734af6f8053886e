import Mathlib.Algebra.Order.Ring.Int
import Mathlib.Order.Compare
import Mathlib.Tactic.Positivity
import DocQuery.Double
/-!
# Whole numbers among the doubles

Whole numbers up to 2 ^ 53 in magnitude are doubles, so that rounding them
keeps their order: `nearestBits` grows strictly up to there, the numbers of
one binary order filling one exponent, and the sign makes of it an order of
all of them (`compare_orderKey_ofInt64`). Larger ones are rounded, to a
significand that has fifty-three digits as well (`roundHalfEven_digits`) and
within the finite magnitudes.
-/


namespace DocQuery.Double

/-! ## Magnitudes -/

theorem nearestBits_zero : nearestBits 0 = 0 := rfl

theorem nearestBits_of_log2_le {n : Nat} (h0 : n ≠ 0) (h : n.log2 ≤ 52) :
    nearestBits n = (n.log2 + 1022) * 2 ^ 52 + n * 2 ^ (52 - n.log2) := by
  simp [nearestBits, h0, h, Nat.shiftLeft_eq]

/-- The first number with more than fifty-three digits is a double all the
same. -/
theorem nearestBits_two_pow_53 : nearestBits (2 ^ 53) = 1076 * 2 ^ 52 := by decide

/-- Shifted up, a number of at most fifty-three digits has fifty-three of
them. -/
theorem shifted_digits {n : Nat} (h0 : n ≠ 0) (h : n.log2 ≤ 52) :
    2 ^ 52 ≤ n * 2 ^ (52 - n.log2) ∧ n * 2 ^ (52 - n.log2) < 2 ^ 53 := by
  constructor
  · calc
      2 ^ 52 = 2 ^ n.log2 * 2 ^ (52 - n.log2) := by rw [← pow_add, Nat.add_sub_cancel' h]
      _ ≤ n * 2 ^ (52 - n.log2) := Nat.mul_le_mul_right _ (Nat.log2_self_le h0)
  · calc
      n * 2 ^ (52 - n.log2) < 2 ^ (n.log2 + 1) * 2 ^ (52 - n.log2) :=
        Nat.mul_lt_mul_of_pos_right Nat.lt_log2_self (by positivity)
      _ = 2 ^ 53 := by rw [← pow_add]; congr 1; omega

/-- The numbers of one binary order share an exponent. -/
theorem nearestBits_bounds {n : Nat} (h0 : n ≠ 0) (h : n ≤ 2 ^ 53) :
    (n.log2 + 1023) * 2 ^ 52 ≤ nearestBits n ∧ nearestBits n < (n.log2 + 1024) * 2 ^ 52 := by
  rcases h.eq_or_lt with rfl | hlt
  · rw [nearestBits_two_pow_53, Nat.log2_two_pow]
    decide
  · have hlog : n.log2 ≤ 52 := Nat.le_of_lt_succ ((Nat.log2_lt h0).2 hlt)
    obtain ⟨hlow, hhigh⟩ := shifted_digits h0 hlog
    rw [nearestBits_of_log2_le h0 hlog]
    omega

/-- Larger numbers have larger bits. -/
theorem nearestBits_lt {m n : Nat} (hmn : m < n) (h : n ≤ 2 ^ 53) :
    nearestBits m < nearestBits n := by
  have hn0 := Nat.ne_zero_of_lt hmn
  have hn := nearestBits_bounds hn0 h
  by_cases h0 : m = 0
  · rw [h0, nearestBits_zero]
    omega
  have hm := nearestBits_bounds h0 (hmn.le.trans h)
  have hlog : m.log2 ≤ 52 := Nat.le_of_lt_succ ((Nat.log2_lt h0).2 (hmn.trans_le h))
  have hle : m.log2 ≤ n.log2 := (Nat.le_log2 hn0).2 ((Nat.log2_self_le h0).trans hmn.le)
  rcases hle.eq_or_lt with heq | hlt
  · -- Within one order the significand decides.
    rw [nearestBits_of_log2_le h0 hlog, nearestBits_of_log2_le hn0 (heq ▸ hlog), ← heq]
    exact Nat.add_lt_add_left (Nat.mul_lt_mul_of_pos_right hmn (by positivity)) _
  · omega

theorem nearestBits_of_lt_log2 {n : Nat} (h0 : n ≠ 0) (h : 52 < n.log2) :
    nearestBits n = (n.log2 + 1022) * 2 ^ 52 + roundHalfEven n (2 ^ (n.log2 - 52)) := by
  simp [nearestBits, h0, Nat.not_le.2 h, Nat.shiftLeft_eq]

/-- No number but zero has the bits of zero. -/
theorem nearestBits_eq_zero_iff {n : Nat} : nearestBits n = 0 ↔ n = 0 := by
  refine ⟨fun h => ?_, fun h => h ▸ nearestBits_zero⟩
  by_contra h0
  by_cases hlog : n.log2 ≤ 52
  · rw [nearestBits_of_log2_le h0 hlog] at h
    omega
  · rw [nearestBits_of_lt_log2 h0 (Nat.not_le.1 hlog)] at h
    omega

/-- The significand that a number is rounded to has fifty-three digits, or is
the next power of two. -/
theorem roundHalfEven_digits {n : Nat} (h0 : n ≠ 0) (h : 52 < n.log2) :
    2 ^ 52 ≤ roundHalfEven n (2 ^ (n.log2 - 52)) ∧
      roundHalfEven n (2 ^ (n.log2 - 52)) ≤ 2 ^ 53 := by
  have hunit : 0 < 2 ^ (n.log2 - 52) := by positivity
  have hlow : 2 ^ 52 ≤ n / 2 ^ (n.log2 - 52) := by
    rw [Nat.le_div_iff_mul_le hunit, ← pow_add, Nat.add_sub_cancel' h.le]
    exact Nat.log2_self_le h0
  have hhigh : n / 2 ^ (n.log2 - 52) < 2 ^ 53 := by
    rw [Nat.div_lt_iff_lt_mul hunit, ← pow_add]
    calc n < 2 ^ (n.log2 + 1) := Nat.lt_log2_self
      _ = 2 ^ (53 + (n.log2 - 52)) := by congr 1; omega
  dsimp only [roundHalfEven]
  split <;> omega

/-- Numbers of up to sixty-four digits have the bits of finite magnitudes. -/
theorem nearestBits_lt_infinityBits {n : Nat} (h : n ≤ 2 ^ 63) : nearestBits n < infinityBits := by
  rw [infinityBits, Nat.shiftLeft_eq]
  by_cases h0 : n = 0
  · rw [h0, nearestBits_zero]
    positivity
  by_cases hlog : n.log2 ≤ 52
  · have hlt : n < 2 ^ 53 := (Nat.log2_lt h0).1 (Nat.lt_succ_of_le hlog)
    calc nearestBits n < (n.log2 + 1024) * 2 ^ 52 := (nearestBits_bounds h0 hlt.le).2
      _ ≤ 2047 * 2 ^ 52 := Nat.mul_le_mul_right _ (by omega)
  · have hlog' : 52 < n.log2 := Nat.not_le.1 hlog
    have hmax : n.log2 < 64 := (Nat.log2_lt h0).2 (by omega)
    have hdigits := (roundHalfEven_digits h0 hlog').2
    rw [nearestBits_of_lt_log2 h0 hlog']
    omega

/-! ## Signs -/

theorem nearestBits_toInt_lt (n : Int64) : nearestBits n.toInt.natAbs < infinityBits := by
  have hlow := n.le_toInt
  have hhigh := n.toInt_lt
  exact nearestBits_lt_infinityBits (by omega)

/-- There is room for a sign above the bits of infinity, -/
theorem infinityBits_lt : infinityBits < 2 ^ 63 := by decide

/-- so that a rounded number keeps its sign -/
theorem isNegative_ofInt64 (n : Int64) : (ofInt64 n).isNegative = decide (n.toInt < 0) := by
  have hbits := (nearestBits_toInt_lt n).trans infinityBits_lt
  rw [isNegative, ofInt64, UInt64.toNat_ofNat', Nat.one_shiftLeft, decide_eq_decide]
  split <;> omega

/-- and has the rounded magnitude. -/
theorem magnitudeBits_ofInt64 (n : Int64) :
    (ofInt64 n).magnitudeBits = nearestBits n.toInt.natAbs := by
  have hbits := (nearestBits_toInt_lt n).trans infinityBits_lt
  rw [magnitudeBits, ofInt64, UInt64.toNat_ofNat', Nat.one_shiftLeft]
  split <;> omega

/-- The place of a whole number on the line of all doubles. -/
theorem orderKey_ofInt64 (n : Int64) :
    (ofInt64 n).orderKey = if n.toInt < 0 then -(nearestBits n.toInt.natAbs : Int) - 1
      else nearestBits n.toInt.natAbs := by
  simp only [orderKey, isNegative_ofInt64, magnitudeBits_ofInt64, decide_eq_true_eq]

/-- Larger whole numbers have larger places. -/
theorem orderKey_ofInt64_lt {m n : Int64} (hm : m.toInt.natAbs ≤ 2 ^ 53)
    (hn : n.toInt.natAbs ≤ 2 ^ 53) (hlt : m.toInt < n.toInt) :
    (ofInt64 m).orderKey < (ofInt64 n).orderKey := by
  rw [orderKey_ofInt64, orderKey_ofInt64]
  split <;> split
  · have := nearestBits_lt (by omega : n.toInt.natAbs < m.toInt.natAbs) hm
    omega
  · omega
  · omega
  · have := nearestBits_lt (by omega : m.toInt.natAbs < n.toInt.natAbs) hn
    omega

/-- **Rounding keeps the order** of whole numbers up to 2 ^ 53 in
magnitude. -/
theorem compare_orderKey_ofInt64 {m n : Int64} (hm : m.toInt.natAbs ≤ 2 ^ 53)
    (hn : n.toInt.natAbs ≤ 2 ^ 53) :
    compare (ofInt64 m).orderKey (ofInt64 n).orderKey = compare m.toInt n.toInt := by
  rcases lt_trichotomy m.toInt n.toInt with hlt | heq | hgt
  · rw [compare_lt_iff_lt.2 hlt, compare_lt_iff_lt]
    exact orderKey_ofInt64_lt hm hn hlt
  · rw [Int64.toInt_inj.1 heq, compare_eq_iff_eq.2 rfl, compare_eq_iff_eq.2 rfl]
  · rw [compare_gt_iff_gt.2 hgt, compare_gt_iff_gt]
    exact orderKey_ofInt64_lt hn hm hgt

end DocQuery.Double
