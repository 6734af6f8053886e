import Mathlib.Algebra.Order.Field.Rat
import Mathlib.Data.Int.ConditionallyCompleteOrder
import Mathlib.Data.Rat.Cast.Order
import Mathlib.Order.WithBotTop
import DocQuery.Proofs.Rounding
import DocQuery.Value.Equality
/-!
# What numbers stand for

A number stands for an amount: a fraction or one of the infinities. That of a
double is read off its sign, its significand and its exponent
(`Double.amount?`), and a NaN has none. Scaled values are amounts on another
scale (`Amount.ofScaled`), which keeps their order (`compare_ofScaled`), so
that comparing doubles by scaled values compares their amounts.
-/


namespace DocQuery

/-- A fraction or an infinity. -/
abbrev Amount := WithBot (WithTop ℚ)

/-- The amount of a double: its significand times the power of two that its
exponent stands for, which is the same for the lowest two exponents. -/
def Double.amount? (x : Double) : Option Amount :=
  if x.isNaN then none
  else if x.isInfinite then some (if x.isNegative then ⊥ else ⊤)
  else some (((if x.isNegative then -1 else 1) * x.significand *
    2 ^ ((max x.storedExponent 1 : Int) - 1075) : ℚ) : Amount)

/-- The amount of a number. -/
def Number.amount? : Number → Option Amount
  | .whole n => some ((n.toInt : ℚ) : Amount)
  | .double x => x.amount?

/-- The amount of a value: of the integers of both widths and the doubles. -/
def Value.amount? : Value → Option Amount
  | .int32 n => some ((n.toInt : ℚ) : Amount)
  | .int64 n => some ((n.toInt : ℚ) : Amount)
  | .double x => x.amount?
  | _ => none

/-- A value is a NaN. -/
def Value.IsNaN (v : Value) : Prop := ∃ x : Double, v = .double x ∧ x.isNaN = true

theorem Value.not_isNaN_double_iff {x : Double} : ¬ (double x).IsNaN ↔ x.isNaN = false := by
  constructor
  · intro h
    by_contra hnan
    exact h ⟨x, rfl, by simpa using hnan⟩
  · rintro hnumber ⟨y, hy, hnan⟩
    cases hy
    rw [hnumber] at hnan
    cases hnan

/-- A value has the amount of the number that it is compared as. -/
theorem Value.amount?_eq (v : Value) : v.amount? = v.number?.bind Number.amount? := by
  cases v with
  | int32 n => simp [amount?, number?, Number.amount?]
  | _ => rfl

namespace Double

/-! ## Scaled values -/

/-- The scaled magnitude of the infinities. -/
def infiniteMagnitude : Nat := 1 <<< 2098

theorem infiniteMagnitude_pos : 0 < infiniteMagnitude := by decide

theorem pow_mul_pow_infinite {i j : Nat} (h : i + j = 2098) :
    2 ^ i * 2 ^ j = infiniteMagnitude := by
  rw [infiniteMagnitude, ← h, Nat.one_shiftLeft, pow_add]

theorem scaledMagnitude_of_isInfinite {x : Double} (h : x.isInfinite = true) :
    x.scaledMagnitude = infiniteMagnitude := by
  rw [isInfinite, beq_iff_eq] at h
  rw [scaledMagnitude_of_bits (e := 2046) le_rfl (by decide) h]
  exact pow_mul_pow_infinite (by decide)

/-- Finite magnitudes are smaller. -/
theorem scaledMagnitude_lt {x : Double} (h : x.magnitudeBits < infinityBits) :
    x.scaledMagnitude < infiniteMagnitude := by
  have hexponent : x.storedExponent < 2047 := by
    rw [storedExponent, Nat.div_lt_iff_lt_mul (by decide)]
    exact h
  obtain ⟨k, hk⟩ : ∃ k, 53 + k = 2098 := ⟨2045, rfl⟩
  calc x.scaledMagnitude = x.significand * 2 ^ (x.storedExponent - 1) := scaledMagnitude_def x
    _ < 2 ^ 53 * 2 ^ (x.storedExponent - 1) :=
      Nat.mul_lt_mul_of_pos_right x.significand_lt (by positivity)
    _ ≤ 2 ^ 53 * 2 ^ k := Nat.mul_le_mul_left _ (Nat.pow_le_pow_right (by decide) (by omega))
    _ = infiniteMagnitude := pow_mul_pow_infinite hk

end Double

/-- The amount of a scaled value. -/
def Amount.ofScaled (z : Int) : Amount :=
  if (Double.infiniteMagnitude : Int) ≤ z then ⊤
  else if z ≤ -(Double.infiniteMagnitude : Int) then ⊥
  else ((z / Double.scale : ℚ) : Amount)

namespace Amount

/-- The scaled values of numbers. -/
def scaledRange : Set Int :=
  Set.Icc (-(Double.infiniteMagnitude : Int)) Double.infiniteMagnitude

theorem scale_pos : (0 : ℚ) < Double.scale := by
  have h : 0 < Double.scale := by decide
  exact_mod_cast h

/-- **Scaled values are ordered as amounts.** -/
theorem strictMonoOn_ofScaled : StrictMonoOn ofScaled scaledRange := by
  intro z hz w hw hlt
  obtain ⟨hzlow, hzhigh⟩ := hz
  obtain ⟨hwlow, hwhigh⟩ := hw
  have hz : ¬ (Double.infiniteMagnitude : Int) ≤ z := by omega
  have hw : ¬ w ≤ -(Double.infiniteMagnitude : Int) := by omega
  rw [ofScaled, ofScaled, if_neg hz, if_neg hw]
  by_cases hbot : z ≤ -(Double.infiniteMagnitude : Int)
  · rw [if_pos hbot]
    split
    · exact WithBot.bot_lt_coe _
    · exact WithBot.bot_lt_coe _
  · rw [if_neg hbot]
    split
    · exact WithBot.coe_lt_coe.2 (WithTop.coe_lt_top _)
    · refine WithBot.coe_lt_coe.2 (WithTop.coe_lt_coe.2 ?_)
      exact div_lt_div_of_pos_right (by exact_mod_cast hlt) scale_pos

/-- Amounts compare as scaled values do. -/
theorem compare_ofScaled {z w : Int} (hz : z ∈ scaledRange) (hw : w ∈ scaledRange) :
    compare (ofScaled z) (ofScaled w) = compare z w := by
  rw [← cmp_eq_compare, ← cmp_eq_compare]
  exact strictMonoOn_ofScaled.cmp_map_eq hz hw

end Amount

namespace Double

variable {x : Double}

/-- The magnitude of a number is finite or that of the infinities. -/
theorem scaledMagnitude_le (h : x.isNaN = false) : x.scaledMagnitude ≤ infiniteMagnitude := by
  by_cases hinf : x.isInfinite = true
  · exact (scaledMagnitude_of_isInfinite hinf).le
  · rw [isNaN, decide_eq_false_iff_not] at h
    rw [isInfinite, beq_iff_eq] at hinf
    exact (scaledMagnitude_lt (by omega)).le

theorem scaled_mem (h : x.isNaN = false) : x.scaled ∈ Amount.scaledRange := by
  have hle := scaledMagnitude_le h
  rw [scaled, Amount.scaledRange, Set.mem_Icc]
  split <;> omega

/-- The power of two of an exponent, on the scale of amounts. -/
theorem zpow_exponent (e : Nat) :
    (2 : ℚ) ^ ((max e 1 : Int) - 1075) = ((2 ^ (e - 1) : Nat) : ℚ) / scale := by
  obtain ⟨s, hs⟩ : ∃ s, s = 1074 := ⟨_, rfl⟩
  have hscale : scale = 2 ^ s := by
    rw [← pow_mul_scale (i := 0) (by omega), pow_zero, one_mul]
  have hexponent : (max e 1 : Int) - 1075 = ((e - 1 : Nat) : Int) - (s : Int) := by omega
  rw [hexponent, zpow_sub₀ two_ne_zero, zpow_natCast, zpow_natCast, hscale, Nat.cast_pow,
    Nat.cast_pow, Nat.cast_ofNat]

/-- **The amount of a double** is that of its scaled value. -/
theorem amount?_eq (h : x.isNaN = false) : x.amount? = some (.ofScaled x.scaled) := by
  have hpos := infiniteMagnitude_pos
  rw [amount?, if_neg (by simp [h])]
  by_cases hinf : x.isInfinite = true
  · rw [if_pos hinf, Amount.ofScaled, scaled, scaledMagnitude_of_isInfinite hinf]
    by_cases hneg : x.isNegative = true
    · rw [if_pos hneg, if_pos hneg, if_neg (by omega), if_pos le_rfl]
    · rw [if_neg hneg, if_neg hneg, if_pos le_rfl]
  · have hlt : x.scaledMagnitude < infiniteMagnitude := by
      rw [isNaN, decide_eq_false_iff_not] at h
      rw [isInfinite, beq_iff_eq] at hinf
      exact scaledMagnitude_lt (by omega)
    have hmagnitude : (x.scaledMagnitude : ℚ) / scale =
        x.significand * 2 ^ ((max x.storedExponent 1 : Int) - 1075) := by
      rw [zpow_exponent, scaledMagnitude_def, Nat.cast_mul, mul_div_assoc]
    rw [if_neg hinf, Amount.ofScaled, scaled]
    by_cases hneg : x.isNegative = true
    · rw [if_pos hneg, if_pos hneg, if_neg (by omega), if_neg (by omega), Int.cast_neg,
        Int.cast_natCast, neg_div, hmagnitude, mul_assoc, neg_one_mul]
    · rw [if_neg hneg, if_neg hneg, if_neg (by omega), if_neg (by omega), Int.cast_natCast,
        hmagnitude, mul_assoc, one_mul]

end Double

/-! ## Whole numbers -/

section

variable (n : Int64)

/-- Whole numbers of sixty-four bits are far from the infinities, -/
theorem natAbs_mul_scale_lt : n.toInt.natAbs * Double.scale < Double.infiniteMagnitude := by
  have hlow := n.le_toInt
  have hhigh := n.toInt_lt
  obtain ⟨k, l, hk, hl, hl'⟩ : ∃ k l, k = 63 + 1074 ∧ k + l = 2098 ∧ l ≠ 0 :=
    ⟨63 + 1074, 961, rfl, rfl, by decide⟩
  calc n.toInt.natAbs * Double.scale
      ≤ 2 ^ 63 * Double.scale := Nat.mul_le_mul_right _ (by omega)
    _ = 2 ^ k * 1 := by rw [Double.pow_mul_scale hk, mul_one]
    _ < 2 ^ k * 2 ^ l := Nat.mul_lt_mul_of_pos_left (Nat.one_lt_two_pow hl') (by positivity)
    _ = Double.infiniteMagnitude := Double.pow_mul_pow_infinite hl

/-- so that they are amounts of scaled values, -/
theorem scaledRange_of_whole : n.toInt * (Double.scale : Int) ∈ Amount.scaledRange := by
  have hlt := natAbs_mul_scale_lt n
  rw [Double.toInt_mul_scale, Amount.scaledRange, Set.mem_Icc]
  split <;> omega

/-- of their own times the scale. -/
theorem ofScaled_whole : Amount.ofScaled (n.toInt * (Double.scale : Int)) = (n.toInt : ℚ) := by
  have hlt := natAbs_mul_scale_lt n
  have hscaled := Double.toInt_mul_scale n
  have hlow : ¬ (Double.infiniteMagnitude : Int) ≤ n.toInt * (Double.scale : Int) := by
    rw [hscaled]
    split <;> omega
  have hhigh : ¬ n.toInt * (Double.scale : Int) ≤ -(Double.infiniteMagnitude : Int) := by
    rw [hscaled]
    split <;> omega
  rw [Amount.ofScaled, if_neg hlow, if_neg hhigh, Int.cast_mul, Int.cast_natCast,
    mul_div_cancel_right₀ _ Amount.scale_pos.ne']

end

end DocQuery
