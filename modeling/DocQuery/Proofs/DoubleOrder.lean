import DocQuery.Proofs.Rounding
/-!
# Doubles by value and by bits

Queries compare doubles by value (`Double.compare?`), sorting by the place of
their bits on one line (`Double.totalCompare`). The bits of a magnitude are
its exponent in front of its fraction, so that larger bits are larger
magnitudes (`scaledMagnitude_lt_iff`) and the two orders agree on numbers. The
zeros are the exception: they are level by value, and the negative one stands
before the other one on the line (`totalCompare_eq_iff`).
-/


namespace DocQuery.Double

variable {x y : Double}

/-! ## Magnitudes -/

theorem magnitudeBits_eq (x : Double) : x.magnitudeBits = x.storedExponent * 2 ^ 52 + x.fraction := by
  rw [storedExponent, fraction, Nat.one_shiftLeft]
  omega

/-- A magnitude that has an exponent is as large as this makes it. -/
theorem le_scaledMagnitude (h : x.storedExponent ≠ 0) :
    2 ^ 52 * 2 ^ (x.storedExponent - 1) ≤ x.scaledMagnitude := by
  have hleading : 2 ^ 52 ≤ x.significand := by
    rw [significand, if_neg h, Nat.one_shiftLeft]
    omega
  rw [scaledMagnitude_def]
  exact Nat.mul_le_mul_right _ hleading

/-- The significands of one exponent grow with the fraction. -/
theorem significand_lt_of_fraction (h : x.storedExponent = y.storedExponent)
    (hlt : x.fraction < y.fraction) : x.significand < y.significand := by
  rw [significand, significand, h]
  split <;> omega

/-- Larger bits are larger magnitudes: the exponent counts first, and the
fraction where exponents are the same. -/
theorem scaledMagnitude_lt_of_bits (h : x.magnitudeBits < y.magnitudeBits) :
    x.scaledMagnitude < y.scaledMagnitude := by
  have hx := magnitudeBits_eq x
  have hy := magnitudeBits_eq y
  have hxf : x.fraction < 2 ^ 52 := Nat.mod_lt _ (by decide)
  have hyf : y.fraction < 2 ^ 52 := Nat.mod_lt _ (by decide)
  rcases Nat.lt_or_ge x.storedExponent y.storedExponent with hlt | hge
  · have hexponent : y.storedExponent ≠ 0 := by omega
    calc x.scaledMagnitude < 2 ^ 52 * 2 ^ (y.storedExponent - 1) :=
          scaledMagnitude_lt_of_exponent (by omega)
      _ ≤ y.scaledMagnitude := le_scaledMagnitude hexponent
  · have hexponent : x.storedExponent = y.storedExponent := by omega
    have hfraction : x.fraction < y.fraction := by omega
    rw [scaledMagnitude_def, scaledMagnitude_def, hexponent]
    exact Nat.mul_lt_mul_of_pos_right (significand_lt_of_fraction hexponent hfraction) (by positivity)

/-- Equal bits are equal magnitudes. -/
theorem scaledMagnitude_congr (h : x.magnitudeBits = y.magnitudeBits) :
    x.scaledMagnitude = y.scaledMagnitude := by
  have hexponent : x.storedExponent = y.storedExponent := by
    rw [storedExponent, storedExponent, h]
  have hfraction : x.fraction = y.fraction := by
    rw [fraction, fraction, h]
  rw [scaledMagnitude_def, scaledMagnitude_def, significand, significand, hexponent, hfraction]

/-- **Magnitudes compare as their bits do.** -/
theorem scaledMagnitude_lt_iff :
    x.scaledMagnitude < y.scaledMagnitude ↔ x.magnitudeBits < y.magnitudeBits := by
  refine ⟨fun hlt => ?_, scaledMagnitude_lt_of_bits⟩
  by_contra hnot
  rcases (Nat.not_lt.1 hnot).eq_or_lt with heq | hgt
  · have := scaledMagnitude_congr heq
    omega
  · have := scaledMagnitude_lt_of_bits hgt
    omega

theorem scaledMagnitude_eq_iff :
    x.scaledMagnitude = y.scaledMagnitude ↔ x.magnitudeBits = y.magnitudeBits := by
  have hlt := scaledMagnitude_lt_iff (x := x) (y := y)
  have hgt := scaledMagnitude_lt_iff (x := y) (y := x)
  omega

/-- The bits of zero are those of no other magnitude. -/
theorem scaledMagnitude_eq_zero_iff : x.scaledMagnitude = 0 ↔ x.magnitudeBits = 0 :=
  scaledMagnitude_eq_iff (y := ⟨0⟩)

/-! ## Signs -/

/-- The negative zero. -/
def minusZero : Double := ⟨0x8000000000000000⟩

/-- It is known by its sign and by its magnitude. -/
theorem eq_minusZero_iff : x = minusZero ↔ x.isNegative = true ∧ x.magnitudeBits = 0 := by
  constructor
  · rintro rfl
    decide
  · rintro ⟨hsign, hmagnitude⟩
    have hbound := x.bits.toNat_lt
    simp only [isNegative, magnitudeBits, Nat.one_shiftLeft, decide_eq_true_eq] at hsign hmagnitude
    have hbits : x.bits.toNat = (0x8000000000000000 : UInt64).toNat := by
      show x.bits.toNat = 9223372036854775808
      omega
    cases x
    exact congrArg Double.mk (UInt64.toNat_inj.1 hbits)

/-- A double whose scaled value is zero has no bits but its sign. -/
theorem scaled_eq_zero_iff : x.scaled = 0 ↔ x.magnitudeBits = 0 := by
  rw [← scaledMagnitude_eq_zero_iff, scaled]
  split <;> omega

/-- Bits by place: those of negative numbers, and those of others. -/
theorem orderKey_eq (x : Double) :
    (x.isNegative = true ∧ x.scaled = -(x.scaledMagnitude : Int) ∧
      x.orderKey = -(x.magnitudeBits : Int) - 1) ∨
    (x.isNegative = false ∧ x.scaled = x.scaledMagnitude ∧ x.orderKey = x.magnitudeBits) := by
  rw [scaled, orderKey]
  cases x.isNegative with
  | true => exact .inl ⟨rfl, rfl, rfl⟩
  | false => exact .inr ⟨rfl, rfl, rfl⟩

/-- **A smaller value stands before a larger one** on the line of all
doubles. -/
theorem orderKey_lt (h : x.scaled < y.scaled) : x.orderKey < y.orderKey := by
  have hlt := scaledMagnitude_lt_iff (x := x) (y := y)
  have hgt := scaledMagnitude_lt_iff (x := y) (y := x)
  have hx := orderKey_eq x
  have hy := orderKey_eq y
  omega

/-- **Equal values stand in one place**, unless one of them is the negative
zero and the other one is not. -/
theorem orderKey_eq_iff (h : x.scaled = y.scaled) :
    x.orderKey = y.orderKey ↔ (x = minusZero ↔ y = minusZero) := by
  have heq := scaledMagnitude_eq_iff (x := x) (y := y)
  have hx0 := scaledMagnitude_eq_zero_iff (x := x)
  have hy0 := scaledMagnitude_eq_zero_iff (x := y)
  rw [eq_minusZero_iff, eq_minusZero_iff]
  obtain ⟨hx, hxs, hxk⟩ | ⟨hx, hxs, hxk⟩ := orderKey_eq x
  · obtain ⟨hy, hys, hyk⟩ | ⟨hy, hys, hyk⟩ := orderKey_eq y
    · simp only [hx, hy, true_and]
      omega
    · -- one negative and one not, so that both are zeros
      simp only [hx, hy, Bool.false_eq_true, false_and, true_and, iff_false]
      omega
  · obtain ⟨hy, hys, hyk⟩ | ⟨hy, hys, hyk⟩ := orderKey_eq y
    · simp only [hx, hy, Bool.false_eq_true, false_and, true_and, false_iff]
      omega
    · simp only [hx, hy, Bool.false_eq_true, false_and, iff_self, iff_true]
      omega

/-! ## Comparisons -/

/-- Doubles that are in order by value are so by their bits. -/
theorem totalCompare_of_compare? {o : Ordering} (h : x.compare? y = some o) (hne : o ≠ .eq) :
    x.totalCompare y = o := by
  rw [compare?] at h
  split at h
  · cases h
  · obtain rfl : compare x.scaled y.scaled = o := Option.some.inj h
    rw [totalCompare]
    rcases lt_trichotomy x.scaled y.scaled with hlt | heq | hgt
    · rw [compare_lt_iff_lt.2 hlt, compare_lt_iff_lt]
      exact orderKey_lt hlt
    · exact absurd (compare_eq_iff_eq.2 heq) hne
    · rw [compare_gt_iff_gt.2 hgt, compare_gt_iff_gt]
      exact orderKey_lt hgt

/-- **Doubles that are level by value** are level by their bits, unless one of
them is the negative zero and the other one is not. -/
theorem totalCompare_eq_iff (h : x.compare? y = some .eq) :
    x.totalCompare y = .eq ↔ (x = minusZero ↔ y = minusZero) := by
  rw [compare?] at h
  split at h
  · cases h
  · rw [totalCompare, compare_eq_iff_eq]
    exact orderKey_eq_iff (compare_eq_iff_eq.1 (Option.some.inj h))

end DocQuery.Double
