import Mathlib.Tactic.Linarith
import Mathlib.Tactic.Ring
import DocQuery.Proofs.ExactDoubles
/-!
# Rounding whole numbers to doubles

A whole number of sixty-four bits need not be a double, and is rounded. No
double is closer to it than the one it is rounded to (`scaled_nearest`), so
that none lies between the two; up to 2 ^ 53 in magnitude the two are the same
(`scaled_ofInt64_of_le`).

Magnitudes are compared on the scale on which they are whole. Above a power of
two they are multiples of a common distance (`scaledMagnitude_grid`), among
which rounding finds a nearest one (`roundHalfEven_bounds`); below it they are
further away.
-/


namespace DocQuery.Double

/-! ## Magnitudes by their bits -/

/-- A significand has at most fifty-three digits, -/
theorem significand_lt (x : Double) : x.significand < 2 ^ 53 := by
  have hfraction : x.fraction < 1 <<< 52 := Nat.mod_lt _ (by decide)
  rw [significand]
  simp only [Nat.shiftLeft_eq] at hfraction ⊢
  split <;> omega

/-- and fewer of them if the exponent is zero. -/
theorem significand_lt_of_exponent {x : Double} (h : x.storedExponent = 0) :
    x.significand < 2 ^ 52 := by
  have hfraction : x.fraction < 1 <<< 52 := Nat.mod_lt _ (by decide)
  rw [significand, if_pos h]
  simpa only [Nat.shiftLeft_eq, one_mul] using hfraction

theorem scaledMagnitude_def (x : Double) :
    x.scaledMagnitude = x.significand * 2 ^ (x.storedExponent - 1) := by
  rw [scaledMagnitude, scaledUlp, Nat.shiftLeft_eq, one_mul]

/-- What stands in the bits. -/
theorem fields_of_bits {x : Double} {e f : Nat} (hf : f < 2 ^ 52)
    (h : x.magnitudeBits = e * 2 ^ 52 + f) : x.storedExponent = e ∧ x.fraction = f := by
  rw [storedExponent, fraction, h, Nat.one_shiftLeft]
  omega

/-- **A significand that is added to an exponent** is the magnitude's, also
when it carries. -/
theorem scaledMagnitude_of_bits {x : Double} {e q : Nat} (hlow : 2 ^ 52 ≤ q) (hhigh : q ≤ 2 ^ 53)
    (h : x.magnitudeBits = e * 2 ^ 52 + q) : x.scaledMagnitude = q * 2 ^ e := by
  rw [scaledMagnitude_def]
  rcases hhigh.eq_or_lt with rfl | hlt
  · -- the carry leaves a significand of zeros
    have hbits : x.magnitudeBits = (e + 2) * 2 ^ 52 + 0 := by
      rw [h]
      ring
    obtain ⟨hexponent, hfraction⟩ := fields_of_bits (by decide) hbits
    have hsignificand : x.significand = 2 ^ 52 := by
      rw [significand, hexponent, hfraction, if_neg (by omega)]
      rfl
    rw [hsignificand, hexponent, Nat.add_sub_assoc (by decide), pow_succ']
    ring
  · have hbits : x.magnitudeBits = (e + 1) * 2 ^ 52 + (q - 2 ^ 52) := by
      rw [h, Nat.succ_mul, Nat.add_assoc, Nat.add_sub_cancel' hlow]
    obtain ⟨hexponent, hfraction⟩ := fields_of_bits (by omega) hbits
    have hsignificand : x.significand = q := by
      rw [significand, hexponent, hfraction, if_neg (by omega), Nat.one_shiftLeft]
      omega
    rw [hsignificand, hexponent, Nat.add_sub_cancel]

/-- Magnitudes with small exponents are small. -/
theorem scaledMagnitude_lt_of_exponent {x : Double} {k : Nat} (h : x.storedExponent ≤ k) :
    x.scaledMagnitude < 2 ^ 52 * 2 ^ k := by
  rw [scaledMagnitude_def]
  by_cases hexponent : x.storedExponent = 0
  · rw [hexponent]
    have hone : 1 ≤ 2 ^ k := Nat.one_le_two_pow
    have hsignificand := significand_lt_of_exponent hexponent
    calc x.significand * 2 ^ (0 - 1) = x.significand := by rw [Nat.zero_sub, pow_zero, mul_one]
      _ < 2 ^ 52 := hsignificand
      _ ≤ 2 ^ 52 * 2 ^ k := Nat.le_mul_of_pos_right _ hone
  · calc x.significand * 2 ^ (x.storedExponent - 1)
        < 2 ^ 53 * 2 ^ (x.storedExponent - 1) :=
          Nat.mul_lt_mul_of_pos_right x.significand_lt (by positivity)
      _ = 2 ^ 52 * 2 ^ (x.storedExponent - 1 + 1) := by ring
      _ ≤ 2 ^ 52 * 2 ^ k :=
          Nat.mul_le_mul_left _ (Nat.pow_le_pow_right (by decide) (by omega))

/-- **Magnitudes are multiples of a distance**, except for those that are
smaller than 2 ^ 52 times it. -/
theorem scaledMagnitude_grid (x : Double) (k : Nat) :
    (∃ j, x.scaledMagnitude = j * 2 ^ k) ∨ x.scaledMagnitude < 2 ^ 52 * 2 ^ k := by
  by_cases hk : k ≤ x.storedExponent - 1
  · refine .inl ⟨x.significand * 2 ^ (x.storedExponent - 1 - k), ?_⟩
    rw [scaledMagnitude_def, mul_assoc, ← pow_add, Nat.sub_add_cancel hk]
  · exact .inr (scaledMagnitude_lt_of_exponent (by omega))

/-! ## Rounding -/

/-- The scale of magnitudes, which is a power of two, moves exponents up by
1074. -/
theorem pow_mul_scale {i j : Nat} (h : j = i + 1074) : 2 ^ i * scale = 2 ^ j := by
  have hshift (k : Nat) : 2 ^ i * 1 <<< k = 2 ^ (i + k) := by rw [Nat.one_shiftLeft, pow_add]
  rw [h, ← hshift, scale]

/-- A rounded quotient is at most half a unit away. -/
theorem roundHalfEven_bounds (n : Nat) {u : Nat} (h : 0 < u) :
    2 * n ≤ 2 * (roundHalfEven n u * u) + u ∧
      2 * (roundHalfEven n u * u) ≤ 2 * n + u := by
  have hdiv : n / u * u + n % u = n := Nat.div_add_mod' n u
  have hmod := Nat.mod_lt n h
  have hnext : (n / u + 1) * u = n / u * u + u := Nat.succ_mul _ _
  dsimp only [roundHalfEven]
  split <;> omega

section

variable {x : Double} {n : Nat}

/-- Numbers of at most fifty-three digits are not changed. -/
theorem scaledMagnitude_of_log2_le (hx : x.magnitudeBits = nearestBits n) (h : n.log2 ≤ 52) :
    x.scaledMagnitude = n * scale := by
  by_cases h0 : n = 0
  · subst h0
    have hbits : x.magnitudeBits = 0 * 2 ^ 52 + 0 := hx
    obtain ⟨hexponent, hfraction⟩ := fields_of_bits (by decide) hbits
    rw [scaledMagnitude_def, significand, if_pos hexponent, hfraction, zero_mul, zero_mul]
  · rw [nearestBits_of_log2_le h0 h] at hx
    obtain ⟨hlow, hhigh⟩ := shifted_digits h0 h
    have hscale : 2 ^ 0 * scale = 2 ^ (52 - n.log2 + (n.log2 + 1022)) :=
      pow_mul_scale (by omega)
    rw [pow_zero, one_mul] at hscale
    rw [scaledMagnitude_of_bits hlow hhigh.le hx, mul_assoc, ← pow_add, ← hscale]

/-- Of two multiples, one that is at most half a unit away is not further away
than the other. -/
theorem natAbs_sub_multiple_le {m u q : Nat} (hbelow : 2 * m ≤ 2 * (q * u) + u)
    (habove : 2 * (q * u) ≤ 2 * m + u) (j : Nat) :
    ((q * u : Nat) - m : Int).natAbs ≤ ((j * u : Nat) - m : Int).natAbs := by
  rcases lt_trichotomy j q with hlt | rfl | hgt
  · have hstep : j * u + u ≤ q * u := Nat.succ_mul j u ▸ Nat.mul_le_mul_right u hlt
    omega
  · exact le_rfl
  · have hstep : q * u + u ≤ j * u := Nat.succ_mul q u ▸ Nat.mul_le_mul_right u hgt
    omega

/-- **No magnitude is closer** to a whole number than the one that it is
rounded to. -/
theorem scaledMagnitude_nearest (hx : x.magnitudeBits = nearestBits n) (y : Double) :
    (x.scaledMagnitude - (n * scale : Nat) : Int).natAbs ≤
      (y.scaledMagnitude - (n * scale : Nat) : Int).natAbs := by
  by_cases hlog : n.log2 ≤ 52
  · rw [scaledMagnitude_of_log2_le hx hlog, sub_self]
    exact Nat.zero_le _
  have h0 : n ≠ 0 := by rintro rfl; exact hlog (by decide)
  have hlog' : 52 < n.log2 := Nat.not_le.1 hlog
  -- the distance of doubles at the number, on the scale of magnitudes
  have hunit : 2 ^ (n.log2 - 52) * scale = 2 ^ (n.log2 + 1022) := pow_mul_scale (by omega)
  have hpower : 2 ^ 52 * 2 ^ (n.log2 + 1022) ≤ n * scale := by
    rw [← hunit, ← mul_assoc, ← pow_add, Nat.add_sub_cancel' hlog'.le]
    exact Nat.mul_le_mul_right _ (Nat.log2_self_le h0)
  have hgrid := y.scaledMagnitude_grid (n.log2 + 1022)
  obtain ⟨hlow, hhigh⟩ := roundHalfEven_digits h0 hlog'
  obtain ⟨hbelow, habove⟩ := roundHalfEven_bounds n (u := 2 ^ (n.log2 - 52)) (by positivity)
  rw [nearestBits_of_lt_log2 h0 hlog'] at hx
  rw [scaledMagnitude_of_bits hlow hhigh hx]
  generalize roundHalfEven n (2 ^ (n.log2 - 52)) = q at *
  replace hbelow : 2 * (n * scale) ≤ 2 * (q * 2 ^ (n.log2 + 1022)) + 2 ^ (n.log2 + 1022) := by
    have hscaled := Nat.mul_le_mul_right scale hbelow
    rw [← hunit]
    linarith
  replace habove : 2 * (q * 2 ^ (n.log2 + 1022)) ≤ 2 * (n * scale) + 2 ^ (n.log2 + 1022) := by
    have hscaled := Nat.mul_le_mul_right scale habove
    rw [← hunit]
    linarith
  have hnearest := natAbs_sub_multiple_le hbelow habove
  rcases hgrid with ⟨j, hj⟩ | hlt
  · rw [hj]
    exact hnearest j
  · -- what is below the power of two is further away than it
    refine (hnearest (2 ^ 52)).trans ?_
    generalize 2 ^ 52 * 2 ^ (n.log2 + 1022) = power at *
    generalize n * scale = m at *
    omega

end

/-! ## Signs -/

/-- A rounded number is a number. -/
theorem isNaN_ofInt64 (n : Int64) : (ofInt64 n).isNaN = false := by
  rw [isNaN, magnitudeBits_ofInt64, decide_eq_false_iff_not, Nat.not_lt]
  exact (nearestBits_toInt_lt n).le

/-- The scaled value of a rounded number. -/
theorem scaled_ofInt64 (n : Int64) : (ofInt64 n).scaled =
    if n.toInt < 0 then -((ofInt64 n).scaledMagnitude : Int) else (ofInt64 n).scaledMagnitude := by
  rw [scaled, isNegative_ofInt64]
  simp only [decide_eq_true_eq]

/-- A whole number on the scale of magnitudes. -/
theorem toInt_mul_scale (n : Int64) : n.toInt * (scale : Int) =
    if n.toInt < 0 then -((n.toInt.natAbs * scale : Nat) : Int)
      else (n.toInt.natAbs * scale : Nat) := by
  split
  · have habs : n.toInt = -(n.toInt.natAbs : Int) := by omega
    rw [Nat.cast_mul, ← neg_mul, ← habs]
  · have habs : n.toInt = (n.toInt.natAbs : Int) := by omega
    rw [Nat.cast_mul, ← habs]

/-- **No double is closer** to a whole number than the one that it is rounded
to. -/
theorem scaled_nearest (n : Int64) (y : Double) :
    ((ofInt64 n).scaled - n.toInt * (scale : Int)).natAbs ≤
      (y.scaled - n.toInt * (scale : Int)).natAbs := by
  have hnearest := scaledMagnitude_nearest (magnitudeBits_ofInt64 n) y
  rw [scaled_ofInt64, toInt_mul_scale, scaled]
  generalize n.toInt.natAbs * scale = m at *
  -- a double of the other sign is still further away
  split <;> split <;> omega

/-- **Small numbers are not changed.** -/
theorem scaled_ofInt64_of_le {n : Int64} (h : n.toInt.natAbs ≤ 2 ^ 53) :
    (ofInt64 n).scaled = n.toInt * (scale : Int) := by
  have hmagnitude : (ofInt64 n).scaledMagnitude = n.toInt.natAbs * scale := by
    have hbits := magnitudeBits_ofInt64 n
    rcases h.eq_or_lt with heq | hlt
    · rw [heq, nearestBits_two_pow_53] at hbits
      rw [heq, scaledMagnitude_of_bits (e := 1075) le_rfl (by decide) hbits, ← pow_add]
      have hpower : 2 ^ 53 * scale = 2 ^ (52 + 1075) := pow_mul_scale (by decide)
      rw [hpower]
    · by_cases h0 : n.toInt.natAbs = 0
      · exact scaledMagnitude_of_log2_le hbits (by rw [h0]; decide)
      · exact scaledMagnitude_of_log2_le hbits (Nat.le_of_lt_succ ((Nat.log2_lt h0).2 hlt))
  rw [scaled_ofInt64, toInt_mul_scale, hmagnitude]

end DocQuery.Double
