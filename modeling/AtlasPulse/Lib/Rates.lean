import AtlasPulse.Lib.Binary64

/-!
# Rates

The rate of a count in a total is a rounded quotient. It stays between zero and
one, it grows with the count, and for totals that floats count exactly it is one
only of the whole total (`rate_eq_one`).
-/

namespace Binary64

variable {k n : ℕ}

theorem ratio_nonneg : (0 : ℚ) ≤ (k : ℚ) / n := by positivity

theorem ratio_le_one (h : k ≤ n) : (k : ℚ) / n ≤ 1 := by
  apply div_le_one_of_le₀
  · exact_mod_cast h
  · positivity

theorem roundMag_one : roundMag 1 = 1 := by simpa using roundMag_natCast (n := 1) (by norm_num)

theorem roundMag_ratio_le_one (h : k ≤ n) : roundMag ((k : ℚ) / n) ≤ 1 :=
  (roundMag_mono ratio_nonneg (ratio_le_one h)).trans_eq roundMag_one

theorem one_lt_overflow : 1 < overflow := one_lt_pow₀ (by norm_num) (by norm_num)

theorem fit_ratio (h : k ≤ n) : fit ((k : ℚ) / n) = some (roundMag ((k : ℚ) / n)) := by
  have hle : roundMag ((k : ℚ) / n) < overflow := (roundMag_ratio_le_one h).trans_lt one_lt_overflow
  have hneg : ¬ (k : ℚ) / n < 0 := not_lt.mpr ratio_nonneg
  rw [fit, abs_of_nonneg ratio_nonneg, if_pos hle]
  simp [signed, hneg]

theorem ofInt_one : (Float64.ofInt 1).toRat? = some 1 := by
  have h := toRat?_ofRat false (1 : ℚ)
  have hfit := fit_ratio (k := 1) (n := 1) (Nat.le_refl 1)
  rw [Nat.cast_one, div_one, roundMag_one] at hfit
  rw [hfit] at h
  exact_mod_cast h

/-- The rate of a count in a total that is not zero. -/
theorem exists_rate (hn : n ≠ 0) (h : k ≤ n) :
    ∃ x, intDiv k n = .ok x ∧ x.toRat? = some (roundMag ((k : ℚ) / n)) := by
  have hle : |((k : ℤ) : ℚ) / ((n : ℤ) : ℚ)| ≤ 2 ^ (0 : ℤ) := by
    rw [Int.cast_natCast, Int.cast_natCast, abs_of_nonneg ratio_nonneg, zpow_zero]
    exact ratio_le_one h
  obtain ⟨x, hx, hval, -⟩ := exists_intDiv (m := k) (n := n) (e := 0) (by exact_mod_cast hn) (by norm_num) (by norm_num) hle
  rw [Int.cast_natCast, Int.cast_natCast, fit_ratio h] at hval
  exact ⟨x, hx, hval⟩

/-- Below the total the rate is at most the float before one. -/
theorem roundMag_ratio_lt_one (h : k < n) (hn : n ≤ 2 ^ 53) : roundMag ((k : ℚ) / n) < 1 := by
  have hpos : (0 : ℚ) < n := by exact_mod_cast (Nat.zero_le k).trans_lt h
  have hbound : (k : ℚ) / n ≤ ((2 ^ 53 - 1 : ℕ) : ℚ) * 2 ^ (-53 : ℤ) := by
    have hk : (k : ℚ) + 1 ≤ n := by exact_mod_cast h
    have hn' : (n : ℚ) ≤ 2 ^ 53 := by exact_mod_cast hn
    rw [div_le_iff₀ hpos]
    norm_num
    linarith
  calc roundMag ((k : ℚ) / n) ≤ roundMag (((2 ^ 53 - 1 : ℕ) : ℚ) * 2 ^ (-53 : ℤ)) := roundMag_mono ratio_nonneg hbound
    _ = ((2 ^ 53 - 1 : ℕ) : ℚ) * 2 ^ (-53 : ℤ) := roundMag_natMul (by norm_num) (by norm_num)
    _ < 1 := by norm_num

theorem rate_eq_one (hn : n ≠ 0) (h : k ≤ n) (hn' : n ≤ 2 ^ 53) : roundMag ((k : ℚ) / n) = 1 ↔ k = n := by
  constructor
  · intro hone
    by_contra hne
    exact absurd hone (roundMag_ratio_lt_one (Nat.lt_of_le_of_ne h hne) hn').ne
  · intro heq
    rw [heq, div_self (by exact_mod_cast hn), roundMag_one]

/-! ## Comparisons with a rate -/

variable {x : Float64}

theorem rate_beq_one (hn : n ≠ 0) (h : k ≤ n) (hn' : n ≤ 2 ^ 53) (hx : intDiv k n = .ok x) :
    x.beq (Float64.ofInt 1) = true ↔ k = n := by
  obtain ⟨y, hy, hval⟩ := exists_rate hn h
  obtain rfl : y = x := Except.ok.inj (hy.symm.trans hx)
  rw [Float64.beq_iff hval ofInt_one, rate_eq_one hn h hn']

end Binary64
