import Mathlib

/-!
# Quantiles

The quantiles of a list between whose ordered values lines are drawn. They lie
within the list, grow with the fraction, and are those of any other order.
-/

namespace Quantile

section
variable {K : Type*} [Field K] [LinearOrder K] [IsStrictOrderedRing K] [FloorSemiring K]

/-! ## Interpolation -/

/-- The lines between the values of a sequence. -/
def interpolate (a : ℕ → K) (t : K) : K := a ⌊t⌋₊ + (a (⌊t⌋₊ + 1) - a ⌊t⌋₊) * (t - ⌊t⌋₊)

section
variable {a : ℕ → K} {s t : K}

theorem interpolate_natCast (a : ℕ → K) (n : ℕ) : interpolate a (n : K) = a n := by
  rw [interpolate, Nat.floor_natCast, sub_self, mul_zero, add_zero]

theorem le_interpolate (ha : Monotone a) (ht : 0 ≤ t) : a ⌊t⌋₊ ≤ interpolate a t := by
  have hslope : 0 ≤ a (⌊t⌋₊ + 1) - a ⌊t⌋₊ := sub_nonneg.mpr (ha (Nat.le_succ _))
  have hrest : 0 ≤ t - ⌊t⌋₊ := sub_nonneg.mpr (Nat.floor_le ht)
  exact le_add_of_nonneg_right (mul_nonneg hslope hrest)

theorem interpolate_le (ha : Monotone a) (t : K) : interpolate a t ≤ a (⌊t⌋₊ + 1) := by
  have hslope : 0 ≤ a (⌊t⌋₊ + 1) - a ⌊t⌋₊ := sub_nonneg.mpr (ha (Nat.le_succ _))
  have hrest : t - ⌊t⌋₊ ≤ 1 := by
    have hlt := Nat.lt_floor_add_one t
    linarith
  calc interpolate a t ≤ a ⌊t⌋₊ + (a (⌊t⌋₊ + 1) - a ⌊t⌋₊) * 1 := by
        unfold interpolate
        gcongr
    _ = a (⌊t⌋₊ + 1) := by ring

/-- The lines grow as the values do. -/
theorem interpolate_mono (ha : Monotone a) (hs : 0 ≤ s) (hst : s ≤ t) : interpolate a s ≤ interpolate a t := by
  have hfloor : ⌊s⌋₊ ≤ ⌊t⌋₊ := Nat.floor_mono hst
  rcases eq_or_lt_of_le hfloor with heq | hlt
  · have hslope : 0 ≤ a (⌊t⌋₊ + 1) - a ⌊t⌋₊ := sub_nonneg.mpr (ha (Nat.le_succ _))
    unfold interpolate
    rw [heq]
    gcongr
  · calc interpolate a s ≤ a (⌊s⌋₊ + 1) := interpolate_le ha s
      _ ≤ a ⌊t⌋₊ := ha hlt
      _ ≤ interpolate a t := le_interpolate ha (hs.trans hst)

end

/-! ## Ordered lists -/

/-- The values of a list, of which the last one goes on. -/
def entry (l : List K) (i : ℕ) : K := l.getD (min i (l.length - 1)) 0

omit [LinearOrder K] [IsStrictOrderedRing K] [FloorSemiring K] in
theorem entry_of_lt {l : List K} {i : ℕ} (h : i < l.length) : entry l i = l[i] := by
  have hmin : min i (l.length - 1) = i := by omega
  rw [entry, hmin, List.getD_eq_getElem _ _ h]

omit [LinearOrder K] [IsStrictOrderedRing K] [FloorSemiring K] in
theorem entry_mem {l : List K} (hl : l ≠ []) (i : ℕ) : entry l i ∈ l := by
  have hpos := List.length_pos_iff.mpr hl
  have hmin : min i (l.length - 1) < l.length := by omega
  rw [entry, List.getD_eq_getElem _ _ hmin]
  exact List.getElem_mem hmin

omit [IsStrictOrderedRing K] [FloorSemiring K] in
theorem entry_mono {l : List K} (hl : l.Pairwise (· ≤ ·)) : Monotone (entry l) := by
  intro i j hij
  rcases eq_or_ne l [] with rfl | hne
  · exact le_refl _
  have hpos := List.length_pos_iff.mpr hne
  have hi : min i (l.length - 1) < l.length := by omega
  have hj : min j (l.length - 1) < l.length := by omega
  unfold entry
  rw [List.getD_eq_getElem _ _ hi, List.getD_eq_getElem _ _ hj]
  rcases Nat.lt_or_ge (min i (l.length - 1)) (min j (l.length - 1)) with hlt | hge
  · exact List.pairwise_iff_getElem.mp hl _ _ hi hj hlt
  · have heq : min i (l.length - 1) = min j (l.length - 1) := by omega
    simp only [heq, le_refl]

/-- The quantile of a list at a fraction. -/
def quantile (xs : List K) (q : K) : K := interpolate (entry (xs.insertionSort (· ≤ ·))) ((xs.length - 1 : ℕ) * q)

variable {xs ys : List K} {p q : K}

omit [IsStrictOrderedRing K] in
theorem quantile_perm (h : xs.Perm ys) : quantile xs q = quantile ys q := by
  have hsort : xs.insertionSort (· ≤ ·) = ys.insertionSort (· ≤ ·) :=
    ((List.perm_insertionSort _ xs).trans (h.trans (List.perm_insertionSort _ ys).symm)).eq_of_pairwise'
      (List.pairwise_insertionSort _ _) (List.pairwise_insertionSort _ _)
  unfold quantile
  rw [hsort, h.length_eq]

theorem quantile_mono (hp : 0 ≤ p) (hpq : p ≤ q) : quantile xs p ≤ quantile xs q := by
  have hn : (0 : K) ≤ ((xs.length - 1 : ℕ) : K) := Nat.cast_nonneg _
  exact interpolate_mono (entry_mono (List.pairwise_insertionSort _ _)) (mul_nonneg hn hp) (mul_le_mul_of_nonneg_left hpq hn)

/-- A quantile is within the list. -/
theorem quantile_between (hxs : xs ≠ []) (hq : 0 ≤ q) : (∃ x ∈ xs, x ≤ quantile xs q) ∧ ∃ x ∈ xs, quantile xs q ≤ x := by
  have hne : xs.insertionSort (· ≤ ·) ≠ [] := by
    rw [← List.length_pos_iff, List.length_insertionSort]
    exact List.length_pos_iff.mpr hxs
  have hmono := entry_mono (List.pairwise_insertionSort (· ≤ ·) xs)
  have ht : 0 ≤ ((xs.length - 1 : ℕ) : K) * q := mul_nonneg (Nat.cast_nonneg _) hq
  exact ⟨⟨_, (List.mem_insertionSort _).mp (entry_mem hne _), le_interpolate hmono ht⟩,
    _, (List.mem_insertionSort _).mp (entry_mem hne _), interpolate_le hmono _⟩

end

end Quantile
