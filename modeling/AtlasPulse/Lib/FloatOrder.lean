import AtlasPulse.Lib.Binary64

/-!
# The order of floats

Comparisons of floats are a total preorder of all of them but `nan`, with the
infinities at the ends.
-/

namespace Binary64.Float64

variable {x y z : Float64}

theorem le_iff_finite {a b : Bool} {p q : Magnitude} :
    (finite a p).le (finite b q) = true ↔ signed a p.value ≤ signed b q.value := by
  rw [le_iff (p := signed a p.value) (q := signed b q.value) rfl rfl]

theorem lt_iff_finite {a b : Bool} {p q : Magnitude} :
    (finite a p).lt (finite b q) = true ↔ signed a p.value < signed b q.value := by
  rw [lt_iff (p := signed a p.value) (q := signed b q.value) rfl rfl]

theorem le_refl (h : x ≠ nan) : x.le x = true := by
  cases x with
  | finite a p => exact le_iff_finite.mpr le_rfl
  | inf a => cases a <;> rfl
  | nan => exact absurd rfl h

theorem le_trans (hxy : x.le y = true) (hyz : y.le z = true) : x.le z = true := by
  cases x with
  | finite a p =>
    cases y with
    | finite b q =>
      cases z with
      | finite c r =>
        rw [le_iff_finite] at hxy hyz ⊢
        exact hxy.trans hyz
      | inf c => cases c <;> simp_all [le, lt, beq]
      | nan => simp [le, lt, beq] at hyz
    | inf b => cases z <;> cases b <;> simp_all [le, lt, beq]
    | nan => simp [le, lt, beq] at hxy
  | inf a => cases y <;> cases z <;> cases a <;> simp_all [le, lt, beq]
  | nan => cases y <;> simp [le, lt, beq] at hxy

theorem not_lt_iff (hx : x ≠ nan) (hy : y ≠ nan) : x.lt y = false ↔ y.le x = true := by
  cases x with
  | finite a p =>
    cases y with
    | finite b q => rw [Bool.eq_false_iff, ne_eq, lt_iff_finite, le_iff_finite, not_lt]
    | inf b => cases b <;> simp [le, lt, beq]
    | nan => exact absurd rfl hy
  | inf a =>
    cases y with
    | finite b q => cases a <;> simp [le, lt, beq]
    | inf b => cases a <;> cases b <;> simp [le, lt, beq]
    | nan => exact absurd rfl hy
  | nan => exact absurd rfl hx

theorem le_of_lt (h : x.lt y = true) : x.le y = true := by rw [le, h, Bool.true_or]

theorem beq_iff_finite {a b : Bool} {p q : Magnitude} :
    (finite a p).beq (finite b q) = true ↔ signed a p.value = signed b q.value := by
  rw [beq_iff (p := signed a p.value) (q := signed b q.value) rfl rfl]

theorem beq_of_le_of_le (hxy : x.le y = true) (hyx : y.le x = true) : x.beq y = true := by
  cases x with
  | finite a p =>
    cases y with
    | finite b q =>
      rw [le_iff_finite] at hxy hyx
      exact beq_iff_finite.mpr (le_antisymm hxy hyx)
    | inf b => cases b <;> simp_all [le, lt, beq]
    | nan => simp [le, lt, beq] at hxy
  | inf a => cases y <;> cases a <;> simp_all [le, lt, beq]
  | nan => cases y <;> simp [le, lt, beq] at hxy

theorem beq_symm (h : x.beq y = true) : y.beq x = true := by
  cases x with
  | finite a p =>
    cases y with
    | finite b q => exact beq_iff_finite.mpr (beq_iff_finite.mp h).symm
    | inf b => simp [beq] at h
    | nan => simp [beq] at h
  | inf a => cases y <;> simp_all [beq]
  | nan => cases y <;> simp [beq] at h

theorem beq_trans (hxy : x.beq y = true) (hyz : y.beq z = true) : x.beq z = true := by
  cases x with
  | finite a p =>
    cases y with
    | finite b q =>
      cases z with
      | finite c r => exact beq_iff_finite.mpr ((beq_iff_finite.mp hxy).trans (beq_iff_finite.mp hyz))
      | inf c => simp [beq] at hyz
      | nan => simp [beq] at hyz
    | inf b => simp [beq] at hxy
    | nan => simp [beq] at hxy
  | inf a => cases y <;> cases z <;> simp_all [beq]
  | nan => cases y <;> simp [beq] at hxy

theorem ne_nan_of_isFinite (h : x.isFinite = true) : x ≠ nan := by
  intro hx
  rw [hx] at h
  cases h

theorem ne_nan_of_le (h : x.le y = true) : x ≠ nan ∧ y ≠ nan := by
  constructor
  · intro hx
    subst hx
    cases y <;> simp [le, lt, beq] at h
  · intro hy
    subst hy
    cases x <;> simp [le, lt, beq] at h

end Binary64.Float64
