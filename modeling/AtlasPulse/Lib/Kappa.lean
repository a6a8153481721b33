import Mathlib

/-!
# Agreement of two raters

Counts of pairs of ratings on a scale, the agreement that is observed and the
one that the ratings of each lead to expect, and Cohen's kappa of the two.
-/

namespace Kappa

/-! ## Counts over a scale -/

section
variable {α L : Type*} [DecidableEq L]

theorem sum_indicator {scale : List L} (hscale : scale.Nodup) {u : L} (hu : u ∈ scale) :
    (scale.map fun v => if u = v then 1 else 0).sum = 1 := by
  induction scale with
  | nil => exact absurd hu List.not_mem_nil
  | cons v scale ih =>
    obtain ⟨hv, hscale⟩ := List.nodup_cons.mp hscale
    rw [List.map_cons, List.sum_cons]
    by_cases huv : u = v
    · have hrest : (scale.map fun w => if u = w then 1 else 0) = scale.map fun _ => 0 :=
        List.map_congr_left fun w hw => if_neg fun huw : u = w => hv (huv ▸ huw ▸ hw)
      rw [if_pos huv, hrest, List.map_const', List.sum_replicate, nsmul_zero, Nat.add_zero]
    · rw [if_neg huv, ih hscale ((List.mem_cons.mp hu).resolve_left huv)]

/-- Counts by the value of a function add up to the count. -/
theorem sum_countP {scale : List L} (hscale : scale.Nodup) {l : List α} {f : α → L} (p : α → Bool) (h : ∀ a ∈ l, f a ∈ scale) :
    (scale.map fun v => l.countP fun a => p a && f a = v).sum = l.countP p := by
  induction l with
  | nil =>
    simp only [List.countP_nil, List.map_const', List.sum_replicate, nsmul_zero]
  | cons a l ih =>
    obtain ⟨ha, h⟩ := List.forall_mem_cons.mp h
    simp only [List.countP_cons, List.sum_map_add, ih h]
    congr 1
    cases hp : p a with
    | false => simp
    | true =>
      simp only [Bool.true_and, decide_eq_true_eq, if_true]
      exact sum_indicator hscale ha

theorem countP_add_countP_le (p q : α → Bool) (l : List α) : l.countP p + l.countP q ≤ l.length + l.countP fun a => p a && q a := by
  induction l with
  | nil => simp
  | cons a l ih =>
    simp only [List.countP_cons, List.length_cons]
    cases p a <;> cases q a <;> simp <;> omega

end

/-! ## Ratings -/

section
variable {L : Type*} [DecidableEq L] {scale : List L} {pairs : List (L × L)} {u v : L}

def cell (pairs : List (L × L)) (u v : L) : ℕ := pairs.countP fun pair => pair.1 = u && pair.2 = v

def firsts (pairs : List (L × L)) (v : L) : ℕ := pairs.countP fun pair => pair.1 = v

def seconds (pairs : List (L × L)) (v : L) : ℕ := pairs.countP fun pair => pair.2 = v

def agreements (pairs : List (L × L)) : ℕ := pairs.countP fun pair => pair.1 = pair.2

/-- Pairs rated on a scale. -/
def OnScale (scale : List L) (pairs : List (L × L)) : Prop := scale.Nodup ∧ ∀ pair ∈ pairs, pair.1 ∈ scale ∧ pair.2 ∈ scale

theorem sum_cell_row (h : OnScale scale pairs) (u : L) : (scale.map (cell pairs u)).sum = firsts pairs u :=
  sum_countP h.1 (fun pair : L × L => decide (pair.1 = u)) fun pair hpair => (h.2 pair hpair).2

theorem sum_cell_column (h : OnScale scale pairs) (v : L) : (scale.map fun u => cell pairs u v).sum = seconds pairs v := by
  have hsum := sum_countP h.1 (fun pair : L × L => decide (pair.2 = v)) fun pair hpair => (h.2 pair hpair).1
  simp only [Bool.and_comm (decide (_ = v))] at hsum
  exact hsum

theorem sum_firsts (h : OnScale scale pairs) : (scale.map (firsts pairs)).sum = pairs.length := by
  have hsum := sum_countP h.1 (fun _ => true) fun pair hpair => (h.2 pair hpair).1
  simp only [Bool.true_and, List.countP_true] at hsum
  exact hsum

theorem sum_seconds (h : OnScale scale pairs) : (scale.map (seconds pairs)).sum = pairs.length := by
  have hsum := sum_countP h.1 (fun _ => true) fun pair hpair => (h.2 pair hpair).2
  simp only [Bool.true_and, List.countP_true] at hsum
  exact hsum

theorem cell_self (pairs : List (L × L)) (v : L) : cell pairs v v = pairs.countP fun pair => pair.1 = pair.2 && pair.1 = v := by
  refine List.countP_congr fun pair _ => ?_
  simp only [Bool.and_eq_true, decide_eq_true_eq]
  constructor
  · rintro ⟨rfl, h⟩
    exact ⟨h.symm, rfl⟩
  · rintro ⟨h, rfl⟩
    exact ⟨rfl, h.symm⟩

theorem sum_diagonal (h : OnScale scale pairs) : (scale.map fun v => cell pairs v v).sum = agreements pairs := by
  simp only [cell_self]
  exact sum_countP h.1 (fun pair : L × L => decide (pair.1 = pair.2)) fun pair hpair => (h.2 pair hpair).1

/-! ## Exchanged raters -/

theorem cell_swap : cell (pairs.map Prod.swap) u v = cell pairs v u := by
  rw [cell, List.countP_map]
  exact List.countP_congr fun pair _ => by simp [and_comm]

theorem firsts_swap : firsts (pairs.map Prod.swap) v = seconds pairs v := by
  rw [firsts, List.countP_map]
  rfl

theorem seconds_swap : seconds (pairs.map Prod.swap) v = firsts pairs v := by
  rw [seconds, List.countP_map]
  rfl

theorem agreements_swap : agreements (pairs.map Prod.swap) = agreements pairs := by
  rw [agreements, List.countP_map]
  exact List.countP_congr fun pair _ => by simp [eq_comm]

omit [DecidableEq L] in
theorem OnScale.swap (h : OnScale scale pairs) : OnScale scale (pairs.map Prod.swap) := by
  refine ⟨h.1, fun pair hpair => ?_⟩
  obtain ⟨other, hother, rfl⟩ := List.mem_map.mp hpair
  exact (h.2 other hother).symm

/-! ## Rates -/

def observed (pairs : List (L × L)) : ℚ := agreements pairs / pairs.length

def expected (scale : List L) (pairs : List (L × L)) : ℚ :=
  (scale.map fun v => (firsts pairs v / pairs.length : ℚ) * (seconds pairs v / pairs.length)).sum

/-- Cohen's kappa, which a certain agreement leaves undefined. -/
def kappa (observed expected : ℚ) : Option ℚ := if expected = 1 then none else some ((observed - expected) / (1 - expected))

theorem expected_eq (scale : List L) (pairs : List (L × L)) :
    expected scale pairs = ((scale.map fun v => firsts pairs v * seconds pairs v).sum : ℕ) / ((pairs.length : ℚ) * pairs.length) := by
  unfold expected
  induction scale with
  | nil => simp
  | cons v scale ih =>
    rw [List.map_cons, List.sum_cons, ih, List.map_cons, List.sum_cons, Nat.cast_add, add_div, Nat.cast_mul, div_mul_div_comm]

theorem observed_nonneg (pairs : List (L × L)) : 0 ≤ observed pairs := div_nonneg (Nat.cast_nonneg _) (Nat.cast_nonneg _)

theorem observed_le_one (pairs : List (L × L)) : observed pairs ≤ 1 := by
  refine div_le_one_of_le₀ ?_ (Nat.cast_nonneg _)
  exact_mod_cast List.countP_le_length

theorem expected_nonneg (scale : List L) (pairs : List (L × L)) : 0 ≤ expected scale pairs := by
  rw [expected_eq]
  exact div_nonneg (Nat.cast_nonneg _) (mul_nonneg (Nat.cast_nonneg _) (Nat.cast_nonneg _))

theorem sum_products_le (h : OnScale scale pairs) :
    (scale.map fun v => firsts pairs v * seconds pairs v).sum ≤ pairs.length * pairs.length := by
  calc (scale.map fun v => firsts pairs v * seconds pairs v).sum ≤ (scale.map fun v => firsts pairs v * pairs.length).sum :=
        List.sum_le_sum fun v _ => Nat.mul_le_mul_left _ List.countP_le_length
    _ = pairs.length * pairs.length := by rw [List.sum_map_mul_right, sum_firsts h]

theorem expected_le_one (h : OnScale scale pairs) : expected scale pairs ≤ 1 := by
  rw [expected_eq]
  refine div_le_one_of_le₀ ?_ (mul_nonneg (Nat.cast_nonneg _) (Nat.cast_nonneg _))
  exact_mod_cast sum_products_le h

/-- A value that both raters give often is one on which they agree. -/
theorem four_mul_le (pairs : List (L × L)) (v : L) : 4 * (firsts pairs v * seconds pairs v) ≤
    (firsts pairs v + seconds pairs v) * pairs.length + 2 * pairs.length * cell pairs v v := by
  have hboth : firsts pairs v + seconds pairs v ≤ pairs.length + cell pairs v v := countP_add_countP_le _ _ pairs
  have hfirst : firsts pairs v ≤ pairs.length := List.countP_le_length
  have hsecond : seconds pairs v ≤ pairs.length := List.countP_le_length
  calc 4 * (firsts pairs v * seconds pairs v) ≤ (firsts pairs v + seconds pairs v) * (firsts pairs v + seconds pairs v) := by
        nlinarith [sq_nonneg ((firsts pairs v : ℤ) - seconds pairs v)]
    _ ≤ (firsts pairs v + seconds pairs v) * (pairs.length + cell pairs v v) := Nat.mul_le_mul_left _ hboth
    _ = (firsts pairs v + seconds pairs v) * pairs.length + (firsts pairs v + seconds pairs v) * cell pairs v v := Nat.mul_add _ _ _
    _ ≤ (firsts pairs v + seconds pairs v) * pairs.length + 2 * pairs.length * cell pairs v v := by
        gcongr
        omega

/-- The agreement that is expected is at most the mean of the observed one and
of certainty. -/
theorem two_mul_expected_le (h : OnScale scale pairs) (hne : pairs ≠ []) : 2 * expected scale pairs ≤ 1 + observed pairs := by
  have hsum : 4 * (scale.map fun v => firsts pairs v * seconds pairs v).sum ≤
      2 * pairs.length * pairs.length + 2 * pairs.length * agreements pairs := by
    calc 4 * (scale.map fun v => firsts pairs v * seconds pairs v).sum
        = (scale.map fun v => 4 * (firsts pairs v * seconds pairs v)).sum := (List.sum_map_mul_left _ _ _).symm
      _ ≤ (scale.map fun v => (firsts pairs v + seconds pairs v) * pairs.length + 2 * pairs.length * cell pairs v v).sum :=
          List.sum_le_sum fun v _ => four_mul_le pairs v
      _ = 2 * pairs.length * pairs.length + 2 * pairs.length * agreements pairs := by
          rw [List.sum_map_add, List.sum_map_mul_right, List.sum_map_add, sum_firsts h, sum_seconds h, List.sum_map_mul_left,
            sum_diagonal h]
          ring
  have hpos : (0 : ℚ) < pairs.length := by exact_mod_cast List.length_pos_iff.mpr hne
  have hcast : (4 : ℚ) * ((scale.map fun v => firsts pairs v * seconds pairs v).sum : ℕ) ≤
      2 * pairs.length * pairs.length + 2 * pairs.length * agreements pairs := by exact_mod_cast hsum
  rw [expected_eq, observed]
  generalize ((scale.map fun v => firsts pairs v * seconds pairs v).sum : ℕ) = s at hcast
  rw [← sub_nonneg]
  have hgap : 1 + (agreements pairs : ℚ) / pairs.length - 2 * (s / (pairs.length * pairs.length)) =
      (2 * pairs.length * pairs.length + 2 * pairs.length * agreements pairs - 4 * s) / (2 * (pairs.length * pairs.length)) := by
    field_simp
    ring
  rw [hgap]
  exact div_nonneg (sub_nonneg.mpr hcast) (by positivity)

/-- **Kappa** is a rate of at most one, and of at least minus one. -/
theorem kappa_bounds (h : OnScale scale pairs) (hne : pairs ≠ []) :
    ∀ k ∈ kappa (observed pairs) (expected scale pairs), -1 ≤ k ∧ k ≤ 1 := by
  intro k hk
  unfold kappa at hk
  split at hk
  · cases hk
  · rename_i hone
    obtain rfl := Option.some.inj hk
    have hpos : 0 < 1 - expected scale pairs := sub_pos.mpr (lt_of_le_of_ne (expected_le_one h) hone)
    have hlow := two_mul_expected_le h hne
    have hhigh := observed_le_one pairs
    constructor
    · rw [le_div_iff₀ hpos]
      linarith
    · rw [div_le_one hpos]
      linarith

theorem kappa_eq_none_iff {o e : ℚ} : kappa o e = none ↔ e = 1 := by
  unfold kappa
  split <;> simp_all

theorem observed_swap : observed (pairs.map Prod.swap) = observed pairs := by
  rw [observed, agreements_swap, List.length_map, observed]

theorem expected_swap : expected scale (pairs.map Prod.swap) = expected scale pairs := by
  unfold expected
  simp only [firsts_swap, seconds_swap, List.length_map, mul_comm]

end

end Kappa
