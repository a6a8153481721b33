import AtlasPulse.Validation
import AtlasPulse.Lib.Quantile

/-!
# Percentiles

The percentile helpers of `evaluation/metrics.py`,
`operational_evidence/campaign.py`, `relationship_evaluation/candidates.py`,
`agent_trajectory/scoring.py` and `grounded_answer_evaluation/metrics.py`, in
exact arithmetic. Each is the quantile of the list.
-/

namespace AtlasPulse

open Quantile

/-! ## Lists and numbers of Python -/

/-- `ordered[index]`, where a negative index counts from the end. -/
def item (ordered : List ℚ) (index : ℤ) : Except String ℚ :=
  let place := if index < 0 then index + ordered.length else index
  if 0 ≤ place then
    match ordered[place.toNat]? with
    | some value => .ok value
    | none => .error "list index out of range"
  else .error "list index out of range"

/-- `int` of a number drops what follows the point. -/
def truncate (x : ℚ) : ℤ := if 0 ≤ x then ⌊x⌋ else ⌈x⌉

/-- `sorted`. -/
def ascending (values : List ℚ) : List ℚ := values.insertionSort (· ≤ ·)

/-! ## The helpers -/

def Evaluation.percentile (values : List ℚ) (probability : ℚ) : Except String ℚ := do
  let ordered := ascending values
  if ordered.length = 1 then item ordered 0
  else
    let position : ℚ := (ordered.length - 1 : ℤ) * probability
    let lower := truncate position
    let upper := min (lower + 1) (ordered.length - 1)
    let fraction := position - lower
    return (← item ordered lower) + ((← item ordered upper) - (← item ordered lower)) * fraction

def OperationalCampaign.p95 (values : List ℚ) : Except String (Option ℚ) := do
  if values = [] then return none
  else
    let ordered := ascending values
    if ordered.length = 1 then return some (← item ordered 0)
    else
      let position : ℚ := 19 / 20 * (ordered.length - 1 : ℤ)
      let lower := truncate position
      let upper := min (lower + 1) (ordered.length - 1)
      let fraction := position - lower
      return some ((← item ordered lower) + ((← item ordered upper) - (← item ordered lower)) * fraction)

def Candidates.percentile (values : List ℚ) (probability : ℚ) : Except String ℚ := do
  let ordered := ascending values
  let position : ℚ := (ordered.length - 1 : ℤ) * probability
  let lower := ⌊position⌋
  let upper := ⌈position⌉
  if lower = upper then item ordered lower
  else
    let weight := position - lower
    return (← item ordered lower) * (1 - weight) + (← item ordered upper) * weight

def Trajectory.percentile (values : List ℚ) (fraction : ℚ) : Except String ℚ := do
  let ordered := ascending values
  let position : ℚ := (ordered.length - 1 : ℤ) * fraction
  let lower := truncate position
  let upper := min (lower + 1) (ordered.length - 1)
  let weight := position - lower
  return (← item ordered lower) * (1 - weight) + (← item ordered upper) * weight

def GroundedAnswers.percentile (values : List ℚ) (fraction : ℚ) : Except String ℚ :=
  Trajectory.percentile values fraction

/-! ## Places in the list -/

theorem item_of_lt {l : List ℚ} {i : ℕ} (h : i < l.length) : item l i = .ok (entry l i) := by
  have hnonneg : ¬ ((i : ℤ) < 0) := by omega
  simp [item, hnonneg, List.getElem?_eq_getElem h, entry_of_lt h]

/-- The index of the next value is held at the last one. -/
theorem item_min {l : List ℚ} {i : ℕ} (h : i < l.length) : item l (min (i + 1) (l.length - 1)) = .ok (entry l (i + 1)) := by
  have hcast : min ((i : ℤ) + 1) (l.length - 1) = ((min (i + 1) (l.length - 1) : ℕ) : ℤ) := by omega
  have hlt : min (i + 1) (l.length - 1) < l.length := by omega
  rw [hcast, item_of_lt hlt]
  have hmin : min (min (i + 1) (l.length - 1)) (l.length - 1) = min (i + 1) (l.length - 1) := by omega
  simp only [entry, hmin]

theorem truncate_eq {x : ℚ} (h : 0 ≤ x) : truncate x = ⌊x⌋₊ := by
  rw [truncate, if_pos h, Int.natCast_floor_eq_floor h]

theorem length_ascending (values : List ℚ) : (ascending values).length = values.length :=
  List.length_insertionSort _ _

section
variable {values : List ℚ} {q : ℚ}

/-- The place of a quantile. -/
def place (values : List ℚ) (q : ℚ) : ℚ := (values.length - 1 : ℕ) * q

theorem place_nonneg (h0 : 0 ≤ q) : 0 ≤ place values q := mul_nonneg (Nat.cast_nonneg _) h0

theorem place_le (h1 : q ≤ 1) : place values q ≤ (values.length - 1 : ℕ) :=
  mul_le_of_le_one_right (Nat.cast_nonneg _) h1

theorem position_eq (hne : values ≠ []) : (((ascending values).length - 1 : ℤ) : ℚ) * q = place values q := by
  have hpos := List.length_pos_iff.mpr hne
  have hcast : ((ascending values).length - 1 : ℤ) = ((values.length - 1 : ℕ) : ℤ) := by
    rw [length_ascending]
    omega
  rw [hcast, place, Int.cast_natCast]

theorem floor_place_lt (hne : values ≠ []) (h1 : q ≤ 1) : ⌊place values q⌋₊ < (ascending values).length := by
  have hpos := List.length_pos_iff.mpr hne
  have hfloor : ⌊place values q⌋₊ ≤ values.length - 1 := by
    calc ⌊place values q⌋₊ ≤ ⌊((values.length - 1 : ℕ) : ℚ)⌋₊ := Nat.floor_mono (place_le h1)
      _ = values.length - 1 := Nat.floor_natCast _
  rw [length_ascending]
  omega

theorem quantile_eq (values : List ℚ) (q : ℚ) : quantile values q = interpolate (entry (ascending values)) (place values q) :=
  rfl

/-- The weighted form of the line. -/
theorem interpolate_eq (a : ℕ → ℚ) (t : ℚ) : interpolate a t = a ⌊t⌋₊ * (1 - (t - ⌊t⌋₊)) + a (⌊t⌋₊ + 1) * (t - ⌊t⌋₊) := by
  unfold interpolate
  ring

/-! ## Each helper is the quantile -/

theorem evaluation_percentile_eq (hne : values ≠ []) (h0 : 0 ≤ q) (h1 : q ≤ 1) :
    Evaluation.percentile values q = .ok (quantile values q) := by
  have hlt := floor_place_lt hne h1
  rw [quantile_eq]
  unfold Evaluation.percentile
  by_cases hone : (ascending values).length = 1
  · have hzero : place values q = ((0 : ℕ) : ℚ) := by
      rw [length_ascending] at hone
      simp [place, hone]
    have hfirst : 0 < (ascending values).length := by omega
    simp only [if_pos hone]
    rw [hzero, interpolate_natCast]
    exact item_of_lt hfirst
  · simp only [if_neg hone, position_eq hne, truncate_eq (place_nonneg h0), item_of_lt hlt, item_min hlt]
    rfl

theorem trajectory_percentile_eq (hne : values ≠ []) (h0 : 0 ≤ q) (h1 : q ≤ 1) :
    Trajectory.percentile values q = .ok (quantile values q) := by
  have hlt := floor_place_lt hne h1
  rw [quantile_eq, interpolate_eq]
  unfold Trajectory.percentile
  simp only [position_eq hne, truncate_eq (place_nonneg h0), item_of_lt hlt, item_min hlt]
  rfl

theorem candidates_percentile_eq (hne : values ≠ []) (h0 : 0 ≤ q) (h1 : q ≤ 1) :
    Candidates.percentile values q = .ok (quantile values q) := by
  have hlt := floor_place_lt hne h1
  have hnonneg : 0 ≤ place values q := place_nonneg h0
  have hfloor := Int.natCast_floor_eq_floor hnonneg
  rw [quantile_eq]
  unfold Candidates.percentile
  simp only [position_eq hne, ← hfloor]
  by_cases heq : (⌊place values q⌋₊ : ℤ) = ⌈place values q⌉
  · -- the place is a whole number, and the line is at its value
    have hwhole : place values q = ⌊place values q⌋₊ := by
      refine le_antisymm ?_ (Nat.floor_le (place_nonneg h0))
      calc place values q ≤ (⌈place values q⌉ : ℚ) := Int.le_ceil _
        _ = (⌊place values q⌋₊ : ℚ) := by rw [← heq, Int.cast_natCast]
    rw [if_pos heq, item_of_lt hlt]
    conv_rhs => rw [hwhole, interpolate_natCast]
  · have hceil : ⌈place values q⌉ = ((⌊place values q⌋₊ + 1 : ℕ) : ℤ) := by
      have hle := Int.ceil_le_floor_add_one (place values q)
      have hge := Int.floor_le_ceil (place values q)
      rw [← hfloor] at hle hge
      push_cast
      omega
    have hnext : ⌊place values q⌋₊ + 1 < (ascending values).length := by
      have hle : ⌈place values q⌉ ≤ ((values.length - 1 : ℕ) : ℤ) := Int.ceil_le.mpr (by exact_mod_cast place_le h1)
      rw [hceil] at hle
      rw [length_ascending] at hlt ⊢
      omega
    rw [if_neg heq, hceil, item_of_lt hlt, item_of_lt hnext, interpolate_eq]
    rfl

theorem p95_eq (hne : values ≠ []) : OperationalCampaign.p95 values = .ok (some (quantile values (19 / 20))) := by
  have hval := evaluation_percentile_eq (q := 19 / 20) hne (by norm_num) (by norm_num)
  have hcomm : ∀ n : ℤ, (19 / 20 : ℚ) * n = n * (19 / 20) := fun n => mul_comm _ _
  unfold Evaluation.percentile at hval
  unfold OperationalCampaign.p95
  simp only [if_neg hne, hcomm]
  by_cases hone : (ascending values).length = 1
  · simp only [if_pos hone] at hval ⊢
    rw [hval]
    rfl
  · have hlt := floor_place_lt (q := 19 / 20) hne (by norm_num)
    have hplace : 0 ≤ place values (19 / 20) := place_nonneg (by norm_num)
    simp only [if_neg hone, position_eq hne, truncate_eq hplace, item_of_lt hlt, item_min hlt]
    rfl

theorem min_le_quantile (hne : values ≠ []) (h0 : 0 ≤ q) : values.min hne ≤ quantile values q := by
  obtain ⟨x, hx, hle⟩ := (quantile_between hne h0).1
  exact (List.min_le_of_mem hx).trans hle

theorem quantile_le_max (hne : values ≠ []) (h0 : 0 ≤ q) : quantile values q ≤ values.max hne := by
  obtain ⟨x, hx, hle⟩ := (quantile_between hne h0).2
  exact hle.trans (List.le_max_of_mem hx)

/-- **Percentiles.** The helpers compute one function, which lies within the
list, grows with the fraction and is that of the list in any other order. -/
theorem percentiles_agree (hne : values ≠ []) (h0 : 0 ≤ q) (h1 : q ≤ 1) :
    ∃ value, (Evaluation.percentile values q = .ok value ∧ Candidates.percentile values q = .ok value ∧
        Trajectory.percentile values q = .ok value ∧ GroundedAnswers.percentile values q = .ok value) ∧
      OperationalCampaign.p95 values = (Evaluation.percentile values (19 / 20)).map some ∧
      (values.min hne ≤ value ∧ value ≤ values.max hne) ∧
      (∀ lesser, 0 ≤ lesser → lesser ≤ q → ∃ before, Evaluation.percentile values lesser = .ok before ∧ before ≤ value) ∧
      ∀ others : List ℚ, others.Perm values → Evaluation.percentile others q = .ok value := by
  have hp95 : OperationalCampaign.p95 values = (Evaluation.percentile values (19 / 20)).map some := by
    rw [p95_eq hne, evaluation_percentile_eq hne (by norm_num) (by norm_num)]
    rfl
  have htrajectory := trajectory_percentile_eq hne h0 h1
  refine ⟨quantile values q, ⟨evaluation_percentile_eq hne h0 h1, candidates_percentile_eq hne h0 h1, htrajectory, htrajectory⟩,
    hp95, ⟨min_le_quantile hne h0, quantile_le_max hne h0⟩, ?_, ?_⟩
  · intro lesser hlesser hle
    exact ⟨_, evaluation_percentile_eq hne hlesser (hle.trans h1), quantile_mono hlesser hle⟩
  · intro others hperm
    have hother : others ≠ [] := fun hnil => hne (hperm.symm.trans (hnil ▸ List.Perm.refl _)).eq_nil
    rw [evaluation_percentile_eq hother h0 h1, quantile_perm hperm]

theorem percentiles_agree_latencies :
    ∃ value, (Evaluation.percentile [40, 10, 25] (1 / 4) = .ok value ∧ Candidates.percentile [40, 10, 25] (1 / 4) = .ok value ∧
        Trajectory.percentile [40, 10, 25] (1 / 4) = .ok value ∧ GroundedAnswers.percentile [40, 10, 25] (1 / 4) = .ok value) ∧
      OperationalCampaign.p95 [40, 10, 25] = (Evaluation.percentile [40, 10, 25] (19 / 20)).map some ∧
      (List.min [40, 10, 25] (by decide) ≤ value ∧ value ≤ List.max [40, 10, 25] (by decide)) ∧
      (∀ lesser, 0 ≤ lesser → lesser ≤ (1 / 4 : ℚ) →
        ∃ before, Evaluation.percentile [40, 10, 25] lesser = .ok before ∧ before ≤ value) ∧
      ∀ others : List ℚ, others.Perm [40, 10, 25] → Evaluation.percentile others (1 / 4) = .ok value :=
  percentiles_agree (by decide) (by norm_num) (by norm_num)

example : Evaluation.percentile [40, 10, 25] (1 / 4) = .ok (35 / 2) := by decide +kernel

end

end AtlasPulse
