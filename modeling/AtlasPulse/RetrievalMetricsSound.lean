import AtlasPulse.Lib.Majorization
import AtlasPulse.RetrievalMetrics

/-!
# Bounds of the retrieval metrics

The grades of distinct documents are drawn from those of the pool, so the pool
in falling order majorizes them and no run has more than the ideal gain.
-/

namespace AtlasPulse.RetrievalMetrics

open Majorization Finset

/-! ## Grades -/

section
variable {candidates : List (String × PooledCandidate)} {documentIds : List String}

/-- The grades of the pool in the order of the candidates. -/
def poolGrades (candidates : List (String × PooledCandidate)) : List ℕ :=
  candidates.map fun item => item.2.relevance.getD 0

theorem gradeOf_of_mem {item : String × PooledCandidate} (hkeys : (candidates.map Prod.fst).Nodup) (h : item ∈ candidates) :
    gradeOf candidates item.1 = item.2.relevance.getD 0 := by
  unfold gradeOf
  rw [(PyDict.get_eq_some hkeys).mpr h]

theorem gradeOf_of_notMem {documentId : String} (h : documentId ∉ candidates.map Prod.fst) : gradeOf candidates documentId = 0 := by
  unfold gradeOf
  rw [PyDict.get_eq_none.mpr h]

theorem map_gradeOf_keys (hkeys : (candidates.map Prod.fst).Nodup) :
    (candidates.map Prod.fst).map (gradeOf candidates) = poolGrades candidates := by
  rw [List.map_map]
  exact List.map_congr_left fun item hitem => gradeOf_of_mem hkeys hitem

/-- Grades of distinct documents are grades of the pool, or zeros. -/
theorem grades_subperm (hkeys : (candidates.map Prod.fst).Nodup) (hids : documentIds.Nodup) :
    ∃ n, (documentIds.map (gradeOf candidates)).Subperm (poolGrades candidates ++ List.replicate n 0) := by
  let known := documentIds.filter fun d => d ∈ candidates.map Prod.fst
  let unknown := documentIds.filter fun d => ¬ d ∈ candidates.map Prod.fst
  have hsplit : (known ++ unknown).Perm documentIds := by
    have hperm := List.filter_append_perm (fun d => decide (d ∈ candidates.map Prod.fst)) documentIds
    simpa [known, unknown] using hperm
  have hknown : (known.map (gradeOf candidates)).Subperm (poolGrades candidates) := by
    rw [← map_gradeOf_keys hkeys]
    have hsubset : known ⊆ candidates.map Prod.fst := fun d hd => of_decide_eq_true (List.mem_filter.mp hd).2
    obtain ⟨keys, hperm, hsub⟩ := List.subperm_of_subset (hids.filter _) hsubset
    exact ⟨keys.map (gradeOf candidates), hperm.map _, hsub.map _⟩
  have hunknown : unknown.map (gradeOf candidates) = List.replicate unknown.length 0 := by
    refine List.eq_replicate_iff.mpr ⟨List.length_map _, fun grade hgrade => ?_⟩
    obtain ⟨d, hd, rfl⟩ := List.mem_map.mp hgrade
    exact gradeOf_of_notMem (of_decide_eq_true (List.mem_filter.mp hd).2)
  refine ⟨unknown.length, ?_⟩
  rw [← hunknown]
  have hmap := hsplit.symm.map (gradeOf candidates)
  rw [List.map_append] at hmap
  exact hmap.subperm.trans ((List.subperm_append_right _).mpr hknown)

end

/-! ## Gains -/

section
variable {K : Type} [Field K]

theorem gain_zero : gain 0 = (0 : K) := by
  rw [gain, pow_zero, sub_self]

variable {log2 : ℕ → K} {grades : List ℕ} {k : ℕ}

/-- The weight of the place after `i` others. -/
def discount (log2 : ℕ → K) (i : ℕ) : K := 1 / log2 (i + 2)

theorem sum_zipIdx (log2 : ℕ → K) (grades : List ℕ) (n : ℕ) :
    ((grades.zipIdx (n + 1)).map fun (grade, rank) => gain grade / log2 (rank + 1)).sum =
      ∑ i ∈ range grades.length, discount log2 (n + i) * pad (grades.map gain) i := by
  induction grades generalizing n with
  | nil => rfl
  | cons grade grades ih =>
    rw [List.zipIdx_cons, List.map_cons, List.sum_cons, ih, List.length_cons, sum_range_succ', add_comm]
    refine congrArg₂ (· + ·) (sum_congr rfl fun i _ => ?_) ?_
    · rw [show n + 1 + i = n + (i + 1) by omega]
      rfl
    · show gain grade / log2 (n + 1 + 1) = discount log2 (n + 0) * gain grade
      rw [discount, one_div, inv_mul_eq_div]

/-- The discounted gain as a sum over the places up to any cutoff. -/
theorem dcg_eq (h : grades.length ≤ k) : dcg log2 grades = ∑ i ∈ range k, discount log2 i * pad (grades.map gain) i := by
  have hsum := sum_zipIdx log2 grades 0
  simp only [Nat.zero_add] at hsum
  rw [dcg, hsum]
  refine sum_subset (range_mono h) fun i _ hi => ?_
  rw [pad_of_le, mul_zero]
  rw [List.length_map]
  exact Nat.le_of_not_lt fun hlt => hi (mem_range.mpr hlt)

end

section
variable {K : Type} [Field K] [LinearOrder K] [IsStrictOrderedRing K]

theorem gain_mono : Monotone (gain : ℕ → K) := fun _ _ h => sub_le_sub_right (pow_le_pow_right₀ one_le_two h) 1

theorem gain_nonneg (grade : ℕ) : 0 ≤ (gain grade : K) := by
  rw [← gain_zero]
  exact gain_mono (Nat.zero_le grade)

theorem gain_pos {grade : ℕ} (h : 0 < grade) : 0 < (gain grade : K) := sub_pos.mpr (one_lt_pow₀ one_lt_two h.ne')

variable {log2 : ℕ → K} {candidates : List (String × PooledCandidate)} {documentIds : List String} {cutoff k : ℕ}

theorem discount_pos (hpos : ∀ n, 2 ≤ n → 0 < log2 n) (i : ℕ) : 0 < discount log2 i :=
  one_div_pos.mpr (hpos _ (Nat.le_add_left 2 i))

theorem discount_anti (hpos : ∀ n, 2 ≤ n → 0 < log2 n) (hmono : ∀ m n, 2 ≤ m → m < n → log2 m < log2 n) :
    StrictAnti (discount log2) := by
  intro i j hij
  exact one_div_lt_one_div_of_lt (hpos _ (Nat.le_add_left 2 i)) (hmono _ _ (Nat.le_add_left 2 i) (by omega))

/-! ## Ideal gains -/

/-- The gains of the run up to a cutoff. -/
def runGains (K : Type) [Field K] (documentIds : List String) (candidates : List (String × PooledCandidate)) (cutoff : ℕ) :
    List K :=
  ((documentIds.take cutoff).map (gradeOf candidates)).map gain

/-- The gains of the pool. -/
def poolGains (K : Type) [Field K] (candidates : List (String × PooledCandidate)) : List K :=
  (poolGrades candidates).map gain

theorem poolGains_nonneg : ∀ x ∈ poolGains K candidates, 0 ≤ x := by
  intro x hx
  obtain ⟨grade, _, rfl⟩ := List.mem_map.mp hx
  exact gain_nonneg grade

omit [LinearOrder K] [IsStrictOrderedRing K] in
theorem idealGains_perm : ((idealGrades candidates).map gain : List K).Perm (poolGains K candidates) :=
  (List.perm_insertionSort _ _).map gain

theorem idealGains_pairwise : ((idealGrades candidates).map gain : List K).Pairwise (· ≥ ·) :=
  List.Pairwise.map gain (fun _ _ h => gain_mono h) (List.pairwise_insertionSort (· ≥ ·) _)

theorem runGains_majorized (hkeys : (candidates.map Prod.fst).Nodup) (hids : documentIds.Nodup) (cutoff : ℕ) :
    Majorizes (((idealGrades candidates).take cutoff).map gain) (runGains K documentIds candidates cutoff) cutoff := by
  obtain ⟨n, l, hperm, hsub⟩ := grades_subperm hkeys (hids.sublist (List.take_sublist cutoff documentIds))
  have hdrawn : (runGains K documentIds candidates cutoff).Subperm (poolGains K candidates ++ List.replicate n 0) := by
    refine ⟨l.map gain, hperm.map gain, ?_⟩
    have hgains := hsub.map (gain : ℕ → K)
    rwa [List.map_append, List.map_replicate, gain_zero] at hgains
  rw [List.map_take]
  have hideal := hdrawn.trans (List.Perm.append_right _ idealGains_perm).symm.subperm
  exact majorizes_of_subperm idealGains_pairwise (fun x hx => poolGains_nonneg x (idealGains_perm.subset hx)) hideal cutoff

theorem dcg_nonneg (hpos : ∀ n, 2 ≤ n → 0 < log2 n) (grades : List ℕ) : 0 ≤ dcg log2 grades := by
  rw [dcg_eq (le_refl _)]
  refine sum_nonneg fun i _ => mul_nonneg (discount_pos hpos i).le (pad_nonneg (fun x hx => ?_) i)
  obtain ⟨grade, _, rfl⟩ := List.mem_map.mp hx
  exact gain_nonneg grade

/-- The run has at most the ideal gain. -/
theorem dcg_le_ideal (hpos : ∀ n, 2 ≤ n → 0 < log2 n) (hmono : ∀ m n, 2 ≤ m → m < n → log2 m < log2 n)
    (hkeys : (candidates.map Prod.fst).Nodup) (hids : documentIds.Nodup) :
    dcg log2 ((documentIds.take cutoff).map (gradeOf candidates)) ≤ dcg log2 ((idealGrades candidates).take cutoff) := by
  rw [dcg_eq (k := cutoff) (by simp), dcg_eq (k := cutoff) (List.length_take_le _ _)]
  exact weighted_le (discount_pos hpos) (discount_anti hpos hmono) (runGains_majorized hkeys hids cutoff)

theorem dcg_eq_ideal_iff (hpos : ∀ n, 2 ≤ n → 0 < log2 n) (hmono : ∀ m n, 2 ≤ m → m < n → log2 m < log2 n)
    (hkeys : (candidates.map Prod.fst).Nodup) (hids : documentIds.Nodup) :
    dcg log2 ((documentIds.take cutoff).map (gradeOf candidates)) = dcg log2 ((idealGrades candidates).take cutoff) ↔
      ∀ i < cutoff, pad (runGains K documentIds candidates cutoff) i = pad ((idealGrades candidates).map gain) i := by
  rw [dcg_eq (k := cutoff) (by simp), dcg_eq (k := cutoff) (List.length_take_le _ _)]
  refine (weighted_eq_iff (discount_pos hpos) (discount_anti hpos hmono) (runGains_majorized hkeys hids cutoff)).trans ?_
  refine forall₂_congr fun i hi => ?_
  rw [List.map_take, pad_take hi]

/-- The ideal gain is zero when no gain of the pool is positive. -/
theorem ideal_ne_zero_iff (hpos : ∀ n, 2 ≤ n → 0 < log2 n) (hcutoff : 0 < cutoff) :
    dcg log2 ((idealGrades candidates).take cutoff) ≠ 0 ↔ ∃ x ∈ poolGains K candidates, 0 < x := by
  have hterm : ∀ i ∈ range cutoff, 0 ≤ discount log2 i * pad (((idealGrades candidates).take cutoff).map gain) i := by
    intro i _
    refine mul_nonneg (discount_pos hpos i).le (pad_nonneg (fun x hx => ?_) i)
    obtain ⟨grade, _, rfl⟩ := List.mem_map.mp hx
    exact gain_nonneg grade
  rw [dcg_eq (k := cutoff) (List.length_take_le _ _), Ne, sum_eq_zero_iff_of_nonneg hterm]
  constructor
  · intro hne
    by_contra hnone
    refine hne fun i hi => ?_
    have hzero : pad (((idealGrades candidates).take cutoff).map gain : List K) i = 0 := by
      rw [List.map_take, pad_take (mem_range.mp hi)]
      by_cases hlt : i < ((idealGrades candidates).map gain : List K).length
      · rw [pad, List.getD_eq_getElem _ _ hlt]
        have hmem := idealGains_perm.subset (List.getElem_mem hlt)
        exact le_antisymm (le_of_not_gt fun hgt => hnone ⟨_, hmem, hgt⟩) (poolGains_nonneg _ hmem)
      · exact pad_of_le (Nat.le_of_not_lt hlt)
    rw [hzero, mul_zero]
  · rintro ⟨x, hx, hgt⟩ hall
    -- the first of the falling gains is at least any gain of the pool
    have hfirst := (mul_eq_zero.mp (hall 0 (mem_range.mpr hcutoff))).resolve_left (discount_pos hpos 0).ne'
    rw [List.map_take, pad_take hcutoff] at hfirst
    have hmem := idealGains_perm.symm.subset hx
    have hfalling : ((idealGrades candidates).map gain : List K).Pairwise (· ≥ ·) := idealGains_pairwise
    cases hl : ((idealGrades candidates).map gain : List K) with
    | nil =>
      rw [hl] at hmem
      exact absurd hmem List.not_mem_nil
    | cons y l =>
      rw [hl] at hmem hfalling hfirst
      have hy : y = 0 := hfirst
      rcases List.mem_cons.mp hmem with rfl | hmem
      · exact hgt.ne' hy
      · exact absurd ((List.pairwise_cons.mp hfalling).1 x hmem) (by rw [hy]; exact not_le_of_gt hgt)

/-! ## Rates -/

theorem isRate_zero : IsRate (0 : K) := ⟨le_refl 0, zero_le_one⟩

theorem isRate_one : IsRate (1 : K) := ⟨zero_le_one, le_refl 1⟩

theorem isRate_div {m n : ℕ} (h : m ≤ n) : IsRate ((m : K) / n) := by
  refine ⟨div_nonneg (Nat.cast_nonneg m) (Nat.cast_nonneg n), div_le_one_of_le₀ ?_ (Nat.cast_nonneg n)⟩
  exact_mod_cast h

theorem isRate_div_of_le {x y : K} (h0 : 0 ≤ x) (h : x ≤ y) : IsRate (x / y) :=
  ⟨div_nonneg h0 (h0.trans h), div_le_one_of_le₀ h (h0.trans h)⟩

end

section
variable {candidates : List (String × PooledCandidate)} {documentIds : List String} {cutoff larger : ℕ}

/-- Documents of the run with a positive grade. -/
def relevantRetrieved (documentIds : List String) (candidates : List (String × PooledCandidate)) (cutoff : ℕ) : ℕ :=
  ((documentIds.take cutoff).map (gradeOf candidates)).countP (0 < ·)

theorem relevantTotal_eq (candidates : List (String × PooledCandidate)) :
    (candidates.countP fun item => item.2.relevance.any (0 < ·)) = (poolGrades candidates).countP (0 < ·) := by
  rw [poolGrades, List.countP_map]
  refine List.countP_congr fun item _ => ?_
  cases h : item.2.relevance with
  | none => simp [h]
  | some grade => simp [h]

theorem relevantRetrieved_le_total (hkeys : (candidates.map Prod.fst).Nodup) (hids : documentIds.Nodup) :
    relevantRetrieved documentIds candidates cutoff ≤ (poolGrades candidates).countP (0 < ·) := by
  obtain ⟨n, hsub⟩ := grades_subperm hkeys (hids.sublist (List.take_sublist cutoff documentIds))
  have hcount := hsub.countP_le (0 < ·)
  rw [List.countP_append, List.countP_replicate] at hcount
  exact hcount

theorem relevantRetrieved_mono (h : cutoff ≤ larger) :
    relevantRetrieved documentIds candidates cutoff ≤ relevantRetrieved documentIds candidates larger := by
  have hsub : (documentIds.take cutoff).Sublist (documentIds.take larger) := by
    rw [← min_eq_left h, ← List.take_take]
    exact List.take_sublist _ _
  exact (hsub.map _).countP_le

theorem countP_take_le {α : Type} (f : String → α) (p : α → Bool) : ((documentIds.take cutoff).map f).countP p ≤ cutoff := by
  calc ((documentIds.take cutoff).map f).countP p ≤ ((documentIds.take cutoff).map f).length := List.countP_le_length
    _ ≤ cutoff := by
      rw [List.length_map]
      exact List.length_take_le _ _

/-- A run has a first relevant document when it retrieves any. -/
theorem firstRelevant_isSome (grades : List ℕ) :
    ((grades.findIdx? (0 < ·)).map (· + 1)).isSome = true ↔ 0 < grades.countP (0 < ·) := by
  rw [Option.isSome_map, List.findIdx?_isSome, List.any_eq_true, List.countP_pos_iff]

end

/-! ## Main result -/

section
variable {K : Type} [Field K] [LinearOrder K] [IsStrictOrderedRing K] {log2 : ℕ → K}
  {candidates : List (String × PooledCandidate)} {documentIds : List String} {cutoff larger : ℕ}

omit [IsStrictOrderedRing K] in
theorem ndcg_eq : (valuesAtK log2 documentIds candidates cutoff).ndcg =
    if dcg log2 ((idealGrades candidates).take cutoff) ≠ 0 then
      dcg log2 ((documentIds.take cutoff).map (gradeOf candidates)) / dcg log2 ((idealGrades candidates).take cutoff)
    else 0 := rfl

theorem ndcg_isRate (hpos : ∀ n, 2 ≤ n → 0 < log2 n) (hmono : ∀ m n, 2 ≤ m → m < n → log2 m < log2 n)
    (hkeys : (candidates.map Prod.fst).Nodup) (hids : documentIds.Nodup) :
    IsRate (valuesAtK log2 documentIds candidates cutoff).ndcg := by
  have hle : dcg log2 ((documentIds.take cutoff).map (gradeOf candidates)) ≤ dcg log2 ((idealGrades candidates).take cutoff) :=
    dcg_le_ideal hpos hmono hkeys hids
  rw [ndcg_eq]
  by_cases hideal : dcg log2 ((idealGrades candidates).take cutoff) ≠ 0
  · rw [if_pos hideal]
    exact isRate_div_of_le (dcg_nonneg hpos _) hle
  · rw [if_neg hideal]
    exact isRate_zero

omit [IsStrictOrderedRing K] in
theorem recall_eq : (valuesAtK log2 documentIds candidates cutoff).pooledRecall =
    (relevantRetrieved documentIds candidates cutoff : K) / ((poolGrades candidates).countP (0 < ·) : ℕ) := by
  unfold valuesAtK
  simp only [relevantTotal_eq]
  by_cases htotal : (poolGrades candidates).countP (0 < ·) ≠ 0
  · rw [if_pos htotal]
    rfl
  · rw [if_neg htotal, not_not.mp htotal, Nat.cast_zero, div_zero]

omit [IsStrictOrderedRing K] in
theorem hitRate_eq : (valuesAtK log2 documentIds candidates cutoff).hitRate =
    if 0 < relevantRetrieved documentIds candidates cutoff then (1 : K) else 0 := by
  unfold valuesAtK relevantRetrieved
  simp only [firstRelevant_isSome]

theorem reciprocalRank_isRate (log2 : ℕ → K) : IsRate (valuesAtK log2 documentIds candidates cutoff).reciprocalRank := by
  unfold valuesAtK
  dsimp only
  cases hfirst : ((documentIds.take cutoff).map (gradeOf candidates)).findIdx? (0 < ·) with
  | none => exact isRate_zero
  | some i =>
    have hrank := isRate_div (K := K) (Nat.le_add_left 1 i)
    rwa [Nat.cast_one] at hrank

/-- Each value that is measured is a rate. -/
theorem values_bounded (hpos : ∀ n, 2 ≤ n → 0 < log2 n) (hmono : ∀ m n, 2 ≤ m → m < n → log2 m < log2 n)
    (hkeys : (candidates.map Prod.fst).Nodup) (hids : documentIds.Nodup) :
    ∀ field ∈ (valuesAtK log2 documentIds candidates cutoff).fields, IsRate field.2 := by
  have hrecall : IsRate (valuesAtK log2 documentIds candidates cutoff).pooledRecall := by
    rw [recall_eq]
    exact isRate_div (relevantRetrieved_le_total hkeys hids)
  have hhit : IsRate (valuesAtK log2 documentIds candidates cutoff).hitRate := by
    rw [hitRate_eq]
    split
    · exact isRate_one
    · exact isRate_zero
  intro field hfield
  simp only [CutoffValues.fields, List.mem_cons, List.not_mem_nil, or_false] at hfield
  rcases hfield with rfl | rfl | rfl | rfl | rfl | rfl | rfl
  · exact isRate_div (countP_take_le _ _)
  · exact hrecall
  · exact reciprocalRank_isRate log2
  · exact ndcg_isRate hpos hmono hkeys hids
  · exact hhit
  · exact isRate_div (countP_take_le _ _)
  · exact isRate_div (countP_take_le _ _)

theorem metricsAtK_eq (hpos : ∀ n, 2 ≤ n → 0 < log2 n) (hmono : ∀ m n, 2 ≤ m → m < n → log2 m < log2 n)
    (hkeys : (candidates.map Prod.fst).Nodup) (hids : documentIds.Nodup) (hcutoff : 0 < cutoff) :
    ∃ metrics, metricsAtK log2 documentIds candidates cutoff = .ok metrics ∧
      metrics.toCutoffValues = valuesAtK log2 documentIds candidates cutoff :=
  ⟨_, (if_neg hcutoff.ne').trans (validate_eq (values_bounded hpos hmono hkeys hids)), rfl⟩

theorem ndcg_eq_one_iff (hpos : ∀ n, 2 ≤ n → 0 < log2 n) (hmono : ∀ m n, 2 ≤ m → m < n → log2 m < log2 n)
    (hkeys : (candidates.map Prod.fst).Nodup) (hids : documentIds.Nodup) (hcutoff : 0 < cutoff) :
    (valuesAtK log2 documentIds candidates cutoff).ndcg = 1 ↔ (∃ x ∈ poolGains K candidates, 0 < x) ∧
      ∀ i < cutoff, pad (runGains K documentIds candidates cutoff) i = pad ((idealGrades candidates).map gain) i := by
  rw [← ideal_ne_zero_iff hpos hcutoff, ← dcg_eq_ideal_iff hpos hmono hkeys hids, ndcg_eq]
  by_cases hideal : dcg log2 ((idealGrades candidates).take cutoff) ≠ 0
  · rw [if_pos hideal, div_eq_one_iff_eq hideal]
    exact (and_iff_right hideal).symm
  · rw [if_neg hideal]
    exact ⟨fun h => absurd h zero_ne_one, fun h => absurd h.1 hideal⟩

/-- **Retrieval metrics.** They are rates, the normalized gain is 1 just for a
run whose gains are those of an ideal order, and recall and hit rate grow with
the cutoff. -/
theorem retrieval_metrics_sound (hpos : ∀ n, 2 ≤ n → 0 < log2 n) (hmono : ∀ m n, 2 ≤ m → m < n → log2 m < log2 n)
    (hkeys : (candidates.map Prod.fst).Nodup) (hids : documentIds.Nodup) (hcutoff : 0 < cutoff) :
    ∃ metrics, metricsAtK log2 documentIds candidates cutoff = .ok metrics ∧
      (∀ field ∈ metrics.fields, 0 ≤ field.2 ∧ field.2 ≤ 1) ∧
      (∀ ideal : List K, ideal.Perm (poolGains K candidates) → ideal.Pairwise (· ≥ ·) →
        (metrics.ndcg = 1 ↔ (∃ x ∈ poolGains K candidates, 0 < x) ∧
          ∀ i < cutoff, pad (runGains K documentIds candidates cutoff) i = pad ideal i)) ∧
      ∀ larger, cutoff ≤ larger → ∃ further, metricsAtK log2 documentIds candidates larger = .ok further ∧
        metrics.pooledRecall ≤ further.pooledRecall ∧ metrics.hitRate ≤ further.hitRate := by
  obtain ⟨metrics, hok, hvalues⟩ := metricsAtK_eq hpos hmono hkeys hids hcutoff
  refine ⟨metrics, hok, metrics.bounded, ?_, ?_⟩
  · intro ideal hperm hfalling
    have hideal : ideal = (idealGrades candidates).map gain :=
      (hperm.trans idealGains_perm.symm).eq_of_pairwise' hfalling idealGains_pairwise
    rw [hvalues, hideal]
    exact ndcg_eq_one_iff hpos hmono hkeys hids hcutoff
  · intro larger hlarger
    obtain ⟨further, hok', hvalues'⟩ := metricsAtK_eq hpos hmono hkeys hids (hcutoff.trans_le hlarger)
    have hmore : relevantRetrieved documentIds candidates cutoff ≤ relevantRetrieved documentIds candidates larger :=
      relevantRetrieved_mono hlarger
    refine ⟨further, hok', ?_, ?_⟩
    · rw [hvalues, hvalues', recall_eq, recall_eq]
      exact div_le_div_of_nonneg_right (by exact_mod_cast hmore) (Nat.cast_nonneg _)
    · rw [hvalues, hvalues', hitRate_eq, hitRate_eq]
      by_cases hhit : 0 < relevantRetrieved documentIds candidates cutoff
      · rw [if_pos hhit, if_pos (hhit.trans_le hmore)]
      · rw [if_neg hhit]
        split
        · exact zero_le_one
        · exact le_refl 0

end

namespace Izmir

/-- A pooled candidate with a grade, or without one. -/
def candidate (documentId : String) (relevance : Option ℕ) : PooledCandidate where
  documentId
  source := .usgs
  eventId := documentId
  title := "M 5.1 - Izmir"
  occurredAt := ⟨0, some 0, PyTime.epoch_inRange, PyTime.offsetBound_zero⟩
  documentText := "M 5.1 - Izmir"
  documentHash := documentId
  citationStatus := .missing
  citationUrl := none
  relevance
  rationale := none

/-- A pool of which one candidate is not judged. -/
def pool : List (String × PooledCandidate) :=
  [("usgs:1", candidate "usgs:1" (some 1)), ("usgs:2", candidate "usgs:2" none), ("usgs:3", candidate "usgs:3" (some 3))]

end Izmir

theorem retrieval_metrics_sound_izmir :
    ∃ metrics, metricsAtK (fun n => Real.logb 2 n) ["usgs:3", "usgs:2"] Izmir.pool 2 = .ok metrics ∧
      (∀ field ∈ metrics.fields, 0 ≤ field.2 ∧ field.2 ≤ 1) ∧
      (∀ ideal : List ℝ, ideal.Perm (poolGains ℝ Izmir.pool) → ideal.Pairwise (· ≥ ·) →
        (metrics.ndcg = 1 ↔ (∃ x ∈ poolGains ℝ Izmir.pool, 0 < x) ∧
          ∀ i < 2, pad (runGains ℝ ["usgs:3", "usgs:2"] Izmir.pool 2) i = pad ideal i)) ∧
      ∀ larger, 2 ≤ larger → ∃ further, metricsAtK (fun n => Real.logb 2 n) ["usgs:3", "usgs:2"] Izmir.pool larger = .ok further ∧
        metrics.pooledRecall ≤ further.pooledRecall ∧ metrics.hitRate ≤ further.hitRate := by
  refine retrieval_metrics_sound ?_ ?_ (by decide) (by decide) (by decide)
  · intro n hn
    exact Real.logb_pos one_lt_two (by exact_mod_cast hn)
  · intro m n hm hmn
    exact Real.logb_lt_logb one_lt_two (by exact_mod_cast (by omega : 0 < m)) (by exact_mod_cast hmn)

end AtlasPulse.RetrievalMetrics
