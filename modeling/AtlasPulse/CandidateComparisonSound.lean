import AtlasPulse.CandidateComparison
import AtlasPulse.ReviewAgreementSound

/-!
# Conservation of the candidate comparison

The counts of a comparison are taken of the same cases by separate loops. Its
outcomes, matrices, rates and slices balance, and its validators accept it.
-/

namespace AtlasPulse.CandidateComparison

open PyJson PyTime Kappa ExactAgreement RelationshipSheets Relationship

/-! ## Rates -/

section
variable {L : Type} [DecidableEq L] {scale : List L} {pairs : List (L × L)} {label : L}

theorem cell_le_firsts (pairs : List (L × L)) (u v : L) : cell pairs u v ≤ firsts pairs u :=
  List.countP_mono_left fun _ _ h => (Bool.and_eq_true _ _ ▸ h).1

theorem cell_le_seconds (pairs : List (L × L)) (u v : L) : cell pairs u v ≤ seconds pairs v :=
  List.countP_mono_left fun _ _ h => (Bool.and_eq_true _ _ ▸ h).2

end

/-- A value in the unit interval. -/
def InUnit (value : ℚ) : Prop := 0 ≤ value ∧ value ≤ 1

theorem unit_div {count total : ℕ} (h : count ≤ total) : InUnit (count / total : ℚ) := by
  refine ⟨by positivity, ?_⟩
  apply div_le_one_of_le₀
  · exact_mod_cast h
  · positivity

theorem isRate_iff {value : Option ℚ} : isRate value = true ↔ ∀ v ∈ value, InUnit v := by
  rw [isRate, Option.all_eq_true]
  exact forall_congr' fun v => imp_congr_right fun _ => between_iff

theorem unit_ratio {count total : ℕ} (h : count ≤ total) : ∀ v ∈ ratio count total, InUnit v := by
  intro v hv
  unfold ratio at hv
  split at hv
  · cases hv
  · obtain rfl := Option.some.inj hv
    exact unit_div h

theorem mean_unit {values : List ℚ} (hne : values ≠ []) (h : ∀ v ∈ values, InUnit v) : InUnit (values.sum / values.length) := by
  have hpos : (0 : ℚ) < values.length := by
    exact_mod_cast List.length_pos_iff.mpr hne
  have hle : values.sum ≤ values.length := by
    have hsum := List.sum_le_card_nsmul values 1 fun v hv => (h v hv).2
    rwa [nsmul_one] at hsum
  exact ⟨div_nonneg (List.sum_nonneg fun v hv => (h v hv).1) hpos.le, (div_le_one hpos).mpr hle⟩

/-! ## Labels and slices -/

variable {pairs : List (RelationshipLabel × RelationshipLabel)} {label : RelationshipLabel}

/-- What `_label_metrics` computes. -/
def labelMetricsOf (pairs : List (RelationshipLabel × RelationshipLabel)) (label : RelationshipLabel) : LabelMetrics :=
  ⟨firsts pairs label, seconds pairs label, cell pairs label label, seconds pairs label - cell pairs label label,
    firsts pairs label - cell pairs label label, ratio (cell pairs label label) (seconds pairs label),
    ratio (cell pairs label label) (firsts pairs label), ratio (2 * cell pairs label label) (firsts pairs label + seconds pairs label)⟩

/-- The harmonic mean of precision and recall. -/
theorem harmonic_mean {t p s : ℚ} (ht : t ≠ 0) (hp : p ≠ 0) (hs : s ≠ 0) (hsum : s + p ≠ 0) :
    2 * (t / p) * (t / s) / (t / p + t / s) = 2 * t / (s + p) := by
  have hadd : t / p + t / s = t * (s + p) / (p * s) := by
    field_simp
  rw [hadd]
  field_simp

theorem labelMetrics_ok (pairs : List (RelationshipLabel × RelationshipLabel)) (label : RelationshipLabel) :
    labelMetrics pairs label = .ok (labelMetricsOf pairs label) := by
  have hfirst := cell_le_firsts pairs label label
  have hsecond := cell_le_seconds pairs label label
  have hf1 : f1Score (firsts pairs label) (seconds pairs label) (cell pairs label label)
      (ratio (cell pairs label label) (seconds pairs label)) (ratio (cell pairs label label) (firsts pairs label)) =
        .ok (labelMetricsOf pairs label).f1 := by
    unfold f1Score
    by_cases htrue : cell pairs label label = 0
    · rw [if_neg (not_not.mpr htrue)]
      simp only [labelMetricsOf, ratio, htrue]
      by_cases hsum : firsts pairs label + seconds pairs label = 0
      · obtain ⟨hfirsts, hseconds⟩ := Nat.add_eq_zero_iff.mp hsum
        simp [hfirsts, hseconds]
      · rw [if_neg hsum, if_pos]
        · simp
        · simp only [ne_eq, Bool.or_eq_true, decide_eq_true_eq]
          omega
    · have hseconds : seconds pairs label ≠ 0 := by omega
      have hfirsts : firsts pairs label ≠ 0 := by omega
      have hsum : firsts pairs label + seconds pairs label ≠ 0 := by omega
      rw [if_pos htrue]
      simp only [labelMetricsOf, ratio, if_neg hseconds, if_neg hfirsts, if_neg hsum]
      rw [harmonic_mean (Nat.cast_ne_zero.mpr htrue) (Nat.cast_ne_zero.mpr hseconds) (Nat.cast_ne_zero.mpr hfirsts)
        (by exact_mod_cast hsum)]
      push_cast
      rfl
  have hvalid : (labelMetricsOf pairs label).validate = .ok () := by
    unfold LabelMetrics.validate
    simp only [bind_ok, exists_unit, check_eq_ok, Bool.and_eq_true, decide_eq_true_eq, isRate_iff]
    refine ⟨⟨?_, ?_⟩, ⟨unit_ratio hsecond, unit_ratio hfirst⟩, unit_ratio (by omega)⟩
    · exact sub_nonneg.mpr (Nat.cast_le.mpr hsecond)
    · exact sub_nonneg.mpr (Nat.cast_le.mpr hfirst)
  unfold labelMetrics
  simp only [bind_ok, exists_unit, Except.ok.injEq]
  exact ⟨_, hf1, hvalid, rfl⟩

/-- What `_slice_metrics` computes. -/
def sliceOf (pairs : List (RelationshipLabel × RelationshipLabel)) : RelationshipSliceMetrics :=
  let decisive := pairs.filter fun pair => pair.2 ≠ .insufficientEvidence
  let labels := relationshipLabels.map fun label => (label, labelMetricsOf pairs label)
  let f1Values := labels.filterMap (·.2.f1)
  { caseCount := pairs.length
    accuracy := agreements pairs / pairs.length
    macroF1 := if f1Values.isEmpty then none else some (f1Values.sum / f1Values.length)
    decisiveCoverage := decisive.length / pairs.length
    abstentionRate := (pairs.length - decisive.length) / pairs.length
    selectiveAccuracy := ratio (agreements decisive) decisive.length
    labels }

/-- Coverage and abstention of a slice add up, and its metrics are rates. -/
structure Rates (s : RelationshipSliceMetrics) : Prop where
  complement : s.decisiveCoverage + s.abstentionRate = 1
  accuracy : InUnit s.accuracy
  macroF1 : ∀ v ∈ s.macroF1, InUnit v
  decisiveCoverage : InUnit s.decisiveCoverage
  abstentionRate : InUnit s.abstentionRate
  selectiveAccuracy : ∀ v ∈ s.selectiveAccuracy, InUnit v
  precision : ∀ l ∈ s.labels, ∀ v ∈ l.2.precision, InUnit v
  «recall» : ∀ l ∈ s.labels, ∀ v ∈ l.2.recall, InUnit v
  f1 : ∀ l ∈ s.labels, ∀ v ∈ l.2.f1, InUnit v

theorem mem_labels {l : RelationshipLabel × LabelMetrics} (h : l ∈ (sliceOf pairs).labels) : l.2 = labelMetricsOf pairs l.1 := by
  obtain ⟨label, -, rfl⟩ := List.mem_map.mp h
  rfl

theorem f1_unit (pairs : List (RelationshipLabel × RelationshipLabel)) (label : RelationshipLabel) :
    ∀ v ∈ (labelMetricsOf pairs label).f1, InUnit v := by
  have hfirst := cell_le_firsts pairs label label
  have hsecond := cell_le_seconds pairs label label
  exact unit_ratio (by omega)

theorem rates_slice (hne : pairs ≠ []) : Rates (sliceOf pairs) := by
  have hlength : (pairs.length : ℚ) ≠ 0 := Nat.cast_ne_zero.mpr (mt List.length_eq_zero_iff.mp hne)
  have hdecisive : (pairs.filter fun pair => pair.2 ≠ .insufficientEvidence).length ≤ pairs.length := List.length_filter_le _ _
  refine ⟨?_, unit_div List.countP_le_length, ?_, unit_div hdecisive, ?_, unit_ratio List.countP_le_length, ?_, ?_, ?_⟩
  · show (_ / _ + (_ - _) / _ : ℚ) = 1
    rw [← add_div, add_sub_cancel, div_self hlength]
  · intro v hv
    simp only [sliceOf] at hv
    split at hv
    · cases hv
    · rename_i hsome
      obtain rfl := Option.some.inj hv
      refine mean_unit (fun hnil => hsome (List.isEmpty_iff.mpr hnil)) fun f1 hf1 => ?_
      obtain ⟨l, hl, hvalue⟩ := List.mem_filterMap.mp hf1
      obtain ⟨label, -, rfl⟩ := List.mem_map.mp hl
      exact f1_unit pairs label f1 hvalue
  · have hrest := unit_div (Nat.sub_le pairs.length (pairs.filter fun pair => pair.2 ≠ .insufficientEvidence).length)
    rw [Nat.cast_sub hdecisive] at hrest
    exact hrest
  · intro l hl
    rw [mem_labels hl]
    exact unit_ratio (cell_le_seconds pairs l.1 l.1)
  · intro l hl
    rw [mem_labels hl]
    exact unit_ratio (cell_le_firsts pairs l.1 l.1)
  · intro l hl
    rw [mem_labels hl]
    exact f1_unit pairs l.1

theorem sliceMetrics_ok (hne : pairs ≠ []) : sliceMetrics pairs = .ok (sliceOf pairs) := by
  have hrates := rates_slice hne
  have hlabels : (relationshipLabels.mapM fun label => (labelMetrics pairs label).map (label, ·)) =
      .ok (sliceOf pairs).labels := mapM_of_ok fun label _ => map_ok.mpr ⟨_, labelMetrics_ok pairs label, rfl⟩
  have hvalid : (sliceOf pairs).validate = .ok () := by
    unfold RelationshipSliceMetrics.validate
    simp only [bind_ok, exists_unit, check_eq_ok, Bool.and_eq_true, decide_eq_true_eq, isRate_iff, between_iff]
    exact ⟨List.length_pos_iff.mpr hne, ⟨⟨hrates.accuracy, hrates.decisiveCoverage⟩, hrates.abstentionRate⟩, hrates.macroF1,
      hrates.selectiveAccuracy⟩
  have hsome : check (!pairs.isEmpty) "cannot score an empty relationship slice" = .ok () := by
    rw [check_eq_ok, Bool.not_eq_true', List.isEmpty_eq_false_iff]
    exact hne
  unfold sliceMetrics
  simp only [bind_ok, exists_unit, Except.ok.injEq]
  exact ⟨hsome, _, hlabels, hvalid, rfl⟩

/-! ## Paired slices -/

variable {b c : RelationshipSliceMetrics}

def comparisonOf (b c : RelationshipSliceMetrics) : RelationshipSliceComparison :=
  ⟨b, c, c.accuracy - b.accuracy, difference b.macroF1 c.macroF1, c.decisiveCoverage - b.decisiveCoverage,
    c.abstentionRate - b.abstentionRate, difference b.selectiveAccuracy c.selectiveAccuracy⟩

theorem between_sub {x y : ℚ} (hx : InUnit x) (hy : InUnit y) : between (-1) (y - x) = true := by
  obtain ⟨hx0, hx1⟩ := hx
  obtain ⟨hy0, hy1⟩ := hy
  exact between_iff.mpr ⟨by linarith, by linarith⟩

theorem between_difference {x y : Option ℚ} (hx : ∀ v ∈ x, InUnit v) (hy : ∀ v ∈ y, InUnit v) :
    (difference x y).all (between (-1)) = true := by
  cases x with
  | none => rfl
  | some x =>
    cases y with
    | none => rfl
    | some y => exact between_sub (hx x rfl) (hy y rfl)

theorem checkDelta_ok (name : String) (x y : Option ℚ) : checkDelta name x y (difference x y) = .ok () := by
  unfold checkDelta
  cases h : difference x y with
  | none => rfl
  | some value => exact check_eq_ok.mpr (near_self value)

theorem comparison_ok (hb : Rates b) (hc : Rates c) (hcount : b.caseCount = c.caseCount) : comparison b c = .ok (comparisonOf b c) := by
  have hdelta : delta b c = .ok (comparisonOf b c).delta := by
    unfold delta RelationshipMetricDelta.validate
    simp only [bind_ok, exists_unit, check_eq_ok, Bool.and_eq_true, Except.ok.injEq]
    exact ⟨⟨⟨⟨between_sub hb.accuracy hc.accuracy, between_sub hb.decisiveCoverage hc.decisiveCoverage⟩,
      between_sub hb.abstentionRate hc.abstentionRate⟩, between_difference hb.macroF1 hc.macroF1,
      between_difference hb.selectiveAccuracy hc.selectiveAccuracy⟩, rfl⟩
  have hvalid : (comparisonOf b c).validate = .ok () := by
    unfold RelationshipSliceComparison.validate
    simp only [bind_ok, exists_unit, check_eq_ok, decide_eq_true_eq]
    exact ⟨hcount, checkDelta_ok _ _ _, checkDelta_ok _ _ _, checkDelta_ok _ _ _, checkDelta_ok _ _ _, checkDelta_ok _ _ _⟩
  unfold comparison
  simp only [bind_ok, exists_unit, Except.ok.injEq]
  exact ⟨_, hdelta, hvalid, rfl⟩

/-! ## Scores of reviewed cases -/

def goldOf (c : RelationshipCase) : RelationshipLabel := c.goldLabel.getD .insufficientEvidence

def labelIn (d : List (String × RelationshipLabel)) (c : RelationshipCase) : RelationshipLabel :=
  (PyDict.get d c.caseId).getD .insufficientEvidence

def labelsIn (d : List (String × RelationshipLabel)) (c : RelationshipCase) : RelationshipLabel × RelationshipLabel :=
  (goldOf c, labelIn d c)

/-- Reviewed cases with a label predicted of each of them, and of no other. -/
structure Complete (cases : List RelationshipCase) (d : List (String × RelationshipLabel)) : Prop where
  ne_nil : cases ≠ []
  reviewed : ∀ c ∈ cases, c.goldLabel = some (goldOf c)
  predicted : ∀ c ∈ cases, PyDict.get d c.caseId = some (labelIn d c)
  known : ∀ id ∈ d.map Prod.fst, id ∈ cases.map fun c => c.caseId

section
variable {cases : List RelationshipCase} {d d' : List (String × RelationshipLabel)}

/-- What `calculate_relationship_scores` computes. -/
def scoresOf (cases : List RelationshipCase) (d : List (String × RelationshipLabel)) : RelationshipScoreSet :=
  { overall := sliceOf (cases.map (labelsIn d))
    predicates := sortedBy (fun a b => a.text ≤ b.text) sliceOf (cases.map fun c => (c.predicate, labelsIn d c))
    sourcePairs := sortedBy (· ≤ ·) sliceOf (cases.map fun c => (c.pairKey, labelsIn d c))
    confusionMatrix := agreementConfusion relationshipLabels (cases.map (labelsIn d))
    outcomes := cases.map fun c => (ScoredCase.mk c (goldOf c) (labelIn d c)).outcome }

theorem sortedGroups_slices {K : Type} [DecidableEq K] (le : K → K → Prop) [DecidableRel le]
    (items : List (K × (RelationshipLabel × RelationshipLabel))) :
    sortedGroups le sliceMetrics items = .ok (sortedBy le sliceOf items) :=
  sortedGroups_of_ok fun _ hne _ => sliceMetrics_ok hne

theorem calculate_ok (h : Complete cases d) : calculateRelationshipScores cases d = .ok (scoresOf cases d) := by
  have hscored : cases.mapM (scoredCase d) = .ok (cases.map fun c => ⟨c, goldOf c, labelIn d c⟩) := by
    refine mapM_of_ok fun c hc => ?_
    unfold scoredCase
    rw [h.reviewed c hc, h.predicted c hc]
  have hmissing : (cases.map fun c => c.caseId).dedup.filter (· ∉ d.map Prod.fst) = [] := by
    refine List.filter_eq_nil_iff.mpr fun id hid hmiss => ?_
    obtain ⟨c, hc, rfl⟩ := List.mem_map.mp (List.mem_dedup.mp hid)
    have hget := h.predicted c hc
    rw [PyDict.get_eq_none.mpr (of_decide_eq_true hmiss)] at hget
    cases hget
  have hunexpected : (d.map Prod.fst).filter (· ∉ (cases.map fun c => c.caseId).dedup) = [] :=
    List.filter_eq_nil_iff.mpr fun id hid hmiss => of_decide_eq_true hmiss (List.mem_dedup.mpr (h.known id hid))
  have hreviewed : (cases.all (·.goldLabel.isSome)) = true := by
    refine List.all_eq_true.mpr fun c hc => ?_
    rw [h.reviewed c hc]
    rfl
  have hne : (cases.map (labelsIn d)) ≠ [] := fun hnil => h.ne_nil (List.map_eq_nil_iff.mp hnil)
  unfold calculateRelationshipScores
  simp only [hscored, hmissing, hunexpected, List.isEmpty_nil, Bool.and_self, bind_ok, exists_unit, check_eq_ok,
    Bool.not_eq_true', List.isEmpty_eq_false_iff, Except.ok.injEq, true_and]
  refine ⟨h.ne_nil, hreviewed, _, rfl, ?_⟩
  simp only [List.map_map]
  exact ⟨_, sliceMetrics_ok hne, _, sortedGroups_slices _ _, _, sortedGroups_slices _ _, rfl⟩

/-! ## Slices of cases -/

variable {K : Type} [DecidableEq K] {le : K → K → Prop} [DecidableRel le] {key : RelationshipCase → K}

theorem valuesAt_map {V : Type} (key : RelationshipCase → K) (f : RelationshipCase → V) (cases : List RelationshipCase) (k : K) :
    valuesAt (cases.map fun c => (key c, f c)) k = (cases.filter fun c => key c = k).map f := by
  unfold valuesAt
  rw [List.filter_map, List.map_map]
  rfl

theorem map_fst_sortedBy {V M : Type} (le : K → K → Prop) [DecidableRel le] (f : List V → M) (items : List (K × V)) :
    ((sortedBy le f items).map Prod.fst).Perm ((groupBy items).map Prod.fst) := by
  unfold sortedBy
  rw [List.map_map]
  exact (List.perm_insertionSort _ _).map Prod.fst

theorem get_sortedBy {V M : Type} {f : List V → M} {items : List (K × V)} {k : K} (h : k ∈ items.map Prod.fst) :
    PyDict.get (sortedBy le f items) k = some (f (valuesAt items k)) := by
  have hkeys := map_fst_sortedBy le f items
  rw [PyDict.get_eq_some (hkeys.nodup_iff.mpr (nodup_groupBy items))]
  obtain ⟨g, hg, rfl⟩ := List.mem_map.mp (hkeys.mem_iff.mpr (mem_keys_groupBy.mpr h))
  rw [← (mem_sortedBy hg).2]
  exact hg

/-- The comparison of the cases with one key. -/
def sliceComparison (d d' : List (String × RelationshipLabel)) (cases : List RelationshipCase) : RelationshipSliceComparison :=
  comparisonOf (sliceOf (cases.map (labelsIn d))) (sliceOf (cases.map (labelsIn d')))

/-- What the report derives of the slices of two score sets. -/
def comparedBy (le : K → K → Prop) [DecidableRel le] (key : RelationshipCase → K) (d d' : List (String × RelationshipLabel))
    (cases : List RelationshipCase) : List (K × RelationshipSliceComparison) :=
  (sortedBy le sliceOf (cases.map fun c => (key c, labelsIn d' c))).map fun g =>
    (g.1, sliceComparison d d' (cases.filter fun c => key c = g.1))

theorem comparison_slices (d d' : List (String × RelationshipLabel)) (hne : cases ≠ []) :
    comparison (sliceOf (cases.map (labelsIn d))) (sliceOf (cases.map (labelsIn d'))) = .ok (sliceComparison d d' cases) := by
  have hmap (d : List (String × RelationshipLabel)) : cases.map (labelsIn d) ≠ [] := fun hnil => hne (List.map_eq_nil_iff.mp hnil)
  apply comparison_ok (rates_slice (hmap d)) (rates_slice (hmap d'))
  show (cases.map (labelsIn d)).length = (cases.map (labelsIn d')).length
  rw [List.length_map, List.length_map]

theorem filter_ne_nil {k : K} (h : k ∈ cases.map key) : (cases.filter fun c => key c = k) ≠ [] := by
  obtain ⟨c, hc, rfl⟩ := List.mem_map.mp h
  exact List.ne_nil_of_mem (List.mem_filter.mpr ⟨hc, decide_eq_true rfl⟩)

omit [DecidableEq K] in
theorem map_fst_items (d : List (String × RelationshipLabel)) (key : RelationshipCase → K) (cases : List RelationshipCase) :
    (cases.map fun c => (key c, labelsIn d c)).map Prod.fst = cases.map key := List.map_map

theorem comparisons_ok (le : K → K → Prop) [DecidableRel le] (key : RelationshipCase → K)
    (d d' : List (String × RelationshipLabel)) (cases : List RelationshipCase) :
    comparisons (sortedBy le sliceOf (cases.map fun c => (key c, labelsIn d c)))
      (sortedBy le sliceOf (cases.map fun c => (key c, labelsIn d' c))) = .ok (comparedBy le key d d' cases) := by
  refine mapM_of_ok fun g hg => ?_
  obtain ⟨hkey, hvalue⟩ := mem_sortedBy hg
  rw [map_fst_items] at hkey
  rw [get_sortedBy ((map_fst_items d key cases).symm ▸ hkey), hvalue, valuesAt_map, valuesAt_map]
  exact map_ok.mpr ⟨_, comparison_slices d d' (filter_ne_nil hkey), rfl⟩

theorem mem_comparedBy {g : K × RelationshipSliceComparison} (h : g ∈ comparedBy le key d d' cases) :
    g.1 ∈ cases.map key ∧ g.2 = sliceComparison d d' (cases.filter fun c => key c = g.1) := by
  obtain ⟨slice, hslice, rfl⟩ := List.mem_map.mp h
  exact ⟨map_fst_items d' key cases ▸ (mem_sortedBy hslice).1, rfl⟩

theorem map_fst_comparedBy (le : K → K → Prop) [DecidableRel le] (key : RelationshipCase → K)
    (d d' : List (String × RelationshipLabel)) (cases : List RelationshipCase) :
    ((comparedBy le key d d' cases).map Prod.fst).Perm ((groupBy (cases.map fun c => (key c, labelsIn d' c))).map Prod.fst) := by
  unfold comparedBy
  rw [List.map_map]
  exact map_fst_sortedBy le sliceOf _

/-! ## Outcomes -/

/-- The outcome of a reviewed case under two complete maps. -/
def outcomeIn (d d' : List (String × RelationshipLabel)) (c : RelationshipCase) : CandidateCaseOutcome :=
  ⟨c.caseId, c.edgeId, c.predicate, c.sourcePair, labelIn d c, labelIn d' c, goldOf c, labelIn d c = goldOf c, labelIn d' c = goldOf c,
    outcomeKind (labelIn d c) (labelIn d' c) (goldOf c)⟩

theorem caseOutcome_ok (h : Complete cases d) (h' : Complete cases d') (hvalid : ∀ c ∈ cases, matchesCaseId c.caseId = true)
    (hnodup : (cases.map fun c => c.caseId).Nodup) {c : RelationshipCase} (hc : c ∈ cases) :
    caseOutcome (cases.map fun c => (c.caseId, c)) d d' c.caseId = .ok (outcomeIn d d' c) := by
  have hkeys : ((cases.map fun c => (c.caseId, c)).map Prod.fst).Nodup := by
    rw [List.map_map]
    exact hnodup
  have hget : PyDict.get (cases.map fun c => (c.caseId, c)) c.caseId = some c := by
    rw [PyDict.get_eq_some hkeys]
    exact List.mem_map_of_mem hc
  have hok : (outcomeIn d d' c).validate = .ok () := by
    unfold CandidateCaseOutcome.validate
    simp only [bind_ok, exists_unit, check_eq_ok, decide_eq_true_eq]
    exact ⟨hvalid c hc, rfl, rfl, rfl⟩
  unfold caseOutcome
  simp only [hget, h.reviewed c hc, h.predicted c hc, h'.predicted c hc, bind_ok, exists_unit, Except.ok.injEq]
  exact ⟨hok, rfl⟩

/-- The outcomes, in the order of the case IDs. -/
def outcomesOf (d d' : List (String × RelationshipLabel)) (cases : List RelationshipCase) : List CandidateCaseOutcome :=
  (cases.insertionSort fun a b => a.caseId ≤ b.caseId).map (outcomeIn d d')

theorem outcomesOf_perm (d d' : List (String × RelationshipLabel)) (cases : List RelationshipCase) :
    (outcomesOf d d' cases).Perm (cases.map (outcomeIn d d')) := (List.perm_insertionSort _ _).map _

theorem sorted_ids (cases : List RelationshipCase) : (cases.map fun c => c.caseId).insertionSort (· ≤ ·) =
    (cases.insertionSort fun a b => a.caseId ≤ b.caseId).map fun c => c.caseId :=
  (List.map_insertionSort _ (· ≤ ·) (fun c : RelationshipCase => c.caseId) cases fun _ _ _ _ => Iff.rfl).symm

theorem outcomes_ok (h : Complete cases d) (h' : Complete cases d') (hvalid : ∀ c ∈ cases, matchesCaseId c.caseId = true)
    (hnodup : (cases.map fun c => c.caseId).Nodup) :
    (((cases.map fun c => (c.caseId, c)).map Prod.fst).insertionSort (· ≤ ·)).mapM
      (caseOutcome (cases.map fun c => (c.caseId, c)) d d') = .ok (outcomesOf d d' cases) := by
  have hids : (cases.map fun c => (c.caseId, c)).map Prod.fst = cases.map fun c => c.caseId := List.map_map
  rw [hids, sorted_ids, List.mapM_map]
  exact mapM_of_ok fun c hc => caseOutcome_ok h h' hvalid hnodup ((List.mem_insertionSort _).mp hc)

/-! ## Balance of the outcomes -/

/-- The cases that a map predicts as they are labelled. -/
def correctIn (d : List (String × RelationshipLabel)) (cases : List RelationshipCase) : ℕ := agreements (cases.map (labelsIn d))

theorem kindCount_cons (o : CandidateCaseOutcome) (outcomes : List CandidateCaseOutcome) (kind : CandidateOutcomeKind) :
    kindCount (o :: outcomes) kind = kindCount outcomes kind + if o.outcome = kind then 1 else 0 := by
  unfold kindCount
  rw [List.countP_cons]
  simp only [decide_eq_true_eq]

theorem correctIn_cons (d : List (String × RelationshipLabel)) (c : RelationshipCase) (cases : List RelationshipCase) :
    correctIn d (c :: cases) = correctIn d cases + if goldOf c = labelIn d c then 1 else 0 := by
  unfold correctIn agreements
  rw [List.map_cons, List.countP_cons]
  by_cases h : goldOf c = labelIn d c <;> simp [labelsIn, h]

/-- What the candidate gains over the baseline it loses in regressions. -/
theorem correct_balance (d d' : List (String × RelationshipLabel)) (cases : List RelationshipCase) :
    correctIn d' cases + kindCount (cases.map (outcomeIn d d')) .regression =
      correctIn d cases + kindCount (cases.map (outcomeIn d d')) .improvement := by
  induction cases with
  | nil => rfl
  | cons c cases ih =>
    rw [List.map_cons, kindCount_cons, kindCount_cons, correctIn_cons, correctIn_cons]
    have hcase : (if goldOf c = labelIn d' c then 1 else 0) + (if (outcomeIn d d' c).outcome = .regression then 1 else 0) =
        (if goldOf c = labelIn d c then 1 else 0) + if (outcomeIn d d' c).outcome = .improvement then 1 else 0 := by
      unfold outcomeIn outcomeKind
      by_cases hbase : labelIn d c = goldOf c
      · by_cases hcand : labelIn d' c = goldOf c
        · simp [hbase, hcand]
        · simp [hbase, hcand, Ne.symm hcand]
      · by_cases hcand : labelIn d' c = goldOf c
        · simp [hbase, hcand, Ne.symm hbase]
        · by_cases hsame : labelIn d c = labelIn d' c
          · simp [hsame, hcand]
          · simp [hbase, hcand, hsame, Ne.symm hbase, Ne.symm hcand]
    omega

/-- Each outcome is of one kind, and changed labels are of the last three. -/
theorem kinds_partition (outcomes : List CandidateCaseOutcome)
    (h : ∀ o ∈ outcomes, o.outcome = outcomeKind o.baselineLabel o.candidateLabel o.goldLabel) :
    (pairedSummary outcomes).unchangedCorrect + (pairedSummary outcomes).unchangedIncorrect + (pairedSummary outcomes).improvements +
        (pairedSummary outcomes).regressions + (pairedSummary outcomes).changedIncorrect = outcomes.length ∧
      (pairedSummary outcomes).labelDisagreements = (pairedSummary outcomes).improvements + (pairedSummary outcomes).regressions +
        (pairedSummary outcomes).changedIncorrect := by
  unfold pairedSummary
  induction outcomes with
  | nil => exact ⟨rfl, rfl⟩
  | cons o outcomes ih =>
    obtain ⟨ho, h⟩ := List.forall_mem_cons.mp h
    obtain ⟨htotal, hchanged⟩ := ih h
    simp only [kindCount_cons, List.length_cons, List.countP_cons, decide_eq_true_eq] at htotal hchanged ⊢
    generalize List.countP _ outcomes = changed at hchanged ⊢
    rw [ho]
    unfold outcomeKind
    by_cases hsame : o.baselineLabel = o.candidateLabel
    · by_cases hgold : o.baselineLabel = o.goldLabel
      · simp [hsame, hsame ▸ hgold]
        omega
      · simp [hsame, hsame ▸ hgold]
        omega
    · by_cases hbase : o.baselineLabel = o.goldLabel
      · have hcand : o.candidateLabel ≠ o.goldLabel := fun heq => hsame (hbase.trans heq.symm)
        simp [hbase, hcand, Ne.symm hcand]
        omega
      · by_cases hcand : o.candidateLabel = o.goldLabel
        · simp [hbase, hcand]
          omega
        · simp [hsame, hbase, hcand]
          omega

/-! ## Off the diagonal -/

/-- The cells of a matrix off its diagonal, added up. -/
def offDiagonalSum {L : Type} [DecidableEq L] (scale : List L) (matrix : List (L × List (L × ℕ))) : ℕ :=
  (scale.map fun u => ((scale.filter (· != u)).map (confusionCell matrix u)).sum).sum

theorem diagonal_add_off {L : Type} [DecidableEq L] {scale : List L} (hscale : scale.Nodup) (matrix : List (L × List (L × ℕ))) :
    diagonalSum scale matrix + offDiagonalSum scale matrix = matrixCount scale matrix := by
  unfold diagonalSum offDiagonalSum matrixCount
  rw [← List.sum_map_add]
  refine congrArg List.sum (List.map_congr_left fun u hu => ?_)
  have hrow := ((List.perm_cons_erase hu).map (confusionCell matrix u)).sum_eq
  rw [List.map_cons, List.sum_cons, hscale.erase_eq_filter u] at hrow
  exact hrow.symm

theorem disagreements_off_diagonal (outcomes : List CandidateCaseOutcome) :
    (pairedSummary outcomes).labelDisagreements = offDiagonalSum relationshipLabels (transitionMatrix outcomes) := by
  have hscale := onScale_labels (outcomes.map fun o => (o.baselineLabel, o.candidateLabel))
  have hsplit := diagonal_add_off hscale.1 (transitionMatrix outcomes)
  unfold transitionMatrix at hsplit ⊢
  rw [diagonalSum_confusion hscale, matrixCount_confusion hscale, List.length_map] at hsplit
  have hchanged := List.length_eq_countP_add_countP (fun o : CandidateCaseOutcome => decide (o.baselineLabel = o.candidateLabel))
    (l := outcomes)
  unfold agreements at hsplit
  rw [List.countP_map] at hsplit
  unfold pairedSummary
  simp only [Function.comp_def, decide_eq_true_eq, ← ne_eq] at hsplit hchanged ⊢
  omega

/-! ## Conserved slices -/

/-- The rates of a slice balance with the outcomes of its cases. -/
structure SliceConserved (slice : RelationshipSliceComparison) (outcomes : List CandidateCaseOutcome) : Prop where
  counts : slice.baseline.caseCount = outcomes.length ∧ slice.candidate.caseCount = outcomes.length
  balance : (outcomes.length : ℚ) * (slice.candidate.accuracy - slice.baseline.accuracy) =
    kindCount outcomes .improvement - kindCount outcomes .regression
  baseline : Rates slice.baseline
  candidate : Rates slice.candidate

theorem SliceConserved.perm {slice : RelationshipSliceComparison} {outcomes outcomes' : List CandidateCaseOutcome}
    (h : SliceConserved slice outcomes) (hperm : outcomes.Perm outcomes') : SliceConserved slice outcomes' := by
  have hkind (kind : CandidateOutcomeKind) : kindCount outcomes kind = kindCount outcomes' kind := hperm.countP_eq _
  refine ⟨hperm.length_eq ▸ h.counts, ?_, h.baseline, h.candidate⟩
  rw [← hkind, ← hkind, ← hperm.length_eq]
  exact h.balance

theorem slice_conserved (d d' : List (String × RelationshipLabel)) (hne : cases ≠ []) :
    SliceConserved (sliceComparison d d' cases) (cases.map (outcomeIn d d')) := by
  have hmap (d : List (String × RelationshipLabel)) : cases.map (labelsIn d) ≠ [] := fun hnil => hne (List.map_eq_nil_iff.mp hnil)
  have hlength : (cases.length : ℚ) ≠ 0 := Nat.cast_ne_zero.mpr (mt List.length_eq_zero_iff.mp hne)
  have haccuracy (d : List (String × RelationshipLabel)) : (sliceOf (cases.map (labelsIn d))).accuracy = correctIn d cases / cases.length := by
    show (_ / (cases.map (labelsIn d)).length : ℚ) = _
    rw [List.length_map]
    rfl
  refine ⟨⟨(List.length_map _).trans (List.length_map _).symm, (List.length_map _).trans (List.length_map _).symm⟩, ?_,
    rates_slice (hmap d), rates_slice (hmap d')⟩
  have hbalance : (correctIn d' cases + kindCount (cases.map (outcomeIn d d')) .regression : ℚ) =
      correctIn d cases + kindCount (cases.map (outcomeIn d d')) .improvement := by
    exact_mod_cast correct_balance d d' cases
  show (_ : ℚ) * ((sliceOf (cases.map (labelsIn d'))).accuracy - (sliceOf (cases.map (labelsIn d))).accuracy) = _
  rw [haccuracy, haccuracy, ← sub_div, List.length_map, mul_div_cancel₀ _ hlength]
  linarith

/-- Slices whose cases are the outcomes with their keys, each outcome in one. -/
structure Partitions (key : CandidateCaseOutcome → K) (slices : List (K × RelationshipSliceComparison))
    (outcomes : List CandidateCaseOutcome) : Prop where
  nodup : (slices.map Prod.fst).Nodup
  covers : ∀ o ∈ outcomes, key o ∈ slices.map Prod.fst
  total : (slices.map (·.2.candidate.caseCount)).sum = outcomes.length
  conserved : ∀ slice ∈ slices, SliceConserved slice.2 (outcomes.filter fun o => key o = slice.1)

theorem partitions_comparedBy (d d' : List (String × RelationshipLabel)) {outcomeKey : CandidateCaseOutcome → K}
    (hkey : ∀ c, outcomeKey (outcomeIn d d' c) = key c) :
    Partitions outcomeKey (comparedBy le key d d' cases) (outcomesOf d d' cases) := by
  have hperm := outcomesOf_perm d d' cases
  have hkeys := map_fst_comparedBy le key d d' cases
  have hnodup := hkeys.nodup_iff.mpr (nodup_groupBy _)
  have hcovers : ∀ o ∈ outcomesOf d d' cases, outcomeKey o ∈ (comparedBy le key d d' cases).map Prod.fst := by
    intro o ho
    obtain ⟨c, hc, rfl⟩ := List.mem_map.mp (hperm.subset ho)
    rw [hkeys.mem_iff, mem_keys_groupBy, map_fst_items, hkey]
    exact List.mem_map_of_mem hc
  have hconserved : ∀ slice ∈ comparedBy le key d d' cases,
      SliceConserved slice.2 ((outcomesOf d d' cases).filter fun o => outcomeKey o = slice.1) := by
    intro slice hslice
    obtain ⟨hmem, hvalue⟩ := mem_comparedBy hslice
    have hfilter : (cases.map (outcomeIn d d')).filter (fun o => outcomeKey o = slice.1) =
        (cases.filter fun c => key c = slice.1).map (outcomeIn d d') := by
      rw [List.filter_map]
      simp only [Function.comp_def, hkey]
    rw [hvalue]
    exact (slice_conserved d d' (filter_ne_nil hmem)).perm (hfilter ▸ (hperm.filter _).symm)
  refine ⟨hnodup, hcovers, ?_, hconserved⟩
  have hcounts : (comparedBy le key d d' cases).map (·.2.candidate.caseCount) =
      ((comparedBy le key d d' cases).map Prod.fst).map fun k => (outcomesOf d d' cases).countP fun o => true && outcomeKey o = k := by
    rw [List.map_map]
    refine List.map_congr_left fun slice hslice => ?_
    rw [(hconserved slice hslice).counts.2, ← List.countP_eq_length_filter]
    simp only [Bool.true_and, Function.comp_apply]
  rw [hcounts, sum_countP hnodup (fun _ => true) hcovers, List.countP_true]

/-- The margins of a matrix are the counts of a slice, which are those of its labels. -/
structure LabelsCounted (matrix : List (RelationshipLabel × List (RelationshipLabel × ℕ))) (s : RelationshipSliceMetrics)
    (gold predicted : RelationshipLabel → ℕ) : Prop where
  labels : s.labels.map Prod.fst = relationshipLabels
  rows : ∀ l ∈ s.labels, rowSum relationshipLabels matrix l.1 = l.2.support ∧ l.2.support = gold l.1
  columns : ∀ l ∈ s.labels, columnSum relationshipLabels matrix l.1 = l.2.predictedCount ∧ l.2.predictedCount = predicted l.1

theorem labels_counted (pairs : List (RelationshipLabel × RelationshipLabel)) :
    LabelsCounted (agreementConfusion relationshipLabels pairs) (sliceOf pairs) (firsts pairs) (seconds pairs) := by
  have hscale := onScale_labels pairs
  have hlabels : (sliceOf pairs).labels.map Prod.fst = relationshipLabels := by
    show (relationshipLabels.map fun label => (label, labelMetricsOf pairs label)).map Prod.fst = _
    rw [List.map_map]
    exact List.map_id _
  refine ⟨hlabels, fun l hl => ?_, fun l hl => ?_⟩
  · rw [mem_labels hl]
    exact ⟨rowSum_confusion hscale (hlabels ▸ List.mem_map_of_mem hl), rfl⟩
  · rw [mem_labels hl]
    exact ⟨columnSum_confusion hscale (hlabels ▸ List.mem_map_of_mem hl), rfl⟩

end

/-! ## Latencies -/

theorem latency_ok {predictions : List CandidatePrediction} (hne : predictions ≠ []) (hnonneg : ∀ p ∈ predictions, 0 ≤ p.latencyMs) :
    ∃ l, latency predictions = .ok l ∧ l.caseCount = predictions.length := by
  have hvalues : (predictions.map fun p => p.latencyMs) ≠ [] := fun hnil => hne (List.map_eq_nil_iff.mp hnil)
  have hlatency : ∀ v ∈ predictions.map fun p => p.latencyMs, 0 ≤ v := by
    intro v hv
    obtain ⟨p, hp, rfl⟩ := List.mem_map.mp hv
    exact hnonneg p hp
  generalize hlist : (predictions.map fun p => p.latencyMs) = values at hvalues hlatency
  have hlength : values.length = predictions.length := hlist ▸ List.length_map _
  have hpos : (values.length : ℚ) ≠ 0 := Nat.cast_ne_zero.mpr (mt List.length_eq_zero_iff.mp hvalues)
  have hmax : values.max?.getD 0 = values.max hvalues := by
    rw [List.max?_eq_some_max hvalues]
    rfl
  have hquantile {q : ℚ} (hq : 0 ≤ q) : 0 ≤ Quantile.quantile values q := by
    obtain ⟨⟨v, hv, hle⟩, -⟩ := Quantile.quantile_between hvalues hq
    exact (hlatency v hv).trans hle
  have hmono : Quantile.quantile values (1 / 2) ≤ Quantile.quantile values (19 / 20) :=
    Quantile.quantile_mono (by norm_num) (by norm_num)
  have htop : Quantile.quantile values (19 / 20) ≤ values.max hvalues := quantile_le_max hvalues (by norm_num)
  have hclose : isClose (values.sum / values.length * values.length) values.sum = true := by
    rw [div_mul_cancel₀ _ hpos, isClose, sub_self, abs_zero]
    exact decide_eq_true (le_max_of_le_right (by norm_num))
  refine ⟨⟨values.length, values.sum, values.sum / values.length, Quantile.quantile values (1 / 2), Quantile.quantile values (19 / 20),
    values.max?.getD 0⟩, ?_, hlength⟩
  unfold latency CandidateLatencyMetrics.validate
  simp only [hlist, bind_ok, exists_unit, check_eq_ok, Bool.and_eq_true, decide_eq_true_eq, Bool.not_eq_true',
    List.isEmpty_eq_false_iff, Except.ok.injEq]
  refine ⟨hvalues, _, candidates_percentile_eq hvalues (by norm_num) (by norm_num), _,
    candidates_percentile_eq hvalues (by norm_num) (by norm_num), ⟨List.length_pos_iff.mpr hvalues, ?_, hclose, hmono, ?_⟩, rfl⟩
  · have hsum := List.sum_nonneg hlatency
    exact ⟨⟨⟨⟨hsum, div_nonneg hsum (Nat.cast_nonneg _)⟩, hquantile (by norm_num)⟩, hquantile (by norm_num)⟩,
      hmax ▸ (hquantile (by norm_num)).trans htop⟩
  · exact hmax ▸ htop

/-! ## Measurements -/

section
variable {E S : Type} {m : CandidateModel E S} {pool : RelationshipPool m.toReviewModel} {predictions : List CandidatePrediction}

/-- The maps of the deployed labels and of the predicted ones. -/
def baselineMap (pool : RelationshipPool m.toReviewModel) : List (String × RelationshipLabel) :=
  pool.cases.map fun c => (c.caseId, c.systemPrediction.label)

def candidateMap (predictions : List CandidatePrediction) : List (String × RelationshipLabel) :=
  predictions.map fun p => (p.caseId, p.predictedLabel)

/-- The predictions are of the cases of a pool, one of each. -/
structure Covers (pool : RelationshipPool m.toReviewModel) (predictions : List CandidatePrediction) : Prop where
  nodup : (predictions.map fun p => p.caseId).Nodup
  ids : ∀ id, id ∈ (predictions.map fun p => p.caseId) ↔ id ∈ pool.cases.map fun c => c.caseId

theorem get_map {α : Type} {items : List α} {id : α → String} (label : α → RelationshipLabel) (h : (items.map id).Nodup) {a : α}
    (ha : a ∈ items) : PyDict.get (items.map fun a => (id a, label a)) (id a) = some (label a) := by
  have hkeys : ((items.map fun a => (id a, label a)).map Prod.fst).Nodup := by
    rw [List.map_map]
    exact h
  rw [PyDict.get_eq_some hkeys]
  exact List.mem_map_of_mem ha

theorem gold_reviewed (hadjudicated : pool.adjudication.isSome) {c : RelationshipCase} (hc : c ∈ pool.cases) :
    c.goldLabel = some (goldOf c) := by
  obtain ⟨adjudication, hsome⟩ := Option.isSome_iff_exists.mp hadjudicated
  have hvalid := pool.valid
  unfold RelationshipPoolData.validate RelationshipPoolData.checkReview RelationshipPoolData.checkAdjudication at hvalid
  rw [hsome] at hvalid
  simp only [bind_ok, exists_unit, check_eq_ok, decide_eq_true_eq] at hvalid
  obtain ⟨-, -, -, -, -, hreview, -, -, hreviewed, -⟩ := hvalid
  rw [hreviewed] at hreview
  simp only [bind_ok, exists_unit, check_eq_ok] at hreview
  obtain ⟨gold, hgold⟩ := Option.isSome_iff_exists.mp (List.all_eq_true.mp hreview.2 c hc)
  rw [goldOf, hgold]
  rfl

theorem labelIn_baseline {c : RelationshipCase} (hc : c ∈ pool.cases) :
    PyDict.get (baselineMap pool) c.caseId = some c.systemPrediction.label := by
  obtain ⟨-, -, hids⟩ := pool_cases pool
  exact get_map (fun c : RelationshipCase => c.systemPrediction.label) hids hc

theorem complete_baseline (hadjudicated : pool.adjudication.isSome) : Complete pool.cases (baselineMap pool) := by
  obtain ⟨hne, -, -⟩ := pool_cases pool
  refine ⟨hne, fun c hc => gold_reviewed hadjudicated hc, fun c hc => ?_, fun id hid => ?_⟩
  · rw [labelIn, labelIn_baseline hc]
    rfl
  · rw [baselineMap, List.map_map] at hid
    exact hid

theorem exists_prediction (h : Covers pool predictions) {c : RelationshipCase} (hc : c ∈ pool.cases) :
    ∃ p ∈ predictions, p.caseId = c.caseId ∧ PyDict.get (candidateMap predictions) c.caseId = some p.predictedLabel := by
  obtain ⟨p, hp, hid⟩ := List.mem_map.mp ((h.ids c.caseId).mpr (List.mem_map_of_mem (f := fun c : RelationshipCase => c.caseId) hc))
  refine ⟨p, hp, hid, ?_⟩
  rw [← hid]
  exact get_map (fun p : CandidatePrediction => p.predictedLabel) h.nodup hp

theorem complete_candidate (hadjudicated : pool.adjudication.isSome) (h : Covers pool predictions) :
    Complete pool.cases (candidateMap predictions) := by
  obtain ⟨hne, -, -⟩ := pool_cases pool
  refine ⟨hne, fun c hc => gold_reviewed hadjudicated hc, fun c hc => ?_, fun id hid => ?_⟩
  · obtain ⟨p, -, -, hget⟩ := exists_prediction h hc
    rw [labelIn, hget]
    rfl
  · rw [candidateMap, List.map_map] at hid
    exact (h.ids id).mp hid

theorem summary_valid {outcomes : List CandidateCaseOutcome} (hne : outcomes ≠ [])
    (h : ∀ o ∈ outcomes, o.outcome = outcomeKind o.baselineLabel o.candidateLabel o.goldLabel) :
    (pairedSummary outcomes).validate = .ok () := by
  unfold PairedOutcomeSummary.validate
  simp only [bind_ok, exists_unit, check_eq_ok, decide_eq_true_eq]
  exact ⟨List.length_pos_iff.mpr hne, (kinds_partition outcomes h).1, List.countP_le_length⟩

theorem kinds_outcomesOf (d d' : List (String × RelationshipLabel)) (cases : List RelationshipCase) :
    ∀ o ∈ outcomesOf d d' cases, o.outcome = outcomeKind o.baselineLabel o.candidateLabel o.goldLabel := by
  intro o ho
  obtain ⟨c, -, rfl⟩ := List.mem_map.mp ho
  rfl

/-- What `_measure_candidate` computes. -/
def measurementsOf (pool : RelationshipPool m.toReviewModel) (predictions : List CandidatePrediction) : CandidateMeasurements :=
  ⟨scoresOf pool.cases (baselineMap pool), scoresOf pool.cases (candidateMap predictions),
    outcomesOf (baselineMap pool) (candidateMap predictions) pool.cases,
    pairedSummary (outcomesOf (baselineMap pool) (candidateMap predictions) pool.cases)⟩

theorem measure_ok (hadjudicated : pool.adjudication.isSome) (h : Covers pool predictions) :
    measureCandidate pool.cases predictions = .ok (measurementsOf pool predictions) := by
  obtain ⟨hne, hvalid, hids⟩ := pool_cases pool
  have hbaseline := complete_baseline hadjudicated
  have hcandidate := complete_candidate hadjudicated h
  have hbase : PyDict.ofItems (pool.cases.map fun c => (c.caseId, c.systemPrediction.label)) = baselineMap pool := by
    refine PyDict.ofItems_of_nodup ?_
    rw [List.map_map]
    exact hids
  have hcand : PyDict.ofItems (predictions.map fun p => (p.caseId, p.predictedLabel)) = candidateMap predictions := by
    refine PyDict.ofItems_of_nodup ?_
    rw [List.map_map]
    exact h.nodup
  have hcases : PyDict.ofItems (pool.cases.map fun c => (c.caseId, c)) = pool.cases.map fun c => (c.caseId, c) := by
    refine PyDict.ofItems_of_nodup ?_
    rw [List.map_map]
    exact hids
  have houtcomes := outcomes_ok hbaseline hcandidate (fun c hc => (case_bounds (hvalid c hc)).1) hids
  have hsome : outcomesOf (baselineMap pool) (candidateMap predictions) pool.cases ≠ [] := by
    intro hnil
    have hperm := outcomesOf_perm (baselineMap pool) (candidateMap predictions) pool.cases
    rw [hnil] at hperm
    exact hne (List.map_eq_nil_iff.mp (List.nil_perm.mp hperm))
  unfold measureCandidate
  simp only [hbase, hcand, hcases, bind_ok, exists_unit, Except.ok.injEq]
  exact ⟨_, calculate_ok hbaseline, _, calculate_ok hcandidate, _, houtcomes, summary_valid hsome (kinds_outcomesOf _ _ _), rfl⟩

end

/-! ## Tasks -/

section
variable {E S : Type} {m : CandidateModel E S} {pool : RelationshipPool m.toReviewModel}

theorem matchesArtifactId_of (kind : String) (d : HexDigest) : matchesArtifactId kind (kind ++ "-" ++ digestPrefix 20 d.val) = true := by
  have hlength : kind.length + 1 = (kind ++ "-").toList.length := by
    rw [String.length_toList, String.length_append]
    rfl
  have hdrop : (kind ++ "-" ++ digestPrefix 20 d.val).toList.drop (kind.length + 1) = d.val.toList.take 20 := by
    rw [String.toList_append, hlength, List.drop_left, digestPrefix, String.toList_ofList]
  have hlead : (kind ++ "-").toList.isPrefixOf (kind ++ "-" ++ digestPrefix 20 d.val).toList = true := by
    rw [String.toList_append (t := digestPrefix 20 d.val)]
    exact List.isPrefixOf_iff_prefix.mpr (List.prefix_append _ _)
  rw [matchesArtifactId, hlead, hdrop, List.length_take, d.property.1, Bool.true_and]
  exact List.all_eq_true.mpr fun c hc => List.all_eq_true.mp d.property.2 c (List.mem_of_mem_take hc)

theorem checkDigest_val (d : HexDigest) : checkDigest d.val = .ok () := check_eq_ok.mpr (matchesSha256_val d)

/-- What a task and a report need of the fields of a pool. -/
theorem pool_fields (pool : RelationshipPool m.toReviewModel) :
    (matchesSlug ['.', '_', '-'] 2 159 pool.poolId = true ∧ matchesSlug ['.', '_', '-'] 2 119 pool.benchmarkId = true) ∧
      (1 ≤ pool.predicates.length ∧ pool.predicates.length ≤ 3) ∧ pool.predicates.Nodup ∧
      ∀ c ∈ pool.cases, sameSet ((pool.cases.filter fun other => other.edgeId = c.edgeId).map fun other => other.predicate)
        pool.predicates = true := by
  have hvalid := pool.valid
  unfold RelationshipPoolData.validate RelationshipPoolData.checkFields RelationshipPoolData.checkSample at hvalid
  simp only [bind_ok, exists_unit, check_eq_ok, decide_eq_true_eq, Bool.and_eq_true] at hvalid
  obtain ⟨⟨hpool, hbenchmark, -, -, -, hpredicates, -, -, -, -, -, -, -, hnodup, -⟩, -, -, -, hsample, -⟩ := hvalid
  obtain ⟨-, -, -, -, -, -, -, -, hedges⟩ := hsample
  exact ⟨⟨hpool, hbenchmark⟩, hpredicates, hnodup, List.all_eq_true.mp hedges⟩

/-- The evidence of the cases, in the order of their IDs. -/
def evidenceOf (pool : RelationshipPool m.toReviewModel) : List CaseEvidence :=
  (pool.cases.map RelationshipCase.toCaseEvidence).insertionSort fun a b => a.caseId ≤ b.caseId

theorem evidenceOf_perm (pool : RelationshipPool m.toReviewModel) :
    (evidenceOf pool).Perm (pool.cases.map RelationshipCase.toCaseEvidence) := List.perm_insertionSort _ _

theorem evidence_predicates (pool : RelationshipPool m.toReviewModel) (edgeId : String) :
    (((evidenceOf pool).filter fun c => c.edgeId = edgeId).map fun c => c.predicate).Perm
      ((pool.cases.filter fun c => c.edgeId = edgeId).map fun c => c.predicate) := by
  refine (((evidenceOf_perm pool).filter _).map _).trans (.of_eq ?_)
  rw [List.filter_map, List.map_map]
  rfl

theorem sameSet_perm {K : Type} [DecidableEq K] {first first' second : List K} (h : first.Perm first') :
    sameSet first second = sameSet first' second := by
  rw [Bool.eq_iff_iff, sameSet_iff, sameSet_iff]
  exact forall_congr' fun _ => by rw [h.mem_iff]

/-- The task of a pool. -/
def taskOf (pool : RelationshipPool m.toReviewModel) : CandidateEvaluationTask :=
  let payload : CandidateTaskPayload :=
    ⟨relationshipCaptureSha256 pool, pool.benchmarkId, pool.predicates, pool.cases.length, evidenceOf pool⟩
  ⟨payload, "candidate-task-" ++ digestPrefix 20 (candidateTaskSha256 m payload), candidateTaskSha256 m payload⟩

theorem taskOf_valid (pool : RelationshipPool m.toReviewModel) : (taskOf pool).validate m = .ok () := by
  obtain ⟨hne, hcases, hids⟩ := pool_cases pool
  obtain ⟨⟨-, hbenchmark⟩, hpredicates, hnodup, hedges⟩ := pool_fields pool
  have hperm := evidenceOf_perm pool
  have hlength : pool.cases.length = (evidenceOf pool).length := by
    rw [hperm.length_eq, List.length_map]
  have hidsPerm : ((evidenceOf pool).map fun c => c.caseId).Perm (pool.cases.map fun c => c.caseId) := by
    refine (hperm.map _).trans (.of_eq ?_)
    rw [List.map_map]
    rfl
  have hsorted : (evidenceOf pool).map (fun c => c.caseId) = ((evidenceOf pool).map fun c => c.caseId).insertionSort (· ≤ ·) := by
    have hmap := List.map_insertionSort (fun a b : CaseEvidence => a.caseId ≤ b.caseId) (· ≤ ·) (fun c : CaseEvidence => c.caseId)
      (pool.cases.map RelationshipCase.toCaseEvidence) fun _ _ _ _ => Iff.rfl
    unfold evidenceOf
    rw [hmap]
    exact (List.Pairwise.insertionSort_eq (List.pairwise_insertionSort _ _)).symm
  have hvalid : (evidenceOf pool).forM (CaseEvidence.validate m.toReviewModel) = .ok () := by
    refine listForM_ok.mpr fun e he => ?_
    obtain ⟨c, hc, rfl⟩ := List.mem_map.mp (hperm.subset he)
    have hcase := hcases c hc
    unfold RelationshipCase.validate at hcase
    simp only [bind_ok, exists_unit] at hcase
    exact hcase.2.2.1
  have hedge : ∀ e ∈ evidenceOf pool,
      sameSet (((evidenceOf pool).filter fun other => other.edgeId = e.edgeId).map fun other => other.predicate) pool.predicates = true := by
    intro e he
    obtain ⟨c, hc, rfl⟩ := List.mem_map.mp (hperm.subset he)
    rw [sameSet_perm (evidence_predicates pool c.edgeId)]
    exact hedges c hc
  have hall : sameSet ((evidenceOf pool).map fun e => e.predicate) pool.predicates = true := by
    refine sameSet_iff.mpr fun predicate => ⟨fun h => ?_, fun h => ?_⟩
    · obtain ⟨e, he, rfl⟩ := List.mem_map.mp h
      exact (sameSet_iff.mp (hedge e he) e.predicate).mp
        (List.mem_map_of_mem (f := fun e : CaseEvidence => e.predicate) (List.mem_filter.mpr ⟨he, decide_eq_true rfl⟩))
    · obtain ⟨c, hc⟩ := List.exists_mem_of_ne_nil _ hne
      have he := hperm.symm.subset (List.mem_map_of_mem hc)
      obtain ⟨other, hother, heq⟩ := List.mem_map.mp ((sameSet_iff.mp (hedge _ he) predicate).mpr h)
      exact List.mem_map.mpr ⟨other, (List.mem_filter.mp hother).1, heq⟩
  have hne' : evidenceOf pool ≠ [] := fun hnil => hne (List.length_eq_zero_iff.mp (hlength.trans (congrArg List.length hnil)))
  unfold CandidateEvaluationTask.validate
  simp only [bind_ok, exists_unit, check_eq_ok, Bool.and_eq_true, decide_eq_true_eq, Bool.not_eq_true', List.isEmpty_eq_false_iff]
  exact ⟨matchesArtifactId_of "candidate-task" _, checkDigest_val _, checkDigest_val _, hbenchmark, hpredicates,
    ⟨List.length_pos_iff.mpr hne, hne'⟩, hvalid, hlength, hidsPerm.nodup_iff.mpr hids, hsorted, hnodup, hall,
    List.all_eq_true.mpr hedge, rfl, rfl⟩

theorem build_ok (hadjudicated : pool.adjudication.isSome) : buildCandidateEvaluationTask m pool = .ok (taskOf pool) := by
  unfold buildCandidateEvaluationTask
  simp only [bind_ok, exists_unit, check_eq_ok, Except.ok.injEq]
  exact ⟨hadjudicated, taskOf_valid pool, rfl⟩

end

/-! ## The report -/

section
variable {E S : Type} {m : CandidateModel E S} {pool : RelationshipPool m.toReviewModel} {batch : CandidatePredictionBatch m}
  {predictions : List CandidatePrediction}

theorem totalCount_confusion (pairs : List (RelationshipLabel × RelationshipLabel)) :
    totalCount (agreementConfusion relationshipLabels pairs) = pairs.length := by
  have hscale := onScale_labels pairs
  rw [← matrixCount_confusion hscale]
  unfold totalCount agreementConfusion matrixCount
  rw [List.map_map]
  refine congrArg List.sum (List.map_congr_left fun u hu => ?_)
  rw [Function.comp_apply, List.map_map]
  exact congrArg List.sum (List.map_congr_left fun v hv => (confusionCell_of_mem pairs hu hv).symm)

theorem checkLabelMatrix_ok (name : String) {count : ℕ} (pairs : List (RelationshipLabel × RelationshipLabel)) (h : pairs.length = count) :
    checkLabelMatrix name (agreementConfusion relationshipLabels pairs) count = .ok () := by
  unfold checkLabelMatrix
  simp only [bind_ok, exists_unit, check_eq_ok, decide_eq_true_eq]
  exact ⟨isComplete_confusion _ _, (totalCount_confusion pairs).trans h⟩

theorem length_outcomesOf (d d' : List (String × RelationshipLabel)) (cases : List RelationshipCase) :
    (outcomesOf d d' cases).length = cases.length := (outcomesOf_perm d d' cases).length_eq.trans (List.length_map _)

theorem ids_outcomesOf (d d' : List (String × RelationshipLabel)) (cases : List RelationshipCase) :
    ((outcomesOf d d' cases).map (·.caseId)).Perm (cases.map fun c => c.caseId) := by
  refine ((outcomesOf_perm d d' cases).map _).trans (.of_eq ?_)
  rw [List.map_map]
  rfl

/-- What holds of a comparison of the predictions with a pool. -/
structure Conserved (report : RelationshipCandidateComparisonReport S) (cases : List RelationshipCase)
    (predictions : List CandidatePrediction) : Prop where
  caseIds : (report.outcomes.map (·.caseId)).Perm (cases.map fun c => c.caseId)
  described : ∀ o ∈ report.outcomes, ∃ c ∈ cases, ∃ p ∈ predictions, c.caseId = o.caseId ∧ p.caseId = o.caseId ∧
    c.goldLabel = some o.goldLabel ∧ o.baselineLabel = c.systemPrediction.label ∧ o.candidateLabel = p.predictedLabel ∧
    o.predicate = c.predicate ∧ o.sourcePair = c.sourcePair ∧ o.outcome = outcomeKind o.baselineLabel o.candidateLabel o.goldLabel
  paired : report.pairedOutcomes = pairedSummary report.outcomes
  partition : report.pairedOutcomes.unchangedCorrect + report.pairedOutcomes.unchangedIncorrect + report.pairedOutcomes.improvements +
    report.pairedOutcomes.regressions + report.pairedOutcomes.changedIncorrect = cases.length
  disagreements : report.pairedOutcomes.labelDisagreements =
    report.pairedOutcomes.improvements + report.pairedOutcomes.regressions + report.pairedOutcomes.changedIncorrect
  transitions : report.pairedOutcomes.labelDisagreements = offDiagonalSum relationshipLabels report.predictionTransitionMatrix
  overall : SliceConserved report.overall report.outcomes
  predicates : Partitions (·.predicate) report.predicates report.outcomes
  sourcePairs : Partitions (fun o => o.sourcePair.1 ++ "+" ++ o.sourcePair.2) report.sourcePairs report.outcomes
  baselineMatrix : LabelsCounted report.baselineConfusionMatrix report.overall.baseline
    (fun label => report.outcomes.countP fun o => o.goldLabel = label) fun label => report.outcomes.countP fun o => o.baselineLabel = label
  candidateMatrix : LabelsCounted report.candidateConfusionMatrix report.overall.candidate
    (fun label => report.outcomes.countP fun o => o.goldLabel = label) fun label => report.outcomes.countP fun o => o.candidateLabel = label

/-- The report of measurements. -/
def reportOf (pool : RelationshipPool m.toReviewModel) (task : CandidateEvaluationTask) (batch : CandidatePredictionBatch m)
    (completedAt : Datetime) (adjudication : AdjudicationProvenance) (latency : CandidateLatencyMetrics) :
    RelationshipCandidateComparisonReport S :=
  let d := baselineMap pool
  let d' := candidateMap batch.predictions
  let goldPoolHash := canonicalSha256 m.digest (m.dumpPool pool.toRelationshipPoolData)
  { reportId := pool.poolId ++ "-candidate-" ++ digestPrefix 12 (reportIdentity m goldPoolHash batch.batchSha256)
    generatedAt := completedAt
    goldPoolId := pool.poolId
    goldPoolSha256 := goldPoolHash
    sourceCaptureSha256 := task.sourceCaptureSha256
    taskId := task.taskId
    taskSha256 := task.taskSha256
    predictionBatchId := batch.batchId
    predictionBatchSha256 := batch.batchSha256
    baselineRelationshipRuleVersion := pool.relationshipRuleVersion
    candidateSystem := batch.system
    adjudication
    caseCount := pool.cases.length
    overall := sliceComparison d d' pool.cases
    predicates := comparedBy (fun a b => a.text ≤ b.text) (fun c => c.predicate) d d' pool.cases
    sourcePairs := comparedBy (· ≤ ·) (fun c => c.pairKey) d d' pool.cases
    baselineConfusionMatrix := agreementConfusion relationshipLabels (pool.cases.map (labelsIn d))
    candidateConfusionMatrix := agreementConfusion relationshipLabels (pool.cases.map (labelsIn d'))
    predictionTransitionMatrix := transitionMatrix (outcomesOf d d' pool.cases)
    pairedOutcomes := pairedSummary (outcomesOf d d' pool.cases)
    candidateLatency := latency
    outcomes := outcomesOf d d' pool.cases }

theorem reportId_short {poolId digest : String} (h : matchesSlug ['.', '_', '-'] 2 159 poolId = true) :
    1 ≤ (poolId ++ "-candidate-" ++ digestPrefix 12 digest).length ∧ (poolId ++ "-candidate-" ++ digestPrefix 12 digest).length ≤ 240 := by
  have hpool := length_of_matchesSlug h
  have hdigest := length_digestPrefix_le 12 digest
  have hmark : "-candidate-".length = 11 := by decide
  rw [String.length_append, String.length_append, hmark]
  omega

theorem reportOf_valid (pool : RelationshipPool m.toReviewModel) (batch : CandidatePredictionBatch m)
    (adjudication : AdjudicationProvenance) {task : CandidateEvaluationTask} {completedAt : Datetime}
    {latency : CandidateLatencyMetrics} (htask : task.validate m = .ok ()) (htime : completedAt.utcoffset.isSome)
    (hlatency : latency.caseCount = pool.cases.length) :
    (reportOf pool task batch completedAt adjudication latency).validate m = .ok () := by
  obtain ⟨hne, -, hids⟩ := pool_cases pool
  obtain ⟨⟨hpool, -⟩, -⟩ := pool_fields pool
  have hbatch := batch.valid
  unfold CandidateEvaluationTask.validate at htask
  unfold CandidatePredictionBatchData.validate at hbatch
  simp only [bind_ok, exists_unit, check_eq_ok, decide_eq_true_eq] at htask hbatch
  unfold RelationshipCandidateComparisonReport.validate
  simp only [bind_ok, exists_unit, check_eq_ok, Bool.and_eq_true, decide_eq_true_eq]
  refine ⟨reportId_short hpool, checkDigest_val _, htask.2.2.1, htask.1, htask.2.1, hbatch.1, hbatch.2.1, List.length_pos_iff.mpr hne,
    htime, List.length_map _, length_outcomesOf _ _ _, hlatency, length_outcomesOf _ _ _, ?_, checkLabelMatrix_ok _ _ (List.length_map _),
    checkLabelMatrix_ok _ _ (List.length_map _), checkLabelMatrix_ok _ _ ((List.length_map _).trans (length_outcomesOf _ _ _)), rfl⟩
  exact (ids_outcomesOf _ _ _).nodup_iff.mpr hids

theorem LabelsCounted.congr {matrix : List (RelationshipLabel × List (RelationshipLabel × ℕ))} {s : RelationshipSliceMetrics}
    {gold gold' predicted predicted' : RelationshipLabel → ℕ} (h : LabelsCounted matrix s gold predicted)
    (hgold : ∀ label, gold label = gold' label) (hpredicted : ∀ label, predicted label = predicted' label) :
    LabelsCounted matrix s gold' predicted' := by
  rw [← funext hgold, ← funext hpredicted]
  exact h

theorem countP_outcomesOf (d d' : List (String × RelationshipLabel)) (cases : List RelationshipCase) (p : CandidateCaseOutcome → Bool) :
    (outcomesOf d d' cases).countP p = cases.countP fun c => p (outcomeIn d d' c) := by
  rw [(outcomesOf_perm d d' cases).countP_eq, List.countP_map]
  rfl

theorem reportOf_conserved {task : CandidateEvaluationTask} {completedAt : Datetime} {adjudication : AdjudicationProvenance}
    {latency : CandidateLatencyMetrics} (hadjudicated : pool.adjudication.isSome) (h : Covers pool batch.predictions) :
    Conserved (reportOf pool task batch completedAt adjudication latency) pool.cases batch.predictions := by
  obtain ⟨hne, -, -⟩ := pool_cases pool
  have hkinds := kinds_partition _ (kinds_outcomesOf (baselineMap pool) (candidateMap batch.predictions) pool.cases)
  refine ⟨ids_outcomesOf _ _ _, fun o ho => ?_, rfl, hkinds.1.trans (length_outcomesOf _ _ _), hkinds.2, disagreements_off_diagonal _,
    (slice_conserved _ _ hne).perm (outcomesOf_perm _ _ _).symm, partitions_comparedBy _ _ fun _ => rfl,
    partitions_comparedBy _ _ fun _ => rfl, (labels_counted _).congr (fun label => ?_) fun label => ?_,
    (labels_counted _).congr (fun label => ?_) fun label => ?_⟩
  · obtain ⟨c, hc, rfl⟩ := List.mem_map.mp ho
    rw [List.mem_insertionSort] at hc
    obtain ⟨p, hp, hid, hget⟩ := exists_prediction h hc
    refine ⟨c, hc, p, hp, rfl, hid, gold_reviewed hadjudicated hc, ?_, ?_, rfl, rfl, rfl⟩
    · show labelIn (baselineMap pool) c = _
      rw [labelIn, labelIn_baseline hc]
      rfl
    · show labelIn (candidateMap batch.predictions) c = _
      rw [labelIn, hget]
      rfl
  all_goals
    refine Eq.trans ?_ (countP_outcomesOf _ _ _ _).symm
    exact List.countP_map

end

/-! ## Main theorem -/

/-- **Candidate comparison.** An adjudicated pool has a task, and a batch for it
that predicts each of the cases has a report. Its validators accept it, and its
counts, matrices, rates and slices balance. -/
theorem candidate_comparison_conserved {E S : Type} {m : CandidateModel E S} (pool : RelationshipPool m.toReviewModel)
    (hadjudicated : pool.adjudication.isSome) :
    ∃ task, buildCandidateEvaluationTask m pool = .ok task ∧
      ∀ (batch : CandidatePredictionBatch m) (completedAt : Datetime), completedAt.utcoffset.isSome →
        batch.taskId = task.taskId → batch.taskSha256 = task.taskSha256 →
        (∀ id, id ∈ (batch.predictions.map fun p => p.caseId) ↔ id ∈ pool.cases.map fun c => c.caseId) →
        ∃ report, scoreRelationshipCandidate pool task batch completedAt = .ok report ∧ report.validate m = .ok () ∧
          Conserved report pool.cases batch.predictions := by
  refine ⟨taskOf pool, build_ok hadjudicated, fun batch completedAt htime hid hsha hids => ?_⟩
  have hbatch := batch.valid
  unfold CandidatePredictionBatchData.validate at hbatch
  simp only [bind_ok, exists_unit, check_eq_ok, decide_eq_true_eq, Bool.not_eq_true', List.isEmpty_eq_false_iff, List.all_eq_true] at hbatch
  obtain ⟨-, -, -, -, hsome, -, hnonneg, -, hnodup, -⟩ := hbatch
  have hcovers : Covers pool batch.predictions := ⟨hnodup, hids⟩
  obtain ⟨hne, -, hcaseIds⟩ := pool_cases pool
  obtain ⟨latency, hlatency, hcount⟩ := latency_ok hsome hnonneg
  have hlength : batch.predictions.length = pool.cases.length := by
    have hperm := (List.perm_ext_iff_of_nodup hnodup hcaseIds).mpr hids
    rw [← List.length_map fun p : CandidatePrediction => p.caseId, hperm.length_eq, List.length_map]
  obtain ⟨adjudication, hadjudication⟩ := Option.isSome_iff_exists.mp hadjudicated
  have hvalid := reportOf_valid pool batch adjudication (taskOf_valid pool) htime (hcount.trans hlength)
  refine ⟨reportOf pool (taskOf pool) batch completedAt adjudication latency, ?_, hvalid, reportOf_conserved hadjudicated hcovers⟩
  have hpredicates := comparisons_ok (fun a b : ClaimPredicate => a.text ≤ b.text) (fun c => c.predicate)
    (baselineMap pool) (candidateMap batch.predictions) pool.cases
  have hsourcePairs := comparisons_ok (fun a b : String => a ≤ b) (fun c => c.pairKey)
    (baselineMap pool) (candidateMap batch.predictions) pool.cases
  unfold scoreRelationshipCandidate
  rw [hadjudication]
  simp only [bind_ok, build_ok hadjudicated, measure_ok hadjudicated hcovers, exists_unit, check_eq_ok, decide_eq_true_eq,
    Bool.and_eq_true, Except.ok.injEq]
  exact ⟨_, rfl, rfl, ⟨hid, hsha⟩, _, rfl, _, comparison_slices _ _ hne, _, hpredicates, _, hsourcePairs, _, hlatency,
    hvalid, rfl⟩

/-! ## A candidate for one pair of signals -/

namespace OnePair

open MeasuredEdge

/-- Systems are named, and artifacts are dumped as their IDs. -/
def candidates : CandidateModel Report String where
  toReviewModel := reports
  dumpTask := fun task => .str task.benchmarkId
  dumpBatch := fun batch => .str batch.taskId

def gold : RelationshipPool candidates.toReviewModel where
  toRelationshipPoolData :=
    { Reviewed.relationship "Cara" .corroborates with
      schemaVersion := .adjudicated
      adjudication := some {
        independentReviewers := ("Ana", "Ben")
        reviewPoolSha256s := (definitionHash, definitionHash)
        agreementReportId := "quakes-agreement"
        observedAgreement := Binary64.Float64.ofInt 0
        cohenKappa := none
        adjudicator := "Cara"
        adjudicatedAt := moment
        adjudicationDecisionCount := 1 } }
  normalized := by decide +kernel
  valid := by decide +kernel

def batch : CandidatePredictionBatch candidates where
  taskId := (taskOf gold).taskId
  taskSha256 := (taskOf gold).taskSha256
  generatedAt := moment
  system := "words-in-common"
  predictions := [⟨"pair-38ed5a90093322df04d3", .corroborates, 12⟩]
  batchId := "candidate-batch-e3b0c44298fc1c149afb"
  batchSha256 := (digest "").val
  valid := by decide +kernel

end OnePair

open OnePair in
/-- The candidate improves on the deployed rule, which abstains. -/
theorem candidate_comparison_conserved_one_pair :
    ∃ task, buildCandidateEvaluationTask candidates gold = .ok task ∧
      ∃ report, scoreRelationshipCandidate gold task batch MeasuredEdge.moment = .ok report ∧ report.validate candidates = .ok () ∧
        Conserved report gold.cases batch.predictions := by
  obtain ⟨task, htask, hreport⟩ := candidate_comparison_conserved gold rfl
  have hsame : taskOf gold = task := Except.ok.inj ((build_ok rfl).symm.trans htask)
  subst hsame
  exact ⟨_, htask, hreport batch MeasuredEdge.moment rfl rfl rfl fun _ => Iff.rfl⟩

end AtlasPulse.CandidateComparison
