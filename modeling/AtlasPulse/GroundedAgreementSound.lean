import AtlasPulse.GroundedAgreement
import AtlasPulse.RelationshipAgreementSound

/-!
# Agreement of grounded-answer reviews

Two complete reviews of one batch of grounded answers have an agreement report.
Its dimensions count the disputed fields by columns, its disagreements by rows.
-/

namespace AtlasPulse.GroundedAgreement

open PyTime Kappa ExactAgreement

/-! ## Judgments -/

theorem matchesId_ne_empty {lead : String} {count : ℕ} {ok : Char → Bool} {id : String} (hlead : lead ≠ "")
    (h : matchesId lead count ok id = true) : id ≠ "" := by
  rintro rfl
  unfold matchesId at h
  rw [Bool.and_eq_true] at h
  have hnil := List.prefix_nil.mp (List.isPrefixOf_iff_prefix.mp h.1)
  exact hlead (String.toList_eq_nil_iff.mp hnil)

/-- The fields that a judgment of a claim grades. -/
def grades (claimId : Option String) : Dimension → Bool
  | .supportGrade => claimId.isSome
  | .citationQuality => claimId.isSome
  | .answerRelevance => claimId = some "claim-01"
  | .abstentionAppropriate => claimId.isNone

theorem isSome_value {j : Judgment} (h : j.validate = .ok ()) (d : Dimension) : (j.value d).isSome = grades j.claimId d := by
  unfold Judgment.validate at h
  simp only [bind_ok, exists_unit, check_eq_ok] at h
  obtain ⟨-, -, -, -, -, -, h⟩ := h
  cases hclaim : j.claimId with
  | none =>
    simp only [hclaim, check_eq_ok, Bool.and_eq_true, Option.isNone_iff_eq_none] at h
    obtain ⟨⟨⟨hsupport, hcitation⟩, hrelevance⟩, habstention⟩ := h
    cases d <;> simp [Judgment.value, grades, hsupport, hcitation, hrelevance, habstention]
  | some claimId =>
    by_cases hfirst : claimId = "claim-01"
    · simp only [hclaim, hfirst, if_true, bind_ok, exists_unit, check_eq_ok, Bool.and_eq_true, Option.isNone_iff_eq_none] at h
      obtain ⟨⟨hsupport, hcitation⟩, hrelevance, habstention⟩ := h
      cases d <;> simp [Judgment.value, grades, hsupport, hcitation, hrelevance, habstention, hfirst]
    · simp only [hclaim, hfirst, if_false, bind_ok, exists_unit, check_eq_ok, Bool.and_eq_true, Option.isNone_iff_eq_none] at h
      obtain ⟨⟨hsupport, hcitation⟩, hrelevance, habstention⟩ := h
      cases d <;> simp [Judgment.value, grades, hsupport, hcitation, hrelevance, habstention, hfirst]

theorem value_mem_scale {j : Judgment} (h : j.validate = .ok ()) {d : Dimension} {value : String} (hvalue : j.value d = some value) :
    value ∈ d.scale := by
  unfold Judgment.validate at h
  simp only [bind_ok, exists_unit, check_eq_ok] at h
  obtain ⟨-, -, hsupport, hcitation, hrelevance, -⟩ := h
  cases d with
  | supportGrade =>
    obtain ⟨grade, hgrade, rfl⟩ := Option.map_eq_some_iff.mp hvalue
    rw [hgrade, Option.all_some, decide_eq_true_eq] at hsupport
    interval_cases grade <;> decide
  | citationQuality =>
    obtain ⟨grade, hgrade, rfl⟩ := Option.map_eq_some_iff.mp hvalue
    rw [hgrade, Option.all_some, decide_eq_true_eq] at hcitation
    interval_cases grade <;> decide
  | answerRelevance =>
    obtain ⟨grade, hgrade, rfl⟩ := Option.map_eq_some_iff.mp hvalue
    rw [hgrade, Option.all_some, decide_eq_true_eq] at hrelevance
    interval_cases grade <;> decide
  | abstentionAppropriate =>
    obtain ⟨appropriate, -, rfl⟩ := Option.map_eq_some_iff.mp hvalue
    cases appropriate <;> decide

/-- Judgments of one row agree on what they are about. -/
theorem claim_of_identity {j j' : Judgment} (h : j.validate = .ok ()) (h' : j'.validate = .ok ()) (hid : j.identity = j'.identity) :
    j.caseId = j'.caseId ∧ j.claimId = j'.claimId := by
  obtain ⟨hcase, hclaim⟩ := Prod.mk.inj hid
  refine ⟨hcase, ?_⟩
  have hne {j : Judgment} (h : j.validate = .ok ()) : ∀ claimId ∈ j.claimId, claimId ≠ "" := by
    intro claimId hmem
    unfold Judgment.validate at h
    simp only [bind_ok, exists_unit, check_eq_ok] at h
    exact matchesId_ne_empty (by decide) ((Option.all_eq_true _ _).mp h.2.1 claimId hmem)
  cases hone : j.claimId with
  | none =>
    cases hother : j'.claimId with
    | none => rfl
    | some claimId =>
      rw [hone, hother] at hclaim
      exact absurd hclaim.symm (hne h' claimId hother)
  | some claimId =>
    cases hother : j'.claimId with
    | none =>
      rw [hone, hother] at hclaim
      exact absurd hclaim (hne h claimId hone)
    | some claimId' =>
      rw [hone, hother] at hclaim
      exact congrArg some hclaim

/-! ## Rows of two reviews -/

theorem review_judgments (review : ReviewedBatch) : review.judgments ≠ [] ∧ (∀ j ∈ review.judgments, j.validate = .ok ()) ∧
    (review.judgments.map Judgment.identity).Nodup := by
  have hvalid := review.valid
  unfold ReviewData.validate at hvalid
  simp only [bind_ok, exists_unit, check_eq_ok, listForM_ok, Bool.and_eq_true, decide_eq_true_eq, Bool.not_eq_true',
    List.isEmpty_eq_false_iff] at hvalid
  exact ⟨hvalid.1, hvalid.2.1, hvalid.2.2.1.1⟩

variable {first second : ReviewedBatch} {rows : List (Judgment × Judgment)}

/-- The rows of two reviews, one for each judgment of the one and of the other. -/
structure Pairing (first second : ReviewedBatch) (rows : List (Judgment × Judgment)) : Prop where
  inFirst : rows.map Prod.fst = first.judgments
  inSecond : (rows.map Prod.snd).Perm second.judgments
  same : ∀ row ∈ rows, row.1.identity = row.2.identity

theorem pairing_of_reviewPairs (h : reviewPairs first second = .ok rows) : Pairing first second rows := by
  unfold reviewPairs at h
  simp only [bind_ok, exists_unit, check_eq_ok, Except.ok.injEq] at h
  obtain ⟨hset, rows', hrows, -, rfl⟩ := h
  obtain ⟨hfirst, hmatched⟩ := matched_rows hrows fun {item row} hok => by
    split at hok
    · rename_i other hother
      obtain rfl := Except.ok.inj hok
      exact ⟨rfl, hother⟩
    · cases hok
  obtain ⟨-, -, hids⟩ := review_judgments first
  obtain ⟨-, -, hids'⟩ := review_judgments second
  have hperm := partners_perm hfirst hmatched hids hids' fun b hb => (sameSet_iff.mp hset b.identity).mp (List.mem_map_of_mem hb)
  exact ⟨hfirst, hperm, fun row hrow => (hmatched row hrow).2.symm⟩

/-- A row of two reviews: valid judgments of one claim. -/
structure Matches (row : Judgment × Judgment) : Prop where
  firstValid : row.1.validate = .ok ()
  secondValid : row.2.validate = .ok ()
  caseId : row.1.caseId = row.2.caseId
  claimId : row.1.claimId = row.2.claimId

theorem matches_of_mem (h : Pairing first second rows) {row : Judgment × Judgment} (hrow : row ∈ rows) : Matches row := by
  obtain ⟨-, hvalid, -⟩ := review_judgments first
  obtain ⟨-, hvalid', -⟩ := review_judgments second
  have hone := hvalid row.1 (h.inFirst ▸ List.mem_map_of_mem hrow)
  have hother := hvalid' row.2 (h.inSecond.subset (List.mem_map_of_mem hrow))
  obtain ⟨hcase, hclaim⟩ := claim_of_identity hone hother (h.same row hrow)
  exact ⟨hone, hother, hcase, hclaim⟩

theorem rows_ne_nil (h : Pairing first second rows) : rows ≠ [] := by
  obtain ⟨hne, -⟩ := review_judgments first
  rintro rfl
  exact hne h.inFirst.symm

theorem isSome_same {row : Judgment × Judgment} (h : Matches row) (d : Dimension) : (row.1.value d).isSome = (row.2.value d).isSome := by
  rw [isSome_value h.firstValid, isSome_value h.secondValid, h.claimId]

/-! ## Disputes -/

def isDisputed (row : Judgment × Judgment) (d : Dimension) : Bool := (row.1.value d).isSome && row.1.value d ≠ row.2.value d

def disputed (row : Judgment × Judgment) : List Dimension := reviewDimensions.filter (isDisputed row)

theorem disputedFields_ok {row : Judgment × Judgment} (h : Matches row) : disputedFields row.1 row.2 = .ok (disputed row) := by
  unfold disputedFields
  simp only [bind_ok, exists_unit, check_eq_ok, List.all_eq_true, decide_eq_true_eq]
  exact ⟨fun d _ => isSome_same h d, rfl⟩

/-- The disagreement of a row whose fields are disputed. -/
def disputeOf (row : Judgment × Judgment) : Option ReviewDisagreement :=
  if disputed row = [] then none else some ⟨row.1.caseId, row.1.claimId, disputed row, row.1, row.2⟩

theorem disputeOf_some {row : Judgment × Judgment} {d : ReviewDisagreement} (h : disputeOf row = some d) :
    disputed row ≠ [] ∧ d.disputedFields = disputed row ∧ d.identity = row.1.identity := by
  unfold disputeOf at h
  split at h
  · cases h
  · rename_i hne
    rw [← Option.some.inj h]
    exact ⟨hne, rfl, rfl⟩

theorem disagreementOf_ok {row : Judgment × Judgment} (h : Matches row) : disagreementOf row = .ok (disputeOf row) := by
  unfold disagreementOf disputeOf
  simp only [bind_ok]
  refine ⟨_, disputedFields_ok h, ?_⟩
  by_cases hnone : disputed row = []
  · rw [if_pos hnone, if_pos hnone]
  · rw [if_neg hnone, if_neg hnone]
    have hvalid := h.firstValid
    unfold Judgment.validate at hvalid
    simp only [bind_ok, exists_unit, check_eq_ok] at hvalid
    simp only [bind_ok, exists_unit, ReviewDisagreement.validate, check_eq_ok, disputedFields_ok h, Bool.and_eq_true,
      decide_eq_true_eq, Bool.not_eq_true', List.isEmpty_eq_false_iff, Except.ok.injEq]
    exact ⟨⟨hvalid.1, hvalid.2.1, hnone, ⟨⟨⟨trivial, trivial⟩, h.caseId.symm⟩, h.claimId.symm⟩, _, rfl, rfl⟩, trivial⟩

theorem disputes_ids (rows : List (Judgment × Judgment)) :
    ((rows.filterMap disputeOf).map ReviewDisagreement.identity).Sublist ((rows.map Prod.fst).map Judgment.identity) := by
  induction rows with
  | nil => exact List.Sublist.refl _
  | cons row rows ih =>
    rw [List.filterMap_cons, List.map_cons, List.map_cons]
    cases hdispute : disputeOf row with
    | none => exact ih.cons _
    | some d =>
      rw [List.map_cons, (disputeOf_some hdispute).2.2]
      exact ih.cons_cons _

theorem disputes_fields (rows : List (Judgment × Judgment)) :
    ((rows.filterMap disputeOf).map (·.disputedFields.length)).sum = (rows.map fun row => (disputed row).length).sum := by
  induction rows with
  | nil => rfl
  | cons row rows ih =>
    rw [List.filterMap_cons, List.map_cons, List.sum_cons, ← ih]
    cases hdispute : disputeOf row with
    | none =>
      unfold disputeOf at hdispute
      split at hdispute
      · rename_i hnone
        rw [hnone, List.length_nil, Nat.zero_add]
      · cases hdispute
    | some d => rw [List.map_cons, List.sum_cons, (disputeOf_some hdispute).2.1]

/-! ## Dimensions -/

/-- How often a reviewer gives a value to a field. -/
def valueCount (review : ReviewedBatch) (d : Dimension) (value : String) : ℕ := review.judgments.countP fun j => j.value d = some value

theorem mem_dimensionValues {d : Dimension} {pair : String × String} : pair ∈ dimensionValues rows d ↔
    ∃ row ∈ rows, row.1.value d = some pair.1 ∧ row.2.value d = some pair.2 := by
  unfold dimensionValues
  rw [List.mem_filterMap]
  refine exists_congr fun row => and_congr_right fun _ => ?_
  cases row.1.value d <;> cases row.2.value d <;> simp [Prod.ext_iff]

theorem onScale_values (h : Pairing first second rows) (d : Dimension) : OnScale d.scale (dimensionValues rows d) := by
  refine ⟨by cases d <;> decide, fun pair hpair => ?_⟩
  obtain ⟨row, hrow, hone, hother⟩ := mem_dimensionValues.mp hpair
  have hmatches := matches_of_mem h hrow
  exact ⟨value_mem_scale hmatches.firstValid hone, value_mem_scale hmatches.secondValid hother⟩

theorem firsts_values (h : Pairing first second rows) (d : Dimension) (value : String) :
    firsts (dimensionValues rows d) value = valueCount first d value := by
  rw [valueCount, ← h.inFirst, firsts, dimensionValues, List.countP_filterMap, List.countP_map]
  refine List.countP_congr fun row hrow => ?_
  have hsame := isSome_same (matches_of_mem h hrow) d
  rw [Function.comp_apply]
  cases hone : row.1.value d <;> cases hother : row.2.value d <;> simp [hone, hother] at hsame ⊢

theorem seconds_values (h : Pairing first second rows) (d : Dimension) (value : String) :
    seconds (dimensionValues rows d) value = valueCount second d value := by
  rw [valueCount, ← h.inSecond.countP_eq, seconds, dimensionValues, List.countP_filterMap, List.countP_map]
  refine List.countP_congr fun row hrow => ?_
  have hsame := isSome_same (matches_of_mem h hrow) d
  rw [Function.comp_apply]
  cases hone : row.1.value d <;> cases hother : row.2.value d <;> simp [hone, hother] at hsame ⊢

/-- The pairs that differ are the disputed fields of the dimension. -/
theorem disagreements_values (h : Pairing first second rows) (d : Dimension) :
    (dimensionValues rows d).length - agreements (dimensionValues rows d) = rows.countP fun row => isDisputed row d := by
  rw [← length_filter_ne, ← List.countP_eq_length_filter, dimensionValues, List.countP_filterMap]
  refine List.countP_congr fun row hrow => ?_
  have hsame := isSome_same (matches_of_mem h hrow) d
  unfold isDisputed
  cases hone : row.1.value d <;> cases hother : row.2.value d <;> simp [hone, hother] at hsame ⊢

/-- What `_dimension_agreement` computes of values. -/
def agreementOf (d : Dimension) (values : List (String × String)) : DimensionAgreement :=
  ⟨d, d.scale, values.length, agreements values, values.length - agreements values, observed values, expected d.scale values,
    kappa (observed values) (expected d.scale values), agreementConfusion d.scale values⟩

theorem dimensionAgreement_ok {d : Dimension} {values : List (String × String)} (h : OnScale d.scale values) (hne : values ≠ []) :
    dimensionAgreement d values = .ok (agreementOf d values) := by
  have hrate : observed values = (diagonalSum d.scale (agreementConfusion d.scale values) : ℚ) /
      matrixCount d.scale (agreementConfusion d.scale values) := by
    rw [diagonalSum_confusion h, matrixCount_confusion h, observed]
  have hvalid : (agreementOf d values).validate = .ok () := by
    unfold DimensionAgreement.validate agreementOf
    simp only [bind_ok, exists_unit, check_eq_ok, decide_eq_true_eq, Bool.and_eq_true, ← hrate, marginalAgreement_confusion h]
    exact ⟨by cases d <;> decide, List.length_pos_iff.mpr hne, between_iff.mpr ⟨observed_nonneg values, observed_le_one values⟩,
      between_iff.mpr ⟨expected_nonneg d.scale values, expected_le_one h⟩, all_kappa h hne, trivial,
      Nat.add_sub_of_le List.countP_le_length, isComplete_confusion d.scale values,
      ⟨matrixCount_confusion h, diagonalSum_confusion h⟩, near_self _, near_self _, checkKappa_self _ _ _⟩
  have hsome : check (!values.isEmpty) "cannot measure agreement over an empty dimension" = .ok () := by
    rw [check_eq_ok, Bool.not_eq_true', List.isEmpty_eq_false_iff]
    exact hne
  unfold dimensionAgreement
  simp only [bind_ok, exists_unit, Except.ok.injEq]
  exact ⟨hsome, hvalid, rfl⟩

/-- Exchanged values have the same rates and the transposed matrix. -/
theorem dimensionAgreement_swap {d : Dimension} {values : List (String × String)} (h : OnScale d.scale values) :
    dimensionAgreement d (values.map Prod.swap) =
      (dimensionAgreement d values).map fun a => { a with confusionMatrix := transpose d.scale a.confusionMatrix } := by
  by_cases hne : values = []
  · rw [hne]
    rfl
  rw [dimensionAgreement_ok h hne, dimensionAgreement_ok h.swap fun hnil => hne (List.map_eq_nil_iff.mp hnil), Except.map]
  unfold agreementOf
  rw [agreements_swap, observed_swap, expected_swap, List.length_map, agreementConfusion_swap]

/-! ## The report -/

/-- What holds of the agreement report of two reviews. -/
structure Consistent (report : AgreementReport) (first second : ReviewedBatch) : Prop where
  exact : 0 ≤ report.judgments.exactJudgmentAgreement ∧ report.judgments.exactJudgmentAgreement ≤ 1
  margins : ∀ item ∈ report.dimensions, Marginals item.1.scale item.2.confusionMatrix (valueCount first item.1) (valueCount second item.1)
  rates : ∀ item ∈ report.dimensions, ExactAgreement.Bounded item.2.observedAgreement item.2.expectedAgreement item.2.cohenKappa
  covers : ∀ d, (∃ j ∈ first.judgments, (j.value d).isSome) → d ∈ report.dimensions.map Prod.fst

def judgmentsOf (rows : List (Judgment × Judgment)) : JudgmentAgreement :=
  let disagreements := rows.filterMap disputeOf
  ⟨rows.length, rows.length - disagreements.length, disagreements.length, (disagreements.map (·.disputedFields.length)).sum,
    ((rows.length - disagreements.length : ℕ) : ℚ) / rows.length⟩

def dimensionsOf (rows : List (Judgment × Judgment)) : List (Dimension × DimensionAgreement) :=
  (reviewDimensions.filter fun d => dimensionValues rows d ≠ []).map fun d => (d, agreementOf d (dimensionValues rows d))

/-- What the comparison derives of the rows of two reviews. -/
def reportOf (reviewers : String × String) (rows : List (Judgment × Judgment)) : AgreementReport :=
  ⟨reviewers, judgmentsOf rows, dimensionsOf rows, (rows.filterMap disputeOf).insertionSort fun a b => identityLe a.identity b.identity⟩

theorem exact_bounds (rows : List (Judgment × Judgment)) :
    0 ≤ (judgmentsOf rows).exactJudgmentAgreement ∧ (judgmentsOf rows).exactJudgmentAgreement ≤ 1 := by
  refine ⟨div_nonneg (Nat.cast_nonneg _) (Nat.cast_nonneg _), div_le_one_of_le₀ ?_ (Nat.cast_nonneg _)⟩
  exact_mod_cast Nat.sub_le _ _

theorem judgmentsOf_valid (hne : rows ≠ []) : (judgmentsOf rows).validate = .ok () := by
  have hfields : ∀ d ∈ rows.filterMap disputeOf, 1 ≤ d.disputedFields.length := by
    intro d hd
    obtain ⟨row, -, hdispute⟩ := List.mem_filterMap.mp hd
    obtain ⟨hsome, heq, -⟩ := disputeOf_some hdispute
    exact heq ▸ List.length_pos_iff.mpr hsome
  have hle : (rows.filterMap disputeOf).length ≤ ((rows.filterMap disputeOf).map (·.disputedFields.length)).sum := by
    have hsum := List.card_nsmul_le_sum ((rows.filterMap disputeOf).map (·.disputedFields.length)) 1 (by
      intro count hcount
      obtain ⟨d, hd, rfl⟩ := List.mem_map.mp hcount
      exact hfields d hd)
    rwa [List.length_map, nsmul_one, Nat.cast_id] at hsum
  have hzero : (rows.filterMap disputeOf).length = 0 ↔ ((rows.filterMap disputeOf).map (·.disputedFields.length)).sum = 0 := by
    constructor
    · intro hnil
      rw [List.length_eq_zero_iff.mp hnil]
      rfl
    · intro hsum
      omega
  unfold JudgmentAgreement.validate judgmentsOf
  simp only [bind_ok, exists_unit, check_eq_ok, decide_eq_true_eq]
  exact ⟨List.length_pos_iff.mpr hne, between_iff.mpr (exact_bounds rows), Nat.sub_add_cancel (List.length_filterMap_le _ _),
    decide_eq_decide.mpr hzero, hle, near_self _⟩

/-- Counted by rows or by columns, pairs are counted once. -/
theorem sum_countP_comm {α β : Type} (p : α → β → Bool) (l : List α) (r : List β) :
    (l.map fun a => r.countP (p a)).sum = (r.map fun b => l.countP fun a => p a b).sum := by
  induction l with
  | nil => simp
  | cons a l ih =>
    simp only [List.map_cons, List.sum_cons, ih, List.countP_cons, List.sum_map_add]
    rw [Nat.add_comm, Nat.add_left_cancel_iff, List.countP_eq_length_filter]
    clear ih
    induction r with
    | nil => rfl
    | cons b r ih =>
      rw [List.map_cons, List.sum_cons, ← ih, List.filter_cons]
      cases p a b <;> simp [Nat.add_comm]

theorem sum_filter_of_zero {α : Type} {p : α → Bool} {f : α → ℕ} {l : List α} (h : ∀ a ∈ l, p a = false → f a = 0) :
    ((l.filter p).map f).sum = (l.map f).sum := by
  induction l with
  | nil => rfl
  | cons a l ih =>
    obtain ⟨ha, hl⟩ := List.forall_mem_cons.mp h
    rw [List.filter_cons, List.map_cons, List.sum_cons, ← ih hl]
    by_cases hp : p a = true
    · rw [if_pos hp, List.map_cons, List.sum_cons]
    · rw [if_neg hp, ha (Bool.not_eq_true _ ▸ hp), Nat.zero_add]

theorem sum_disagreements (h : Pairing first second rows) :
    ((dimensionsOf rows).map (·.2.disagreementCount)).sum = (rows.map fun row => (disputed row).length).sum := by
  have hcolumn : (dimensionsOf rows).map (·.2.disagreementCount) =
      (reviewDimensions.filter fun d => dimensionValues rows d ≠ []).map fun d => rows.countP fun row => isDisputed row d := by
    unfold dimensionsOf
    rw [List.map_map]
    exact List.map_congr_left fun d _ => disagreements_values h d
  have hnone : ∀ d ∈ reviewDimensions, decide (dimensionValues rows d ≠ []) = false → rows.countP (fun row => isDisputed row d) = 0 := by
    intro d _ hd
    rw [← disagreements_values h d, not_not.mp (of_decide_eq_false hd)]
    rfl
  rw [hcolumn, sum_filter_of_zero hnone, sum_countP_comm fun d row => isDisputed row d]
  simp only [List.countP_eq_length_filter]
  rfl

/-- A field that is graded has its dimension. -/
theorem mem_dimensionsOf (h : Pairing first second rows) {d : Dimension} {j : Judgment} (hj : j ∈ first.judgments)
    (hgraded : (j.value d).isSome = true) : d ∈ (dimensionsOf rows).map Prod.fst := by
  rw [← h.inFirst] at hj
  obtain ⟨row, hrow, rfl⟩ := List.mem_map.mp hj
  have hother := isSome_same (matches_of_mem h hrow) d ▸ hgraded
  obtain ⟨value, hvalue⟩ := Option.isSome_iff_exists.mp hgraded
  obtain ⟨value', hvalue'⟩ := Option.isSome_iff_exists.mp hother
  have hvalues : (value, value') ∈ dimensionValues rows d := mem_dimensionValues.mpr ⟨row, hrow, hvalue, hvalue'⟩
  have hmem : d ∈ reviewDimensions := by cases d <;> decide
  unfold dimensionsOf
  rw [List.map_map]
  exact List.mem_map.mpr ⟨d, List.mem_filter.mpr ⟨hmem, decide_eq_true (List.ne_nil_of_mem hvalues)⟩, rfl⟩

theorem dimensionsOf_ne_nil (h : Pairing first second rows) : dimensionsOf rows ≠ [] := by
  obtain ⟨hne, hvalid, -⟩ := review_judgments first
  obtain ⟨j, hj⟩ := List.exists_mem_of_ne_nil _ hne
  obtain ⟨d, hd⟩ : ∃ d, grades j.claimId d = true := by
    cases j.claimId with
    | none => exact ⟨.abstentionAppropriate, rfl⟩
    | some claimId => exact ⟨.supportGrade, rfl⟩
  intro hnil
  have hmem := mem_dimensionsOf h hj ((isSome_value (hvalid j hj) d).trans hd)
  rw [hnil] at hmem
  cases hmem

theorem reportOf_valid {casefold : String → String} {reviewers : String × String} (h : Pairing first second rows)
    (hreviewers : checkReviewers casefold reviewers = .ok ()) : (reportOf reviewers rows).validate casefold = .ok () := by
  obtain ⟨-, -, hids⟩ := review_judgments first
  have hsorted : (reportOf reviewers rows).disagreements.Perm (rows.filterMap disputeOf) := List.perm_insertionSort _ _
  have hfields := (hsorted.map (·.disputedFields.length)).sum_eq
  unfold AgreementReport.validate
  simp only [bind_ok, exists_unit, check_eq_ok, Bool.and_eq_true, decide_eq_true_eq, Bool.not_eq_true', List.isEmpty_eq_false_iff,
    List.all_eq_true]
  refine ⟨hreviewers, dimensionsOf_ne_nil h, fun item hitem => ?_, ⟨sorted_keys ReviewDisagreement.identity _, ?_⟩, ?_, hfields, ?_⟩
  · obtain ⟨d, -, rfl⟩ := List.mem_map.mp hitem
    rfl
  · exact (hsorted.map ReviewDisagreement.identity).nodup_iff.mpr ((disputes_ids rows).nodup (h.inFirst ▸ hids))
  · exact List.length_insertionSort _ _
  · exact hfields.trans ((disputes_fields rows).trans (sum_disagreements h).symm)

theorem reportOf_consistent (reviewers : String × String) (h : Pairing first second rows) :
    Consistent (reportOf reviewers rows) first second := by
  refine ⟨exact_bounds rows, fun item hitem => ?_, fun item hitem => ?_, fun d hd => ?_⟩
  · obtain ⟨d, -, rfl⟩ := List.mem_map.mp hitem
    intro value hvalue
    rw [← firsts_values h, ← seconds_values h]
    exact marginals_confusion (onScale_values h d) value hvalue
  · obtain ⟨d, hd, rfl⟩ := List.mem_map.mp hitem
    exact bounded_rates (onScale_values h d) (of_decide_eq_true (List.mem_filter.mp hd).2)
  · obtain ⟨j, hj, hgraded⟩ := hd
    exact mem_dimensionsOf h hj hgraded

theorem canonicalReviews_reviewers {casefold : String → String} {one other : ReviewedBatch} {pair : ReviewedBatch × ReviewedBatch}
    (h : canonicalReviews casefold one other = .ok pair) : checkReviewers casefold (pair.1.reviewer, pair.2.reviewer) = .ok () := by
  unfold canonicalReviews at h
  simp only [bind_ok, exists_unit, check_eq_ok, decide_eq_true_eq, Except.ok.injEq] at h
  obtain ⟨-, -, hne, -, hpair⟩ := h
  refine checkReviewers_ok ?_ (namedBefore_canonicalPair hpair hne)
  rcases canonicalPair_cases casefold (fun review : ReviewedBatch => review.reviewer) one other with horder | horder
  · obtain rfl : (one, other) = pair := horder.symm.trans hpair
    exact hne
  · obtain rfl : (other, one) = pair := horder.symm.trans hpair
    exact hne.symm

/-- **Grounded-answer reviews.** Two complete reviews of one batch have an
agreement report, and it is consistent. -/
theorem compare_consistent {casefold : String → String} {one other : ReviewedBatch} {pair : ReviewedBatch × ReviewedBatch}
    (hreviews : canonicalReviews casefold one other = .ok pair) (hrows : reviewPairs pair.1 pair.2 = .ok rows) :
    ∃ report, compareGroundedAnswerReviews casefold one other = .ok report ∧ Consistent report pair.1 pair.2 := by
  have h := pairing_of_reviewPairs hrows
  have hvalid := reportOf_valid h (canonicalReviews_reviewers hreviews)
  have hdisagreements : rows.mapM disagreementOf = .ok (rows.map disputeOf) := mapM_of_ok fun row hrow =>
    disagreementOf_ok (matches_of_mem h hrow)
  have hreduce : (rows.map disputeOf).reduceOption = rows.filterMap disputeOf := by
    rw [List.reduceOption, List.filterMap_map]
    rfl
  refine ⟨_, ?_, reportOf_consistent (pair.1.reviewer, pair.2.reviewer) h⟩
  unfold compareGroundedAnswerReviews
  simp only [bind_ok, hreviews, exists_unit, Except.ok.injEq, Prod.exists]
  refine ⟨pair.1, pair.2, rfl, rows, hrows, rows.map disputeOf, hdisagreements, ?_, dimensionsOf rows, mapM_of_ok fun d hd => ?_, ?_⟩
  · rw [hreduce]
    exact judgmentsOf_valid (rows_ne_nil h)
  · rw [dimensionAgreement_ok (onScale_values h d) (of_decide_eq_true (List.mem_filter.mp hd).2)]
    rfl
  · rw [hreduce]
    exact ⟨hvalid, rfl⟩

end AtlasPulse.GroundedAgreement
