import AtlasPulse.ReleaseEvaluation
import AtlasPulse.AgentTrajectorySound
import AtlasPulse.Lib.FloatOrder

/-!
# Soundness of release evaluation

An assessment is eligible for human review exactly when every capture, its
grounded report and the relationship comparison meet the thresholds and the
drift reports are one stable comparison for each two captures in a row
(`release_eligible`).
-/

namespace AtlasPulse.AgentTrajectory

open PyJson PyTime Binary64

/-! ## Best values -/

/-- The best value is related to all others, where that is a preorder of which
`better` decides. -/
theorem bestOf_ok {α : Type} {better : α → α → Bool} {r : α → α → Prop} {l : List α} {b : α}
    (hrefl : ∀ a ∈ l, r a a) (htrans : ∀ a b c, r a b → r b c → r a c)
    (hbetter : ∀ a ∈ l, ∀ b ∈ l, if better a b then r a b else r b a) (h : bestOf better l = .ok b) :
    b ∈ l ∧ ∀ a ∈ l, r b a := by
  cases l with
  | nil => cases h
  | cons first l =>
    rw [bestOf, Except.ok.injEq] at h
    have hfold : ∀ (l' : List α) (best : α), best ∈ first :: l → l' ⊆ first :: l →
        l'.foldl (fun best x => if better x best then x else best) best ∈ first :: l ∧
          r (l'.foldl (fun best x => if better x best then x else best) best) best ∧
          ∀ a ∈ l', r (l'.foldl (fun best x => if better x best then x else best) best) a := by
      intro l'
      induction l' with
      | nil => exact fun best hbest _ => ⟨hbest, hrefl best hbest, fun a ha => absurd ha List.not_mem_nil⟩
      | cons x l' ih =>
        intro best hbest hsub
        obtain ⟨hx, hsub'⟩ := List.cons_subset.mp hsub
        have hstep := hbetter x hx best hbest
        rw [List.foldl_cons]
        by_cases hb : better x best = true
        · rw [if_pos hb] at hstep ⊢
          obtain ⟨hmem, hle, hall⟩ := ih x hx hsub'
          exact ⟨hmem, htrans _ _ _ hle hstep, List.forall_mem_cons.mpr ⟨hle, hall⟩⟩
        · rw [if_neg hb] at hstep ⊢
          obtain ⟨hmem, hle, hall⟩ := ih best hbest hsub'
          exact ⟨hmem, hle, List.forall_mem_cons.mpr ⟨htrans _ _ _ hle hstep, hall⟩⟩
    obtain ⟨hmem, hle, hall⟩ := hfold l first List.mem_cons_self (List.subset_cons_self _ _)
    rw [h] at hmem hle hall
    exact ⟨hmem, List.forall_mem_cons.mpr ⟨hle, hall⟩⟩

section
variable {values : List Float64} {v : Float64}

/-- A threshold is met by the least value exactly when it is met by all. -/
theorem le_minimumOf (hnan : ∀ x ∈ values, x ≠ .nan) (h : minimumOf values = .ok v) (threshold : Float64) :
    threshold.le v = true ↔ ∀ x ∈ values, threshold.le x = true := by
  obtain ⟨hmem, hall⟩ := bestOf_ok (r := fun a b => a.le b = true) (fun a ha => Float64.le_refl (hnan a ha))
    (fun _ _ _ => Float64.le_trans) (fun a ha b hb => by
      by_cases hlt : a.lt b = true
      · rw [if_pos hlt]
        exact Float64.le_of_lt hlt
      · rw [if_neg hlt]
        exact (Float64.not_lt_iff (hnan a ha) (hnan b hb)).mp (Bool.eq_false_iff.mpr hlt)) h
  exact ⟨fun hv x hx => Float64.le_trans hv (hall x hx), fun hv => hv v hmem⟩

theorem maximumOf_le (hnan : ∀ x ∈ values, x ≠ .nan) (h : maximumOf values = .ok v) (threshold : Float64) :
    v.le threshold = true ↔ ∀ x ∈ values, x.le threshold = true := by
  obtain ⟨hmem, hall⟩ := bestOf_ok (r := fun a b => b.le a = true) (fun a ha => Float64.le_refl (hnan a ha))
    (fun _ _ _ hab hbc => Float64.le_trans hbc hab) (fun a ha b hb => by
      by_cases hlt : b.lt a = true
      · rw [if_pos hlt]
        exact Float64.le_of_lt hlt
      · rw [if_neg hlt]
        exact (Float64.not_lt_iff (hnan b hb) (hnan a ha)).mp (Bool.eq_false_iff.mpr hlt)) h
  exact ⟨fun hv x hx => Float64.le_trans (hall x hx) hv, fun hv => hv v hmem⟩

end

/-- The least count meets a floor exactly when every count does. -/
theorem le_minimumCount {counts : List ℕ} {n : ℕ} (h : bestOf (fun x best => x < best) counts = .ok n) (floor : ℕ) :
    floor ≤ n ↔ ∀ x ∈ counts, floor ≤ x := by
  obtain ⟨hmem, hall⟩ := bestOf_ok (r := (· ≤ ·)) (fun a _ => Nat.le_refl a) (fun _ _ _ => Nat.le_trans)
    (fun a _ b _ => by
      by_cases hlt : a < b
      · simp [hlt, hlt.le]
      · simp [hlt, Nat.not_lt.mp hlt]) h
  exact ⟨fun hn x hx => hn.trans (hall x hx), fun hn => hn n hmem⟩

/-- An optional measure meets a bound exactly when all values are there and do. -/
theorem optionalBest_any {best : List Float64 → Except String Float64} {values : List (Option Float64)} {o : Option Float64}
    {p : Float64 → Bool}
    (hbest : ∀ v, best values.reduceOption = .ok v → (p v = true ↔ ∀ x ∈ values.reduceOption, p x = true))
    (hsome : values ≠ []) (h : optionalBest best values = .ok o) :
    o.any p = true ↔ ∀ x ∈ values, x.any p = true := by
  unfold optionalBest at h
  by_cases hnone : (values.isEmpty || values.any (·.isNone)) = true
  · rw [if_pos hnone, Except.ok.injEq] at h
    have hmem : none ∈ values := by simpa [hsome, Option.isNone_iff_eq_none] using hnone
    rw [← h]
    simp only [Option.any_none, Bool.false_eq_true, false_iff]
    exact fun hall => by simpa using hall none hmem
  · rw [if_neg hnone] at h
    obtain ⟨v, hv, ho⟩ := bind_ok.mp h
    obtain rfl := Except.ok.inj ho
    have hall : none ∉ values := by simpa [hsome, Option.isNone_iff_eq_none] using hnone
    rw [Option.any_some, hbest v hv]
    constructor
    · intro hmeets x hx
      cases x with
      | none => exact absurd hx hall
      | some x => exact hmeets x (List.reduceOption_mem_iff.mpr hx)
    · intro hmeets x hx
      exact hmeets (some x) (List.reduceOption_mem_iff.mp hx)

theorem toOption_eq_some {α : Type} {x : Except String α} {y : α} : x.toOption = some y ↔ x = .ok y := by
  cases x <;> simp [Except.toOption]

/-! ## Captures in a row -/

theorem consecutivePairs_map {α β : Type} (f : α → β) (l : List α) :
    consecutivePairs (l.map f) = (consecutivePairs l).map (Prod.map f f) := by
  rw [consecutivePairs, consecutivePairs, ← List.map_tail, List.zip_map]

/-- In a strictly sorted list two neighbours have nothing between them. -/
theorem mem_consecutivePairs {α : Type} {key : α → ℤ} {l : List α} (h : l.Pairwise fun a b => key a < key b) {a b : α} :
    (a, b) ∈ consecutivePairs l ↔ a ∈ l ∧ b ∈ l ∧ key a < key b ∧ ∀ u ∈ l, key u ≤ key a ∨ key b ≤ key u := by
  induction l with
  | nil => simp [consecutivePairs]
  | cons x l ih =>
    obtain ⟨hx, hl⟩ := List.pairwise_cons.mp h
    cases l with
    | nil =>
      simp only [consecutivePairs, List.tail_cons, List.zip_nil_right, List.not_mem_nil, List.mem_singleton, false_iff]
      intro hab
      obtain ⟨rfl, rfl, hlt, -⟩ := hab
      exact absurd hlt (lt_irrefl _)
    | cons y l =>
      have hcons : consecutivePairs (x :: y :: l) = (x, y) :: consecutivePairs (y :: l) := rfl
      rw [hcons, List.mem_cons, ih hl, Prod.mk.injEq]
      have hy : ∀ u ∈ y :: l, key y ≤ key u := by
        intro u hu
        rcases List.mem_cons.mp hu with rfl | hu
        · exact le_rfl
        · exact ((List.pairwise_cons.mp hl).1 u hu).le
      constructor
      · intro hab
        rcases hab with ⟨rfl, rfl⟩ | ⟨ha, hb, hlt, hbetween⟩
        · exact ⟨List.mem_cons_self, List.mem_cons_of_mem _ List.mem_cons_self, hx _ List.mem_cons_self,
            List.forall_mem_cons.mpr ⟨Or.inl le_rfl, fun u hu => Or.inr (hy u hu)⟩⟩
        · exact ⟨List.mem_cons_of_mem _ ha, List.mem_cons_of_mem _ hb, hlt,
            List.forall_mem_cons.mpr ⟨Or.inl (hx a ha).le, hbetween⟩⟩
      · intro hab
        obtain ⟨ha, hb, hlt, hbetween⟩ := hab
        obtain ⟨hbx, hrest⟩ := List.forall_mem_cons.mp hbetween
        rcases List.mem_cons.mp hb with rfl | hby
        · rcases List.mem_cons.mp ha with rfl | hay
          · exact absurd hlt (lt_irrefl _)
          · exact absurd (hlt.trans (hx a hay)) (lt_irrefl _)
        · rcases List.mem_cons.mp ha with rfl | hay
          · refine Or.inl ⟨rfl, ?_⟩
            have hle : key b ≤ key y := (hrest y List.mem_cons_self).resolve_left (not_le.mpr (hx y List.mem_cons_self))
            rcases List.mem_cons.mp hby with rfl | hbl
            · rfl
            · exact absurd hle (not_le.mpr ((List.pairwise_cons.mp hl).1 b hbl))
          · exact Or.inr ⟨hay, hby, hlt, hrest⟩

/-! ## Two captures -/

namespace TwoCaptures

def policyDigest : HexDigest := ⟨"f20e4586c63ba3b2c06a97c4e585acea4a2977c3d8d81dc2d1f2275439ad90a7", by decide +kernel⟩

def relationshipDigest : HexDigest := ⟨"a696dc2c579f130e8b89d0e70e414e0505402efba34bf528aaa1d0ffdfdc6728", by decide +kernel⟩

def batchDigest : HexDigest := ⟨"5bc0f7099cd7386c877a2c82af40139bdb6f1fe2a6394da22e97ac0b6e040a4e", by decide +kernel⟩

def reportDigest : HexDigest := ⟨"7019d6bee6c86b4c1eef36f707f395aaffb3ce428d56a2d8ececfebe301f4852", by decide +kernel⟩

def driftDigest : HexDigest := ⟨"562514c36cd191360d2b40eab9eb6eba51d63e7c406c99ed0437601207a5339e", by decide +kernel⟩

def assessmentDigest : HexDigest := ⟨"7ab2d3d2641230d76192395bf6dc83b771035a6912a057ac1b4878266d9da5cd", by decide +kernel⟩

/-- Policies are dumped as a floor, assessments as the id of their policy, drift
reports as the id of the earlier capture and comparisons as their own id; the
digests are the ones of the texts. -/
def model : EvaluationModel String where
  candidateId := id
  sha256 text := if text = "30" then policyDigest
    else if text = "\"trajectory-batch-f93c2db55b50e132781e\"" then OneTrace.reportDigest
    else if text = "\"trajectory-batch-5bc0f7099cd7386c877a\"" then reportDigest
    else if text = "\"trajectory-report-85426b23d54cf504d0b2\"" then driftDigest
    else if text = "\"release-policy-f20e4586c63ba3b2c06a\"" then assessmentDigest else relationshipDigest
  dumpPolicy p := .int p.minRelationshipCaseCount
  dumpAssessment content := .str content.policy.policyId
  dumpRelationship report := .str report.reportId
  dumpBatch content := .str content.candidateBatchId
  dumpReport content := .str content.trajectoryBatchId
  dumpDrift content := .str content.baselineReportId
  isdigit := Char.isDigit
  casefold := id

/-- Two captures of a case each are enough here. -/
def thresholds : ReleaseThresholds :=
  { ReleaseThresholds.default with
    minTrajectoryCaptureCount := 2
    minTotalTrajectoryCaseCount := 2
    minCaseCountPerCapture := 1 }

def policyData : PolicyData := ⟨thresholds, "release-policy-f20e4586c63ba3b2c06a", policyDigest.val⟩

theorem policy_valid : policyData.validate model.toReleaseModel = .ok () := by decide +kernel

def policy : AgentReleaseThresholdPolicy model := ⟨policyData, policy_valid⟩

theorem comparison_rates : ((some (Float64.ofInt 1)).all (within 0 · 1) && within (-1) (Float64.ofInt 0) 1) = true := by
  decide +kernel

def relationship : RelationshipComparison String where
  reportId := "relationship-comparison-0b1f3c2d4e5f60718293"
  candidateSystem := "relationship-candidate"
  caseCount := 40
  macroF1 := some (Float64.ofInt 1)
  accuracyDelta := Float64.ofInt 0
  regressions := 1
  some_case := by decide
  regressions_le := by decide
  rates := comparison_rates

/-- The review of the next day's responses. -/
def nextGrounded : GroundedAnswerReport String :=
  { OneTrace.grounded with
    reportId := "grounded-report-47c115132f64d76cbb33"
    reportSha256 := "47c115132f64d76cbb338179fdd572c8655b3699bcd4cc1530a8eac62e9937f6"
    taskId := "grounded-task-b115de0f2305f8643952"
    taskSha256 := "b115de0f2305f8643952bc4d70ac4cf852e4e2b78a330e5919c2697e794be102"
    batchId := "grounded-batch-9db4fbc7588b15865702"
    batchSha256 := "9db4fbc7588b158657020b249ef54ff40e13f88514391b68cbc6e473c486111d" }

def outcome : AgentTrajectoryCaseOutcome where
  caseId := OneTrace.taskCase.caseId
  queryId := OneTrace.taskCase.queryId
  responseStatus := .answered
  stepCount := 3
  inspectedEvidenceCount := 1
  requiredEvidenceCount := 1
  tracedClaimCount := 1
  requiredClaimCount := 1
  evidenceInspectionRate := Float64.ofInt 1
  claimTraceRate := Float64.ofInt 1
  policyCompliant := true
  terminationConsistent := true
  strictTrajectoryPass := true
  groundedStrictPass := true
  strictEndToEndPass := true
  inputTokens := 900
  outputTokens := 60
  latencyMs := Float64.ofInt 1000

def overall : AgentTrajectoryMetricSummary where
  caseCount := 1
  answeredCaseCount := 1
  abstainedCaseCount := 0
  policyComplianceRate := Float64.ofInt 1
  terminationConsistencyRate := Float64.ofInt 1
  evidenceInspectionRate := Float64.ofInt 1
  claimTraceRate := Float64.ofInt 1
  strictTrajectoryPassRate := Float64.ofInt 1
  groundedStrictPassRate := Float64.ofInt 1
  strictEndToEndPassRate := Float64.ofInt 1
  meanStepCount := Float64.ofInt 3
  p95StepCount := Float64.ofInt 3
  meanInputTokens := Float64.ofInt 900
  meanOutputTokens := Float64.ofInt 60
  meanLatencyMs := Float64.ofInt 1000
  p95LatencyMs := Float64.ofInt 1000

/-- A report of the one passing case. -/
def reportData (grounded : GroundedAnswerReport String) (capturedAt : Datetime) (batchDigest reportDigest : HexDigest) :
    AgentTrajectoryScoreReportData String where
  generatedAt := capturedAt
  benchmarkId := OneTrace.task.benchmarkId
  capturedAt
  taskId := grounded.taskId
  taskSha256 := grounded.taskSha256
  candidateBatchId := grounded.batchId
  candidateBatchSha256 := grounded.batchSha256
  groundedReportId := grounded.reportId
  groundedReportSha256 := grounded.reportSha256
  trajectoryBatchId := artifactId "trajectory-batch-" batchDigest.val
  trajectoryBatchSha256 := batchDigest.val
  system := grounded.system
  caseCount := 1
  overall
  slices := [("earthquakes", overall)]
  outcomes := [outcome]
  reportId := artifactId "trajectory-report-" reportDigest.val
  reportSha256 := reportDigest.val

theorem next_inRange : 63919800000000000 < maxMicros := by decide

def nextNoon : Datetime := ⟨63919800000000000, some 0, next_inRange, offsetBound_zero⟩

def firstData := reportData OneTrace.grounded OneTrace.noon OneTrace.batchDigest OneTrace.reportDigest

def nextData := reportData nextGrounded nextNoon batchDigest reportDigest

theorem first_valid : firstData.validate model.scores = .ok () := by decide +kernel

theorem next_valid : nextData.validate model.scores = .ok () := by decide +kernel

def first : AgentTrajectoryScoreReport model.scores := ⟨firstData, first_valid⟩

def next : AgentTrajectoryScoreReport model.scores := ⟨nextData, next_valid⟩

/-- A measure that stayed as it was. -/
def unchanged (metric : DriftMetric) (value maximum : Float64) (comparison : String) : AgentTrajectoryDriftCheck :=
  ⟨metric, value, value, some (Float64.ofInt 0), maximum, true, comparison⟩

def unchangedRate (metric : DriftMetric) (maximum : Float64) : AgentTrajectoryDriftCheck :=
  unchanged metric (Float64.ofInt 1) maximum "baseline minus current must not exceed the maximum rate drop"

def unchangedLoad (metric : DriftMetric) (value maximum : Float64) : AgentTrajectoryDriftCheck :=
  unchanged metric value maximum "current relative increase must not exceed the maximum"

def driftData : AgentTrajectoryDriftReportData String where
  generatedAt := nextNoon
  benchmarkId := OneTrace.task.benchmarkId
  system := OneTrace.grounded.system
  baselineReportId := firstData.reportId
  baselineReportSha256 := firstData.reportSha256
  baselineCapturedAt := OneTrace.noon
  currentReportId := nextData.reportId
  currentReportSha256 := nextData.reportSha256
  currentCapturedAt := nextNoon
  thresholds := .default
  status := .stable
  failedMetrics := []
  checks :=
    [unchangedRate .strictTrajectoryPassRate (literalFloat (2 / 100)), unchangedRate .strictEndToEndPassRate (literalFloat (2 / 100)),
      unchangedRate .policyComplianceRate (Float64.ofInt 0), unchangedRate .evidenceInspectionRate (Float64.ofInt 0),
      unchangedRate .claimTraceRate (Float64.ofInt 0),
      unchangedLoad .p95LatencyRelativeIncrease (Float64.ofInt 1000) (literalFloat (25 / 100)),
      unchangedLoad .p95StepRelativeIncrease (Float64.ofInt 3) (literalFloat (25 / 100))]
  driftReportId := artifactId "trajectory-drift-" driftDigest.val
  driftReportSha256 := driftDigest.val

theorem drift_valid : driftData.validate model.sha256 model.dumpDrift = .ok () := by decide +kernel

def drift : AgentTrajectoryDriftReport model := ⟨driftData, drift_valid⟩

def evaluated : Except String (AssessmentData String) :=
  evaluateAgentRelease model policy relationship [nextGrounded, OneTrace.grounded] [next, first] [drift] nextNoon

theorem evaluated_eligible : evaluated.toOption.any (·.status = .eligibleForHumanReview) = true := by decide +kernel

theorem exists_eligible : ∃ a, evaluateAgentRelease model policy relationship [nextGrounded, OneTrace.grounded] [next, first]
    [drift] nextNoon = .ok a ∧ a.status = .eligibleForHumanReview := by
  obtain ⟨a, ha, hstatus⟩ := (Option.any_eq_true _ _).mp evaluated_eligible
  exact ⟨a, toOption_eq_some.mp ha, by simpa using hstatus⟩

end TwoCaptures

/-! ## Evaluations -/

section
variable {S : Type} {m : EvaluationModel S} {reports : List (AgentTrajectoryScoreReport m.scores)}

theorem perm_orderedCaptures (reports : List (AgentTrajectoryScoreReport m.scores)) :
    (orderedCaptures m reports).Perm reports := List.perm_insertionSort _ _

/-- Captures in their order are strictly apart. -/
theorem sorted_orderedCaptures (h : (reports.map (·.capture)).Nodup) :
    (orderedCaptures m reports).Pairwise fun a b => a.capture < b.capture := by
  have hsorted : (orderedCaptures m reports).Pairwise fun a b => a.capture ≤ b.capture :=
    List.pairwise_insertionSort (fun a b : AgentTrajectoryScoreReport m.scores => a.capture ≤ b.capture) reports
  have hnodup : (orderedCaptures m reports).Pairwise fun a b => a.capture ≠ b.capture :=
    List.pairwise_map.mp (((perm_orderedCaptures reports).map _).nodup_iff.mpr h)
  exact (hsorted.and hnodup).imp fun hab => lt_of_le_of_ne hab.1 hab.2

variable [DecidableEq S] {policy : AgentReleaseThresholdPolicy m} {relationship : RelationshipComparison S}
  {groundedReports : List (GroundedAnswerReport S)} {trajectoryReports : List (AgentTrajectoryScoreReport m.scores)}
  {driftReports : List (AgentTrajectoryDriftReport m)} {generatedAt : Datetime} {a : AssessmentData S}

/-- What an evaluation that returns has found. -/
structure Evaluated (policy : AgentReleaseThresholdPolicy m) (relationship : RelationshipComparison S)
    (groundedReports : List (GroundedAnswerReport S)) (trajectoryReports : List (AgentTrajectoryScoreReport m.scores))
    (driftReports : List (AgentTrajectoryDriftReport m)) (a : AssessmentData S)
    (first : AgentTrajectoryScoreReport m.scores) (grounded : List (GroundedAnswerReport S)) (measures : ReleaseMeasures) :
    Prop where
  starts : first ∈ trajectoryReports
  reports : (trajectoryReports.map (·.reportId)).Nodup
  captures : (trajectoryReports.map (·.capture)).Nodup
  distinct : (groundedReports.map (·.reportId)).Nodup
  bound : (orderedCaptures m trajectoryReports).mapM (groundedOf m groundedReports) = .ok grounded
  referenced : ∀ g ∈ groundedReports, ∃ t ∈ trajectoryReports, t.groundedReportId = g.reportId
  measured : releaseMeasures m policy.driftThresholds relationship first (orderedCaptures m trajectoryReports) grounded
    driftReports = .ok measures
  content : ∃ at', a.toAssessmentContent = assessmentOf m policy.toPolicyData relationship first.system measures
    (orderedCaptures m trajectoryReports) driftReports (releaseGates policy.toReleaseThresholds measures) at'
  valid : a.validate m.toReleaseModel = .ok ()

theorem evaluateAgentRelease_ok
    (h : evaluateAgentRelease m policy relationship groundedReports trajectoryReports driftReports generatedAt = .ok a) :
    ∃ first grounded measures,
      Evaluated policy relationship groundedReports trajectoryReports driftReports a first grounded measures := by
  unfold evaluateAgentRelease at h
  have hperm := perm_orderedCaptures trajectoryReports
  cases hordered : orderedCaptures m trajectoryReports with
  | nil => simp [hordered] at h
  | cons first rest =>
    rw [hordered] at h hperm
    simp only [evaluateCaptures, bind_ok, exists_unit, check_eq_ok, decide_eq_true_eq] at h
    obtain ⟨hreports, hcaptures, hdistinct, grounded, hgrounded, hreferenced, measures, hmeasures, -, at', -, hvalid, ha⟩ := h
    obtain rfl := Except.ok.inj ha
    refine ⟨first, grounded, measures, hperm.mem_iff.mp List.mem_cons_self, (hperm.map _).nodup_iff.mp hreports,
      (hperm.map _).nodup_iff.mp hcaptures, hdistinct, by rw [hordered]; exact hgrounded, fun g hg => ?_,
      by rw [hordered]; exact hmeasures, ⟨at'.val, by rw [hordered]⟩, hvalid⟩
    have hmem := List.all_eq_true.mp hreferenced g hg
    obtain ⟨t, ht, hid⟩ := List.mem_map.mp (decide_eq_true_iff.mp hmem)
    exact ⟨t, hperm.mem_iff.mp ht, hid⟩

/-! ## Eligibility -/

/-- Nothing was captured between the two. -/
def Next (reports : List (AgentTrajectoryScoreReport m.scores)) (t t' : AgentTrajectoryScoreReport m.scores) : Prop :=
  t ∈ reports ∧ t' ∈ reports ∧ t.capture < t'.capture ∧ ∀ u ∈ reports, u.capture ≤ t.capture ∨ t'.capture ≤ u.capture

/-- The drift reports are one stable comparison under the thresholds for each two
captures in a row. -/
structure StableChain (thresholds : AgentTrajectoryDriftThresholds) (reports : List (AgentTrajectoryScoreReport m.scores))
    (driftReports : List (AgentTrajectoryDriftReport m)) : Prop where
  distinct : (driftReports.map (driftPair m)).Nodup
  only : ∀ d ∈ driftReports, ∃ t t', Next reports t t' ∧ driftPair m d = (t.reportId, t'.reportId)
  covered : ∀ t t', Next reports t t' → ∃ d ∈ driftReports, driftPair m d = (t.reportId, t'.reportId) ∧ d.status = .stable ∧
    ∃ e, compareAgentTrajectoryReports m.sha256 m.dumpDrift t.toAgentTrajectoryScoreReportData
      t'.toAgentTrajectoryScoreReportData thresholds d.generatedAt = .ok e ∧ d.toAgentTrajectoryDriftReportData.equals e = true

/-- The grounded reports of the captures. -/
def groundsOf (groundedReports : List (GroundedAnswerReport S)) (reports : List (AgentTrajectoryScoreReport m.scores)) :
    List (GroundedAnswerReport S) :=
  reports.filterMap fun t => groundedReports.find? (·.reportId = t.groundedReportId)

/-- Every artifact meets the thresholds, whatever the order they come in. -/
structure Eligible (p : ReleaseThresholds) (relationship : RelationshipComparison S)
    (groundedReports : List (GroundedAnswerReport S)) (reports : List (AgentTrajectoryScoreReport m.scores))
    (driftReports : List (AgentTrajectoryDriftReport m)) : Prop where
  system : ∀ t ∈ reports, ∀ t' ∈ reports, t.system = t'.system ∧ t.benchmarkId = t'.benchmarkId
  groundedSystem : ∀ t ∈ reports, ∀ g ∈ groundedReports, g.system = t.system
  relationshipCases : p.minRelationshipCaseCount ≤ relationship.caseCount
  macroF1 : relationship.macroF1.any p.minRelationshipMacroF1.le = true
  accuracyDelta : p.minRelationshipAccuracyDelta.le relationship.accuracyDelta = true
  regressionRate : ∃ rate, intDiv relationship.regressions relationship.caseCount = .ok rate ∧
    rate.le p.maxRelationshipRegressionRate = true
  captures : p.minTrajectoryCaptureCount ≤ reports.length
  totalCases : p.minTotalTrajectoryCaseCount ≤ (reports.map (·.caseCount)).sum
  captureCases : ∀ t ∈ reports, p.minCaseCountPerCapture ≤ t.caseCount
  adjudicated : ∀ g ∈ groundedReports, g.adjudicated = true
  coverage : ∃ rate, intDiv ((groundsOf groundedReports reports).map (·.answeredCaseCount)).sum
    ((groundsOf groundedReports reports).map (·.caseCount)).sum = .ok rate ∧ p.minAnsweredCaseRate.le rate = true
  groundedPass : ∀ g ∈ groundedReports, p.minGroundedStrictPassRate.le g.strictCasePassRate = true
  unsupported : ∀ g ∈ groundedReports, g.unsupportedClaimRate.any (·.le p.maxGroundedUnsupportedClaimRate) = true
  citations : ∀ g ∈ groundedReports, g.completeCitationRate.any p.minGroundedCompleteCitationRate.le = true
  compliance : ∀ t ∈ reports, p.minTrajectoryPolicyComplianceRate.le t.overall.policyComplianceRate = true
  inspection : ∀ t ∈ reports, p.minTrajectoryEvidenceInspectionRate.le t.overall.evidenceInspectionRate = true
  trace : ∀ t ∈ reports, p.minTrajectoryClaimTraceRate.le t.overall.claimTraceRate = true
  strict : ∀ t ∈ reports, p.minTrajectoryStrictPassRate.le t.overall.strictTrajectoryPassRate = true
  endToEnd : ∀ t ∈ reports, p.minTrajectoryEndToEndPassRate.le t.overall.strictEndToEndPassRate = true
  steps : ∀ t ∈ reports, t.overall.p95StepCount.le p.maxTrajectoryP95StepCount = true
  latency : ∀ t ∈ reports, t.overall.p95LatencyMs.le p.maxTrajectoryP95LatencyMs = true
  drift : StableChain p.driftThresholds reports driftReports

/-- The gates, one condition each. -/
theorem releaseGates_passed (p : ReleaseThresholds) (v : ReleaseMeasures) :
    (∀ g ∈ releaseGates p v, g.passed = true) ↔ v.systemsStable = true ∧
      p.minRelationshipCaseCount ≤ v.relationshipCaseCount ∧ v.relationshipMacroF1.any p.minRelationshipMacroF1.le = true ∧
      p.minRelationshipAccuracyDelta.le v.relationshipAccuracyDelta = true ∧
      v.relationshipRegressionRate.le p.maxRelationshipRegressionRate = true ∧
      p.minTrajectoryCaptureCount ≤ v.trajectoryCount ∧ p.minTotalTrajectoryCaseCount ≤ v.totalCases ∧
      p.minCaseCountPerCapture ≤ v.minimumCaptureCases ∧ v.allAdjudicated = true ∧
      p.minAnsweredCaseRate.le v.answeredRate = true ∧ p.minGroundedStrictPassRate.le v.minimumGroundedPass = true ∧
      v.maximumUnsupported.any (·.le p.maxGroundedUnsupportedClaimRate) = true ∧
      v.minimumCitations.any p.minGroundedCompleteCitationRate.le = true ∧
      p.minTrajectoryPolicyComplianceRate.le v.minimumPolicyCompliance = true ∧
      p.minTrajectoryEvidenceInspectionRate.le v.minimumEvidenceInspection = true ∧
      p.minTrajectoryClaimTraceRate.le v.minimumClaimTrace = true ∧
      p.minTrajectoryStrictPassRate.le v.minimumTrajectoryPass = true ∧
      p.minTrajectoryEndToEndPassRate.le v.minimumEndToEnd = true ∧
      v.maximumSteps.le p.maxTrajectoryP95StepCount = true ∧ v.maximumLatency.le p.maxTrajectoryP95LatencyMs = true ∧
      v.driftChainComplete = true ∧ v.driftStable = true := by
  simp only [releaseGates, relationshipGateRows, sampleGateRows, groundedGateRows, trajectoryGateRows, driftGateRows,
    List.forall_mem_append, List.forall_mem_cons, List.not_mem_nil, false_imp_iff, implies_true, and_true, and_assoc,
    atLeast, countAtLeast, gate, decide_eq_true_eq]

omit [DecidableEq S] in
theorem assessmentOf_status {p : PolicyData} {agentSystem : S} {v : ReleaseMeasures}
    {ordered : List (AgentTrajectoryScoreReport m.scores)} {gates : List AgentReleaseGate} {at' : Datetime} :
    (assessmentOf m p relationship agentSystem v ordered driftReports gates at').status = .eligibleForHumanReview ↔
      ∀ g ∈ gates, g.passed = true := by
  have hempty : (gates.filter (!·.passed)).isEmpty = true ↔ ∀ g ∈ gates, g.passed = true := by
    simp [List.filter_eq_nil_iff]
  rw [← hempty]
  unfold assessmentOf
  by_cases h : (gates.filter (!·.passed)).isEmpty = true
  · simp [h]
  · simp [h]

/-! ## Numbers -/

theorem checkUnit_ne_nan {x : Float64} (h : checkUnit x = .ok ()) : x ≠ .nan := by
  have hwithin := check_eq_ok.mp h
  rw [within, Bool.and_eq_true] at hwithin
  exact (Float64.ne_nan_of_le hwithin.1).2

theorem within_ne_nan {low high : ℤ} {x : Float64} (h : within low x high = true) : x ≠ .nan := by
  rw [within, Bool.and_eq_true] at h
  exact (Float64.ne_nan_of_le h.1).2

theorem checkFrom_ne_nan {low : ℤ} {x : Float64} (h : checkFrom low x = .ok ()) : x ≠ .nan := by
  have hfinite := check_eq_ok.mp h
  rw [Bool.and_eq_true] at hfinite
  exact Float64.ne_nan_of_isFinite hfinite.1

omit [DecidableEq S] in
/-- The measures of an accepted summary are numbers. -/
theorem overall_numbers (t : AgentTrajectoryScoreReport m.scores) :
    (∀ x ∈ t.overall.rates, x ≠ .nan) ∧ t.overall.p95StepCount ≠ .nan ∧ t.overall.p95LatencyMs ≠ .nan := by
  obtain ⟨⟨⟩, hoverall, -⟩ := bind_ok.mp t.valid
  simp only [AgentTrajectoryMetricSummary.validate, bind_ok, exists_unit, listForM_ok] at hoverall
  obtain ⟨-, hrates, hsteps, -, -, -, hlatency, -⟩ := hoverall
  have hsteps' := check_eq_ok.mp hsteps
  rw [Bool.and_eq_true] at hsteps'
  exact ⟨fun x hx => checkUnit_ne_nan (hrates x hx), within_ne_nan hsteps'.2, checkFrom_ne_nan hlatency⟩

theorem le_minimum_map {α : Type} {l : List α} {f : α → Float64} {v : Float64} (hnan : ∀ x ∈ l, f x ≠ .nan)
    (h : minimumOf (l.map f) = .ok v) (threshold : Float64) :
    threshold.le v = true ↔ ∀ x ∈ l, threshold.le (f x) = true := by
  rw [le_minimumOf (by simpa using hnan) h, List.forall_mem_map]

theorem maximum_map_le {α : Type} {l : List α} {f : α → Float64} {v : Float64} (hnan : ∀ x ∈ l, f x ≠ .nan)
    (h : maximumOf (l.map f) = .ok v) (threshold : Float64) :
    v.le threshold = true ↔ ∀ x ∈ l, (f x).le threshold = true := by
  rw [maximumOf_le (by simpa using hnan) h, List.forall_mem_map]

/-! ## Measures -/

/-- The measures, each with what it is the best or the rate of. -/
structure Measured (thresholds : AgentTrajectoryDriftThresholds) (relationship : RelationshipComparison S)
    (first : AgentTrajectoryScoreReport m.scores) (ordered : List (AgentTrajectoryScoreReport m.scores))
    (grounded : List (GroundedAnswerReport S)) (driftReports : List (AgentTrajectoryDriftReport m)) (v : ReleaseMeasures) :
    Prop where
  system : v.systemsStable = (ordered.all (·.system = first.system) && grounded.all (·.system = first.system) &&
    ordered.all (·.benchmarkId = first.benchmarkId))
  relationshipCases : v.relationshipCaseCount = relationship.caseCount
  macroF1 : v.relationshipMacroF1 = relationship.macroF1
  accuracyDelta : v.relationshipAccuracyDelta = relationship.accuracyDelta
  regressionRate : intDiv relationship.regressions relationship.caseCount = .ok v.relationshipRegressionRate
  captures : v.trajectoryCount = ordered.length
  totalCases : v.totalCases = (ordered.map (·.caseCount)).sum
  captureCases : bestOf (fun x best => x < best) (ordered.map (·.caseCount)) = .ok v.minimumCaptureCases
  adjudicated : v.allAdjudicated = grounded.all (·.adjudicated)
  coverage : intDiv (grounded.map (·.answeredCaseCount)).sum (grounded.map (·.caseCount)).sum = .ok v.answeredRate
  groundedPass : minimumOf (grounded.map (·.strictCasePassRate)) = .ok v.minimumGroundedPass
  unsupported : optionalBest maximumOf (grounded.map (·.unsupportedClaimRate)) = .ok v.maximumUnsupported
  citations : optionalBest minimumOf (grounded.map (·.completeCitationRate)) = .ok v.minimumCitations
  compliance : minimumOf (ordered.map (·.overall.policyComplianceRate)) = .ok v.minimumPolicyCompliance
  inspection : minimumOf (ordered.map (·.overall.evidenceInspectionRate)) = .ok v.minimumEvidenceInspection
  trace : minimumOf (ordered.map (·.overall.claimTraceRate)) = .ok v.minimumClaimTrace
  strict : minimumOf (ordered.map (·.overall.strictTrajectoryPassRate)) = .ok v.minimumTrajectoryPass
  endToEnd : minimumOf (ordered.map (·.overall.strictEndToEndPassRate)) = .ok v.minimumEndToEnd
  steps : maximumOf (ordered.map (·.overall.p95StepCount)) = .ok v.maximumSteps
  latency : maximumOf (ordered.map (·.overall.p95LatencyMs)) = .ok v.maximumLatency
  chain : v.driftChainComplete = driftChainComplete m thresholds driftReports ordered
  stable : v.driftStable = driftStable m thresholds driftReports ordered

theorem releaseMeasures_ok {thresholds : AgentTrajectoryDriftThresholds} {first : AgentTrajectoryScoreReport m.scores}
    {ordered : List (AgentTrajectoryScoreReport m.scores)} {grounded : List (GroundedAnswerReport S)} {v : ReleaseMeasures}
    (h : releaseMeasures m thresholds relationship first ordered grounded driftReports = .ok v) :
    Measured thresholds relationship first ordered grounded driftReports v := by
  simp only [releaseMeasures, bind_ok] at h
  obtain ⟨_, hcases, _, hcoverage, _, hgrounded, _, hunsupported, _, hcitations, _, hcompliance, _, hinspection, _, htrace,
    _, hstrict, _, hendToEnd, _, hsteps, _, hlatency, _, hregression, hv⟩ := h
  obtain rfl := Except.ok.inj hv
  exact ⟨rfl, rfl, rfl, rfl, hregression, rfl, rfl, hcases, rfl, hcoverage, hgrounded, hunsupported, hcitations, hcompliance,
    hinspection, htrace, hstrict, hendToEnd, hsteps, hlatency, rfl, rfl⟩

/-! ## Grounded reports -/

omit [DecidableEq S] in
theorem groundedOf_ok {t : AgentTrajectoryScoreReport m.scores} {g : GroundedAnswerReport S}
    (h : groundedOf m groundedReports t = .ok g) : groundedReports.find? (·.reportId = t.groundedReportId) = some g := by
  unfold groundedOf at h
  cases hfind : groundedReports.find? (·.reportId = t.groundedReportId) with
  | none => simp [hfind] at h
  | some g' =>
    simp only [hfind, bind_ok, exists_unit] at h
    rw [Except.ok.inj h.2]

omit [DecidableEq S] in
theorem grounded_eq {ordered : List (AgentTrajectoryScoreReport m.scores)} {grounded : List (GroundedAnswerReport S)}
    (h : ordered.mapM (groundedOf m groundedReports) = .ok grounded) : grounded = groundsOf groundedReports ordered := by
  have hrows := mapM_ok.mp h
  clear h
  induction hrows with
  | nil => rfl
  | cons hg _ ih =>
    rw [groundsOf, List.filterMap_cons, groundedOf_ok hg]
    exact congrArg (_ :: ·) ih

omit [DecidableEq S] in
theorem perm_groundsOf : (groundsOf groundedReports (orderedCaptures m trajectoryReports)).Perm
    (groundsOf groundedReports trajectoryReports) := (perm_orderedCaptures trajectoryReports).filterMap _

/-- The grounded reports of the captures are all the grounded reports. -/
theorem mem_grounded {first : AgentTrajectoryScoreReport m.scores} {grounded : List (GroundedAnswerReport S)}
    {measures : ReleaseMeasures}
    (h : Evaluated policy relationship groundedReports trajectoryReports driftReports a first grounded measures)
    {g : GroundedAnswerReport S} : g ∈ grounded ↔ g ∈ groundedReports := by
  constructor
  · intro hg
    obtain ⟨t, -, ht⟩ := (mem_mapM h.bound).1 g hg
    exact List.mem_of_find?_eq_some (groundedOf_ok ht)
  · intro hg
    obtain ⟨t, ht, hid⟩ := h.referenced g hg
    obtain ⟨g', hg', hfound⟩ := (mem_mapM h.bound).2 t ((perm_orderedCaptures trajectoryReports).mem_iff.mpr ht)
    have hfind := groundedOf_ok hfound
    rw [hid, find?_id h.distinct hg, Option.some.injEq] at hfind
    rw [hfind]
    exact hg'

/-! ## The drift chain -/

omit [DecidableEq S] in
theorem get_driftByPair (h : (driftReports.map (driftPair m)).Nodup) {pair : String × String}
    {d : AgentTrajectoryDriftReport m} :
    PyDict.get (driftByPair m driftReports) pair = some d ↔ d ∈ driftReports ∧ driftPair m d = pair := by
  have hitems : ((driftReports.map fun d => (driftPair m d, d)).map Prod.fst).Nodup := by
    simpa [Function.comp_def] using h
  rw [driftByPair, PyDict.ofItems_of_nodup hitems, PyDict.get_eq_some hitems, List.mem_map]
  constructor
  · intro hd
    obtain ⟨d', hd', heq⟩ := hd
    cases heq
    exact ⟨hd', rfl⟩
  · intro hd
    exact ⟨d, hd.1, by rw [hd.2]⟩

omit [DecidableEq S] in
theorem next_perm {reports' : List (AgentTrajectoryScoreReport m.scores)} {t t' : AgentTrajectoryScoreReport m.scores}
    (h : reports'.Perm reports) : Next reports' t t' ↔ Next reports t t' := by
  simp only [Next, h.mem_iff]

theorem driftStable_iff {thresholds : AgentTrajectoryDriftThresholds} (h : (trajectoryReports.map (·.capture)).Nodup) :
    driftStable m thresholds driftReports (orderedCaptures m trajectoryReports) = true ↔
      StableChain thresholds trajectoryReports driftReports := by
  have hnext : ∀ t t', (t, t') ∈ consecutivePairs (orderedCaptures m trajectoryReports) ↔ Next trajectoryReports t t' :=
    fun t t' => (mem_consecutivePairs (sorted_orderedCaptures h)).trans (next_perm (perm_orderedCaptures trajectoryReports))
  have hpair : ∀ pair : String × String,
      pair ∈ consecutivePairs ((orderedCaptures m trajectoryReports).map (·.reportId)) ↔
        ∃ t t', Next trajectoryReports t t' ∧ pair = (t.reportId, t'.reportId) := by
    intro pair
    rw [consecutivePairs_map, List.mem_map]
    constructor
    · intro hp
      obtain ⟨captures, hmem, rfl⟩ := hp
      exact ⟨captures.1, captures.2, (hnext _ _).mp hmem, rfl⟩
    · intro hp
      obtain ⟨t, t', hmem, rfl⟩ := hp
      exact ⟨(t, t'), (hnext _ _).mpr hmem, rfl⟩
  have hkeys : ∀ pair : String × String, pair ∈ (driftByPair m driftReports).map Prod.fst ↔
      ∃ d ∈ driftReports, driftPair m d = pair := by
    intro pair
    rw [driftByPair, PyDict.mem_keys_ofItems]
    simp
  have hlength : ((driftByPair m driftReports).map Prod.fst).length = driftReports.length ↔
      (driftReports.map (driftPair m)).Nodup := by
    have hcount : (PyDict.ofItems (driftReports.map fun d => (driftPair m d, d))).length = _ ↔ _ := PyDict.length_ofItems_iff
    simpa [driftByPair, Function.comp_def] using hcount
  simp only [driftStable, driftChainComplete, Bool.and_eq_true, decide_eq_true_eq, List.all_eq_true, List.contains_iff_mem,
    hlength, hpair, hkeys]
  constructor
  · intro hchain
    obtain ⟨⟨⟨⟨hnodup, honly⟩, -⟩, hmatches⟩, hstable⟩ := hchain
    refine ⟨hnodup, fun d hd => honly _ ⟨d, hd, rfl⟩, fun t t' ht => ?_⟩
    have hmatch := hmatches (t, t') ((hnext t t').mpr ht)
    rw [driftMatches, Option.any_eq_true] at hmatch
    obtain ⟨d, hget, hsame⟩ := hmatch
    obtain ⟨e, he, hequals⟩ := (Option.any_eq_true _ _).mp hsame
    obtain ⟨hd, hdpair⟩ := (get_driftByPair hnodup).mp hget
    have hstatus := hstable (t.reportId, t'.reportId) ⟨t, t', ht, rfl⟩
    rw [hget] at hstatus
    exact ⟨d, hd, hdpair, by simpa using hstatus, e, toOption_eq_some.mp he, hequals⟩
  · intro hchain
    refine ⟨⟨⟨⟨hchain.distinct, fun pair hp => ?_⟩, fun pair hp => ?_⟩, fun captures hc => ?_⟩, fun pair hp => ?_⟩
    · obtain ⟨d, hd, rfl⟩ := hp
      exact hchain.only d hd
    · obtain ⟨t, t', ht, rfl⟩ := hp
      obtain ⟨d, hd, hdpair, -⟩ := hchain.covered t t' ht
      exact ⟨d, hd, hdpair⟩
    · obtain ⟨d, hd, hdpair, -, e, he, hequals⟩ := hchain.covered captures.1 captures.2 ((hnext _ _).mp hc)
      rw [driftMatches, Option.any_eq_true]
      exact ⟨d, (get_driftByPair hchain.distinct).mpr ⟨hd, hdpair⟩,
        (Option.any_eq_true _ _).mpr ⟨e, toOption_eq_some.mpr he, hequals⟩⟩
    · obtain ⟨t, t', ht, rfl⟩ := hp
      obtain ⟨d, hd, hdpair, hstatus, -⟩ := hchain.covered t t' ht
      rw [(get_driftByPair hchain.distinct).mpr ⟨hd, hdpair⟩]
      simpa using hstatus

/-! ## The decision -/

omit [DecidableEq S] in
/-- A rate of every capture meets a floor exactly when the least one does. -/
theorem rate_floor {f : AgentTrajectoryMetricSummary → Float64} {x : Float64}
    (hf : ∀ s, f s ∈ AgentTrajectoryMetricSummary.rates s)
    (h : minimumOf ((orderedCaptures m reports).map fun t => f t.overall) = .ok x) (threshold : Float64) :
    threshold.le x = true ↔ ∀ t ∈ reports, threshold.le (f t.overall) = true := by
  rw [le_minimum_map (fun t _ => (overall_numbers t).1 _ (hf _)) h]
  simp only [(perm_orderedCaptures reports).mem_iff]

theorem Evaluated.status_iff {first : AgentTrajectoryScoreReport m.scores} {grounded : List (GroundedAnswerReport S)}
    {measures : ReleaseMeasures}
    (h : Evaluated policy relationship groundedReports trajectoryReports driftReports a first grounded measures) :
    a.status = .eligibleForHumanReview ↔ ∀ g ∈ releaseGates policy.toReleaseThresholds measures, g.passed = true := by
  obtain ⟨at', hcontent⟩ := h.content
  rw [show a.status = _ from congrArg (·.status) hcontent, assessmentOf_status]

omit [DecidableEq S] in
theorem grounded_numbers (g : GroundedAnswerReport S) : g.strictCasePassRate ≠ .nan ∧
    (∀ x, g.unsupportedClaimRate = some x → x ≠ .nan) ∧ ∀ x, g.completeCitationRate = some x → x ≠ .nan := by
  have h := g.rates
  rw [Bool.and_eq_true, Bool.and_eq_true] at h
  obtain ⟨⟨hstrict, hunsupported⟩, hcitations⟩ := h
  refine ⟨within_ne_nan hstrict, fun x hx => ?_, fun x hx => ?_⟩
  · rw [hx, Option.all_some] at hunsupported
    exact within_ne_nan hunsupported
  · rw [hx, Option.all_some] at hcitations
    exact within_ne_nan hcitations

theorem mem_reduceOption_map {α : Type} {l : List α} {f : α → Option Float64} {x : Float64}
    (h : x ∈ (l.map f).reduceOption) : ∃ y ∈ l, f y = some x :=
  List.mem_map.mp (List.reduceOption_mem_iff.mp h)

/-- **Eligibility for review.** Whatever reports an evaluation returns for, and in
whatever order they are given, its assessment is eligible exactly when they all
meet the thresholds and the drift reports are a stable chain of the captures. -/
theorem release_eligible
    (h : evaluateAgentRelease m policy relationship groundedReports trajectoryReports driftReports generatedAt = .ok a) :
    a.status = .eligibleForHumanReview ↔
      Eligible policy.toReleaseThresholds relationship groundedReports trajectoryReports driftReports := by
  obtain ⟨first, grounded, v, he⟩ := evaluateAgentRelease_ok h
  have hv := releaseMeasures_ok he.measured
  have hperm := perm_orderedCaptures trajectoryReports
  have hcaptures : ∀ p : AgentTrajectoryScoreReport m.scores → Prop,
      (∀ t ∈ orderedCaptures m trajectoryReports, p t) ↔ ∀ t ∈ trajectoryReports, p t := fun p => by
    simp only [hperm.mem_iff]
  have hgrounds : ∀ p : GroundedAnswerReport S → Prop, (∀ g ∈ grounded, p g) ↔ ∀ g ∈ groundedReports, p g := fun p => by
    simp only [mem_grounded he]
  have hsome : grounded ≠ [] := by
    obtain ⟨g, hg, -⟩ := (mem_mapM he.bound).2 first (hperm.mem_iff.mpr he.starts)
    exact List.ne_nil_of_mem hg
  have hnumbers := fun t (_ : t ∈ orderedCaptures m trajectoryReports) => overall_numbers t
  have hsystem : v.systemsStable = true ↔
      (∀ t ∈ trajectoryReports, ∀ t' ∈ trajectoryReports, t.system = t'.system ∧ t.benchmarkId = t'.benchmarkId) ∧
        ∀ t ∈ trajectoryReports, ∀ g ∈ groundedReports, g.system = t.system := by
    rw [hv.system]
    simp only [Bool.and_eq_true, List.all_eq_true, decide_eq_true_eq, hcaptures, hgrounds]
    constructor
    · intro hs
      obtain ⟨⟨hsystem, hgrounded⟩, hbenchmark⟩ := hs
      exact ⟨fun t ht t' ht' => ⟨(hsystem t ht).trans (hsystem t' ht').symm, (hbenchmark t ht).trans (hbenchmark t' ht').symm⟩,
        fun t ht g hg => (hgrounded g hg).trans (hsystem t ht).symm⟩
    · intro hs
      exact ⟨⟨fun t ht => (hs.1 t ht first he.starts).1, hs.2 first he.starts⟩, fun t ht => (hs.1 t ht first he.starts).2⟩
  have hadjudicated : v.allAdjudicated = true ↔ ∀ g ∈ groundedReports, g.adjudicated = true := by
    rw [hv.adjudicated, List.all_eq_true, hgrounds]
  have hcoverage := hv.coverage
  rw [grounded_eq he.bound, (perm_groundsOf.map _).sum_eq, (perm_groundsOf.map _).sum_eq] at hcoverage
  have hlength : v.trajectoryCount = trajectoryReports.length := hv.captures.trans hperm.length_eq
  have htotal : v.totalCases = (trajectoryReports.map (·.caseCount)).sum := hv.totalCases.trans (hperm.map _).sum_eq
  have hunsupported := optionalBest_any (p := fun x => x.le policy.maxGroundedUnsupportedClaimRate)
    (fun w hw => maximumOf_le (fun x hx => by
      obtain ⟨g, -, hg⟩ := mem_reduceOption_map hx
      exact (grounded_numbers g).2.1 x hg) hw _) (by simpa using hsome) hv.unsupported
  have hcitations := optionalBest_any (p := policy.minGroundedCompleteCitationRate.le)
    (fun w hw => le_minimumOf (fun x hx => by
      obtain ⟨g, -, hg⟩ := mem_reduceOption_map hx
      exact (grounded_numbers g).2.2 x hg) hw _) (by simpa using hsome) hv.citations
  have hgroundedPass := (le_minimum_map (fun g _ => (grounded_numbers g).1) hv.groundedPass
    policy.minGroundedStrictPassRate).trans (hgrounds _)
  have hcases := (le_minimumCount hv.captureCases policy.minCaseCountPerCapture).trans
    (List.forall_mem_map.trans (hcaptures _))
  have hcompliance := rate_floor (f := (·.policyComplianceRate)) (fun s => by simp [AgentTrajectoryMetricSummary.rates])
    hv.compliance policy.minTrajectoryPolicyComplianceRate
  have hinspection := rate_floor (f := (·.evidenceInspectionRate)) (fun s => by simp [AgentTrajectoryMetricSummary.rates])
    hv.inspection policy.minTrajectoryEvidenceInspectionRate
  have htrace := rate_floor (f := (·.claimTraceRate)) (fun s => by simp [AgentTrajectoryMetricSummary.rates])
    hv.trace policy.minTrajectoryClaimTraceRate
  have hstrict := rate_floor (f := (·.strictTrajectoryPassRate)) (fun s => by simp [AgentTrajectoryMetricSummary.rates])
    hv.strict policy.minTrajectoryStrictPassRate
  have hendToEnd := rate_floor (f := (·.strictEndToEndPassRate)) (fun s => by simp [AgentTrajectoryMetricSummary.rates])
    hv.endToEnd policy.minTrajectoryEndToEndPassRate
  have hsteps := (maximum_map_le (fun t ht => (hnumbers t ht).2.1) hv.steps policy.maxTrajectoryP95StepCount).trans
    (hcaptures _)
  have hlatency := (maximum_map_le (fun t ht => (hnumbers t ht).2.2) hv.latency policy.maxTrajectoryP95LatencyMs).trans
    (hcaptures _)
  rw [List.forall_mem_map, hgrounds] at hunsupported hcitations
  rw [he.status_iff, releaseGates_passed, hsystem, hv.relationshipCases, hv.macroF1, hv.accuracyDelta, hlength, htotal, hcases,
    hadjudicated, hgroundedPass, hunsupported, hcitations, hcompliance, hinspection, htrace, hstrict, hendToEnd, hsteps, hlatency,
    hv.stable, driftStable_iff he.captures]
  constructor
  · intro hall
    obtain ⟨⟨h1, h2⟩, h3, h4, h5, h6, h7, h8, h9, h10, h11, h12, h13, h14, h15, h16, h17, h18, h19, h20, h21, -, h22⟩ := hall
    exact ⟨h1, h2, h3, h4, h5, ⟨_, hv.regressionRate, h6⟩, h7, h8, h9, h10, ⟨_, hcoverage, h11⟩, h12, h13, h14, h15, h16, h17,
      h18, h19, h20, h21, h22⟩
  · intro he'
    obtain ⟨rate, hrate, hregression⟩ := he'.regressionRate
    obtain ⟨rate', hrate', hanswered⟩ := he'.coverage
    have hr : v.relationshipRegressionRate = rate := Except.ok.inj (hv.regressionRate.symm.trans hrate)
    have hr' : v.answeredRate = rate' := Except.ok.inj (hcoverage.symm.trans hrate')
    have hchain : v.driftChainComplete = true := by
      have hstable := (driftStable_iff he.captures).mpr he'.drift
      rw [driftStable, Bool.and_eq_true] at hstable
      rw [hv.chain]
      exact hstable.1
    exact ⟨⟨he'.system, he'.groundedSystem⟩, he'.relationshipCases, he'.macroF1, he'.accuracyDelta, hr ▸ hregression,
      he'.captures, he'.totalCases, he'.captureCases, he'.adjudicated, hr' ▸ hanswered, he'.groundedPass, he'.unsupported,
      he'.citations, he'.compliance, he'.inspection, he'.trace, he'.strict, he'.endToEnd, he'.steps, he'.latency, hchain,
      he'.drift⟩

theorem release_eligible_two_captures :
    Eligible TwoCaptures.thresholds TwoCaptures.relationship [TwoCaptures.nextGrounded, OneTrace.grounded]
      [TwoCaptures.next, TwoCaptures.first] [TwoCaptures.drift] := by
  obtain ⟨a, ha, hstatus⟩ := TwoCaptures.exists_eligible
  exact (release_eligible ha).mp hstatus

/-! ## Strict policies -/

omit [DecidableEq S] in
/-- The strict share of an accepted report is the one of its outcomes, and at most one. -/
theorem strict_share (t : AgentTrajectoryScoreReport m.scores) (hfew : t.outcomes.length ≤ 2 ^ 53) :
    t.overall.strictTrajectoryPassRate.le (Float64.ofInt 1) = true ∧
      (t.overall.strictTrajectoryPassRate.beq (Float64.ofInt 1) = true ↔ ∀ o ∈ t.outcomes, o.strictTrajectoryPass = true) := by
  have hvalid := t.valid
  simp only [AgentTrajectoryScoreReportData.validate, AgentTrajectoryMetricSummary.validate, bind_ok, exists_unit, listForM_ok]
    at hvalid
  obtain ⟨⟨-, hrates, -⟩, -, -, -, -, -, -, -, -, -, expected, hexpected, hequals, -⟩ := hvalid
  have hunit := check_eq_ok.mp (hrates t.overall.strictTrajectoryPassRate (by simp [AgentTrajectoryMetricSummary.rates]))
  rw [within, Bool.and_eq_true] at hunit
  have hsummary := summary_ok hexpected
  have hsame : t.overall.strictTrajectoryPassRate.beq expected.strictTrajectoryPassRate = true := by
    have hfloats := check_eq_ok.mp hequals
    simp only [AgentTrajectoryMetricSummary.equals, AgentTrajectoryMetricSummary.floats, AgentTrajectoryMetricSummary.rates,
      List.cons_append, List.zip_cons_cons, List.all_cons, Bool.and_eq_true] at hfloats
    exact hfloats.2.2.2.2.2.1
  refine ⟨hunit.2, ?_⟩
  rw [← shareOf_beq_one hsummary.some_case hfew hsummary.strict]
  exact ⟨fun h => Float64.beq_trans (Float64.beq_symm hsame) h, fun h => Float64.beq_trans hsame h⟩

/-- **No trace behind an eligible release is lax.** Under a policy that asks for
strict traces throughout, every case of every capture of an eligible assessment
passed strictly. -/
theorem eligible_traces_strict
    (h : evaluateAgentRelease m policy relationship groundedReports trajectoryReports driftReports generatedAt = .ok a)
    (heligible : a.status = .eligibleForHumanReview)
    (hpolicy : (Float64.ofInt 1).le policy.minTrajectoryStrictPassRate = true)
    (hfew : ∀ t ∈ trajectoryReports, t.outcomes.length ≤ 2 ^ 53) :
    ∀ t ∈ trajectoryReports, ∀ o ∈ t.outcomes, o.strictTrajectoryPass = true := by
  intro t ht
  obtain ⟨first, grounded, v, he⟩ := evaluateAgentRelease_ok h
  have hv := releaseMeasures_ok he.measured
  have hrate : policy.minTrajectoryStrictPassRate.le v.minimumTrajectoryPass = true :=
    ((releaseGates_passed _ v).mp (he.status_iff.mp heligible)).2.2.2.2.2.2.2.2.2.2.2.2.2.2.2.2.1
  have hleast := (rate_floor (f := (·.strictTrajectoryPassRate)) (fun s => by simp [AgentTrajectoryMetricSummary.rates])
    hv.strict policy.minTrajectoryStrictPassRate).mp hrate t ht
  obtain ⟨hone, hshare⟩ := strict_share t (hfew t ht)
  exact hshare.mp (Float64.beq_of_le_of_le hone (Float64.le_trans hpolicy hleast))

theorem eligible_traces_strict_two_captures :
    ∃ a, evaluateAgentRelease TwoCaptures.model TwoCaptures.policy TwoCaptures.relationship
        [TwoCaptures.nextGrounded, OneTrace.grounded] [TwoCaptures.next, TwoCaptures.first] [TwoCaptures.drift]
        TwoCaptures.nextNoon = .ok a ∧
      a.status = .eligibleForHumanReview ∧
      ∀ t ∈ [TwoCaptures.next, TwoCaptures.first], ∀ o ∈ t.outcomes, o.strictTrajectoryPass = true := by
  obtain ⟨a, ha, hstatus⟩ := TwoCaptures.exists_eligible
  refine ⟨a, ha, hstatus, eligible_traces_strict ha hstatus (by decide +kernel) fun t ht => ?_⟩
  rcases List.mem_pair.mp ht with rfl | rfl
  · decide
  · decide

end

end AtlasPulse.AgentTrajectory
