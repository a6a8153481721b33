import AtlasPulse.TrajectoryDrift

/-!
# Release evaluation

`evaluate_agent_release` of `agent_trajectory/release.py`: the gates of a
threshold policy over a relationship comparison, grounded reports, trajectory
reports and the drift between them. Of the relationship comparison the model
holds what the gates read; the dump of the whole is a parameter.
-/

namespace AtlasPulse.AgentTrajectory

open PyJson PyTime Binary64

/-! ## Texts -/

/-- `f"{value:.Nf}"` -/
def fixedText (digits : ℕ) : Float64 → String
  | .finite negative magnitude =>
    let scaled := (roundHalfEven (magnitude.value * 10 ^ digits)).toNat
    (if negative then "-" else "") ++ toString (scaled / 10 ^ digits) ++ "." ++
      String.ofList (Digits.pad digits (scaled % 10 ^ digits))
  | .inf negative => if negative then "-inf" else "inf"
  | .nan => "nan"

/-- `_number` -/
def numberText (value : Option Float64) : String := value.elim "unavailable" (fixedText 6)

/-! ## Measures -/

/-- `min(values)` and `max(values)` of floats -/
def minimumOf (values : List Float64) : Except String Float64 := bestOf (fun x best => x.lt best) values

def maximumOf (values : List Float64) : Except String Float64 := bestOf (fun x best => best.lt x) values

/-- `_minimum` and `_maximum`: nothing of what is partly unavailable -/
def optionalBest (best : List Float64 → Except String Float64) (values : List (Option Float64)) :
    Except String (Option Float64) :=
  if values.isEmpty || values.any (·.isNone) then .ok none else do
    let value ← best values.reduceOption
    return some value

/-- What a release reads of a relationship comparison report. -/
structure RelationshipComparison (S : Type) where
  reportId : String
  candidateSystem : S
  caseCount : ℕ
  macroF1 : Option Float64
  accuracyDelta : Float64
  regressions : ℕ
  some_case : 1 ≤ caseCount
  regressions_le : regressions ≤ caseCount
  rates : macroF1.all (within 0 · 1) && within (-1) accuracyDelta 1

/-- The measures that the gates compare with a policy. -/
structure ReleaseMeasures where
  systemsStable : Bool
  relationshipCaseCount : ℕ
  relationshipMacroF1 : Option Float64
  relationshipAccuracyDelta : Float64
  relationshipRegressionRate : Float64
  trajectoryCount : ℕ
  totalCases : ℕ
  minimumCaptureCases : ℕ
  allAdjudicated : Bool
  answeredRate : Float64
  minimumGroundedPass : Float64
  maximumUnsupported : Option Float64
  minimumCitations : Option Float64
  minimumPolicyCompliance : Float64
  minimumEvidenceInspection : Float64
  minimumClaimTrace : Float64
  minimumTrajectoryPass : Float64
  minimumEndToEnd : Float64
  maximumSteps : Float64
  maximumLatency : Float64
  driftPairs : ℕ
  expectedDriftPairs : ℕ
  driftAlerts : ℕ
  driftChainComplete : Bool
  driftStable : Bool
  deriving DecidableEq

/-! ## Gates -/

/-- `_gate`, before its model checks it -/
def gate (gateId : ReleaseGateId) (passed : Bool) (observed required reason : String) : AgentReleaseGate :=
  ⟨gateId, passed, observed, required, if passed then none else some reason⟩

/-- A rate, or another number, of every capture against the threshold. -/
def atLeast (gateId : ReleaseGateId) (value threshold : Float64) (scope reason : String) : AgentReleaseGate :=
  gate gateId (threshold.le value) (fixedText 6 value) (">=" ++ fixedText 6 threshold ++ scope) reason

def countAtLeast (gateId : ReleaseGateId) (value threshold : ℕ) (scope reason : String) : AgentReleaseGate :=
  gate gateId (threshold ≤ value) (toString value) (">=" ++ toString threshold ++ scope) reason

/-- The relationship gates, after the one of the candidate's identity. -/
def relationshipGateRows (p : ReleaseThresholds) (v : ReleaseMeasures) : List AgentReleaseGate :=
  [gate .agentCandidateIdentity v.systemsStable (if v.systemsStable then "stable" else "mixed candidate or benchmark identities")
      "one exact candidate system and benchmark across every capture" "agent_candidate_identity_mismatch",
    countAtLeast .relationshipSampleSize v.relationshipCaseCount p.minRelationshipCaseCount " cases"
      "relationship_sample_too_small",
    gate .relationshipMacroF1 (v.relationshipMacroF1.any p.minRelationshipMacroF1.le) (numberText v.relationshipMacroF1)
      (">=" ++ fixedText 6 p.minRelationshipMacroF1) "relationship_macro_f1_below_threshold",
    atLeast .relationshipAccuracyDelta v.relationshipAccuracyDelta p.minRelationshipAccuracyDelta ""
      "relationship_accuracy_regressed",
    gate .relationshipRegressionRate (v.relationshipRegressionRate.le p.maxRelationshipRegressionRate)
      (fixedText 6 v.relationshipRegressionRate) ("<=" ++ fixedText 6 p.maxRelationshipRegressionRate)
      "relationship_case_regression_rate_too_high"]

def sampleGateRows (p : ReleaseThresholds) (v : ReleaseMeasures) : List AgentReleaseGate :=
  [countAtLeast .trajectoryCaptureCount v.trajectoryCount p.minTrajectoryCaptureCount " captures"
      "trajectory_capture_count_too_small",
    countAtLeast .trajectoryTotalCases v.totalCases p.minTotalTrajectoryCaseCount " cases" "trajectory_total_sample_too_small",
    countAtLeast .trajectoryCaptureSampleSize v.minimumCaptureCases p.minCaseCountPerCapture " cases per capture"
      "trajectory_capture_sample_too_small"]

def groundedGateRows (p : ReleaseThresholds) (v : ReleaseMeasures) : List AgentReleaseGate :=
  [gate .groundedReviewAdjudication v.allAdjudicated (if v.allAdjudicated then "complete" else "missing adjudication")
      "independent review plus disagreement-only adjudication for every capture" "grounded_review_not_adjudicated",
    atLeast .groundedAnswerCoverage v.answeredRate p.minAnsweredCaseRate "" "grounded_answer_coverage_too_low",
    atLeast .groundedStrictPass v.minimumGroundedPass p.minGroundedStrictPassRate " in every capture"
      "grounded_strict_pass_below_threshold",
    gate .groundedUnsupportedClaims (v.maximumUnsupported.any (·.le p.maxGroundedUnsupportedClaimRate))
      (numberText v.maximumUnsupported) ("<=" ++ fixedText 6 p.maxGroundedUnsupportedClaimRate ++ " in every capture")
      "grounded_unsupported_claim_rate_too_high",
    gate .groundedCompleteCitations (v.minimumCitations.any p.minGroundedCompleteCitationRate.le)
      (numberText v.minimumCitations) (">=" ++ fixedText 6 p.minGroundedCompleteCitationRate ++ " in every capture")
      "grounded_complete_citation_rate_too_low"]

def trajectoryGateRows (p : ReleaseThresholds) (v : ReleaseMeasures) : List AgentReleaseGate :=
  [atLeast .trajectoryPolicyCompliance v.minimumPolicyCompliance p.minTrajectoryPolicyComplianceRate " in every capture"
      "trajectory_policy_compliance_below_threshold",
    atLeast .trajectoryEvidenceInspection v.minimumEvidenceInspection p.minTrajectoryEvidenceInspectionRate " in every capture"
      "trajectory_evidence_inspection_below_threshold",
    atLeast .trajectoryClaimTrace v.minimumClaimTrace p.minTrajectoryClaimTraceRate " in every capture"
      "trajectory_claim_trace_below_threshold",
    atLeast .trajectoryStrictPass v.minimumTrajectoryPass p.minTrajectoryStrictPassRate " in every capture"
      "trajectory_strict_pass_below_threshold",
    atLeast .trajectoryEndToEndPass v.minimumEndToEnd p.minTrajectoryEndToEndPassRate " in every capture"
      "trajectory_end_to_end_pass_below_threshold",
    gate .trajectoryStepBudget (v.maximumSteps.le p.maxTrajectoryP95StepCount) (fixedText 3 v.maximumSteps)
      ("<=" ++ fixedText 3 p.maxTrajectoryP95StepCount ++ " p95 steps") "trajectory_step_budget_exceeded",
    gate .trajectoryLatencyBudget (v.maximumLatency.le p.maxTrajectoryP95LatencyMs) (fixedText 3 v.maximumLatency ++ " ms")
      ("<=" ++ fixedText 3 p.maxTrajectoryP95LatencyMs ++ " ms p95") "trajectory_latency_budget_exceeded"]

def driftGateRows (v : ReleaseMeasures) : List AgentReleaseGate :=
  [gate .trajectoryDriftChain v.driftChainComplete
      (toString v.driftPairs ++ " of " ++ toString v.expectedDriftPairs ++ " consecutive comparisons")
      "one exact policy-matched drift report per consecutive capture pair" "trajectory_drift_chain_incomplete",
    gate .trajectoryDriftStability v.driftStable (if v.driftStable then "stable" else toString v.driftAlerts ++ " alert(s)")
      "zero drift alerts across the complete consecutive chain" "trajectory_drift_detected"]

/-- The gates of an assessment, in their canonical order. -/
def releaseGates (p : ReleaseThresholds) (v : ReleaseMeasures) : List AgentReleaseGate :=
  relationshipGateRows p v ++ sampleGateRows p v ++ groundedGateRows p v ++ trajectoryGateRows p v ++ driftGateRows v

/-! ## Inputs -/

/-- What a release computes with: the model of assessments, and the dumps of the
reports that it reads. -/
structure EvaluationModel (S : Type) extends ReleaseModel S where
  dumpRelationship : RelationshipComparison S → Json
  dumpBatch : TrajectoryBatchContent S → Json
  dumpReport : TrajectoryReportContent S → Json
  dumpDrift : DriftReportContent S → Json
  isdigit : Char → Bool
  casefold : String → String

/-- The model of the scores that a release reads. -/
def EvaluationModel.scores {S : Type} (m : EvaluationModel S) : TrajectoryModel S :=
  ⟨m.sha256, m.dumpBatch, m.dumpReport, m.isdigit, m.casefold⟩

section
variable {S : Type} [DecidableEq S] (m : EvaluationModel S)

/-- A policy that its model accepts. -/
structure AgentReleaseThresholdPolicy extends PolicyData where
  valid : toPolicyData.validate m.toReleaseModel = .ok ()

/-- A drift report that its model accepts. -/
structure AgentTrajectoryDriftReport extends AgentTrajectoryDriftReportData S where
  valid : toAgentTrajectoryDriftReportData.validate m.sha256 m.dumpDrift = .ok ()

/-! ## Equal drift reports -/

def thresholdFloats (t : AgentTrajectoryDriftThresholds) : List Float64 :=
  [t.maxStrictTrajectoryPassRateDrop, t.maxStrictEndToEndPassRateDrop, t.maxPolicyComplianceRateDrop,
    t.maxEvidenceInspectionRateDrop, t.maxClaimTraceRateDrop, t.maxP95LatencyRelativeIncrease, t.maxP95StepRelativeIncrease]

def sameFloats (a b : List Float64) : Bool := a.length = b.length && (a.zip b).all fun pair => pair.1.beq pair.2

def AgentTrajectoryDriftCheck.equals (a b : AgentTrajectoryDriftCheck) : Bool :=
  a.metric = b.metric && a.baseline.beq b.baseline && a.current.beq b.current &&
    sameFloats a.deterioration.toList b.deterioration.toList && a.maximumDeterioration.beq b.maximumDeterioration &&
    a.passed = b.passed && a.comparison = b.comparison

/-- `a == b`: floats are compared as numbers, and aware datetimes as moments. -/
def AgentTrajectoryDriftReportData.equals (a b : AgentTrajectoryDriftReportData S) : Bool :=
  a.driftReportId = b.driftReportId && a.driftReportSha256 = b.driftReportSha256 &&
    a.generatedAt.instant = b.generatedAt.instant && a.benchmarkId = b.benchmarkId && a.system = b.system &&
    a.baselineReportId = b.baselineReportId && a.baselineReportSha256 = b.baselineReportSha256 &&
    a.baselineCapturedAt.instant = b.baselineCapturedAt.instant && a.currentReportId = b.currentReportId &&
    a.currentReportSha256 = b.currentReportSha256 && a.currentCapturedAt.instant = b.currentCapturedAt.instant &&
    sameFloats (thresholdFloats a.thresholds) (thresholdFloats b.thresholds) && a.status = b.status && a.failedMetrics = b.failedMetrics &&
    a.checks.length = b.checks.length && (a.checks.zip b.checks).all fun pair => pair.1.equals pair.2

/-! ## The evaluation -/

/-- `report.captured_at`, as what captures are sorted by -/
def AgentTrajectoryScoreReport.capture {t : TrajectoryModel S} (r : AgentTrajectoryScoreReport t) : ℤ := r.capturedAt.instant

/-- One pass of the loop over the trajectory reports. -/
def groundedOf (groundedReports : List (GroundedAnswerReport S)) (trajectory : AgentTrajectoryScoreReport m.scores) :
    Except String (GroundedAnswerReport S) :=
  match groundedReports.find? (·.reportId = trajectory.groundedReportId) with
  | none => .error ("missing grounded report bound by trajectory " ++ trajectory.reportId)
  | some grounded => do
    check (grounded.reportSha256 = trajectory.groundedReportSha256 && grounded.taskId = trajectory.taskId &&
        grounded.taskSha256 = trajectory.taskSha256 && grounded.batchId = trajectory.candidateBatchId &&
        grounded.batchSha256 = trajectory.candidateBatchSha256)
      "trajectory report does not match its exact grounded report"
    return grounded

def driftPair (d : AgentTrajectoryDriftReport m) : String × String := (d.baselineReportId, d.currentReportId)

/-- `drift_by_pair` -/
def driftByPair (driftReports : List (AgentTrajectoryDriftReport m)) :
    List ((String × String) × AgentTrajectoryDriftReport m) :=
  PyDict.ofItems (driftReports.map fun d => (driftPair m d, d))

/-- `drift_matches`, of two captures in a row -/
def driftMatches (thresholds : AgentTrajectoryDriftThresholds) (driftReports : List (AgentTrajectoryDriftReport m))
    (captures : AgentTrajectoryScoreReport m.scores × AgentTrajectoryScoreReport m.scores) : Bool :=
  (PyDict.get (driftByPair m driftReports) (captures.1.reportId, captures.2.reportId)).any fun supplied =>
    (compareAgentTrajectoryReports m.sha256 m.dumpDrift captures.1.toAgentTrajectoryScoreReportData
      captures.2.toAgentTrajectoryScoreReportData thresholds supplied.generatedAt).toOption.any
        (supplied.toAgentTrajectoryDriftReportData.equals ·)

/-- `drift_chain_complete` -/
def driftChainComplete (thresholds : AgentTrajectoryDriftThresholds) (driftReports : List (AgentTrajectoryDriftReport m))
    (ordered : List (AgentTrajectoryScoreReport m.scores)) : Bool :=
  let expected := consecutivePairs (ordered.map (·.reportId))
  let supplied := (driftByPair m driftReports).map Prod.fst
  supplied.length = driftReports.length && supplied.all expected.contains && expected.all supplied.contains &&
    (consecutivePairs ordered).all (driftMatches m thresholds driftReports)

/-- `drift_stable` -/
def driftStable (thresholds : AgentTrajectoryDriftThresholds) (driftReports : List (AgentTrajectoryDriftReport m))
    (ordered : List (AgentTrajectoryScoreReport m.scores)) : Bool :=
  driftChainComplete m thresholds driftReports ordered &&
    (consecutivePairs (ordered.map (·.reportId))).all fun pair =>
      (PyDict.get (driftByPair m driftReports) pair).any (·.status = .stable)

/-- What the gates read, of captures in their order and the grounded report of each. -/
def releaseMeasures (thresholds : AgentTrajectoryDriftThresholds) (relationship : RelationshipComparison S)
    (first : AgentTrajectoryScoreReport m.scores) (ordered : List (AgentTrajectoryScoreReport m.scores))
    (grounded : List (GroundedAnswerReport S)) (driftReports : List (AgentTrajectoryDriftReport m)) :
    Except String ReleaseMeasures := do
  let minimumCaptureCases ← bestOf (fun x best => x < best) (ordered.map (·.caseCount))
  let answeredRate ← intDiv (grounded.map (·.answeredCaseCount)).sum (grounded.map (·.caseCount)).sum
  let minimumGroundedPass ← minimumOf (grounded.map (·.strictCasePassRate))
  let maximumUnsupported ← optionalBest maximumOf (grounded.map (·.unsupportedClaimRate))
  let minimumCitations ← optionalBest minimumOf (grounded.map (·.completeCitationRate))
  let minimumPolicyCompliance ← minimumOf (ordered.map (·.overall.policyComplianceRate))
  let minimumEvidenceInspection ← minimumOf (ordered.map (·.overall.evidenceInspectionRate))
  let minimumClaimTrace ← minimumOf (ordered.map (·.overall.claimTraceRate))
  let minimumTrajectoryPass ← minimumOf (ordered.map (·.overall.strictTrajectoryPassRate))
  let minimumEndToEnd ← minimumOf (ordered.map (·.overall.strictEndToEndPassRate))
  let maximumSteps ← maximumOf (ordered.map (·.overall.p95StepCount))
  let maximumLatency ← maximumOf (ordered.map (·.overall.p95LatencyMs))
  let relationshipRegressionRate ← intDiv relationship.regressions relationship.caseCount
  return {
    systemsStable := ordered.all (·.system = first.system) && grounded.all (·.system = first.system) &&
      ordered.all (·.benchmarkId = first.benchmarkId)
    relationshipCaseCount := relationship.caseCount
    relationshipMacroF1 := relationship.macroF1
    relationshipAccuracyDelta := relationship.accuracyDelta
    relationshipRegressionRate
    trajectoryCount := ordered.length
    totalCases := (ordered.map (·.caseCount)).sum
    minimumCaptureCases
    allAdjudicated := grounded.all (·.adjudicated)
    answeredRate, minimumGroundedPass, maximumUnsupported, minimumCitations, minimumPolicyCompliance
    minimumEvidenceInspection, minimumClaimTrace, minimumTrajectoryPass, minimumEndToEnd, maximumSteps, maximumLatency
    driftPairs := (driftByPair m driftReports).length
    expectedDriftPairs := ordered.length - 1
    driftAlerts := driftReports.countP (·.status = .driftDetected)
    driftChainComplete := driftChainComplete m thresholds driftReports ordered
    driftStable := driftStable m thresholds driftReports ordered }

def trajectoryEvidence (report : AgentTrajectoryScoreReport m.scores) : TrajectoryReleaseEvidence :=
  ⟨report.reportId, report.reportSha256, report.taskId, report.groundedReportId, report.groundedReportSha256,
    report.capturedAt, report.caseCount⟩

def driftEvidence (report : AgentTrajectoryDriftReport m) : DriftReleaseEvidence :=
  ⟨report.driftReportId, report.driftReportSha256, report.baselineReportId, report.currentReportId, report.status⟩

/-- `(report.baseline_captured_at, report.current_captured_at)` -/
def driftKey (report : AgentTrajectoryDriftReport m) : ℤ ×ₗ ℤ :=
  toLex (report.baselineCapturedAt.instant, report.currentCapturedAt.instant)

/-- The assessment of the measures, its identity apart. -/
def assessmentOf (policy : PolicyData) (relationship : RelationshipComparison S) (agentSystem : S)
    (measures : ReleaseMeasures) (ordered : List (AgentTrajectoryScoreReport m.scores))
    (driftReports : List (AgentTrajectoryDriftReport m)) (gates : List AgentReleaseGate) (generatedAt : Datetime) :
    AssessmentContent S :=
  let blocked := gates.filter (!·.passed)
  { generatedAt, policy, agentSystem
    relationshipSystem := relationship.candidateSystem
    relationshipEvidence :=
      { reportId := relationship.reportId
        reportSha256 := canonicalSha256 m.sha256 (m.dumpRelationship relationship)
        candidateId := m.candidateId relationship.candidateSystem
        caseCount := relationship.caseCount
        macroF1 := measures.relationshipMacroF1
        accuracyDelta := measures.relationshipAccuracyDelta
        regressionRate := measures.relationshipRegressionRate }
    trajectoryEvidence := ordered.map (trajectoryEvidence m)
    driftEvidence := (driftReports.insertionSort fun a b => driftKey m a ≤ driftKey m b).map (driftEvidence m)
    gateCount := gates.length
    passedGateCount := gates.length - blocked.length
    blockedGateCount := blocked.length
    blockingReasons := blocked.filterMap (·.blockingReason)
    gates
    status := if blocked.isEmpty then .eligibleForHumanReview else .blocked
    caveats := agentReleaseCaveats }

/-- The evaluation of captures in their order, of which one is the first. -/
def evaluateCaptures (policy : AgentReleaseThresholdPolicy m) (relationship : RelationshipComparison S)
    (groundedReports : List (GroundedAnswerReport S)) (first : AgentTrajectoryScoreReport m.scores)
    (ordered : List (AgentTrajectoryScoreReport m.scores)) (driftReports : List (AgentTrajectoryDriftReport m))
    (generatedAt : Datetime) : Except String (AssessmentData S) := do
  check (decide (ordered.map (·.reportId)).Nodup) "release assessment trajectory reports must be unique"
  check (decide (ordered.map (·.capture)).Nodup) "release assessment trajectory captures must be distinct"
  check (decide (groundedReports.map (·.reportId)).Nodup) "release assessment grounded reports must be unique"
  let grounded ← ordered.mapM (groundedOf m groundedReports)
  check (groundedReports.all fun report => report.reportId ∈ ordered.map (·.groundedReportId))
    "release assessment contains unreferenced grounded reports"
  let measures ← releaseMeasures m policy.driftThresholds relationship first ordered grounded driftReports
  let gates := releaseGates policy.toReleaseThresholds measures
  gates.forM AgentReleaseGate.validate
  let generatedAt ← utc generatedAt "release assessment generated_at"
  let content := assessmentOf m policy.toPolicyData relationship first.system measures ordered driftReports gates generatedAt.val
  let digest := canonicalSha256 m.sha256 (m.dumpAssessment content)
  let built : AssessmentData S := ⟨content, artifactId "release-assessment-" digest, digest⟩
  built.validate m.toReleaseModel
  return built

/-- `sorted(trajectory_reports, key=lambda report: report.captured_at)` -/
def orderedCaptures (reports : List (AgentTrajectoryScoreReport m.scores)) : List (AgentTrajectoryScoreReport m.scores) :=
  reports.insertionSort fun a b => a.capture ≤ b.capture

/-- `evaluate_agent_release` -/
def evaluateAgentRelease (policy : AgentReleaseThresholdPolicy m) (relationship : RelationshipComparison S)
    (groundedReports : List (GroundedAnswerReport S)) (trajectoryReports : List (AgentTrajectoryScoreReport m.scores))
    (driftReports : List (AgentTrajectoryDriftReport m)) (generatedAt : Datetime) : Except String (AssessmentData S) :=
  match orderedCaptures m trajectoryReports with
  | [] => .error "release assessment requires at least one trajectory report"
  | first :: rest => evaluateCaptures m policy relationship groundedReports first (first :: rest) driftReports generatedAt

end

end AtlasPulse.AgentTrajectory
