import AtlasPulse.Identity
import AtlasPulse.Ranking

/-!
# Release assessments

`agent_trajectory/release.py`: the threshold policy, the gates of an assessment,
the evidence that it binds, and the check of an assessment that was read back.
The candidate systems, the dumps of the models and SHA-256 are parameters. The
patterns of identities that a digest determines are checked by the digest.
-/

namespace AtlasPulse

open PyJson PyTime Binary64

/-! ## Gates -/

inductive ReleaseGateId
  | agentCandidateIdentity
  | relationshipSampleSize
  | relationshipMacroF1
  | relationshipAccuracyDelta
  | relationshipRegressionRate
  | trajectoryCaptureCount
  | trajectoryTotalCases
  | trajectoryCaptureSampleSize
  | groundedReviewAdjudication
  | groundedAnswerCoverage
  | groundedStrictPass
  | groundedUnsupportedClaims
  | groundedCompleteCitations
  | trajectoryPolicyCompliance
  | trajectoryEvidenceInspection
  | trajectoryClaimTrace
  | trajectoryStrictPass
  | trajectoryEndToEndPass
  | trajectoryStepBudget
  | trajectoryLatencyBudget
  | trajectoryDriftChain
  | trajectoryDriftStability
  deriving DecidableEq

/-- `AGENT_RELEASE_GATE_IDS` -/
def agentReleaseGateIds : List ReleaseGateId :=
  [.agentCandidateIdentity, .relationshipSampleSize, .relationshipMacroF1, .relationshipAccuracyDelta,
    .relationshipRegressionRate, .trajectoryCaptureCount, .trajectoryTotalCases, .trajectoryCaptureSampleSize,
    .groundedReviewAdjudication, .groundedAnswerCoverage, .groundedStrictPass, .groundedUnsupportedClaims,
    .groundedCompleteCitations, .trajectoryPolicyCompliance, .trajectoryEvidenceInspection, .trajectoryClaimTrace,
    .trajectoryStrictPass, .trajectoryEndToEndPass, .trajectoryStepBudget, .trajectoryLatencyBudget,
    .trajectoryDriftChain, .trajectoryDriftStability]

structure AgentReleaseGate where
  gateId : ReleaseGateId
  passed : Bool
  observed : String
  required : String
  blockingReason : Option String
  deriving DecidableEq

/-- `^[a-z0-9_]+$` -/
def matchesReason (reason : String) : Bool :=
  reason ≠ "" && reason.toList.all fun c => c.isLower || c.isDigit || c = '_'

def AgentReleaseGate.validate (g : AgentReleaseGate) : Except String Unit := do
  check (1 ≤ g.observed.length && g.observed.length ≤ 300) "String should have at most 300 characters"
  check (1 ≤ g.required.length && g.required.length ≤ 300) "String should have at most 300 characters"
  check (g.blockingReason.all matchesReason) "String should match pattern '^[a-z0-9_]+$'"
  check (g.passed ≠ g.blockingReason.isSome) "only failed release gates require a blocking reason"

/-! ## The threshold policy -/

/-- A decimal literal of the source. -/
def literalFloat (q : ℚ) : Float64 := ofRat false q

def checkUnit (value : Float64) : Except String Unit :=
  check (within 0 value 1) "Input should be between 0 and 1"

structure AgentTrajectoryDriftThresholds where
  maxStrictTrajectoryPassRateDrop : Float64
  maxStrictEndToEndPassRateDrop : Float64
  maxPolicyComplianceRateDrop : Float64
  maxEvidenceInspectionRateDrop : Float64
  maxClaimTraceRateDrop : Float64
  maxP95LatencyRelativeIncrease : Float64
  maxP95StepRelativeIncrease : Float64
  deriving DecidableEq

def AgentTrajectoryDriftThresholds.default : AgentTrajectoryDriftThresholds :=
  ⟨literalFloat (2 / 100), literalFloat (2 / 100), Float64.ofInt 0, Float64.ofInt 0, Float64.ofInt 0,
    literalFloat (25 / 100), literalFloat (25 / 100)⟩

def AgentTrajectoryDriftThresholds.validate (t : AgentTrajectoryDriftThresholds) : Except String Unit := do
  checkUnit t.maxStrictTrajectoryPassRateDrop
  checkUnit t.maxStrictEndToEndPassRateDrop
  checkUnit t.maxPolicyComplianceRateDrop
  checkUnit t.maxEvidenceInspectionRateDrop
  checkUnit t.maxClaimTraceRateDrop
  check (within 0 t.maxP95LatencyRelativeIncrease 10) "Input should be between 0 and 10"
  check (within 0 t.maxP95StepRelativeIncrease 10) "Input should be between 0 and 10"

/-- A threshold policy, its identity apart. -/
structure ReleaseThresholds where
  minRelationshipCaseCount : ℕ
  minRelationshipMacroF1 : Float64
  minRelationshipAccuracyDelta : Float64
  maxRelationshipRegressionRate : Float64
  minTrajectoryCaptureCount : ℕ
  minTotalTrajectoryCaseCount : ℕ
  minCaseCountPerCapture : ℕ
  minAnsweredCaseRate : Float64
  minGroundedStrictPassRate : Float64
  maxGroundedUnsupportedClaimRate : Float64
  minGroundedCompleteCitationRate : Float64
  minTrajectoryPolicyComplianceRate : Float64
  minTrajectoryEvidenceInspectionRate : Float64
  minTrajectoryClaimTraceRate : Float64
  minTrajectoryStrictPassRate : Float64
  minTrajectoryEndToEndPassRate : Float64
  maxTrajectoryP95StepCount : Float64
  maxTrajectoryP95LatencyMs : Float64
  driftThresholds : AgentTrajectoryDriftThresholds
  deriving DecidableEq

/-- The thresholds of `build_default_agent_release_policy`. -/
def ReleaseThresholds.default : ReleaseThresholds where
  minRelationshipCaseCount := 30
  minRelationshipMacroF1 := literalFloat (80 / 100)
  minRelationshipAccuracyDelta := Float64.ofInt 0
  maxRelationshipRegressionRate := literalFloat (5 / 100)
  minTrajectoryCaptureCount := 3
  minTotalTrajectoryCaseCount := 30
  minCaseCountPerCapture := 10
  minAnsweredCaseRate := literalFloat (25 / 100)
  minGroundedStrictPassRate := literalFloat (90 / 100)
  maxGroundedUnsupportedClaimRate := literalFloat (2 / 100)
  minGroundedCompleteCitationRate := literalFloat (98 / 100)
  minTrajectoryPolicyComplianceRate := Float64.ofInt 1
  minTrajectoryEvidenceInspectionRate := Float64.ofInt 1
  minTrajectoryClaimTraceRate := Float64.ofInt 1
  minTrajectoryStrictPassRate := Float64.ofInt 1
  minTrajectoryEndToEndPassRate := literalFloat (90 / 100)
  maxTrajectoryP95StepCount := Float64.ofInt 12
  maxTrajectoryP95LatencyMs := Float64.ofInt 15000
  driftThresholds := .default

structure PolicyData extends ReleaseThresholds where
  policyId : String
  policySha256 : String
  deriving DecidableEq

/-! ## Bound evidence -/

structure RelationshipReleaseEvidence where
  reportId : String
  reportSha256 : String
  candidateId : String
  caseCount : ℕ
  macroF1 : Option Float64
  accuracyDelta : Float64
  regressionRate : Float64
  deriving DecidableEq

structure TrajectoryReleaseEvidence where
  reportId : String
  reportSha256 : String
  taskId : String
  groundedReportId : String
  groundedReportSha256 : String
  capturedAt : Datetime
  caseCount : Nat
  deriving DecidableEq

inductive DriftStatus
  | stable
  | driftDetected
  deriving DecidableEq

structure DriftReleaseEvidence where
  driftReportId : String
  driftReportSha256 : String
  baselineReportId : String
  currentReportId : String
  status : DriftStatus
  deriving DecidableEq

inductive ReleaseStatus
  | blocked
  | eligibleForHumanReview
  deriving DecidableEq

/-- `AGENT_RELEASE_CAVEATS` -/
def agentReleaseCaveats : List String :=
  ["Release eligibility means the supplied content-addressed evaluation evidence met this exact " ++
      "threshold policy; it is not a factual truth claim or an execution authorization.",
    "The assessment requires separately adjudicated grounded-answer evidence, a reviewed " ++
      "relationship candidate comparison, observable trajectory scores, and a complete stable drift " ++
      "chain for one immutable agent candidate.",
    "Human approval remains proposal-scoped, short-lived, signed, and revocable. It is evaluated " ++
      "after this quality assessment and cannot enable the execution switch.",
    "Execution remains hard-disabled even when every quality threshold passes."]

/-! ## Policies -/

/-- An assessment, its identity apart. -/
structure AssessmentContent (S : Type) where
  generatedAt : Datetime
  policy : PolicyData
  agentSystem : S
  relationshipSystem : S
  relationshipEvidence : RelationshipReleaseEvidence
  trajectoryEvidence : List TrajectoryReleaseEvidence
  driftEvidence : List DriftReleaseEvidence
  gateCount : ℕ
  passedGateCount : ℕ
  blockedGateCount : ℕ
  blockingReasons : List String
  gates : List AgentReleaseGate
  status : ReleaseStatus
  caveats : List String

structure AssessmentData (S : Type) extends AssessmentContent S where
  assessmentId : String
  assessmentSha256 : String

/-- The systems' ids, the dumps that identities are computed of, and SHA-256. -/
structure ReleaseModel (S : Type) where
  candidateId : S → String
  sha256 : String → HexDigest
  dumpPolicy : ReleaseThresholds → Json
  dumpAssessment : AssessmentContent S → Json

/-- `f"{lead}-{digest[:20]}"` -/
def artifactId (lead digest : String) : String := lead ++ String.ofList (digest.toList.take 20)

section
variable {S : Type}

/-- The bounds of the fields, then `validate_policy`. -/
def PolicyData.validate (m : ReleaseModel S) (p : PolicyData) : Except String Unit := do
  check (1 ≤ p.minRelationshipCaseCount) "Input should be greater than or equal to 1"
  checkUnit p.minRelationshipMacroF1
  check (within (-1) p.minRelationshipAccuracyDelta 1) "Input should be between -1 and 1"
  checkUnit p.maxRelationshipRegressionRate
  check (2 ≤ p.minTrajectoryCaptureCount && p.minTrajectoryCaptureCount ≤ 100) "Input should be between 2 and 100"
  check (2 ≤ p.minTotalTrajectoryCaseCount) "Input should be greater than or equal to 2"
  check (1 ≤ p.minCaseCountPerCapture) "Input should be greater than or equal to 1"
  checkUnit p.minAnsweredCaseRate
  checkUnit p.minGroundedStrictPassRate
  checkUnit p.maxGroundedUnsupportedClaimRate
  checkUnit p.minGroundedCompleteCitationRate
  checkUnit p.minTrajectoryPolicyComplianceRate
  checkUnit p.minTrajectoryEvidenceInspectionRate
  checkUnit p.minTrajectoryClaimTraceRate
  checkUnit p.minTrajectoryStrictPassRate
  checkUnit p.minTrajectoryEndToEndPassRate
  check (within 1 p.maxTrajectoryP95StepCount 64) "Input should be between 1 and 64"
  check ((Float64.ofInt 0).le p.maxTrajectoryP95LatencyMs) "Input should be greater than or equal to 0"
  p.driftThresholds.validate
  check (p.minTrajectoryCaptureCount * p.minCaseCountPerCapture ≤ p.minTotalTrajectoryCaseCount)
    "total trajectory case floor must cover the minimum capture count and size"
  let digest := canonicalSha256 m.sha256 (m.dumpPolicy p.toReleaseThresholds)
  check (p.policySha256 = digest) "release policy SHA-256 must match exact thresholds"
  check (p.policyId = artifactId "release-policy-" digest) "release policy ID must match its SHA-256"

/-! ## Assessments -/

/-- The pairs of neighbours of a list. -/
def consecutivePairs {α : Type} (l : List α) : List (α × α) := l.zip l.tail

def AssessmentContent.passedGates (a : AssessmentContent S) : List AgentReleaseGate := a.gates.filter (·.passed)

def AssessmentContent.blockedGates (a : AssessmentContent S) : List AgentReleaseGate := a.gates.filter (!·.passed)

def AssessmentContent.gatePassed (a : AssessmentContent S) (id : ReleaseGateId) : Bool :=
  a.gates.any fun gate => gate.gateId = id && gate.passed

def DriftReleaseEvidence.pair (d : DriftReleaseEvidence) : String × String := (d.baselineReportId, d.currentReportId)

/-- The bounds of the fields, then `validate_assessment`. -/
def AssessmentData.validate (m : ReleaseModel S) (a : AssessmentData S) : Except String Unit := do
  a.policy.validate m
  check (1 ≤ a.relationshipEvidence.caseCount) "Input should be greater than or equal to 1"
  a.relationshipEvidence.macroF1.forM checkUnit
  check (within (-1) a.relationshipEvidence.accuracyDelta 1)
    "Input should be between -1 and 1"
  checkUnit a.relationshipEvidence.regressionRate
  check (1 ≤ a.trajectoryEvidence.length && a.trajectoryEvidence.length ≤ 100)
    "Tuple should have at least 1 item after validation"
  check (a.driftEvidence.length ≤ 99) "Tuple should have at most 99 items after validation"
  check (1 ≤ a.gateCount && !a.gates.isEmpty) "Input should be greater than or equal to 1"
  a.trajectoryEvidence.forM fun item =>
    check (item.capturedAt.utcoffset ≠ none) "trajectory release evidence capture must be timezone-aware"
  a.gates.forM AgentReleaseGate.validate
  check (a.generatedAt.utcoffset ≠ none) "release assessment generated_at must be timezone-aware"
  check (a.gateCount = a.gates.length) "release gate_count must match gates"
  check (a.gates.map (·.gateId) = agentReleaseGateIds) "release gates must contain every policy gate in canonical order"
  check (a.passedGateCount = a.passedGates.length && a.blockedGateCount = a.blockedGates.length)
    "release gate counts must match gate outcomes"
  check (a.blockingReasons = a.blockedGates.filterMap (·.blockingReason)) "release blocking reasons must match failed gates"
  check (a.status = if a.blockedGates.isEmpty then .eligibleForHumanReview else .blocked)
    "release status must match gate outcomes"
  let captureTimes : List Int := a.trajectoryEvidence.map (·.capturedAt.instant)
  check (captureTimes = captureTimes.insertionSort (· ≤ ·) && decide captureTimes.Nodup)
    "trajectory release evidence must be strictly chronological"
  let reportIds : List String := a.trajectoryEvidence.map (·.reportId)
  check (decide reportIds.Nodup) "trajectory release evidence reports must be unique"
  let driftPairs : List (String × String) := a.driftEvidence.map (·.pair)
  check (decide driftPairs.Nodup) "release drift evidence pairs must be unique"
  let chainPassed := a.gatePassed .trajectoryDriftChain
  check (!chainPassed || driftPairs = consecutivePairs reportIds)
    "passing release drift-chain gate requires consecutive evidence"
  check (a.gatePassed .trajectoryDriftStability = (chainPassed && a.driftEvidence.all (·.status = .stable)))
    "release drift-stability gate must match exact drift evidence"
  check (a.caveats = agentReleaseCaveats) "release assessment must retain human and execution boundaries"
  let digest := canonicalSha256 m.sha256 (m.dumpAssessment a.toAssessmentContent)
  check (a.assessmentSha256 = digest) "release assessment SHA-256 must match exact evidence and gates"
  check (a.assessmentId = artifactId "release-assessment-" digest)
    "release assessment ID must match its SHA-256"

/-- An assessment that its model accepts. -/
structure AgentReleaseAssessment (m : ReleaseModel S) extends AssessmentData S where
  valid : toAssessmentData.validate m = .ok ()

end

end AtlasPulse
