import AtlasPulse.AgentTrajectory

/-!
# Drift between captures

`agent_trajectory/drift.py`: the deterioration from one capture of an agent to
a later one, metric by metric, and the report that fails closed on it. The
constant texts that every report carries are left out.
-/

namespace AtlasPulse.AgentTrajectory

open PyJson PyTime Binary64

/-! ## Checks -/

inductive DriftMetric
  | strictTrajectoryPassRate
  | strictEndToEndPassRate
  | policyComplianceRate
  | evidenceInspectionRate
  | claimTraceRate
  | p95LatencyRelativeIncrease
  | p95StepRelativeIncrease
  deriving DecidableEq

/-- The metrics that a report contains once each. -/
def driftMetrics : List DriftMetric :=
  [.strictTrajectoryPassRate, .strictEndToEndPassRate, .policyComplianceRate, .evidenceInspectionRate, .claimTraceRate,
    .p95LatencyRelativeIncrease, .p95StepRelativeIncrease]

structure AgentTrajectoryDriftCheck where
  metric : DriftMetric
  baseline : Float64
  current : Float64
  deterioration : Option Float64
  maximumDeterioration : Float64
  passed : Bool
  comparison : String
  deriving DecidableEq

/-- `deterioration is not None and deterioration <= maximum + 1e-12` -/
def isTolerated (deterioration : Option Float64) (maximum : Float64) : Bool :=
  deterioration.any fun value => value.le (maximum.add (literalFloat (1 / 10 ^ 12)))

/-- The bounds of the fields, then `validate_pass`. -/
def AgentTrajectoryDriftCheck.validate (c : AgentTrajectoryDriftCheck) : Except String Unit := do
  check (c.baseline.isFinite && c.current.isFinite) "Input should be a finite number"
  c.deterioration.forM (checkFrom 0)
  checkFrom 0 c.maximumDeterioration
  check (3 ≤ c.comparison.length && c.comparison.length ≤ 200) "String should have at most 200 characters"
  check (c.passed = isTolerated c.deterioration c.maximumDeterioration) "drift check pass must match deterioration and threshold"

/-- `_rate_check` -/
def rateCheck (metric : DriftMetric) (baseline current maximumDrop : Float64) : Except String AgentTrajectoryDriftCheck := do
  let deterioration := (Float64.ofInt 0).max (baseline.sub current)
  let built : AgentTrajectoryDriftCheck :=
    ⟨metric, baseline, current, some deterioration, maximumDrop, isTolerated (some deterioration) maximumDrop,
      "baseline minus current must not exceed the maximum rate drop"⟩
  built.validate
  return built

/-- `max(0.0, current / baseline - 1.0) if baseline > 0 else (0.0 if current == 0 else None)` -/
def relativeIncrease (baseline current : Float64) : Except String (Option Float64) :=
  if (Float64.ofInt 0).lt baseline then do
    let quotient ← current.div baseline
    return some ((Float64.ofInt 0).max (quotient.sub (Float64.ofInt 1)))
  else .ok (if current.beq (Float64.ofInt 0) then some (Float64.ofInt 0) else none)

/-- `_relative_increase_check` -/
def relativeIncreaseCheck (metric : DriftMetric) (baseline current maximumIncrease : Float64) :
    Except String AgentTrajectoryDriftCheck := do
  let deterioration ← relativeIncrease baseline current
  let built : AgentTrajectoryDriftCheck :=
    ⟨metric, baseline, current, deterioration, maximumIncrease, isTolerated deterioration maximumIncrease,
      "current relative increase must not exceed the maximum"⟩
  built.validate
  return built

/-! ## Reports -/

/-- A drift report, its identity apart. -/
structure DriftReportContent (S : Type) where
  generatedAt : Datetime
  benchmarkId : String
  system : S
  baselineReportId : String
  baselineReportSha256 : String
  baselineCapturedAt : Datetime
  currentReportId : String
  currentReportSha256 : String
  currentCapturedAt : Datetime
  thresholds : AgentTrajectoryDriftThresholds
  status : DriftStatus
  failedMetrics : List DriftMetric
  checks : List AgentTrajectoryDriftCheck
  deriving DecidableEq

structure AgentTrajectoryDriftReportData (S : Type) extends DriftReportContent S where
  driftReportId : String
  driftReportSha256 : String
  deriving DecidableEq

def failedMetrics (checks : List AgentTrajectoryDriftCheck) : List DriftMetric := (checks.filter (!·.passed)).map (·.metric)

def driftStatus (failed : List DriftMetric) : DriftStatus := if failed.isEmpty then .stable else .driftDetected

section
variable {S : Type} [DecidableEq S]

/-- The bounds of the fields, then `validate_report`. -/
def AgentTrajectoryDriftReportData.validate (sha256 : String → HexDigest) (dump : DriftReportContent S → Json)
    (r : AgentTrajectoryDriftReportData S) : Except String Unit := do
  r.thresholds.validate
  r.checks.forM AgentTrajectoryDriftCheck.validate
  check (r.checks.length = 7) "Tuple should have at least 7 items after validation"
  check (r.generatedAt.utcoffset ≠ none) "trajectory drift generated_at must be timezone-aware"
  check (r.baselineCapturedAt.utcoffset ≠ none) "trajectory drift baseline_captured_at must be timezone-aware"
  check (r.currentCapturedAt.utcoffset ≠ none) "trajectory drift current_captured_at must be timezone-aware"
  check (r.baselineCapturedAt.instant < r.currentCapturedAt.instant) "trajectory drift captures must be strictly chronological"
  check ((r.checks.map (·.metric)).isPerm driftMetrics) "trajectory drift checks must contain each metric exactly once"
  check (r.failedMetrics = AgentTrajectory.failedMetrics r.checks) "trajectory failed metrics must match failed checks in check order"
  check (r.status = driftStatus r.failedMetrics) "trajectory drift status must match failed checks"
  let digest := canonicalSha256 sha256 (dump r.toDriftReportContent)
  check (r.driftReportSha256 = digest) "trajectory drift SHA-256 must match exact comparisons"
  check (r.driftReportId = artifactId "trajectory-drift-" digest) "trajectory drift ID must match its SHA-256"

/-- The comparisons of two summaries. -/
def driftChecks (policy : AgentTrajectoryDriftThresholds) (before after : AgentTrajectoryMetricSummary) :
    Except String (List AgentTrajectoryDriftCheck) := do
  let strictTrajectory ← rateCheck .strictTrajectoryPassRate before.strictTrajectoryPassRate after.strictTrajectoryPassRate
    policy.maxStrictTrajectoryPassRateDrop
  let endToEnd ← rateCheck .strictEndToEndPassRate before.strictEndToEndPassRate after.strictEndToEndPassRate
    policy.maxStrictEndToEndPassRateDrop
  let compliance ← rateCheck .policyComplianceRate before.policyComplianceRate after.policyComplianceRate
    policy.maxPolicyComplianceRateDrop
  let inspection ← rateCheck .evidenceInspectionRate before.evidenceInspectionRate after.evidenceInspectionRate
    policy.maxEvidenceInspectionRateDrop
  let trace ← rateCheck .claimTraceRate before.claimTraceRate after.claimTraceRate policy.maxClaimTraceRateDrop
  let latency ← relativeIncreaseCheck .p95LatencyRelativeIncrease before.p95LatencyMs after.p95LatencyMs
    policy.maxP95LatencyRelativeIncrease
  let step ← relativeIncreaseCheck .p95StepRelativeIncrease before.p95StepCount after.p95StepCount
    policy.maxP95StepRelativeIncrease
  return [strictTrajectory, endToEnd, compliance, inspection, trace, latency, step]

/-- `compare_agent_trajectory_reports` -/
def compareAgentTrajectoryReports (sha256 : String → HexDigest) (dump : DriftReportContent S → Json)
    (baseline current : AgentTrajectoryScoreReportData S) (thresholds : AgentTrajectoryDriftThresholds) (generatedAt : Datetime) :
    Except String (AgentTrajectoryDriftReportData S) := do
  check (baseline.reportId ≠ current.reportId) "trajectory drift requires two distinct reports"
  check (baseline.benchmarkId = current.benchmarkId) "trajectory drift requires the same benchmark identity"
  check (baseline.system = current.system) "trajectory drift requires one immutable candidate identity"
  check (sameSet (baseline.slices.map Prod.fst) (current.slices.map Prod.fst))
    "trajectory drift requires the same declared slice shape"
  check (baseline.capturedAt.instant < current.capturedAt.instant) "trajectory drift reports must be strictly chronological"
  let checks ← driftChecks thresholds baseline.overall current.overall
  let failed := failedMetrics checks
  let generatedAt ← utc generatedAt "trajectory drift generated_at"
  let content : DriftReportContent S :=
    { generatedAt := generatedAt.val
      benchmarkId := baseline.benchmarkId
      system := baseline.system
      baselineReportId := baseline.reportId
      baselineReportSha256 := baseline.reportSha256
      baselineCapturedAt := baseline.capturedAt
      currentReportId := current.reportId
      currentReportSha256 := current.reportSha256
      currentCapturedAt := current.capturedAt
      thresholds
      status := driftStatus failed
      failedMetrics := failed
      checks }
  let digest := canonicalSha256 sha256 (dump content)
  let built : AgentTrajectoryDriftReportData S := ⟨content, artifactId "trajectory-drift-" digest, digest⟩
  built.validate sha256 dump
  return built

end

end AtlasPulse.AgentTrajectory
