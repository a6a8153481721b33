import AtlasPulse.AgentRelease
import AtlasPulse.Correlation
import AtlasPulse.Governance
import AtlasPulse.Lib.Dict

/-!
# Agent trajectories

`agent_trajectory/base.py` and `agent_trajectory/scoring.py`: the traces that an
external runner submits for the responses of a candidate, their import, and
their scores. Of the task, the responses and the grounded report the models hold
what these modules read. The dumps of batches and reports, SHA-256 and `str.isdigit`
are parameters; the patterns of ids that only name an artifact are left out.
-/

namespace AtlasPulse.AgentTrajectory

open PyJson PyTime Binary64

/-! ## Upstream artifacts -/

inductive ResponseStatus
  | answered
  | abstained
  deriving DecidableEq

/-- A claim of a response; it cites evidence, in canonical order. -/
structure GroundedAnswerClaim where
  claimId : String
  text : String
  evidenceIds : List String
  canonical : evidenceIds = sortedUnique evidenceIds
  identified : evidenceIds.all (isPrefixedHash "evidence-")
  cited : 1 ≤ evidenceIds.length ∧ evidenceIds.length ≤ 4

/-- `f"claim-{index:02d}"` of an index below a hundred -/
def claimIdAt (index : ℕ) : String := "claim-" ++ String.ofList (Digits.pad 2 index)

/-- Its claims are numbered from one, and it has some exactly when it is an answer. -/
structure GroundedAnswerResponse where
  status : ResponseStatus
  claims : List GroundedAnswerClaim
  abstentionReason : Option String
  numbered : claims.map (·.claimId) = (List.range claims.length).map fun index => claimIdAt (index + 1)
  few : claims.length ≤ 8
  answered_iff : status = .answered ↔ claims ≠ []

def ResponseStatus.text : ResponseStatus → String
  | .answered => "answered"
  | .abstained => "abstained"

def GroundedAnswerClaim.dump (c : GroundedAnswerClaim) : Json :=
  .obj [("claim_id", .str c.claimId), ("text", .str c.text), ("evidence_ids", .arr (c.evidenceIds.map .str))]

/-- `response.model_dump(mode="json", exclude_none=False)` -/
def GroundedAnswerResponse.dump (r : GroundedAnswerResponse) : Json :=
  .obj [("status", .str r.status.text), ("claims", .arr (r.claims.map (·.dump))),
    ("abstention_reason", r.abstentionReason.elim .null .str)]

structure GroundedAnswerEvidence where
  evidenceId : String
  identified : isPrefixedHash "evidence-" evidenceId

structure GroundedAnswerTaskCase where
  caseId : String
  queryId : String
  slices : List String
  packId : String
  evidence : List GroundedAnswerEvidence
  distinct : (evidence.map (·.evidenceId)).Nodup

structure GroundedAnswerTask where
  taskId : String
  taskSha256 : String
  benchmarkId : String
  capturedAt : Datetime
  cases : List GroundedAnswerTaskCase
  ordered : cases.map (·.caseId) = sortedUnique (cases.map (·.caseId))
  some_case : 1 ≤ cases.length ∧ cases.length ≤ 100

structure GroundedAnswerCandidateCase where
  caseId : String
  queryId : String
  response : GroundedAnswerResponse
  inputTokens : ℕ
  outputTokens : ℕ
  latencyMs : Float64
  tokens : 1 ≤ inputTokens ∧ 1 ≤ outputTokens
  latency : latencyMs.isFinite && (Float64.ofInt 0).le latencyMs

structure GroundedAnswerCandidateBatch (S : Type) where
  batchId : String
  batchSha256 : String
  taskId : String
  taskSha256 : String
  system : S
  cases : List GroundedAnswerCandidateCase
  ordered : cases.map (·.caseId) = sortedUnique (cases.map (·.caseId))

/-! ## Traces -/

inductive TrajectoryAction
  | inspectEvidence
  | draftClaim
  | chooseAbstention
  | finalize
  deriving DecidableEq

structure AgentTrajectoryStep where
  sequence : ℕ
  action : TrajectoryAction
  evidenceIds : List String
  claimIds : List String
  durationMs : Float64
  deriving DecidableEq

/-- `Field(ge=low, allow_inf_nan=False)` -/
def checkFrom (low : ℤ) (value : Float64) : Except String Unit :=
  check (value.isFinite && (Float64.ofInt low).le value) ("Input should be greater than or equal to " ++ toString low)

/-- `claim-` and two characters that `str.isdigit` takes for digits. -/
def isClaimId (isdigit : Char → Bool) (id : String) : Bool :=
  id.length = 8 && "claim-".toList.isPrefixOf id.toList && (id.toList.drop 6).all isdigit

/-- The bounds of the fields, their validators, then `validate_action_shape`. -/
def AgentTrajectoryStep.validate (isdigit : Char → Bool) (s : AgentTrajectoryStep) : Except String Unit := do
  check (1 ≤ s.sequence && s.sequence ≤ 64) "Input should be less than or equal to 64"
  check (s.evidenceIds.length ≤ 8) "Tuple should have at most 8 items after validation"
  check (s.evidenceIds = sortedUnique s.evidenceIds) "trajectory evidence IDs must be unique and canonically ordered"
  check (s.evidenceIds.all (isPrefixedHash "evidence-")) "trajectory evidence IDs must use evidence-<sha256>"
  check (s.claimIds.length ≤ 1) "Tuple should have at most 1 item after validation"
  check (s.claimIds = sortedUnique s.claimIds) "trajectory claim IDs must be unique and canonically ordered"
  check (s.claimIds.all (isClaimId isdigit)) "trajectory claim IDs must use claim-NN"
  checkFrom 0 s.durationMs
  match s.action with
  | .inspectEvidence =>
    check (!s.evidenceIds.isEmpty && s.claimIds.isEmpty) "inspect_evidence requires evidence IDs and no claim IDs"
  | .draftClaim =>
    check (!s.evidenceIds.isEmpty && s.claimIds.length = 1) "draft_claim requires evidence IDs and exactly one claim ID"
  | .chooseAbstention =>
    check (s.evidenceIds.isEmpty && s.claimIds.isEmpty) "choose_abstention cannot contain evidence or claim IDs"
  | .finalize => check (s.evidenceIds.isEmpty && s.claimIds.isEmpty) "finalize cannot contain evidence or claim IDs"

structure AgentCapabilityObservation where
  networkAccessed : Bool
  toolsInvoked : Bool
  externalSideEffectsPerformed : Bool
  deriving DecidableEq

structure AgentTrajectorySubmissionCase where
  caseId : String
  queryId : String
  steps : Option (List AgentTrajectoryStep)
  capabilities : Option AgentCapabilityObservation

/-- Its model has accepted every step. -/
structure AgentTrajectorySubmission (isdigit : Char → Bool) where
  taskId : String
  taskSha256 : String
  candidateBatchId : String
  candidateBatchSha256 : String
  cases : List AgentTrajectorySubmissionCase
  ordered : cases.map (·.caseId) = sortedUnique (cases.map (·.caseId))
  valid : ∀ row ∈ cases, ∀ steps ∈ row.steps, steps.length ≤ 64 ∧ ∀ step ∈ steps, step.validate isdigit = .ok ()

structure AgentTrajectoryCase where
  caseId : String
  queryId : String
  packId : String
  responseSha256 : String
  responseStatus : ResponseStatus
  availableEvidenceIds : List String
  requiredEvidenceIds : List String
  requiredClaimIds : List String
  steps : List AgentTrajectoryStep
  capabilities : AgentCapabilityObservation
  inputTokens : ℕ
  outputTokens : ℕ
  latencyMs : Float64
  deriving DecidableEq

/-- `validate_evidence_id_sets` -/
def checkEvidenceIdSet (ids : List String) : Except String Unit := do
  check (ids = sortedUnique ids) "trajectory evidence bindings must be unique and ordered"
  check (ids.all (isPrefixedHash "evidence-")) "trajectory evidence bindings must use evidence-<sha256>"

/-- The bounds of the fields, their validators, then `validate_trace`. -/
def AgentTrajectoryCase.validate (isdigit : Char → Bool) (c : AgentTrajectoryCase) : Except String Unit := do
  checkEvidenceIdSet c.availableEvidenceIds
  checkEvidenceIdSet c.requiredEvidenceIds
  check (c.requiredClaimIds = sortedUnique c.requiredClaimIds) "trajectory claim bindings must be unique and ordered"
  check (c.requiredClaimIds.all (isClaimId isdigit)) "trajectory claim bindings must use claim-NN"
  c.steps.forM (AgentTrajectoryStep.validate isdigit)
  check (1 ≤ c.steps.length && c.steps.length ≤ 64) "Tuple should have at most 64 items after validation"
  check (1 ≤ c.inputTokens && 1 ≤ c.outputTokens) "Input should be greater than or equal to 1"
  checkFrom 0 c.latencyMs
  check (c.steps.map (·.sequence) = (List.range c.steps.length).map (· + 1)) "trajectory steps must be contiguous and one-based"
  check ((c.steps.filter (·.action = .finalize)).length = 1 && c.steps.getLast?.any (·.action = .finalize))
    "trajectory requires exactly one final step in last position"
  check (c.requiredEvidenceIds.all (· ∈ c.availableEvidenceIds)) "required evidence IDs must belong to the bound evidence pack"
  check (c.steps.all fun step => step.evidenceIds.all (· ∈ c.availableEvidenceIds))
    "trajectory steps reference evidence outside the bound task case"
  check (c.steps.all fun step => step.claimIds.all (· ∈ c.requiredClaimIds))
    "trajectory steps reference claims outside the candidate response"
  check (decide (c.responseStatus = .abstained) = (c.requiredClaimIds.isEmpty && c.requiredEvidenceIds.isEmpty))
    "trajectory response bindings do not match response status"
  check (!(c.latencyMs.add (literalFloat (1 / 10 ^ 9))).lt (Float64.sum (c.steps.map (·.durationMs))))
    "trajectory step durations cannot exceed candidate case latency"

/-- A batch of traces, its identity apart. -/
structure TrajectoryBatchContent (S : Type) where
  taskId : String
  taskSha256 : String
  candidateBatchId : String
  candidateBatchSha256 : String
  observedAt : Datetime
  system : S
  caseCount : ℕ
  cases : List AgentTrajectoryCase
  deriving DecidableEq

structure AgentTrajectoryBatchData (S : Type) extends TrajectoryBatchContent S where
  trajectoryBatchId : String
  trajectoryBatchSha256 : String
  deriving DecidableEq

/-! ## Outcomes -/

structure AgentTrajectoryCaseOutcome where
  caseId : String
  queryId : String
  responseStatus : ResponseStatus
  stepCount : ℕ
  inspectedEvidenceCount : ℕ
  requiredEvidenceCount : ℕ
  tracedClaimCount : ℕ
  requiredClaimCount : ℕ
  evidenceInspectionRate : Float64
  claimTraceRate : Float64
  policyCompliant : Bool
  terminationConsistent : Bool
  strictTrajectoryPass : Bool
  groundedStrictPass : Bool
  strictEndToEndPass : Bool
  inputTokens : ℕ
  outputTokens : ℕ
  latencyMs : Float64
  deriving DecidableEq

/-- `float(value)` of a truth value -/
def ofBool (value : Bool) : Float64 := Float64.ofInt (if value then 1 else 0)

/-- `count / total if total else other` -/
def rateOr (count total : ℕ) (other : Float64) : Except String Float64 :=
  if total = 0 then .ok other else intDiv count total

/-- `abs(x - y) > 1e-12` -/
def differs (x y : Float64) : Bool := (literalFloat (1 / 10 ^ 12)).lt (x.sub y).abs

/-- The bounds of the fields, then `validate_result`. -/
def AgentTrajectoryCaseOutcome.validate (o : AgentTrajectoryCaseOutcome) : Except String Unit := do
  check (1 ≤ o.stepCount && o.stepCount ≤ 64) "Input should be less than or equal to 64"
  checkUnit o.evidenceInspectionRate
  checkUnit o.claimTraceRate
  check (1 ≤ o.inputTokens && 1 ≤ o.outputTokens) "Input should be greater than or equal to 1"
  checkFrom 0 o.latencyMs
  check (o.inspectedEvidenceCount ≤ o.requiredEvidenceCount) "inspected required evidence cannot exceed required evidence"
  check (o.tracedClaimCount ≤ o.requiredClaimCount) "traced claims cannot exceed required claims"
  let evidenceRate ← rateOr o.inspectedEvidenceCount o.requiredEvidenceCount (Float64.ofInt 1)
  let claimRate ← rateOr o.tracedClaimCount o.requiredClaimCount (ofBool o.terminationConsistent)
  check (!differs o.evidenceInspectionRate evidenceRate) "evidence inspection rate must match its counts"
  check (!differs o.claimTraceRate claimRate) "claim trace rate must match its counts"
  check (o.strictTrajectoryPass = (o.policyCompliant && o.terminationConsistent &&
      o.evidenceInspectionRate.beq (Float64.ofInt 1) && o.claimTraceRate.beq (Float64.ofInt 1)))
    "strict trajectory pass must match its component checks"
  check (o.strictEndToEndPass = (o.strictTrajectoryPass && o.groundedStrictPass))
    "end-to-end pass must combine trajectory and grounded strict pass"

/-! ## Summaries -/

structure AgentTrajectoryMetricSummary where
  caseCount : ℕ
  answeredCaseCount : ℕ
  abstainedCaseCount : ℕ
  policyComplianceRate : Float64
  terminationConsistencyRate : Float64
  evidenceInspectionRate : Float64
  claimTraceRate : Float64
  strictTrajectoryPassRate : Float64
  groundedStrictPassRate : Float64
  strictEndToEndPassRate : Float64
  meanStepCount : Float64
  p95StepCount : Float64
  meanInputTokens : Float64
  meanOutputTokens : Float64
  meanLatencyMs : Float64
  p95LatencyMs : Float64
  deriving DecidableEq

def AgentTrajectoryMetricSummary.rates (s : AgentTrajectoryMetricSummary) : List Float64 :=
  [s.policyComplianceRate, s.terminationConsistencyRate, s.evidenceInspectionRate, s.claimTraceRate,
    s.strictTrajectoryPassRate, s.groundedStrictPassRate, s.strictEndToEndPassRate]

/-- The bounds of the fields, then `validate_counts`. -/
def AgentTrajectoryMetricSummary.validate (s : AgentTrajectoryMetricSummary) : Except String Unit := do
  check (1 ≤ s.caseCount) "Input should be greater than or equal to 1"
  s.rates.forM checkUnit
  check (within 1 s.meanStepCount 64 && within 1 s.p95StepCount 64) "Input should be between 1 and 64"
  checkFrom 1 s.meanInputTokens
  checkFrom 1 s.meanOutputTokens
  checkFrom 0 s.meanLatencyMs
  checkFrom 0 s.p95LatencyMs
  check (s.answeredCaseCount + s.abstainedCaseCount = s.caseCount) "trajectory response counts must cover every case"
  check (!(s.caseCount = 1 && s.p95StepCount.lt s.meanStepCount)) "single-case step mean and p95 must agree"

def AgentTrajectoryMetricSummary.floats (s : AgentTrajectoryMetricSummary) : List Float64 :=
  s.rates ++ [s.meanStepCount, s.p95StepCount, s.meanInputTokens, s.meanOutputTokens, s.meanLatencyMs, s.p95LatencyMs]

/-- Two summaries are equal field by field, floats by `==`. -/
def AgentTrajectoryMetricSummary.equals (a b : AgentTrajectoryMetricSummary) : Bool :=
  a.caseCount = b.caseCount && a.answeredCaseCount = b.answeredCaseCount && a.abstainedCaseCount = b.abstainedCaseCount &&
    (a.floats.zip b.floats).all fun p => p.1.beq p.2

/-- `ordered[index]` -/
def itemAt (ordered : List Float64) (index : ℕ) : Except String Float64 :=
  match ordered[index]? with
  | some value => .ok value
  | none => .error "list index out of range"

/-- `int(value)` of a float that is not negative -/
def truncated (value : Float64) : ℕ := (value.toRat?.getD 0).floor.toNat

/-- `_percentile` -/
def floatPercentile (values : List Float64) (fraction : Float64) : Except String Float64 := do
  let ordered := values.insertionSort fun x y => x.le y
  let position := (Float64.ofInt (ordered.length - 1)).mul fraction
  let lower := truncated position
  let upper := min (lower + 1) (ordered.length - 1)
  let weight := position.sub (Float64.ofInt lower)
  let low ← itemAt ordered lower
  let high ← itemAt ordered upper
  return (low.mul ((Float64.ofInt 1).sub weight)).add (high.mul weight)

/-- `sum(count) / total` of a property of the outcomes -/
def shareOf (outcomes : List AgentTrajectoryCaseOutcome) (holds : AgentTrajectoryCaseOutcome → Bool) : Except String Float64 :=
  intDiv (outcomes.countP holds) outcomes.length

/-- `sum(values) / total` of numbers of the outcomes -/
def meanOf (outcomes : List AgentTrajectoryCaseOutcome) (value : AgentTrajectoryCaseOutcome → ℕ) : Except String Float64 :=
  intDiv (outcomes.map value).sum outcomes.length

/-- `sum(values) / total` of floats of the outcomes -/
def floatMeanOf (outcomes : List AgentTrajectoryCaseOutcome) (value : AgentTrajectoryCaseOutcome → Float64) :
    Except String Float64 := (Float64.sum (outcomes.map value)).div (Float64.ofInt outcomes.length)

/-- `_summary` -/
def summary (outcomes : List AgentTrajectoryCaseOutcome) : Except String AgentTrajectoryMetricSummary := do
  check (!outcomes.isEmpty) "cannot summarize an empty trajectory slice"
  let count := outcomes.length
  let answered := outcomes.countP (·.responseStatus = .answered)
  let policyComplianceRate ← shareOf outcomes (·.policyCompliant)
  let terminationConsistencyRate ← shareOf outcomes (·.terminationConsistent)
  let evidenceInspectionRate ← floatMeanOf outcomes (·.evidenceInspectionRate)
  let claimTraceRate ← floatMeanOf outcomes (·.claimTraceRate)
  let strictTrajectoryPassRate ← shareOf outcomes (·.strictTrajectoryPass)
  let groundedStrictPassRate ← shareOf outcomes (·.groundedStrictPass)
  let strictEndToEndPassRate ← shareOf outcomes (·.strictEndToEndPass)
  let meanStepCount ← meanOf outcomes (·.stepCount)
  let p95StepCount ← floatPercentile (outcomes.map fun o => Float64.ofInt o.stepCount) (literalFloat (95 / 100))
  let meanInputTokens ← meanOf outcomes (·.inputTokens)
  let meanOutputTokens ← meanOf outcomes (·.outputTokens)
  let meanLatencyMs ← floatMeanOf outcomes (·.latencyMs)
  let p95LatencyMs ← floatPercentile (outcomes.map (·.latencyMs)) (literalFloat (95 / 100))
  let built : AgentTrajectoryMetricSummary :=
    ⟨count, answered, count - answered, policyComplianceRate, terminationConsistencyRate, evidenceInspectionRate,
      claimTraceRate, strictTrajectoryPassRate, groundedStrictPassRate, strictEndToEndPassRate, meanStepCount, p95StepCount,
      meanInputTokens, meanOutputTokens, meanLatencyMs, p95LatencyMs⟩
  built.validate
  return built

/-! ## Score reports -/

/-- A score report, its identity apart. -/
structure TrajectoryReportContent (S : Type) where
  generatedAt : Datetime
  benchmarkId : String
  capturedAt : Datetime
  taskId : String
  taskSha256 : String
  candidateBatchId : String
  candidateBatchSha256 : String
  groundedReportId : String
  groundedReportSha256 : String
  trajectoryBatchId : String
  trajectoryBatchSha256 : String
  system : S
  caseCount : ℕ
  overall : AgentTrajectoryMetricSummary
  slices : List (String × AgentTrajectoryMetricSummary)
  outcomes : List AgentTrajectoryCaseOutcome

structure AgentTrajectoryScoreReportData (S : Type) extends TrajectoryReportContent S where
  reportId : String
  reportSha256 : String

/-- The dumps that identities are computed of, SHA-256, and `str.isdigit` and
`str.casefold`. -/
structure TrajectoryModel (S : Type) where
  sha256 : String → HexDigest
  dumpBatch : TrajectoryBatchContent S → Json
  dumpReport : TrajectoryReportContent S → Json
  isdigit : Char → Bool
  casefold : String → String

section
variable {S : Type} [DecidableEq S] (m : TrajectoryModel S)

/-- `validate_batch` -/
def AgentTrajectoryBatchData.validate (b : AgentTrajectoryBatchData S) : Except String Unit := do
  check (1 ≤ b.cases.length && b.cases.length ≤ 100) "Tuple should have at most 100 items after validation"
  b.cases.forM (AgentTrajectoryCase.validate m.isdigit)
  check (b.observedAt.utcoffset ≠ none) "trajectory observed_at must be timezone-aware"
  check (b.caseCount = b.cases.length) "trajectory case_count must match cases"
  check (b.cases.map (·.caseId) = sortedUnique (b.cases.map (·.caseId))) "trajectory cases must be unique and canonically ordered"
  let digest := canonicalSha256 m.sha256 (m.dumpBatch b.toTrajectoryBatchContent)
  check (b.trajectoryBatchSha256 = digest) "trajectory batch SHA-256 must match its exact observations"
  check (b.trajectoryBatchId = artifactId "trajectory-batch-" digest) "trajectory batch ID must match its SHA-256"

/-- `validate_report` -/
def AgentTrajectoryScoreReportData.validate (r : AgentTrajectoryScoreReportData S) : Except String Unit := do
  r.overall.validate
  r.slices.forM fun slice => slice.2.validate
  r.outcomes.forM AgentTrajectoryCaseOutcome.validate
  check (!r.outcomes.isEmpty) "Tuple should have at least 1 item after validation, not 0"
  check (r.generatedAt.utcoffset ≠ none) "trajectory report generated_at must be timezone-aware"
  check (r.capturedAt.utcoffset ≠ none) "trajectory report captured_at must be timezone-aware"
  check (r.caseCount = r.outcomes.length && r.caseCount = r.overall.caseCount) "trajectory report case counts must agree"
  check (r.outcomes.map (·.caseId) = sortedUnique (r.outcomes.map (·.caseId))) "trajectory report outcomes must be unique and ordered"
  check (r.slices.map Prod.fst = (r.slices.map Prod.fst).insertionSort (· ≤ ·)) "trajectory report slices must use canonical order"
  check (r.slices.all fun slice => slice.1 ≠ "" && slice.1 = m.casefold (strip slice.1)) "trajectory report slice names must be normalized"
  let expected ← summary r.outcomes
  check (r.overall.equals expected) "trajectory overall summary must match exact case outcomes"
  let digest := canonicalSha256 m.sha256 (m.dumpReport r.toTrajectoryReportContent)
  check (r.reportSha256 = digest) "trajectory report SHA-256 must match exact measurements"
  check (r.reportId = artifactId "trajectory-report-" digest) "trajectory report ID must match its SHA-256"

/-- A batch of traces that its model accepts. -/
structure AgentTrajectoryBatch extends AgentTrajectoryBatchData S where
  valid : toAgentTrajectoryBatchData.validate m = .ok ()

/-- A score report that its model accepts. -/
structure AgentTrajectoryScoreReport extends AgentTrajectoryScoreReportData S where
  valid : toAgentTrajectoryScoreReportData.validate m = .ok ()

/-! ## Import -/

/-- `_response_sha256` -/
def responseSha256 (response : GroundedAnswerResponse) : String := canonicalSha256 m.sha256 response.dump

/-- `_validate_task_batch` -/
def validateTaskBatch (task : GroundedAnswerTask) (batch : GroundedAnswerCandidateBatch S) : Except String Unit := do
  check (batch.taskId = task.taskId && batch.taskSha256 = task.taskSha256)
    "grounded-answer candidate batch does not match the exact task"
  check (task.cases.map (·.caseId) = batch.cases.map (·.caseId)) "grounded-answer candidate cases do not exactly cover the task"

/-- The cited evidence of a response. -/
def citedEvidence (response : GroundedAnswerResponse) : List String :=
  sortedUnique (response.claims.flatMap (·.evidenceIds))

def claimIds (response : GroundedAnswerResponse) : List String :=
  (response.claims.map (·.claimId)).insertionSort (· ≤ ·)

def packEvidence (taskCase : GroundedAnswerTaskCase) : List String :=
  (taskCase.evidence.map (·.evidenceId)).insertionSort (· ≤ ·)

/-- One pass of the loop over the case ids. -/
def importCase (task : GroundedAnswerTask) (batch : GroundedAnswerCandidateBatch S) (submission : AgentTrajectorySubmission m.isdigit)
    (caseId : String) : Except String AgentTrajectoryCase :=
  match task.cases.find? (·.caseId = caseId), batch.cases.find? (·.caseId = caseId),
      submission.cases.find? (·.caseId = caseId) with
  | some taskCase, some candidate, some row => do
    check (row.queryId = taskCase.queryId && row.queryId = candidate.queryId)
      ("trajectory submission changed protected query ID for " ++ caseId)
    match row.steps, row.capabilities with
    | some steps, some capabilities => do
      let imported : AgentTrajectoryCase :=
        { caseId
          queryId := taskCase.queryId
          packId := taskCase.packId
          responseSha256 := responseSha256 m candidate.response
          responseStatus := candidate.response.status
          availableEvidenceIds := packEvidence taskCase
          requiredEvidenceIds := citedEvidence candidate.response
          requiredClaimIds := claimIds candidate.response
          steps, capabilities
          inputTokens := candidate.inputTokens
          outputTokens := candidate.outputTokens
          latencyMs := candidate.latencyMs }
      imported.validate m.isdigit
      return imported
    | _, _ => .error ("trajectory submission case " ++ caseId ++ " is incomplete")
  | _, _, _ => .error "KeyError"

/-- `set(keys) == set(other)` -/
def sameSet (a b : List String) : Bool := a.all (· ∈ b) && b.all (· ∈ a)

/-- `apply_agent_trajectory_submission` -/
def applyAgentTrajectorySubmission (task : GroundedAnswerTask) (batch : GroundedAnswerCandidateBatch S)
    (submission : AgentTrajectorySubmission m.isdigit) (observedAt : Datetime) : Except String (AgentTrajectoryBatchData S) := do
  validateTaskBatch task batch
  check (submission.taskId = task.taskId && submission.taskSha256 = task.taskSha256 &&
      submission.candidateBatchId = batch.batchId && submission.candidateBatchSha256 = batch.batchSha256)
    "trajectory submission does not match the exact task and candidate batch"
  check (sameSet (submission.cases.map (·.caseId)) (task.cases.map (·.caseId)))
    "trajectory submission cases do not exactly cover the task"
  let imported ← (sortedUnique (task.cases.map (·.caseId))).mapM (importCase m task batch submission)
  let observedAt ← utc observedAt "trajectory observed_at"
  let content : TrajectoryBatchContent S :=
    ⟨task.taskId, task.taskSha256, batch.batchId, batch.batchSha256, observedAt.val, batch.system, imported.length, imported⟩
  let digest := canonicalSha256 m.sha256 (m.dumpBatch content)
  let built : AgentTrajectoryBatchData S := ⟨content, artifactId "trajectory-batch-" digest, digest⟩
  built.validate m
  return built

/-! ## Scores -/

structure GroundedCaseOutcome where
  caseId : String
  queryId : String
  responseStatus : ResponseStatus
  strictPass : Bool

/-- What scores and releases read of a grounded-answer report. -/
structure GroundedAnswerReport (S : Type) where
  reportId : String
  reportSha256 : String
  taskId : String
  taskSha256 : String
  batchId : String
  batchSha256 : String
  adjudicated : Bool
  system : S
  answeredCaseCount : ℕ
  caseCount : ℕ
  strictCasePassRate : Float64
  unsupportedClaimRate : Option Float64
  completeCitationRate : Option Float64
  outcomes : List GroundedCaseOutcome
  ordered : outcomes.map (·.caseId) = sortedUnique (outcomes.map (·.caseId))
  counted : caseCount = outcomes.length
  some_outcome : 1 ≤ outcomes.length
  answered_le : answeredCaseCount ≤ caseCount
  rates : within 0 strictCasePassRate 1 && unsupportedClaimRate.all (within 0 · 1) && completeCitationRate.all (within 0 · 1)

/-- The evidence of the drafts by claim; the last draft of a claim counts. -/
def drafts (steps : List AgentTrajectoryStep) : Except String (List (String × List String)) := do
  let items ← (steps.filter (·.action = .draftClaim)).mapM fun step =>
    match step.claimIds with
    | claimId :: _ => .ok (claimId, step.evidenceIds)
    | [] => .error "tuple index out of range"
  return PyDict.ofItems items

/-- Whether a trace ends as its response does. -/
def isTerminationConsistent (status : ResponseStatus) (hasDraft hasAbstention : Bool) : Bool :=
  match status with
  | .answered => hasDraft && !hasAbstention
  | .abstained => hasAbstention && !hasDraft

/-- `_trajectory_outcome` -/
def trajectoryOutcome (trajectory : AgentTrajectoryCase) (groundedStrictPass : Bool)
    (expectedClaimEvidence : List (String × List String)) : Except String AgentTrajectoryCaseOutcome := do
  let inspected := (trajectory.steps.filter (·.action = .inspectEvidence)).flatMap (·.evidenceIds)
  let requiredEvidence := trajectory.requiredEvidenceIds.dedup
  let inspectedRequired := requiredEvidence.filter (· ∈ inspected)
  let drafted ← drafts trajectory.steps
  let tracedClaims := expectedClaimEvidence.countP fun claim => PyDict.get drafted claim.1 = some claim.2
  let hasAbstention := trajectory.steps.any (·.action = .chooseAbstention)
  let hasDraft := trajectory.steps.any (·.action = .draftClaim)
  let terminationConsistent := isTerminationConsistent trajectory.responseStatus hasDraft hasAbstention
  let evidenceRate ← rateOr inspectedRequired.length requiredEvidence.length (Float64.ofInt 1)
  let claimRate ← rateOr tracedClaims expectedClaimEvidence.length (ofBool terminationConsistent)
  let capabilities := trajectory.capabilities
  let policyCompliant :=
    !(capabilities.networkAccessed || capabilities.toolsInvoked || capabilities.externalSideEffectsPerformed)
  let strictTrajectoryPass :=
    policyCompliant && terminationConsistent && evidenceRate.beq (Float64.ofInt 1) && claimRate.beq (Float64.ofInt 1)
  let outcome : AgentTrajectoryCaseOutcome :=
    { caseId := trajectory.caseId
      queryId := trajectory.queryId
      responseStatus := trajectory.responseStatus
      stepCount := trajectory.steps.length
      inspectedEvidenceCount := inspectedRequired.length
      requiredEvidenceCount := requiredEvidence.length
      tracedClaimCount := tracedClaims
      requiredClaimCount := expectedClaimEvidence.length
      evidenceInspectionRate := evidenceRate
      claimTraceRate := claimRate
      policyCompliant, terminationConsistent, strictTrajectoryPass, groundedStrictPass
      strictEndToEndPass := strictTrajectoryPass && groundedStrictPass
      inputTokens := trajectory.inputTokens
      outputTokens := trajectory.outputTokens
      latencyMs := trajectory.latencyMs }
  outcome.validate
  return outcome

/-- One pass of the loop of `_validate_case_bindings`. -/
def validateCaseBinding (task : GroundedAnswerTask) (batch : GroundedAnswerCandidateBatch S)
    (trajectories : List AgentTrajectoryCase) (grounded : GroundedAnswerReport S) (caseId : String) : Except String Unit :=
  match task.cases.find? (·.caseId = caseId), batch.cases.find? (·.caseId = caseId),
      trajectories.find? (·.caseId = caseId), grounded.outcomes.find? (·.caseId = caseId) with
  | some taskCase, some candidate, some trajectory, some outcome =>
    check (trajectory.queryId = taskCase.queryId && trajectory.queryId = candidate.queryId &&
        outcome.queryId = taskCase.queryId && trajectory.packId = taskCase.packId &&
        trajectory.responseSha256 = responseSha256 m candidate.response &&
        trajectory.responseStatus = candidate.response.status && outcome.responseStatus = candidate.response.status &&
        trajectory.availableEvidenceIds = packEvidence taskCase &&
        trajectory.requiredEvidenceIds = citedEvidence candidate.response &&
        trajectory.requiredClaimIds = claimIds candidate.response && trajectory.inputTokens = candidate.inputTokens &&
        trajectory.outputTokens = candidate.outputTokens && trajectory.latencyMs.beq candidate.latencyMs)
      "trajectory case does not match protected task and candidate fields"
  | _, _, _, _ => .error "KeyError"

/-- `_validate_case_bindings` -/
def validateCaseBindings (task : GroundedAnswerTask) (batch : GroundedAnswerCandidateBatch S)
    (trajectories : List AgentTrajectoryCase) (grounded : GroundedAnswerReport S) : Except String Unit := do
  let expected := task.cases.map (·.caseId)
  check (sameSet (batch.cases.map (·.caseId)) expected && sameSet (trajectories.map (·.caseId)) expected &&
      sameSet (grounded.outcomes.map (·.caseId)) expected)
    "trajectory inputs do not cover the exact same cases"
  (sortedUnique expected).forM (validateCaseBinding m task batch trajectories grounded)

/-- One pass of the loop over the outcomes. -/
def scoreCase (batch : GroundedAnswerCandidateBatch S) (trajectories : List AgentTrajectoryCase)
    (grounded : GroundedAnswerReport S) (caseId : String) : Except String AgentTrajectoryCaseOutcome :=
  match batch.cases.find? (·.caseId = caseId), trajectories.find? (·.caseId = caseId),
      grounded.outcomes.find? (·.caseId = caseId) with
  | some candidate, some trajectory, some outcome =>
    trajectoryOutcome trajectory outcome.strictPass
      (PyDict.ofItems (candidate.response.claims.map fun claim => (claim.claimId, claim.evidenceIds)))
  | _, _, _ => .error "KeyError"

/-- The summary of the outcomes of a slice. -/
def sliceSummary (task : GroundedAnswerTask) (outcomes : List AgentTrajectoryCaseOutcome) (name : String) :
    Except String (String × AgentTrajectoryMetricSummary) := do
  let selected := (task.cases.filter (name ∈ ·.slices)).map (·.caseId)
  let summarized ← summary (outcomes.filter (·.caseId ∈ selected))
  return (name, summarized)

/-- `score_agent_trajectory` -/
def scoreAgentTrajectory (task : GroundedAnswerTask) (batch : GroundedAnswerCandidateBatch S)
    (grounded : GroundedAnswerReport S) (trajectory : AgentTrajectoryBatch m) (generatedAt : Datetime) :
    Except String (AgentTrajectoryScoreReportData S) := do
  check grounded.adjudicated "trajectory scoring requires independently adjudicated grounded review"
  check (batch.taskId = task.taskId && batch.taskSha256 = task.taskSha256 && grounded.taskId = task.taskId &&
      grounded.taskSha256 = task.taskSha256 && grounded.batchId = batch.batchId && grounded.batchSha256 = batch.batchSha256 &&
      trajectory.taskId = task.taskId && trajectory.taskSha256 = task.taskSha256 &&
      trajectory.candidateBatchId = batch.batchId && trajectory.candidateBatchSha256 = batch.batchSha256)
    "trajectory inputs do not share the exact task and candidate batch"
  check (batch.system = grounded.system && grounded.system = trajectory.system)
    "trajectory inputs do not share one immutable candidate identity"
  validateCaseBindings m task batch trajectory.cases grounded
  let outcomes ← (sortedUnique (task.cases.map (·.caseId))).mapM (scoreCase batch trajectory.cases grounded)
  let slices ← (sortedUnique (task.cases.flatMap (·.slices))).mapM (sliceSummary task outcomes)
  let generatedAt ← utc generatedAt "trajectory report generated_at"
  let overall ← summary outcomes
  let content : TrajectoryReportContent S :=
    { generatedAt := generatedAt.val
      benchmarkId := task.benchmarkId
      capturedAt := task.capturedAt
      taskId := task.taskId
      taskSha256 := task.taskSha256
      candidateBatchId := batch.batchId
      candidateBatchSha256 := batch.batchSha256
      groundedReportId := grounded.reportId
      groundedReportSha256 := grounded.reportSha256
      trajectoryBatchId := trajectory.trajectoryBatchId
      trajectoryBatchSha256 := trajectory.trajectoryBatchSha256
      system := batch.system
      caseCount := outcomes.length
      overall, slices, outcomes }
  let digest := canonicalSha256 m.sha256 (m.dumpReport content)
  let built : AgentTrajectoryScoreReportData S := ⟨content, artifactId "trajectory-report-" digest, digest⟩
  built.validate m
  return built

end

end AtlasPulse.AgentTrajectory
