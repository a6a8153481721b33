import AtlasPulse.Identity
import AtlasPulse.Lib.Binary64
import AtlasPulse.Pagination

/-!
# Operational evidence

The source-poll recovery drill of `operational_evidence/base.py`. Of a target,
a probe and a freshness item the model has the fields that the drill reads,
with the checks of their models on these. The dump of pydantic and SHA-256 are
parameters.
-/

namespace AtlasPulse

open PyJson PyTime Binary64

/-! ## Parts -/

inductive SourcePollStatus
  | healthy
  | degraded
  | stale
  | starting
  | clockSkew
  deriving DecidableEq

inductive SourceDataStatus
  | current
  | stale
  | notReported
  | futureClockSkew
  deriving DecidableEq

inductive ProbeName
  | health
  | readiness
  | sourceFreshness
  | events
  | agentPreflight
  deriving DecidableEq

/-- The names of `PROBE_PATHS`, in order. -/
def probePaths : List ProbeName := [.health, .readiness, .sourceFreshness, .events, .agentPreflight]

inductive ProbeFailureCode
  | dnsOrConnectError
  | tlsError
  | timeout
  | httpStatus
  | responseTooLarge
  | invalidJson
  | invalidPayload
  | unexpectedValue
  deriving DecidableEq

structure SourceFreshnessItem where
  source : SourceName
  pollStatus : SourcePollStatus
  sourceDataStatus : SourceDataStatus
  lastOutcome : Option SourcePollOutcome
  lastStage : Option SourcePollStage
  lastFailureCode : Option SourcePollFailureCode
  lastAttemptAt : Option Datetime
  lastSuccessAt : Option Datetime
  lastSourceGeneratedAt : Option Datetime
  consecutiveFailures : Nat
  transportAttempts : Int
  timestampBasis : Option SourceTimestampBasis
  passed : Bool
  deriving DecidableEq

structure EndpointObservation where
  name : ProbeName
  passed : Bool
  failureCode : Option ProbeFailureCode
  deriving DecidableEq

structure DeploymentTarget where
  targetId : String
  targetSha256 : String
  commitSha : String
  applicationVersion : String
  requiredSources : List SourceName

/-- `prefix-digest[:20]`. -/
def evidenceIdOf (lead digest : String) : String := lead ++ "-" ++ String.ofList (digest.toList.take 20)

/-- `^lead-[0-9a-f]{20}$`. -/
def matchesEvidenceId (lead id : String) : Bool :=
  (lead ++ "-").toList.isPrefixOf id.toList && (id.toList.drop (lead ++ "-").length).length = 20 &&
    (id.toList.drop (lead ++ "-").length).all isHex

/-- The dumps of which `_model_sha256` and `canonical_sha256` take digests. -/
structure EvidenceHashing (P D : Type) where
  sha256 : String → HexDigest
  dumpProbe : P → Json
  dumpHistory : SourcePollHistoryResponse → Json
  dumpDrill : D → Json

/-- `_validate_identity`. -/
def validateIdentity (lead identifier digest expected : String) : Except String Unit := do
  check (digest = expected) (lead ++ " SHA-256 must match its exact content")
  check (identifier = evidenceIdOf lead expected) (lead ++ " ID must match its SHA-256")

/-- `_require_utc` of this module. -/
def checkUtcAll (values : List (Datetime × String)) : Except String Unit :=
  values.forM fun value => (requireUtc value.1 value.2).map fun _ => ()

/-! ## Probes -/

/-- What a probe observed, its identity apart. -/
structure ProbeContent where
  targetId : String
  targetSha256 : String
  observedAt : Datetime
  expectedVersion : String
  observedVersion : Option String
  expectedCommitSha : String
  observedCommitSha : Option String
  endpoints : List EndpointObservation
  certificatePassed : Bool
  sourceFreshness : List SourceFreshnessItem
  executionBoundaryPassed : Bool
  passed : Bool
  deriving DecidableEq

structure ProbeData extends ProbeContent where
  evidenceId : String
  evidenceSha256 : String
  deriving DecidableEq

/-! ## Drills -/

structure SubmissionData where
  source : SourceName
  faultStartedAt : Datetime
  faultClearedAt : Datetime
  failureAttemptId : String
  recoveryAttemptId : String
  expectedFailureCode : SourcePollFailureCode

/-- The field bounds, then `validate_submission`. -/
def SubmissionData.validate (s : SubmissionData) : Except String Unit := do
  check (matchesAttemptId s.failureAttemptId) "String should match pattern '^source-poll-[0-9a-f]\x7b32\x7d$'"
  check (matchesAttemptId s.recoveryAttemptId) "String should match pattern '^source-poll-[0-9a-f]\x7b32\x7d$'"
  checkUtcAll [(s.faultStartedAt, "fault_started_at"), (s.faultClearedAt, "fault_cleared_at")]
  check (s.faultStartedAt.instant ≤ s.faultClearedAt.instant) "fault clearance cannot precede fault injection"
  check (s.failureAttemptId ≠ s.recoveryAttemptId) "failure and recovery attempts must be distinct"

/-- What a drill artifact records, its identity apart. -/
structure DrillContent where
  targetId : String
  targetSha256 : String
  source : SourceName
  expectedFailureCode : SourcePollFailureCode
  observedFailureCode : SourcePollFailureCode
  observedFailureStage : SourcePollStage
  faultStartedAt : Datetime
  faultClearedAt : Datetime
  faultWindowSeconds : Float64
  beforeObservedAt : Datetime
  failureObservedAt : Datetime
  observedAt : Datetime
  recoveryObservationSeconds : Float64
  historyGeneratedAt : Datetime
  historySha256 : String
  historyItemCount : Nat
  beforeProbeId : String
  beforeProbeSha256 : String
  failureProbeId : String
  failureProbeSha256 : String
  recoveryProbeId : String
  recoveryProbeSha256 : String
  failureAttemptId : String
  recoveryAttemptId : String
  failureAttemptStartedAt : Datetime
  failureTerminalAt : Datetime
  recoveryAttemptStartedAt : Datetime
  recoveryTerminalAt : Datetime
  failureStartedStreamId : String
  failureTerminalStreamId : String
  recoveryStartedStreamId : String
  recoveryTerminalStreamId : String
  beforeProbePassed : Bool
  failureProbePassed : Bool
  recoveryProbePassed : Bool
  beforeSourceCurrent : Bool
  failureSourceDegraded : Bool
  recoverySourceCurrent : Bool
  failureCodeMatched : Bool
  otherRequiredSourcesMaintained : Bool
  failureSurfaceIsolated : Bool
  readinessMaintained : Bool
  executionBoundaryMaintained : Bool
  passed : Bool

structure DrillData extends DrillContent where
  evidenceId : String
  evidenceSha256 : String

/-- `(later - earlier).total_seconds()`. -/
def totalSeconds (later earlier : Datetime) : Float64 :=
  ofRat false (((later.instant - earlier.instant : Int) : ℚ) / 1000000)

/-- `abs(seconds - expected) > 1e-6`. -/
def secondsDiffer (seconds expected : Float64) : Bool :=
  (ofRat false (1 / 1000000)).lt (seconds.sub expected).abs

/-- The chronology of a drill, in the order in which it is declared. -/
def DrillContent.times (d : DrillContent) : List Datetime :=
  [d.beforeObservedAt, d.faultStartedAt, d.failureAttemptStartedAt, d.failureTerminalAt, d.failureObservedAt,
    d.faultClearedAt, d.recoveryAttemptStartedAt, d.recoveryTerminalAt, d.observedAt, d.historyGeneratedAt]

def chronological (times : List Datetime) : Bool := decide (times.IsChain fun a b => a.instant ≤ b.instant)

/-- `_source_poll_stream_position`. -/
def sourcePollStreamPosition (value : String) : Except String StreamId :=
  match StreamId.parse? value with
  | some position => .ok position
  | none => .error "source-poll stream ID must contain ASCII digits"

def DrillContent.expectedPass (d : DrillContent) : Bool :=
  d.beforeProbePassed && !d.failureProbePassed && d.recoveryProbePassed && d.beforeSourceCurrent &&
    d.failureSourceDegraded && d.recoverySourceCurrent && d.failureCodeMatched && d.otherRequiredSourcesMaintained &&
    d.failureSurfaceIsolated && d.readinessMaintained && d.executionBoundaryMaintained

def DrillContent.probes (d : DrillContent) : List (String × String) :=
  [(d.beforeProbeId, d.beforeProbeSha256), (d.failureProbeId, d.failureProbeSha256), (d.recoveryProbeId, d.recoveryProbeSha256)]

/-- The ids that the artifact has in a fixed form. -/
def DrillData.checkPatterns (d : DrillData) : Except String Unit := do
  check (matchesEvidenceId "source-poll-recovery" d.evidenceId) "String should match pattern '^source-poll-recovery-[0-9a-f]\x7b20\x7d$'"
  check (matchesSha256 d.evidenceSha256) "String should match pattern '^[0-9a-f]\x7b64\x7d$'"
  check (matchesEvidenceId "deployment-target" d.targetId) "String should match pattern '^deployment-target-[0-9a-f]\x7b20\x7d$'"
  check (matchesSha256 d.targetSha256) "String should match pattern '^[0-9a-f]\x7b64\x7d$'"
  check ((Float64.ofInt 0).le d.faultWindowSeconds && d.faultWindowSeconds.isFinite) "Input should be greater than or equal to 0"
  check ((Float64.ofInt 0).le d.recoveryObservationSeconds && d.recoveryObservationSeconds.isFinite)
    "Input should be greater than or equal to 0"
  check (matchesSha256 d.historySha256) "String should match pattern '^[0-9a-f]\x7b64\x7d$'"
  check (4 ≤ d.historyItemCount) "Input should be greater than or equal to 4"
  check (d.historyItemCount ≤ 100) "Input should be less than or equal to 100"
  d.probes.forM fun probe => do
    check (matchesEvidenceId "deployment-probe" probe.1) "String should match pattern '^deployment-probe-[0-9a-f]\x7b20\x7d$'"
    check (matchesSha256 probe.2) "String should match pattern '^[0-9a-f]\x7b64\x7d$'"
  [d.failureAttemptId, d.recoveryAttemptId].forM fun id =>
    check (matchesAttemptId id) "String should match pattern '^source-poll-[0-9a-f]\x7b32\x7d$'"
  [d.failureStartedStreamId, d.failureTerminalStreamId, d.recoveryStartedStreamId, d.recoveryTerminalStreamId].forM fun id =>
    check (matchesStreamId id) "String should match pattern '^[0-9]+-[0-9]+$'"

section
variable (h : EvidenceHashing ProbeContent DrillContent)

/-- The checks of `validate_probe` on the fields of the model. -/
def ProbeData.validate (p : ProbeData) : Except String Unit := do
  check (matchesEvidenceId "deployment-probe" p.evidenceId) "String should match pattern '^deployment-probe-[0-9a-f]\x7b20\x7d$'"
  check (matchesSha256 p.evidenceSha256) "String should match pattern '^[0-9a-f]\x7b64\x7d$'"
  check (matchesEvidenceId "deployment-target" p.targetId) "String should match pattern '^deployment-target-[0-9a-f]\x7b20\x7d$'"
  check (matchesSha256 p.targetSha256) "String should match pattern '^[0-9a-f]\x7b64\x7d$'"
  checkUtcAll [(p.observedAt, "observed_at")]
  check (p.endpoints.map (·.name) = probePaths) "probe endpoints must use the complete canonical order"
  check (p.passed = (p.endpoints.all (·.passed) && p.certificatePassed && p.observedVersion = some p.expectedVersion &&
      p.observedCommitSha = some p.expectedCommitSha && p.executionBoundaryPassed))
    "deployment probe pass status does not match its checks"
  validateIdentity "deployment-probe" p.evidenceId p.evidenceSha256 (canonicalSha256 h.sha256 (h.dumpProbe p.toProbeContent))

structure DeploymentProbeEvidence extends ProbeData where
  valid : toProbeData.validate h = .ok ()

structure SourcePollRecoveryDrillSubmission extends SubmissionData where
  valid : toSubmissionData.validate = .ok ()

/-- A history that its response model accepts. -/
abbrev PollHistory := {r : SourcePollHistoryResponse // r.validate = .ok ()}

/-- The field bounds, then `validate_recovery`. -/
def DrillData.validate (d : DrillData) : Except String Unit := do
  d.checkPatterns
  checkUtcAll [(d.faultStartedAt, "fault_started_at"), (d.faultClearedAt, "fault_cleared_at"),
    (d.beforeObservedAt, "before_observed_at"), (d.failureObservedAt, "failure_observed_at"),
    (d.observedAt, "observed_at"), (d.failureAttemptStartedAt, "failure_attempt_started_at"),
    (d.failureTerminalAt, "failure_terminal_at"), (d.recoveryAttemptStartedAt, "recovery_attempt_started_at"),
    (d.recoveryTerminalAt, "recovery_terminal_at"), (d.historyGeneratedAt, "history_generated_at")]
  check (chronological d.times) "source-poll recovery times must follow the declared drill sequence"
  check (!secondsDiffer d.faultWindowSeconds (totalSeconds d.faultClearedAt d.faultStartedAt))
    "fault-window seconds must match the declared times"
  check (!secondsDiffer d.recoveryObservationSeconds (totalSeconds d.observedAt d.faultClearedAt))
    "recovery-observation seconds must match the declared times"
  check ((d.probes.map Prod.fst).dedup.length = 3) "source-poll recovery evidence requires three distinct probes"
  d.probes.forM fun probe =>
    check (probe.1 = evidenceIdOf "deployment-probe" probe.2) "source-poll recovery probe IDs must match their full SHA-256"
  check (d.failureAttemptId ≠ d.recoveryAttemptId) "failure and recovery attempts must be distinct"
  let positions ← [d.failureStartedStreamId, d.failureTerminalStreamId, d.recoveryStartedStreamId,
    d.recoveryTerminalStreamId].mapM sourcePollStreamPosition
  check (positions = sortedSet positions) "bound source-poll transitions must be unique and chronological"
  check (d.failureCodeMatched = decide (d.expectedFailureCode = d.observedFailureCode))
    "failure-code match must reflect the expected and observed values"
  check (d.passed = d.expectedPass) "source-poll recovery pass status must match every bounded check"
  validateIdentity "source-poll-recovery" d.evidenceId d.evidenceSha256 (canonicalSha256 h.sha256 (h.dumpDrill d.toDrillContent))

structure SourcePollRecoveryDrillEvidence extends DrillData where
  valid : toDrillData.validate h = .ok ()

/-- `_bound_transition`. -/
def boundTransition (history : PollHistory) (attemptId : String) (transition : SourcePollTransitionKind) :
    Except String SourcePollTransition :=
  match history.1.items.filter fun item => item.attempt.attemptId = attemptId && item.transition = transition with
  | [found] => .ok found
  | _ => .error ("source-poll history must contain exactly one " ++ transition.text ++ " transition for " ++ attemptId)

/-- The transitions that a drill binds, with what its checks find in them. -/
structure BoundDrill where
  failureStarted : SourcePollTransition
  failureTerminal : SourcePollTransition
  recoveryStarted : SourcePollTransition
  recoveryTerminal : SourcePollTransition
  failureCompletedAt : Datetime
  recoveryCompletedAt : Datetime
  deriving DecidableEq

def BoundDrill.transitions (b : BoundDrill) : List SourcePollTransition :=
  [b.failureStarted, b.failureTerminal, b.recoveryStarted, b.recoveryTerminal]

variable {h}

/-- The checks of `build_source_poll_recovery_drill`. -/
def checkDrill (target : DeploymentTarget) (before failure recovery : DeploymentProbeEvidence h) (history : PollHistory)
    (submission : SourcePollRecoveryDrillSubmission) : Except String BoundDrill := do
  [before, failure, recovery].forM fun probe => do
    check (probe.targetId = target.targetId && probe.targetSha256 = target.targetSha256)
      "source-poll recovery probes must match the exact deployment target"
    check (probe.expectedVersion = target.applicationVersion && probe.expectedCommitSha = target.commitSha)
      "source-poll recovery probes must retain exact target metadata"
  check (submission.source ∈ target.requiredSources)
    "source-poll recovery source must be required by the deployment target"
  let failureStarted ← boundTransition history submission.failureAttemptId .started
  let failureTerminal ← boundTransition history submission.failureAttemptId .failed
  let recoveryStarted ← boundTransition history submission.recoveryAttemptId .started
  let recoveryTerminal ← boundTransition history submission.recoveryAttemptId .succeeded
  let transitions := [failureStarted, failureTerminal, recoveryStarted, recoveryTerminal]
  check (transitions.all fun item => item.source = submission.source)
    "bound source-poll transitions must match the submitted source"
  check (failureStarted.attempt.startedAt.instant = failureTerminal.attempt.startedAt.instant &&
      recoveryStarted.attempt.startedAt.instant = recoveryTerminal.attempt.startedAt.instant)
    "terminal source-poll transitions must match their exact starts"
  match failureTerminal.attempt.completedAt, recoveryTerminal.attempt.completedAt with
  | none, _ => .error "failed source-poll transition must contain its completion time"
  | _, none => .error "successful source-poll transition must contain its completion time"
  | some failureCompletedAt, some recoveryCompletedAt => do
    let positions ← transitions.mapM fun item => sourcePollStreamPosition item.streamId
    check (positions = positions.insertionSort (· ≤ ·)) "bound source-poll transitions must be chronological"
    check (chronological [before.observedAt, submission.faultStartedAt, failureStarted.attempt.startedAt, failureCompletedAt,
        failure.observedAt, submission.faultClearedAt, recoveryStarted.attempt.startedAt, recoveryCompletedAt,
        recovery.observedAt, history.1.generatedAt])
      "source-poll recovery artifacts must follow the declared drill sequence"
    .ok ⟨failureStarted, failureTerminal, recoveryStarted, recoveryTerminal, failureCompletedAt, recoveryCompletedAt⟩

/-- `_freshness_item`. -/
def freshnessItem (probe : DeploymentProbeEvidence h) (source : SourceName) : Option SourceFreshnessItem :=
  probe.sourceFreshness.find? fun item => item.source = source

/-- `_endpoint_passed`; a probe has every endpoint. -/
def endpointPassed (probe : DeploymentProbeEvidence h) (name : ProbeName) : Bool :=
  (probe.endpoints.find? fun item => item.name = name).any (·.passed)

def isCurrent (item : SourceFreshnessItem) : Bool :=
  item.passed && item.pollStatus = .healthy && item.sourceDataStatus = .current && item.lastOutcome = some .succeeded

def isDegradedBy (terminal : SourcePollAttempt) (item : SourceFreshnessItem) : Bool :=
  !item.passed && item.pollStatus = .degraded && item.lastOutcome = some .failed &&
    item.lastAttemptAt.map Datetime.instant = some terminal.startedAt.instant && item.lastStage = some terminal.stage &&
    item.lastFailureCode = terminal.failureCode && item.transportAttempts = terminal.transportAttempts &&
    1 ≤ item.consecutiveFailures

def isRecoveredBy (terminal : SourcePollAttempt) (item : SourceFreshnessItem) : Bool :=
  isCurrent item && item.lastStage = some .complete &&
    item.lastAttemptAt.map Datetime.instant = some terminal.startedAt.instant &&
    item.lastSuccessAt.map Datetime.instant = terminal.completedAt.map Datetime.instant &&
    item.lastSourceGeneratedAt.map Datetime.instant = terminal.sourceGeneratedAt.map Datetime.instant &&
    item.timestampBasis = terminal.timestampBasis && item.transportAttempts = terminal.transportAttempts &&
    item.consecutiveFailures = 0

/-- Every required source but the drilled one passes in the failure probe; of
two items for a source the last one counts. -/
def otherSourcesMaintained (target : DeploymentTarget) (failure : DeploymentProbeEvidence h) (source : SourceName) : Bool :=
  (target.requiredSources.filter (· ≠ source)).all fun required =>
    (failure.sourceFreshness.reverse.find? fun item => item.source = required).any (·.passed)

/-- Only the freshness endpoint of the failure probe fails, in the expected way. -/
def failureIsolated (target : DeploymentTarget) (failure : DeploymentProbeEvidence h) : Bool :=
  ((failure.endpoints.find? fun item => item.name = .sourceFreshness).any fun item =>
      !item.passed && item.failureCode = some .unexpectedValue) &&
    ((failure.endpoints.filter fun item => item.name ≠ .sourceFreshness).all (·.passed)) && failure.certificatePassed &&
    failure.observedVersion = some target.applicationVersion && failure.observedCommitSha = some target.commitSha

/-- The draft without its pass status. -/
def drillObservations (target : DeploymentTarget) (before failure recovery : DeploymentProbeEvidence h) (history : PollHistory)
    (submission : SourcePollRecoveryDrillSubmission) (bound : BoundDrill) (observedFailureCode : SourcePollFailureCode) :
    DrillContent where
  targetId := target.targetId
  targetSha256 := target.targetSha256
  source := submission.source
  expectedFailureCode := submission.expectedFailureCode
  observedFailureCode
  observedFailureStage := bound.failureTerminal.attempt.stage
  faultStartedAt := submission.faultStartedAt
  faultClearedAt := submission.faultClearedAt
  faultWindowSeconds := totalSeconds submission.faultClearedAt submission.faultStartedAt
  beforeObservedAt := before.observedAt
  failureObservedAt := failure.observedAt
  observedAt := recovery.observedAt
  recoveryObservationSeconds := totalSeconds recovery.observedAt submission.faultClearedAt
  historyGeneratedAt := history.1.generatedAt
  historySha256 := canonicalSha256 h.sha256 (h.dumpHistory history.1)
  historyItemCount := history.1.count
  beforeProbeId := before.evidenceId
  beforeProbeSha256 := before.evidenceSha256
  failureProbeId := failure.evidenceId
  failureProbeSha256 := failure.evidenceSha256
  recoveryProbeId := recovery.evidenceId
  recoveryProbeSha256 := recovery.evidenceSha256
  failureAttemptId := submission.failureAttemptId
  recoveryAttemptId := submission.recoveryAttemptId
  failureAttemptStartedAt := bound.failureStarted.attempt.startedAt
  failureTerminalAt := bound.failureCompletedAt
  recoveryAttemptStartedAt := bound.recoveryStarted.attempt.startedAt
  recoveryTerminalAt := bound.recoveryCompletedAt
  failureStartedStreamId := bound.failureStarted.streamId
  failureTerminalStreamId := bound.failureTerminal.streamId
  recoveryStartedStreamId := bound.recoveryStarted.streamId
  recoveryTerminalStreamId := bound.recoveryTerminal.streamId
  beforeProbePassed := before.passed
  failureProbePassed := failure.passed
  recoveryProbePassed := recovery.passed
  beforeSourceCurrent := (freshnessItem before submission.source).any isCurrent
  failureSourceDegraded := (freshnessItem failure submission.source).any (isDegradedBy bound.failureTerminal.attempt)
  recoverySourceCurrent := (freshnessItem recovery submission.source).any (isRecoveredBy bound.recoveryTerminal.attempt)
  failureCodeMatched := observedFailureCode = submission.expectedFailureCode
  otherRequiredSourcesMaintained := otherSourcesMaintained target failure submission.source
  failureSurfaceIsolated := failureIsolated target failure
  readinessMaintained := [before, failure, recovery].all fun probe => endpointPassed probe .readiness
  executionBoundaryMaintained := [before, failure, recovery].all fun probe => probe.executionBoundaryPassed
  passed := false

def buildSourcePollRecoveryDrill (target : DeploymentTarget) (before failure recovery : DeploymentProbeEvidence h)
    (history : PollHistory) (submission : SourcePollRecoveryDrillSubmission) :
    Except String (SourcePollRecoveryDrillEvidence h) := do
  let bound ← checkDrill target before failure recovery history submission
  match bound.failureTerminal.attempt.failureCode with
  | none => .error "AssertionError"
  | some observedFailureCode => do
    let observations := drillObservations target before failure recovery history submission bound observedFailureCode
    let draft := { observations with passed := observations.expectedPass }
    let digest := canonicalSha256 h.sha256 (h.dumpDrill draft)
    (construct (DrillData.validate h) ⟨draft, evidenceIdOf "source-poll-recovery" digest, digest⟩).map fun d => ⟨d.1, d.2⟩

end

end AtlasPulse
