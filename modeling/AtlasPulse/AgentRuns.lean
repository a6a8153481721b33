import AtlasPulse.AgentRelease
import AtlasPulse.EvidencePacks
import AtlasPulse.Ledger

/-!
# Agent runs

`agent_runs.py`: the proposal that a human may approve, the checks of the
authorization policy, and the manifest of a preflight; and the preflight of
`api.py` once the evidence pack is built. Nothing here starts a run.
-/

namespace AtlasPulse

open PyJson PyTime

def agentRunSchemaVersion : String := "1.2.0"

def agentRunRuleVersion : String := "agent-run-manifest-v3"

def agentRunProposalRuleVersion : String := "agent-run-proposal-v2"

def agentAuthorizationPolicyVersion : String := "agent-authorization-v3"

def agentRunIdentityAlgorithm : String := evidencePackIdentityAlgorithm

def agentRunCaveat : String :=
  "Preflight records a deterministic policy decision bound to one evidence-pack identity. " ++
    "A validated release assessment may satisfy only its measured quality gates, and a trusted, " ++
    "active approval may satisfy only the human-release check. Preflight may perform ordinary " ++
    "local retrieval to assemble the pack, but it does not start the proposed agent, invoke a " ++
    "generative agent model, grant agent network or tool access, generate an answer, or perform " ++
    "agent side effects."

def AgentApprovalStatus.text : AgentApprovalStatus → String
  | .notSupplied => "not_supplied"
  | .notFound => "not_found"
  | .notYetValid => "not_yet_valid"
  | .active => "active"
  | .expired => "expired"
  | .revoked => "revoked"
  | .scopeMismatch => "scope_mismatch"
  | .untrustedSigner => "untrusted_signer"
  | .ledgerInvalid => "ledger_invalid"
  | .ledgerUnavailable => "ledger_unavailable"

/-! ## The request -/

structure AgentRunCapabilities where
  readEvidence : Bool
  generateText : Bool
  networkAccess : Bool
  toolAccess : Bool
  externalSideEffects : Bool
  deriving DecidableEq

def AgentRunCapabilities.default : AgentRunCapabilities := ⟨true, true, false, false, false⟩

def AgentRunCapabilities.asdict (c : AgentRunCapabilities) : Json :=
  .obj [("read_evidence", .bool c.readEvidence), ("generate_text", .bool c.generateText),
    ("network_access", .bool c.networkAccess), ("tool_access", .bool c.toolAccess),
    ("external_side_effects", .bool c.externalSideEffects)]

structure AgentRunRequest where
  purpose : String
  mode : String
  requestedOutput : String
  capabilities : AgentRunCapabilities
  deriving DecidableEq

def AgentRunRequest.default : AgentRunRequest :=
  ⟨"evidence_triage", "read_only", "grounded_evidence_brief", .default⟩

def AgentRunRequest.asdict (r : AgentRunRequest) : Json :=
  .obj [("purpose", .str r.purpose), ("mode", .str r.mode), ("requested_output", .str r.requestedOutput),
    ("capabilities", r.capabilities.asdict)]

structure AgentRunEvidence where
  packId : String
  packRuleVersion : String
  packStatus : EvidencePackStatus
  itemCount : Nat
  exclusionCount : Nat
  sourceTextCharacters : Int
  evidenceIds : List String
  deriving DecidableEq

def AgentRunEvidence.asdict (e : AgentRunEvidence) : Json :=
  .obj [("pack_id", .str e.packId), ("pack_rule_version", .str e.packRuleVersion), ("pack_status", .str e.packStatus.text),
    ("item_count", .int e.itemCount), ("exclusion_count", .int e.exclusionCount),
    ("source_text_characters", .int e.sourceTextCharacters), ("evidence_ids", .arr (e.evidenceIds.map .str))]

structure AgentAuthorizationPolicy where
  policyVersion : String
  defaultDecision : String
  executionEnabled : Bool
  humanReleaseRequired : Bool
  evaluatedModelRequired : Bool
  relationshipBenchmarkRequired : Bool
  groundedAnswerEvaluationRequired : Bool
  agentTrajectoryEvaluationRequired : Bool
  trajectoryDriftMonitoringRequired : Bool
  releaseThresholdPolicyRequired : Bool
  networkAccessAllowed : Bool
  toolAccessAllowed : Bool
  externalSideEffectsAllowed : Bool
  deriving DecidableEq

def AgentAuthorizationPolicy.default : AgentAuthorizationPolicy :=
  ⟨agentAuthorizationPolicyVersion, "deny", false, true, true, true, true, true, true, true, false, false, false⟩

def AgentAuthorizationPolicy.asdict (p : AgentAuthorizationPolicy) : Json :=
  .obj [("policy_version", .str p.policyVersion), ("default_decision", .str p.defaultDecision),
    ("execution_enabled", .bool p.executionEnabled), ("human_release_required", .bool p.humanReleaseRequired),
    ("evaluated_model_required", .bool p.evaluatedModelRequired),
    ("relationship_benchmark_required", .bool p.relationshipBenchmarkRequired),
    ("grounded_answer_evaluation_required", .bool p.groundedAnswerEvaluationRequired),
    ("agent_trajectory_evaluation_required", .bool p.agentTrajectoryEvaluationRequired),
    ("trajectory_drift_monitoring_required", .bool p.trajectoryDriftMonitoringRequired),
    ("release_threshold_policy_required", .bool p.releaseThresholdPolicyRequired),
    ("network_access_allowed", .bool p.networkAccessAllowed), ("tool_access_allowed", .bool p.toolAccessAllowed),
    ("external_side_effects_allowed", .bool p.externalSideEffectsAllowed)]

/-! ## Observations -/

def AgentApprovalObservation.default : AgentApprovalObservation :=
  ⟨.notSupplied, none, none, none, none, none, none, none, none, none⟩

def optionalTime : Option UtcDatetime → Json
  | none => .null
  | some time => encodeExtra time

def AgentApprovalObservation.asdict (a : AgentApprovalObservation) : Json :=
  .obj [("status", .str a.status.text), ("approval_id", optionalText a.approvalId),
    ("approved_proposal_id", optionalText a.approvedProposalId), ("source_manifest_id", optionalText a.sourceManifestId),
    ("approver_id", optionalText a.approverId), ("signing_key_id", optionalText a.signingKeyId),
    ("issued_at", optionalTime a.issuedAt), ("expires_at", optionalTime a.expiresAt),
    ("revocation_id", optionalText a.revocationId), ("evaluated_at", optionalTime a.evaluatedAt)]

inductive AgentReleaseStatus
  | notSupplied
  | blocked
  | eligibleForHumanReview
  deriving DecidableEq

def AgentReleaseStatus.text : AgentReleaseStatus → String
  | .notSupplied => "not_supplied"
  | .blocked => "blocked"
  | .eligibleForHumanReview => "eligible_for_human_review"

structure AgentReleaseObservation where
  status : AgentReleaseStatus
  assessmentId : Option String
  assessmentSha256 : Option String
  policyId : Option String
  policySha256 : Option String
  agentCandidateId : Option String
  relationshipReportId : Option String
  trajectoryReportIds : List String
  modelAdapterEvaluated : Bool
  relationshipBenchmarkPassed : Bool
  groundedAnswerEvaluationPassed : Bool
  agentTrajectoryEvaluationPassed : Bool
  trajectoryDriftMonitoringPassed : Bool
  releaseThresholdPolicyPassed : Bool
  blockingReasons : List String
  deriving DecidableEq

def AgentReleaseObservation.default : AgentReleaseObservation :=
  ⟨.notSupplied, none, none, none, none, none, none, [], false, false, false, false, false, false, []⟩

def AgentReleaseObservation.identityFields (r : AgentReleaseObservation) : List (Option String) :=
  [r.assessmentId, r.assessmentSha256, r.policyId, r.policySha256, r.agentCandidateId, r.relationshipReportId]

def AgentReleaseObservation.flags (r : AgentReleaseObservation) : List Bool :=
  [r.modelAdapterEvaluated, r.relationshipBenchmarkPassed, r.groundedAnswerEvaluationPassed,
    r.agentTrajectoryEvaluationPassed, r.trajectoryDriftMonitoringPassed, r.releaseThresholdPolicyPassed]

def AgentReleaseObservation.asdict (r : AgentReleaseObservation) : Json :=
  .obj [("status", .str r.status.text), ("assessment_id", optionalText r.assessmentId),
    ("assessment_sha256", optionalText r.assessmentSha256), ("policy_id", optionalText r.policyId),
    ("policy_sha256", optionalText r.policySha256), ("agent_candidate_id", optionalText r.agentCandidateId),
    ("relationship_report_id", optionalText r.relationshipReportId),
    ("trajectory_report_ids", .arr (r.trajectoryReportIds.map .str)),
    ("model_adapter_evaluated", .bool r.modelAdapterEvaluated),
    ("relationship_benchmark_passed", .bool r.relationshipBenchmarkPassed),
    ("grounded_answer_evaluation_passed", .bool r.groundedAnswerEvaluationPassed),
    ("agent_trajectory_evaluation_passed", .bool r.agentTrajectoryEvaluationPassed),
    ("trajectory_drift_monitoring_passed", .bool r.trajectoryDriftMonitoringPassed),
    ("release_threshold_policy_passed", .bool r.releaseThresholdPolicyPassed),
    ("blocking_reasons", .arr (r.blockingReasons.map .str))]

/-! ### From an assessment -/

def ReleaseStatus.observed : ReleaseStatus → AgentReleaseStatus
  | .blocked => .blocked
  | .eligibleForHumanReview => .eligibleForHumanReview

def relationshipGates : List ReleaseGateId :=
  [.relationshipSampleSize, .relationshipMacroF1, .relationshipAccuracyDelta, .relationshipRegressionRate]

def groundedAnswerGates : List ReleaseGateId :=
  [.groundedReviewAdjudication, .groundedAnswerCoverage, .groundedStrictPass, .groundedUnsupportedClaims,
    .groundedCompleteCitations]

def trajectoryGates : List ReleaseGateId :=
  [.trajectoryCaptureCount, .trajectoryTotalCases, .trajectoryCaptureSampleSize, .trajectoryPolicyCompliance,
    .trajectoryEvidenceInspection, .trajectoryClaimTrace, .trajectoryStrictPass, .trajectoryEndToEndPass,
    .trajectoryStepBudget, .trajectoryLatencyBudget]

def driftGates : List ReleaseGateId := [.trajectoryDriftChain, .trajectoryDriftStability]

section assessments
variable {S : Type} {m : ReleaseModel S}

/-- `agent_release_observation` -/
def agentReleaseObservation (a : AgentReleaseAssessment m) : AgentReleaseObservation :=
  let every := fun gateIds : List ReleaseGateId => gateIds.all a.gatePassed
  { status := a.status.observed
    assessmentId := some a.assessmentId
    assessmentSha256 := some a.assessmentSha256
    policyId := some a.policy.policyId
    policySha256 := some a.policy.policySha256
    agentCandidateId := some (m.candidateId a.agentSystem)
    relationshipReportId := some a.relationshipEvidence.reportId
    trajectoryReportIds := a.trajectoryEvidence.map (·.reportId)
    modelAdapterEvaluated := every [.agentCandidateIdentity]
    relationshipBenchmarkPassed := every relationshipGates
    groundedAnswerEvaluationPassed := every groundedAnswerGates
    agentTrajectoryEvaluationPassed := every trajectoryGates
    trajectoryDriftMonitoringPassed := every driftGates
    releaseThresholdPolicyPassed := a.status = .eligibleForHumanReview
    blockingReasons := a.blockingReasons }

end assessments

/-- `_validate_release_observation` -/
def validateReleaseObservation (r : AgentReleaseObservation) : Except String Unit :=
  match r.status with
  | .notSupplied =>
    check (!(r.identityFields.any Option.isSome || !r.trajectoryReportIds.isEmpty || r.flags.any id ||
        !r.blockingReasons.isEmpty))
      "not_supplied release observation cannot contain assessment fields"
  | .eligibleForHumanReview => do
    check (r.identityFields.all Option.isSome && !r.trajectoryReportIds.isEmpty)
      "resolved release observations require complete assessment identity"
    check (r.flags.all id && r.blockingReasons.isEmpty) "eligible release observations require every quality gate to pass"
  | .blocked => do
    check (r.identityFields.all Option.isSome && !r.trajectoryReportIds.isEmpty)
      "resolved release observations require complete assessment identity"
    check (!(r.releaseThresholdPolicyPassed || r.blockingReasons.isEmpty))
      "blocked release observations require threshold blocking reasons"

/-- `_validate_active_approval` -/
def validateActiveApproval (a : AgentApprovalObservation) (proposalId : String) : Except String Unit :=
  if a.status ≠ .active then .ok ()
  else match a.issuedAt, a.expiresAt, a.evaluatedAt with
    | some issuedAt, some expiresAt, some evaluatedAt => do
      check (a.approvalId.isSome && a.approvedProposalId.isSome && a.sourceManifestId.isSome && a.approverId.isSome &&
          a.signingKeyId.isSome)
        "active approval observation is incomplete"
      check (a.approvedProposalId = some proposalId) "active approval does not match the run proposal"
      check a.revocationId.isNone "active approval cannot contain a revocation"
      check (issuedAt.val.instant ≤ evaluatedAt.val.instant && evaluatedAt.val.instant < expiresAt.val.instant)
        "active approval observation is outside its lifetime"
    | _, _, _ => .error "active approval observation is incomplete"

/-! ## Authorization -/

inductive AuthorizationCheckId
  | evidencePackIntegrity
  | traceableEvidence
  | capabilityScope
  | modelAdapter
  | liveRelationshipBenchmark
  | groundedAnswerEvaluation
  | agentTrajectoryEvaluation
  | trajectoryDriftMonitoring
  | releaseThresholdPolicy
  | humanRelease
  | executionRelease
  deriving DecidableEq

def AuthorizationCheckId.text : AuthorizationCheckId → String
  | .evidencePackIntegrity => "evidence_pack_integrity"
  | .traceableEvidence => "traceable_evidence"
  | .capabilityScope => "capability_scope"
  | .modelAdapter => "model_adapter"
  | .liveRelationshipBenchmark => "live_relationship_benchmark"
  | .groundedAnswerEvaluation => "grounded_answer_evaluation"
  | .agentTrajectoryEvaluation => "agent_trajectory_evaluation"
  | .trajectoryDriftMonitoring => "trajectory_drift_monitoring"
  | .releaseThresholdPolicy => "release_threshold_policy"
  | .humanRelease => "human_release"
  | .executionRelease => "execution_release"

inductive AuthorizationBlockReason
  | noTraceableEvidence
  | modelAdapterNotSelected
  | liveRelationshipBenchmarkIncomplete
  | groundedAnswerEvaluationMissing
  | agentTrajectoryEvaluationMissing
  | trajectoryDriftEvidenceMissing
  | releaseThresholdsNotMet
  | humanReleaseNotGranted
  | humanReleaseNotYetValid
  | humanReleaseExpired
  | humanReleaseRevoked
  | humanReleaseScopeMismatch
  | humanReleaseUntrusted
  | approvalLedgerInvalid
  | approvalLedgerUnavailable
  | executionDisabled
  deriving DecidableEq

def AuthorizationBlockReason.text : AuthorizationBlockReason → String
  | .noTraceableEvidence => "no_traceable_evidence"
  | .modelAdapterNotSelected => "model_adapter_not_selected"
  | .liveRelationshipBenchmarkIncomplete => "live_relationship_benchmark_incomplete"
  | .groundedAnswerEvaluationMissing => "grounded_answer_evaluation_missing"
  | .agentTrajectoryEvaluationMissing => "agent_trajectory_evaluation_missing"
  | .trajectoryDriftEvidenceMissing => "trajectory_drift_evidence_missing"
  | .releaseThresholdsNotMet => "release_thresholds_not_met"
  | .humanReleaseNotGranted => "human_release_not_granted"
  | .humanReleaseNotYetValid => "human_release_not_yet_valid"
  | .humanReleaseExpired => "human_release_expired"
  | .humanReleaseRevoked => "human_release_revoked"
  | .humanReleaseScopeMismatch => "human_release_scope_mismatch"
  | .humanReleaseUntrusted => "human_release_untrusted"
  | .approvalLedgerInvalid => "approval_ledger_invalid"
  | .approvalLedgerUnavailable => "approval_ledger_unavailable"
  | .executionDisabled => "execution_disabled"

inductive AuthorizationCheckStatus
  | passed
  | blocked
  deriving DecidableEq

def AuthorizationCheckStatus.text : AuthorizationCheckStatus → String
  | .passed => "passed"
  | .blocked => "blocked"

structure AuthorizationCheck where
  checkId : AuthorizationCheckId
  status : AuthorizationCheckStatus
  observed : String
  required : String
  blockingReason : Option AuthorizationBlockReason
  deriving DecidableEq

def AuthorizationCheck.asdict (c : AuthorizationCheck) : Json :=
  .obj [("check_id", .str c.checkId.text), ("status", .str c.status.text), ("observed", .str c.observed),
    ("required", .str c.required), ("blocking_reason", optionalText (c.blockingReason.map (·.text)))]

/-- `_check` -/
def authorizationCheck (checkId : AuthorizationCheckId) (passed : Bool) (observed required : String)
    (blockingReason : Option AuthorizationBlockReason) : Except String AuthorizationCheck :=
  if passed then .ok ⟨checkId, .passed, observed, required, none⟩
  else match blockingReason with
    | none => .error "blocked authorization checks require a blocking reason"
    | some reason => .ok ⟨checkId, .blocked, observed, required, some reason⟩

/-- `_human_release_blocking_reason` -/
def humanReleaseBlockingReason : AgentApprovalStatus → AuthorizationBlockReason
  | .notYetValid => .humanReleaseNotYetValid
  | .expired => .humanReleaseExpired
  | .revoked => .humanReleaseRevoked
  | .scopeMismatch => .humanReleaseScopeMismatch
  | .untrustedSigner => .humanReleaseUntrusted
  | .ledgerInvalid => .approvalLedgerInvalid
  | .ledgerUnavailable => .approvalLedgerUnavailable
  | .notSupplied | .notFound | .active => .humanReleaseNotGranted

/-- `text or other`: an empty text gives way. -/
def textOr (text : Option String) (other : String) : String :=
  match text with
  | some value => if value = "" then other else value
  | none => other

def isTraceable (pack : EvidencePack) : Bool := pack.status = .traceableEvidenceAvailable && !pack.items.isEmpty

/-- `_authorization_checks` -/
def authorizationChecks (pack : EvidencePack) (release : AgentReleaseObservation) (approval : AgentApprovalObservation) :
    Except String (List AuthorizationCheck) :=
  let scope := "read_only_no_network_no_tools_no_side_effects"
  [authorizationCheck .evidencePackIntegrity true "content_addressed_bounded_pack" "content_addressed_bounded_pack" none,
    authorizationCheck .traceableEvidence (isTraceable pack) pack.status.text "traceable_evidence_available"
      (some .noTraceableEvidence),
    authorizationCheck .capabilityScope true scope scope none,
    authorizationCheck .modelAdapter release.modelAdapterEvaluated (textOr release.agentCandidateId release.status.text)
      "evaluated_model_adapter" (some .modelAdapterNotSelected),
    authorizationCheck .liveRelationshipBenchmark release.relationshipBenchmarkPassed
      (textOr release.relationshipReportId release.status.text) "adjudicated_pass"
      (some .liveRelationshipBenchmarkIncomplete),
    authorizationCheck .groundedAnswerEvaluation release.groundedAnswerEvaluationPassed
      (textOr release.assessmentId release.status.text) "evaluated_pass" (some .groundedAnswerEvaluationMissing),
    authorizationCheck .agentTrajectoryEvaluation release.agentTrajectoryEvaluationPassed
      (textOr release.assessmentId release.status.text) "observable_trajectory_pass"
      (some .agentTrajectoryEvaluationMissing),
    authorizationCheck .trajectoryDriftMonitoring release.trajectoryDriftMonitoringPassed
      (textOr release.assessmentId release.status.text) "complete_stable_drift_chain"
      (some .trajectoryDriftEvidenceMissing),
    authorizationCheck .releaseThresholdPolicy release.releaseThresholdPolicyPassed release.status.text
      "eligible_for_human_review" (some .releaseThresholdsNotMet),
    authorizationCheck .humanRelease (approval.status = .active) approval.status.text
      "active_trusted_unrevoked_approval" (some (humanReleaseBlockingReason approval.status)),
    authorizationCheck .executionRelease false "disabled" "enabled" (some .executionDisabled)].mapM id

/-- The only decision that there is. -/
inductive AgentRunStatus
  | blocked
  deriving DecidableEq

def AgentRunStatus.text : AgentRunStatus → String
  | .blocked => "blocked"

structure AgentAuthorization where
  decision : AgentRunStatus
  passedCheckCount : Nat
  blockedCheckCount : Nat
  blockingReasons : List AuthorizationBlockReason
  checks : List AuthorizationCheck
  deriving DecidableEq

def AgentAuthorization.asdict (a : AgentAuthorization) : Json :=
  .obj [("decision", .str a.decision.text), ("passed_check_count", .int a.passedCheckCount),
    ("blocked_check_count", .int a.blockedCheckCount),
    ("blocking_reasons", .arr (a.blockingReasons.map fun reason => .str reason.text)),
    ("checks", .arr (a.checks.map (·.asdict)))]

structure AgentExecutionState where
  status : String
  agentModelInvoked : Bool
  agentNetworkAccessed : Bool
  agentToolsInvoked : Bool
  answerGenerated : Bool
  agentSideEffectsPerformed : Bool
  deriving DecidableEq

def AgentExecutionState.default : AgentExecutionState := ⟨"not_started", false, false, false, false, false⟩

def AgentExecutionState.asdict (e : AgentExecutionState) : Json :=
  .obj [("status", .str e.status), ("agent_model_invoked", .bool e.agentModelInvoked),
    ("agent_network_accessed", .bool e.agentNetworkAccessed), ("agent_tools_invoked", .bool e.agentToolsInvoked),
    ("answer_generated", .bool e.answerGenerated), ("agent_side_effects_performed", .bool e.agentSideEffectsPerformed)]

/-! ## Proposals and manifests -/

structure AgentRunProposal where
  proposalId : String
  proposalRuleVersion : String
  request : AgentRunRequest
  evidence : AgentRunEvidence
  policy : AgentAuthorizationPolicy
  release : AgentReleaseObservation
  deriving DecidableEq

structure AgentRunManifest where
  manifestId : String
  schemaVersion : String
  ruleVersion : String
  identityAlgorithm : String
  proposalId : String
  status : AgentRunStatus
  request : AgentRunRequest
  evidence : AgentRunEvidence
  policy : AgentAuthorizationPolicy
  release : AgentReleaseObservation
  approval : AgentApprovalObservation
  authorization : AgentAuthorization
  execution : AgentExecutionState
  caveat : String
  deriving DecidableEq

/-- `_proposal_payload` -/
def proposalPayload (request : AgentRunRequest) (evidence : AgentRunEvidence) (policy : AgentAuthorizationPolicy)
    (release : AgentReleaseObservation) : Json :=
  .obj [("schema_version", .str agentRunSchemaVersion), ("manifest_rule_version", .str agentRunRuleVersion),
    ("proposal_rule_version", .str agentRunProposalRuleVersion), ("identity_algorithm", .str agentRunIdentityAlgorithm),
    ("request", request.asdict), ("evidence", evidence.asdict), ("policy", policy.asdict), ("release", release.asdict)]

/-- `_manifest_payload` -/
def manifestPayload (proposalId : String) (request : AgentRunRequest) (evidence : AgentRunEvidence)
    (policy : AgentAuthorizationPolicy) (release : AgentReleaseObservation) (approval : AgentApprovalObservation)
    (authorization : AgentAuthorization) (execution : AgentExecutionState) : List (String × Json) :=
  [("schema_version", .str agentRunSchemaVersion), ("rule_version", .str agentRunRuleVersion),
    ("identity_algorithm", .str agentRunIdentityAlgorithm), ("proposal_id", .str proposalId),
    ("status", .str authorization.decision.text), ("request", request.asdict), ("evidence", evidence.asdict),
    ("policy", policy.asdict), ("release", release.asdict), ("approval", approval.asdict),
    ("authorization", authorization.asdict), ("execution", execution.asdict), ("caveat", .str agentRunCaveat)]

def runEvidence (pack : EvidencePack) : AgentRunEvidence where
  packId := pack.packId
  packRuleVersion := pack.ruleVersion
  packStatus := pack.status
  itemCount := pack.items.length
  exclusionCount := pack.exclusions.length
  sourceTextCharacters := pack.sourceTextCharacters
  evidenceIds := pack.items.map (·.evidenceId)

section runs
variable (sha256 : Bytes → HexDigest)

def buildAgentRunProposal (pack : EvidencePack) (release : Option AgentReleaseObservation) :
    Except String AgentRunProposal := do
  let release := release.getD .default
  validateReleaseObservation release
  let request := AgentRunRequest.default
  let evidence := runEvidence pack
  let policy := AgentAuthorizationPolicy.default
  return {
    proposalId := "proposal-" ++ canonicalJsonSha256 sha256 (proposalPayload request evidence policy release)
    proposalRuleVersion := agentRunProposalRuleVersion
    request, evidence, policy, release }

/-- The authorization that the checks amount to. -/
def authorizationOf (checks : List AuthorizationCheck) : AgentAuthorization where
  decision := .blocked
  passedCheckCount := (checks.filter (·.status = .passed)).length
  blockedCheckCount := (checks.filter (·.status = .blocked)).length
  blockingReasons := (checks.filter (·.status = .blocked)).filterMap (·.blockingReason)
  checks

def buildAgentRunManifest (pack : EvidencePack) (approval : Option AgentApprovalObservation)
    (proposal : Option AgentRunProposal) (release : Option AgentReleaseObservation) : Except String AgentRunManifest := do
  let release := release.getD .default
  validateReleaseObservation release
  let expected ← buildAgentRunProposal sha256 pack (some release)
  check (proposal.all (· = expected)) "agent run proposal does not match the evidence pack"
  let proposal := proposal.getD expected
  let approval := approval.getD .default
  validateActiveApproval approval proposal.proposalId
  let checks ← authorizationChecks pack release approval
  let authorization := authorizationOf checks
  let execution := AgentExecutionState.default
  let payload := manifestPayload proposal.proposalId proposal.request proposal.evidence proposal.policy proposal.release
    approval authorization execution
  return {
    manifestId := "manifest-" ++ canonicalJsonSha256 sha256 (.obj payload)
    schemaVersion := agentRunSchemaVersion
    ruleVersion := agentRunRuleVersion
    identityAlgorithm := agentRunIdentityAlgorithm
    proposalId := proposal.proposalId
    status := authorization.decision
    request := proposal.request
    evidence := proposal.evidence
    policy := proposal.policy
    release := proposal.release
    approval, authorization, execution
    caveat := agentRunCaveat }

end runs

/-! ## The preflight endpoint -/

section preflight
variable (crypto : Crypto)

/-- `PostgresAgentRunLedger.resolve_approval`, of the rows that a read gives;
without rows the database was not reached. -/
def PostgresAgentRunLedger.resolveApproval (rows : Option (List LedgerRow)) (approvalId proposalId : String)
    (evaluatedAt : UtcDatetime) (trustedKeyIds : List String) : Except String AgentApprovalObservation :=
  match rows with
  | none => .ok (observation .ledgerUnavailable approvalId evaluatedAt none none)
  | some rows => match PostgresAgentRunLedger.entries crypto rows with
    | .error _ => .ok (observation .ledgerInvalid approvalId evaluatedAt none none)
    | .ok entries => resolveAgentApproval crypto entries approvalId proposalId evaluatedAt.val trustedKeyIds

/-- The ledger that the application was given: its trusted keys, and what a
read of its table gives. -/
structure LedgerReader where
  trustedKeyIds : List String
  rows : Option (List LedgerRow)

/-- What the preflight takes for the approval of a proposal. -/
def approvalObservation (ledger : Option LedgerReader) (approvalId : Option String) (proposalId : String)
    (evaluatedAt : UtcDatetime) : Except String AgentApprovalObservation :=
  match approvalId with
  | none => .ok .default
  | some approvalId => match ledger with
    | none => .ok (observation .ledgerUnavailable approvalId evaluatedAt none none)
    | some reader => PostgresAgentRunLedger.resolveApproval crypto reader.rows approvalId proposalId evaluatedAt
        reader.trustedKeyIds

variable {S : Type} {m : ReleaseModel S}

def observedRelease (assessment : Option (AgentReleaseAssessment m)) : AgentReleaseObservation :=
  (assessment.map agentReleaseObservation).getD .default

/-- `agent_run_preflight`, once the evidence pack is built. -/
def agentRunPreflight (pack : EvidencePack) (assessment : Option (AgentReleaseAssessment m)) (ledger : Option LedgerReader)
    (approvalId : Option String) (evaluatedAt : UtcDatetime) : Except String AgentRunManifest := do
  let release := observedRelease assessment
  let proposal ← buildAgentRunProposal crypto.sha256 pack (some release)
  let approval ← approvalObservation crypto ledger approvalId proposal.proposalId evaluatedAt
  buildAgentRunManifest crypto.sha256 pack (some approval) (some proposal) (some release)

end preflight

end AtlasPulse
