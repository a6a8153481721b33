import AtlasPulse.AgentRuns
import AtlasPulse.ApprovalSound
import AtlasPulse.EvidencePacksSound

/-!
# Preflights of agent runs

A preflight always answers, and it fails closed: the manifest lists exactly the
conditions that do not hold, the disabled execution among them. An approval
counts only for the proposal that it was granted for, and the identities of
proposals and manifests bind their contents.
-/

namespace AtlasPulse

open PyJson PyTime

/-! ## Accepted assessments -/

section assessments
variable {S : Type} {m : ReleaseModel S}

/-- What the validator of an assessment says about its gates. -/
structure GatesDecide (a : AssessmentContent S) : Prop where
  nonempty : a.trajectoryEvidence ≠ []
  canonical : a.gates.map (·.gateId) = agentReleaseGateIds
  reasons : a.blockingReasons = a.blockedGates.filterMap (·.blockingReason)
  reasoned : ∀ gate ∈ a.gates, gate.passed ≠ gate.blockingReason.isSome
  status : a.status = if a.blockedGates.isEmpty then .eligibleForHumanReview else .blocked

theorem gates_decide (a : AgentReleaseAssessment m) : GatesDecide a.toAssessmentContent := by
  have h := a.valid
  simp only [AssessmentData.validate, bind_ok, check_eq_ok, exists_unit, listForM_ok, decide_eq_true_eq,
    Bool.and_eq_true] at h
  obtain ⟨-, -, -, -, -, ⟨hone, -⟩, -, -, -, hgates, -, -, hcanonical, -, hreasons, hstatus, -⟩ := h
  refine ⟨?_, hcanonical, hreasons, fun gate hgate => ?_, hstatus⟩
  · intro hnil
    simp [hnil] at hone
  · have hgate := hgates gate hgate
    simp only [AgentReleaseGate.validate, bind_ok, check_eq_ok, exists_unit] at hgate
    simpa using hgate.2.2.2

theorem blockedGates_eq_nil {a : AssessmentContent S} (h : GatesDecide a) :
    a.blockedGates = [] ↔ a.status = .eligibleForHumanReview := by
  rw [h.status]
  by_cases hnil : a.blockedGates = [] <;> simp [hnil]

theorem gatePassed_of_unblocked {a : AssessmentContent S} (h : GatesDecide a) (hnil : a.blockedGates = [])
    {id : ReleaseGateId} (hid : id ∈ agentReleaseGateIds) : a.gatePassed id = true := by
  rw [← h.canonical] at hid
  obtain ⟨gate, hgate, rfl⟩ := List.mem_map.mp hid
  have hpassed : gate.passed = true := by
    by_contra hne
    have hmem : gate ∈ a.blockedGates := List.mem_filter.mpr ⟨hgate, by simpa using hne⟩
    simp [hnil] at hmem
  exact List.any_eq_true.mpr ⟨gate, hgate, by simp [hpassed]⟩

/-- A blocked assessment names a reason. -/
theorem reasons_ne_nil {a : AssessmentContent S} (h : GatesDecide a) (hblocked : a.blockedGates ≠ []) :
    a.blockingReasons ≠ [] := by
  obtain ⟨gate, hgate⟩ := List.exists_mem_of_ne_nil _ hblocked
  obtain ⟨hmem, hfailed⟩ := List.mem_filter.mp hgate
  have hunpassed : gate.passed = false := by simpa using hfailed
  have hreasoned := h.reasoned gate hmem
  rw [hunpassed] at hreasoned
  have hsome : gate.blockingReason.isSome = true := by
    cases hreason : gate.blockingReason.isSome with
    | false => exact absurd hreason.symm hreasoned
    | true => rfl
  obtain ⟨reason, hreason⟩ := Option.isSome_iff_exists.mp hsome
  rw [h.reasons]
  exact List.ne_nil_of_mem (List.mem_filterMap.mpr ⟨gate, hgate, hreason⟩)

theorem gates_subset : relationshipGates ⊆ agentReleaseGateIds ∧ groundedAnswerGates ⊆ agentReleaseGateIds ∧
    trajectoryGates ⊆ agentReleaseGateIds ∧ driftGates ⊆ agentReleaseGateIds := by decide

theorem flags_of_unblocked {a : AgentReleaseAssessment m} (h : a.status = .eligibleForHumanReview) :
    (agentReleaseObservation a).flags.all id = true := by
  have hg := gates_decide a
  have hnil := (blockedGates_eq_nil hg).mpr h
  have hevery : ∀ ids : List ReleaseGateId, ids ⊆ agentReleaseGateIds → ids.all a.gatePassed = true :=
    fun ids hids => List.all_eq_true.mpr fun id hid => gatePassed_of_unblocked hg hnil (hids hid)
  obtain ⟨h1, h2, h3, h4⟩ := gates_subset
  have hidentity : [ReleaseGateId.agentCandidateIdentity] ⊆ agentReleaseGateIds := by decide
  simp [AgentReleaseObservation.flags, agentReleaseObservation, hevery _ h1, hevery _ h2, hevery _ h3, hevery _ h4,
    gatePassed_of_unblocked hg hnil (hidentity (List.mem_singleton_self _)), h]

/-- What an accepted assessment is reduced to is accepted by the preflight. -/
theorem observation_accepted (a : AgentReleaseAssessment m) :
    validateReleaseObservation (agentReleaseObservation a) = .ok () := by
  have hg := gates_decide a
  have hids : (agentReleaseObservation a).trajectoryReportIds.isEmpty = false := by
    simp [agentReleaseObservation, hg.nonempty]
  cases hstatus : a.status with
  | eligibleForHumanReview =>
    have hreasons : a.blockingReasons = [] := by
      rw [hg.reasons, (blockedGates_eq_nil hg).mpr hstatus]
      rfl
    have hempty : (agentReleaseObservation a).blockingReasons = [] := hreasons
    have hobserved : (agentReleaseObservation a).status = .eligibleForHumanReview := by
      simp [agentReleaseObservation, hstatus, ReleaseStatus.observed]
    simp only [validateReleaseObservation, hobserved, hids, hempty, flags_of_unblocked hstatus]
    rfl
  | blocked =>
    have hblocked : a.blockedGates ≠ [] := by
      rw [Ne, blockedGates_eq_nil hg, hstatus]
      simp
    have hreasons : (agentReleaseObservation a).blockingReasons.isEmpty = false := by
      simpa [agentReleaseObservation] using reasons_ne_nil hg hblocked
    have hobserved : (agentReleaseObservation a).status = .blocked := by
      simp [agentReleaseObservation, hstatus, ReleaseStatus.observed]
    have hthreshold : (agentReleaseObservation a).releaseThresholdPolicyPassed = false := by
      simp [agentReleaseObservation, hstatus]
    simp only [validateReleaseObservation, hobserved, hids, hreasons, hthreshold]
    rfl

theorem observedRelease_accepted (assessment : Option (AgentReleaseAssessment m)) :
    validateReleaseObservation (observedRelease assessment) = .ok () := by
  cases assessment with
  | none => rfl
  | some a => exact observation_accepted a

/-- The six flags together are the status. -/
theorem flags_iff (assessment : Option (AgentReleaseAssessment m)) :
    (observedRelease assessment).flags.all id = true ↔ ∃ a ∈ assessment, a.status = .eligibleForHumanReview := by
  cases assessment with
  | none => simp [observedRelease, AgentReleaseObservation.default, AgentReleaseObservation.flags]
  | some a =>
    refine ⟨fun h => ⟨a, rfl, ?_⟩, ?_⟩
    · have hlast : (agentReleaseObservation a).releaseThresholdPolicyPassed = true :=
        List.all_eq_true.mp h _ (by simp [AgentReleaseObservation.flags, observedRelease])
      simpa [agentReleaseObservation] using hlast
    · rintro ⟨_, ⟨⟩, h⟩
      exact flags_of_unblocked h

end assessments

/-! ## Resolved approvals -/

section approvals
variable {crypto : Crypto}

theorem resolveGrant_released {approvalId proposalId keyId : String} {u : UtcDatetime} {g : AgentApprovalGrant}
    {revocations : List AgentApprovalRevocation} (hproposal : g.proposalId = proposalId)
    (hwindow : windowStatus g u = .active) (hsingle : revocations.length ≤ 1)
    (hunrevoked : ∀ r ∈ revocations, r.isConsistent g ∧ u.val.instant < r.revokedAt.val.instant) :
    resolveGrant approvalId proposalId u g keyId revocations = observation .active approvalId u (some (g, keyId)) none := by
  cases revocations with
  | nil => simp [resolveGrant, hproposal, hwindow]
  | cons r rest =>
    obtain rfl : rest = [] := List.length_eq_zero_iff.mp (by simpa using hsingle)
    obtain ⟨hconsistent, hlater⟩ := hunrevoked r (List.mem_singleton_self r)
    simp [resolveGrant, hproposal, hconsistent, Int.not_le.mpr hlater, hwindow]

/-- An active observation has every field of its grant. -/
theorem resolveAt_active_eq {entries : List AgentRunLedgerEntry} {approvalId proposalId : String} {trusted : List String}
    {u : UtcDatetime} (h : (resolveAt crypto entries approvalId proposalId u trusted).status = .active) :
    ∃ g keyId, resolveAt crypto entries approvalId proposalId u trusted =
        observation .active approvalId u (some (g, keyId)) none ∧
      Released crypto entries approvalId proposalId trusted g u.val.instant := by
  obtain ⟨g, hg⟩ := resolveAt_active.mp h
  obtain ⟨keyId, hgrants⟩ := hg.granted
  have hwindow := windowStatus_active.mpr ⟨hg.issued, hg.unexpired⟩
  refine ⟨g, keyId, ?_, hg⟩
  rw [resolveAt_verified hg.verified hg.signers, hgrants]
  exact resolveGrant_released hg.proposal hwindow hg.single hg.unrevoked

theorem utcoffset_ne_none (t : UtcDatetime) : t.val.utcoffset ≠ none := by
  have h : t.val.utcoffset = some 0 := by simpa [Datetime.isUtc] using t.2
  simp [h]

/-- A grant in a ledger that was read releases the proposal. -/
def Granted (crypto : Crypto) (ledger : Option LedgerReader) (approvalId proposalId : String) (t : UtcDatetime) : Prop :=
  ∃ reader ∈ ledger, ∃ rows ∈ reader.rows, ∃ entries, PostgresAgentRunLedger.entries crypto rows = .ok entries ∧
    ∃ g, Released crypto entries approvalId proposalId reader.trustedKeyIds g t.val.instant

theorem resolveAgentApproval_utc {entries : List AgentRunLedgerEntry} {approvalId proposalId : String}
    (ha : isPrefixedHash "approval-" approvalId) (hp : isPrefixedHash "proposal-" proposalId) (t : UtcDatetime)
    (trusted : List String) : resolveAgentApproval crypto entries approvalId proposalId t.val trusted =
      .ok (resolveAt crypto entries approvalId proposalId t trusted) :=
  resolveAgentApproval_eq_ok.mpr ⟨ha, hp, t, ⟨utcoffset_ne_none t, rfl⟩, rfl⟩

theorem validateActive_of_inactive {a : AgentApprovalObservation} {proposalId : String} (h : a.status ≠ .active) :
    validateActiveApproval a proposalId = .ok () := if_pos h

/-- What the preflight takes for the approval is never refused by the manifest. -/
theorem approvalObservation_ok {ledger : Option LedgerReader} {approvalId : Option String} {proposalId : String}
    (ha : ∀ id ∈ approvalId, isPrefixedHash "approval-" id) (hp : isPrefixedHash "proposal-" proposalId)
    (t : UtcDatetime) : ∃ a, approvalObservation crypto ledger approvalId proposalId t = .ok a ∧
      validateActiveApproval a proposalId = .ok () ∧
      (a.status = .active ↔ ∃ id ∈ approvalId, Granted crypto ledger id proposalId t) := by
  cases approvalId with
  | none => exact ⟨_, rfl, validateActive_of_inactive (by simp [AgentApprovalObservation.default]),
      by simp [AgentApprovalObservation.default]⟩
  | some id =>
    cases ledger with
    | none => exact ⟨_, rfl, validateActive_of_inactive (by simp [observation]), by simp [observation, Granted]⟩
    | some reader =>
      obtain ⟨trusted, rows⟩ := reader
      cases rows with
      | none => exact ⟨_, rfl, validateActive_of_inactive (by simp [observation]), by simp [observation, Granted]⟩
      | some rows =>
        cases hentries : PostgresAgentRunLedger.entries crypto rows with
        | error e =>
          refine ⟨observation .ledgerInvalid id t none none, ?_, validateActive_of_inactive (by simp [observation]),
            by simp [observation, Granted, hentries]⟩
          simp [approvalObservation, PostgresAgentRunLedger.resolveApproval, hentries]
        | ok entries =>
          have hactive : (resolveAt crypto entries id proposalId t trusted).status = .active ↔
              ∃ id' ∈ some id, Granted crypto (some ⟨trusted, some rows⟩) id' proposalId t := by
            rw [resolveAt_active]
            simp [Granted, hentries]
          refine ⟨resolveAt crypto entries id proposalId t trusted, ?_, ?_, hactive⟩
          · simp only [approvalObservation, PostgresAgentRunLedger.resolveApproval, hentries]
            exact resolveAgentApproval_utc (ha id rfl) hp t trusted
          · by_cases h : (resolveAt crypto entries id proposalId t trusted).status = .active
            · obtain ⟨g, keyId, heq, hg⟩ := resolveAt_active_eq h
              simp [heq, validateActiveApproval, observation, hg.proposal, hg.issued, hg.unexpired, check, bind, Except.bind]
            · exact validateActive_of_inactive h

end approvals

/-! ## Checks -/

/-- A check that names its reason. -/
def decidedCheck (checkId : AuthorizationCheckId) (passed : Bool) (observed required : String)
    (reason : AuthorizationBlockReason) : AuthorizationCheck :=
  if passed then ⟨checkId, .passed, observed, required, none⟩ else ⟨checkId, .blocked, observed, required, some reason⟩

theorem authorizationCheck_some (checkId : AuthorizationCheckId) (passed : Bool) (observed required : String)
    (reason : AuthorizationBlockReason) : authorizationCheck checkId passed observed required (some reason) =
      .ok (decidedCheck checkId passed observed required reason) := by
  cases passed <;> rfl

/-- The reasons of the conditions that fail. -/
def failures (conditions : List (Bool × AuthorizationBlockReason)) : List AuthorizationBlockReason :=
  conditions.filterMap fun c => if c.1 then none else some c.2

theorem failures_cons (passed : Bool) (reason : AuthorizationBlockReason) (l : List (Bool × AuthorizationBlockReason)) :
    failures ((passed, reason) :: l) = if passed then failures l else reason :: failures l := by
  cases passed <;> rfl

theorem failures_append (l : List (Bool × AuthorizationBlockReason)) (reason : AuthorizationBlockReason) :
    failures (l ++ [(false, reason)]) = failures l ++ [reason] := List.filterMap_append

theorem failures_eq_nil {l : List (Bool × AuthorizationBlockReason)} : failures l = [] ↔ ∀ c ∈ l, c.1 = true := by
  rw [failures, List.filterMap_eq_nil_iff]
  exact forall₂_congr fun c _ => by cases c.1 <;> simp

/-- The conditions of the policy, each with the reason of its failure. -/
def conditions (traceable : Bool) (release : AgentReleaseObservation) (approval : AgentApprovalObservation) :
    List (Bool × AuthorizationBlockReason) :=
  [(traceable, .noTraceableEvidence), (release.modelAdapterEvaluated, .modelAdapterNotSelected),
    (release.relationshipBenchmarkPassed, .liveRelationshipBenchmarkIncomplete),
    (release.groundedAnswerEvaluationPassed, .groundedAnswerEvaluationMissing),
    (release.agentTrajectoryEvaluationPassed, .agentTrajectoryEvaluationMissing),
    (release.trajectoryDriftMonitoringPassed, .trajectoryDriftEvidenceMissing),
    (release.releaseThresholdPolicyPassed, .releaseThresholdsNotMet),
    (approval.status = .active, humanReleaseBlockingReason approval.status), (false, .executionDisabled)]

/-- The counts and the reasons of an authorization agree with its checks. -/
structure Tallied (a : AgentAuthorization) (conditions : List (Bool × AuthorizationBlockReason)) (free : Nat) : Prop where
  reasons : a.blockingReasons = failures conditions
  blocked : a.blockedCheckCount = a.blockingReasons.length
  total : a.passedCheckCount + a.blockedCheckCount = conditions.length + free

theorem tallied_nil : Tallied (authorizationOf []) [] 0 := ⟨rfl, rfl, rfl⟩

theorem tallied_cons {checks : List AuthorizationCheck} {l : List (Bool × AuthorizationBlockReason)} {free : Nat}
    (h : Tallied (authorizationOf checks) l free) (checkId : AuthorizationCheckId) (passed : Bool)
    (observed required : String) (reason : AuthorizationBlockReason) :
    Tallied (authorizationOf (decidedCheck checkId passed observed required reason :: checks)) ((passed, reason) :: l) free := by
  obtain ⟨h1, h2, h3⟩ := h
  simp only [authorizationOf] at h1 h2 h3
  cases passed
  · refine ⟨?_, ?_, ?_⟩
    · simp [authorizationOf, decidedCheck, failures_cons, h1]
    · simp [authorizationOf, decidedCheck, h2]
    · simp only [authorizationOf, decidedCheck, List.length_cons]
      simp
      omega
  · refine ⟨?_, ?_, ?_⟩
    · simp [authorizationOf, decidedCheck, failures_cons, h1]
    · simp [authorizationOf, decidedCheck, h2]
    · simp only [authorizationOf, decidedCheck, List.length_cons]
      simp
      omega

/-- A check that cannot fail. -/
def passedCheck (checkId : AuthorizationCheckId) (observed : String) : AuthorizationCheck :=
  ⟨checkId, .passed, observed, observed, none⟩

theorem tallied_free {checks : List AuthorizationCheck} {l : List (Bool × AuthorizationBlockReason)} {free : Nat}
    (h : Tallied (authorizationOf checks) l free) (checkId : AuthorizationCheckId) (observed : String) :
    Tallied (authorizationOf (passedCheck checkId observed :: checks)) l (free + 1) := by
  obtain ⟨h1, h2, h3⟩ := h
  simp only [authorizationOf] at h1 h2 h3
  refine ⟨?_, ?_, ?_⟩
  · simp [authorizationOf, passedCheck, h1]
  · simp [authorizationOf, passedCheck, h2]
  · simp only [authorizationOf, passedCheck]
    simp
    omega

/-- The checks of a preflight. -/
def decidedChecks (pack : EvidencePack) (release : AgentReleaseObservation) (approval : AgentApprovalObservation) :
    List AuthorizationCheck :=
  [passedCheck .evidencePackIntegrity "content_addressed_bounded_pack",
    decidedCheck .traceableEvidence (isTraceable pack) pack.status.text "traceable_evidence_available" .noTraceableEvidence,
    passedCheck .capabilityScope "read_only_no_network_no_tools_no_side_effects",
    decidedCheck .modelAdapter release.modelAdapterEvaluated (textOr release.agentCandidateId release.status.text)
      "evaluated_model_adapter" .modelAdapterNotSelected,
    decidedCheck .liveRelationshipBenchmark release.relationshipBenchmarkPassed
      (textOr release.relationshipReportId release.status.text) "adjudicated_pass" .liveRelationshipBenchmarkIncomplete,
    decidedCheck .groundedAnswerEvaluation release.groundedAnswerEvaluationPassed
      (textOr release.assessmentId release.status.text) "evaluated_pass" .groundedAnswerEvaluationMissing,
    decidedCheck .agentTrajectoryEvaluation release.agentTrajectoryEvaluationPassed
      (textOr release.assessmentId release.status.text) "observable_trajectory_pass" .agentTrajectoryEvaluationMissing,
    decidedCheck .trajectoryDriftMonitoring release.trajectoryDriftMonitoringPassed
      (textOr release.assessmentId release.status.text) "complete_stable_drift_chain" .trajectoryDriftEvidenceMissing,
    decidedCheck .releaseThresholdPolicy release.releaseThresholdPolicyPassed release.status.text
      "eligible_for_human_review" .releaseThresholdsNotMet,
    decidedCheck .humanRelease (approval.status = .active) approval.status.text "active_trusted_unrevoked_approval"
      (humanReleaseBlockingReason approval.status),
    decidedCheck .executionRelease false "disabled" "enabled" .executionDisabled]

theorem authorizationChecks_eq (pack : EvidencePack) (release : AgentReleaseObservation)
    (approval : AgentApprovalObservation) :
    authorizationChecks pack release approval = .ok (decidedChecks pack release approval) := by
  simp only [authorizationChecks, authorizationCheck_some]
  rfl

theorem tallied_decided (pack : EvidencePack) (release : AgentReleaseObservation) (approval : AgentApprovalObservation) :
    Tallied (authorizationOf (decidedChecks pack release approval)) (conditions (isTraceable pack) release approval) 2 := by
  unfold decidedChecks conditions
  apply tallied_free
  apply tallied_cons
  apply tallied_free
  iterate 8 apply tallied_cons
  exact tallied_nil

theorem executionDisabled_mem (traceable : Bool) (release : AgentReleaseObservation) (approval : AgentApprovalObservation) :
    .executionDisabled ∈ failures (conditions traceable release approval) :=
  List.mem_filterMap.mpr ⟨(false, .executionDisabled), by simp [conditions], rfl⟩

/-- Only the disabled execution blocks a run for which every other condition holds. -/
theorem failures_eq_iff (traceable : Bool) (release : AgentReleaseObservation) (approval : AgentApprovalObservation) :
    failures (conditions traceable release approval) = [.executionDisabled] ↔
      traceable = true ∧ release.flags.all id = true ∧ approval.status = .active := by
  have hlast : conditions traceable release approval =
      (conditions traceable release approval).dropLast ++ [(false, .executionDisabled)] := rfl
  have hnone : failures (conditions traceable release approval) = [.executionDisabled] ↔
      failures (conditions traceable release approval).dropLast = [] := by
    rw [hlast, failures_append, List.dropLast_concat]
    exact List.append_left_eq_self
  rw [hnone, failures_eq_nil]
  simp [conditions, AgentReleaseObservation.flags, and_assoc]

/-! ## Preflights -/

section manifests
variable (sha256 : Bytes → HexDigest)

/-- The proposal of a pack under a release. -/
def runProposal (pack : EvidencePack) (release : AgentReleaseObservation) : AgentRunProposal where
  proposalId := "proposal-" ++ canonicalJsonSha256 sha256 (proposalPayload .default (runEvidence pack) .default release)
  proposalRuleVersion := agentRunProposalRuleVersion
  request := .default
  evidence := runEvidence pack
  policy := .default
  release

/-- The fields of a manifest of a pack, of which its identity is computed. -/
def runPayload (pack : EvidencePack) (release : AgentReleaseObservation) (approval : AgentApprovalObservation) :
    List (String × Json) :=
  manifestPayload (runProposal sha256 pack release).proposalId .default (runEvidence pack) .default release approval
    (authorizationOf (decidedChecks pack release approval)) .default

/-- The manifest of a pack under a release and an approval. -/
def runManifest (pack : EvidencePack) (release : AgentReleaseObservation) (approval : AgentApprovalObservation) :
    AgentRunManifest where
  manifestId := "manifest-" ++ canonicalJsonSha256 sha256 (.obj (runPayload sha256 pack release approval))
  schemaVersion := agentRunSchemaVersion
  ruleVersion := agentRunRuleVersion
  identityAlgorithm := agentRunIdentityAlgorithm
  proposalId := (runProposal sha256 pack release).proposalId
  status := .blocked
  request := .default
  evidence := runEvidence pack
  policy := .default
  release
  approval
  authorization := authorizationOf (decidedChecks pack release approval)
  execution := .default
  caveat := agentRunCaveat

variable {sha256}

theorem buildProposal_ok {pack : EvidencePack} {release : AgentReleaseObservation} {p : AgentRunProposal} :
    buildAgentRunProposal sha256 pack (some release) = .ok p ↔
      validateReleaseObservation release = .ok () ∧ p = runProposal sha256 pack release := by
  simp only [buildAgentRunProposal, bind_ok, exists_unit, Option.getD_some]
  exact and_congr_right fun _ => ⟨fun h => (Except.ok.inj h).symm, fun h => h ▸ rfl⟩

theorem proposalId_shape (pack : EvidencePack) (release : AgentReleaseObservation) :
    isPrefixedHash "proposal-" (runProposal sha256 pack release).proposalId := isPrefixedHash_append _ _

/-- A manifest is built exactly of a release and an approval that are accepted,
and of no other proposal than that of the pack. -/
theorem buildManifest_ok {pack : EvidencePack} {release : Option AgentReleaseObservation}
    {approval : Option AgentApprovalObservation} {proposal : Option AgentRunProposal} {manifest : AgentRunManifest} :
    buildAgentRunManifest sha256 pack approval proposal release = .ok manifest ↔
      validateReleaseObservation (release.getD .default) = .ok () ∧
        (∀ p ∈ proposal, p = runProposal sha256 pack (release.getD .default)) ∧
        validateActiveApproval (approval.getD .default) (runProposal sha256 pack (release.getD .default)).proposalId = .ok () ∧
        manifest = runManifest sha256 pack (release.getD .default) (approval.getD .default) := by
  unfold buildAgentRunManifest
  generalize release.getD .default = release
  generalize approval.getD .default = approval
  simp only [bind_ok, exists_unit, buildProposal_ok, check_eq_ok, authorizationChecks_eq]
  constructor
  · rintro ⟨hrelease, expected, ⟨-, hexpected⟩, hsame, hvalid, checks, hchecks, hmanifest⟩
    obtain rfl := Except.ok.inj hchecks
    have hproposal : proposal.getD expected = runProposal sha256 pack release := by
      rw [hexpected] at hsame ⊢
      cases proposal with
      | none => rfl
      | some p => simpa using hsame
    rw [hproposal] at hvalid hmanifest
    refine ⟨hrelease, fun p hp => ?_, hvalid, (Except.ok.inj hmanifest).symm⟩
    rw [← hproposal, Option.mem_def.mp hp, Option.getD_some]
  · rintro ⟨hrelease, hsame, hvalid, rfl⟩
    have hproposal : proposal.getD (runProposal sha256 pack release) = runProposal sha256 pack release := by
      cases proposal with
      | none => rfl
      | some p => exact hsame p rfl
    refine ⟨hrelease, _, ⟨hrelease, rfl⟩, ?_, ?_, _, rfl, ?_⟩
    · rw [Option.all_eq_true]
      exact fun p hp => decide_eq_true (hsame p hp)
    · rwa [hproposal]
    · rw [hproposal]
      rfl

end manifests

section preflights
variable {crypto : Crypto} {S : Type} {m : ReleaseModel S}

theorem preflight_ok (pack : EvidencePack) (assessment : Option (AgentReleaseAssessment m))
    (ledger : Option LedgerReader) (approvalId : Option String) (t : UtcDatetime)
    (hid : ∀ id ∈ approvalId, isPrefixedHash "approval-" id) :
    ∃ approval, agentRunPreflight crypto pack assessment ledger approvalId t =
        .ok (runManifest crypto.sha256 pack (observedRelease assessment) approval) ∧
      approvalObservation crypto ledger approvalId (runProposal crypto.sha256 pack (observedRelease assessment)).proposalId t =
        .ok approval ∧
      (approval.status = .active ↔ ∃ id ∈ approvalId,
        Granted crypto ledger id (runProposal crypto.sha256 pack (observedRelease assessment)).proposalId t) := by
  have hrelease := observedRelease_accepted assessment
  have hshape : isPrefixedHash "proposal-" (runProposal crypto.sha256 pack (observedRelease assessment)).proposalId :=
    proposalId_shape pack (observedRelease assessment)
  obtain ⟨approval, happroval, hvalid, hactive⟩ : ∃ a, approvalObservation crypto ledger approvalId _ t = .ok a ∧ _ :=
    approvalObservation_ok hid hshape t
  refine ⟨approval, ?_, happroval, hactive⟩
  simp only [agentRunPreflight, bind_ok]
  exact ⟨_, buildProposal_ok.mpr ⟨hrelease, rfl⟩, approval, happroval, buildManifest_ok.mpr ⟨hrelease, by simp, hvalid, rfl⟩⟩

/-- A preflight answers for every pack, assessment, ledger and approval, and it
fails closed: its reasons are the conditions that do not hold. -/
theorem preflight_decides (pack : EvidencePack) (assessment : Option (AgentReleaseAssessment m))
    (ledger : Option LedgerReader) (approvalId : Option String) (t : UtcDatetime)
    (hid : ∀ id ∈ approvalId, isPrefixedHash "approval-" id) :
    ∃ manifest, agentRunPreflight crypto pack assessment ledger approvalId t = .ok manifest ∧
      manifest.evidence = runEvidence pack ∧ manifest.release = observedRelease assessment ∧
      manifest.request = .default ∧ manifest.policy = .default ∧ manifest.execution = .default ∧
      (manifest.approval.status = .active ↔ ∃ id ∈ approvalId, Granted crypto ledger id manifest.proposalId t) ∧
      Tallied manifest.authorization (conditions (isTraceable pack) manifest.release manifest.approval) 2 ∧
      .executionDisabled ∈ manifest.authorization.blockingReasons ∧
      (manifest.authorization.blockingReasons = [.executionDisabled] ↔
        isTraceable pack ∧ (∃ a ∈ assessment, a.status = .eligibleForHumanReview) ∧
          ∃ id ∈ approvalId, Granted crypto ledger id manifest.proposalId t) := by
  obtain ⟨approval, hpreflight, -, hactive⟩ := preflight_ok pack assessment ledger approvalId t hid
  have htallied := tallied_decided pack (observedRelease assessment) approval
  refine ⟨_, hpreflight, rfl, rfl, rfl, rfl, rfl, hactive, htallied, ?_, ?_⟩
  · have h := executionDisabled_mem (isTraceable pack) (observedRelease assessment) approval
    rwa [← htallied.reasons] at h
  · have h := failures_eq_iff (isTraceable pack) (observedRelease assessment) approval
    rw [← htallied.reasons, flags_iff, hactive] at h
    exact h

end preflights

/-! ## A preflight of an earthquake -/

namespace QuakeRun

def proposalDigest : HexDigest := ⟨"a6569e03302b103827cac52aa991b34e73a347a5b1c239188b7221ca8e8d4a6b", by decide +kernel⟩

def manifestDigest : HexDigest := ⟨"f0f4948aa37ca526b9f8f16df7bb20aa55bfa62d4f67a4bc12661adea53e9475", by decide +kernel⟩

def unavailableDigest : HexDigest := ⟨"934e2d25402633989f8a5c5f17db501639700711c51a3aa2a8d0899689f8365d", by decide +kernel⟩

def approvalId : String := "approval-" ++ TwoGrants.firstDigest.val

theorem nine_lt : 9 < 24 := by decide

/-- An approval that no ledger was asked about. -/
def unavailable : AgentApprovalObservation :=
  observation .ledgerUnavailable approvalId (TwoGrants.clock 9 nine_lt) none none

def proposalBytes (pack : EvidencePack) : Bytes :=
  canonicalJsonBytes (proposalPayload .default (runEvidence pack) .default .default)

def manifestBytes (pack : EvidencePack) (approval : AgentApprovalObservation) : Bytes :=
  canonicalJsonBytes (.obj (manifestPayload ("proposal-" ++ proposalDigest.val) .default (runEvidence pack) .default .default
    approval (authorizationOf (decidedChecks pack .default approval)) .default))

/-- SHA-256 of the proposal, of the manifest without an approval, and of the one
whose approval was not found out. -/
def digest (pack : EvidencePack) (message : Bytes) : HexDigest :=
  if message = proposalBytes pack then proposalDigest
  else if message = manifestBytes pack .default then manifestDigest
  else unavailableDigest

def suite (pack : EvidencePack) : Crypto := { TwoGrants.suite with sha256 := digest pack }

def noSystems : ReleaseModel Empty where
  candidateId := Empty.elim
  sha256 _ := TwoGrants.firstDigest
  dumpPolicy _ := .null
  dumpAssessment _ := .null

end QuakeRun

open QuakeRun QuakePack in
theorem preflight_decides_quake :
    ∃ pack manifest, buildEvidencePack reports result query none = .ok pack ∧
      agentRunPreflight (suite pack) pack (none : Option (AgentReleaseAssessment noSystems)) none (some approvalId)
        (TwoGrants.clock 9 nine_lt) = .ok manifest ∧
      manifest.approval.status ≠ .active ∧ .executionDisabled ∈ manifest.authorization.blockingReasons := by
  obtain ⟨pack, hbuild, -, -⟩ := @build_accepted _ reports _ _ packable none rfl
  have hid : ∀ id ∈ some approvalId, isPrefixedHash "approval-" id := by
    intro id hid
    rw [← Option.some.inj hid]
    exact isPrefixedHash_append _ _
  obtain ⟨manifest, hmanifest, -, -, -, -, -, hactive, -, hdisabled, -⟩ := preflight_decides pack
    (none : Option (AgentReleaseAssessment noSystems)) none (some approvalId) (TwoGrants.clock 9 nine_lt) hid
  refine ⟨pack, manifest, hbuild, hmanifest, ?_, hdisabled⟩
  rw [Ne, hactive]
  simp [Granted]

end AtlasPulse
