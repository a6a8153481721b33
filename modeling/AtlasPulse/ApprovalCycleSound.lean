import AtlasPulse.GovernedRunsSound
import AtlasPulse.ManifestReferenceSound

/-!
# From a preflight to its approval

A human grants the manifest of a preflight; the next preflight of the same
evidence and release carries the approval. Between the two only the unique
columns of the table can refuse the grant.
-/

namespace AtlasPulse

open PyJson PyTime

variable {crypto : Crypto}

/-! ## Granting a built manifest -/

/-- The grant of a proposal. -/
def grantOf (crypto : Crypto) (proposalId sourceManifestId policyVersion approverId : String)
    (issuedAt expiresAt : UtcDatetime) (text : String) : AgentApprovalGrant :=
  let draft : AgentApprovalGrant :=
    { artifactType := "approval"
      approvalId := ""
      schemaVersion := agentApprovalSchemaVersion
      ruleVersion := agentApprovalRuleVersion
      identityAlgorithm := agentRunLedgerIdentityAlgorithm
      proposalId, sourceManifestId, policyVersion
      approver := ⟨approverId, .humanReleaseApprover⟩
      issuedAt, expiresAt
      reason := strip text
      caveat := agentApprovalCaveat }
  { draft with approvalId := draft.expectedId crypto }

theorem grantOf_valid {proposalId sourceManifestId policyVersion approverId text : String} {issuedAt expiresAt : UtcDatetime}
    (hproposal : isPrefixedHash "proposal-" proposalId) (hmanifest : isPrefixedHash "manifest-" sourceManifestId)
    (hversion : policyVersion = agentAuthorizationPolicyVersion) (hactor : matchesActorId approverId)
    (hreason : reason (strip text) "reason" = .ok ()) (hlater : issuedAt.val.instant < expiresAt.val.instant)
    (httl : expiresAt.val.instant - issuedAt.val.instant ≤ agentApprovalMaxTtl) :
    (grantOf crypto proposalId sourceManifestId policyVersion approverId issuedAt expiresAt text).validate crypto = .ok () := by
  have hid : isPrefixedHash "approval-"
      (grantOf crypto proposalId sourceManifestId policyVersion approverId issuedAt expiresAt text).approvalId :=
    isPrefixedHash_append _ _
  have hversions : literal ["agent-authorization-v2", "agent-authorization-v3"] policyVersion = .ok () := by
    rw [hversion]
    rfl
  simp only [AgentApprovalGrant.validate, bind_ok, exists_unit, pattern, check_eq_ok, decide_eq_true_eq,
    GovernanceActor.validate]
  refine ⟨literal_self _, hid, literal_self _, literal_self _, literal_self _, hproposal, hmanifest, hversions, hactor, hreason,
    literal_self _, rfl, hlater, httl, ?_⟩
  simp [AgentApprovalGrant.expectedId, grantOf, modelPayload, AgentApprovalGrant.modelDump]

theorem buildAgentApproval_ok {proposalId sourceManifestId policyVersion approverId text : String}
    {issuedAt expiresAt : UtcDatetime} (hproposal : isPrefixedHash "proposal-" proposalId)
    (hmanifest : isPrefixedHash "manifest-" sourceManifestId) (hversion : policyVersion = agentAuthorizationPolicyVersion)
    (hactor : matchesActorId approverId) (hreason : reason (strip text) "reason" = .ok ())
    (hlater : issuedAt.val.instant < expiresAt.val.instant)
    (httl : expiresAt.val.instant - issuedAt.val.instant ≤ agentApprovalMaxTtl) :
    buildAgentApproval crypto proposalId sourceManifestId policyVersion approverId issuedAt expiresAt text =
      .ok (grantOf crypto proposalId sourceManifestId policyVersion approverId issuedAt expiresAt text) := by
  have hvalid : (grantOf crypto proposalId sourceManifestId policyVersion approverId issuedAt expiresAt text).validate
      crypto = .ok () := grantOf_valid hproposal hmanifest hversion hactor hreason hlater httl
  simp only [buildAgentApproval, bind_ok, exists_unit, prefixedHash, check_eq_ok, GovernanceActor.validate]
  exact ⟨hproposal, hmanifest, hreason, hactor, hvalid, rfl⟩

/-- The grant that a command makes of a built manifest. -/
def grantedOf (crypto : Crypto) (p : AgentRunManifest) (actorId text : String) (clock expiresAt : UtcDatetime) :
    AgentApprovalGrant := grantOf crypto p.proposalId p.manifestId p.policy.policyVersion actorId clock expiresAt text

/-- A grant of a built manifest is made whenever its actor and its reason are
well formed and the calendar lasts. -/
theorem grantEvent_accepts {p : AgentRunManifest} (hp : Blocked crypto.sha256 p) {actorId text : String}
    {ttlMinutes : {minutes : ℕ // 1 ≤ minutes ∧ minutes ≤ 1440}} {clock expiresAt : UtcDatetime}
    (hactor : matchesActorId actorId) (hreason : reason (strip text) "reason" = .ok ())
    (hexpires : addMinutes clock ttlMinutes.val = some expiresAt) :
    grantEvent crypto p.document actorId ttlMinutes.val text clock = .ok (.grant (grantedOf crypto p actorId text clock expiresAt)) ∧
      (grantedOf crypto p actorId text clock expiresAt).validate crypto = .ok () := by
  have hproposal : isPrefixedHash "proposal-" p.proposalId := hp.proposalId ▸ isPrefixedHash_append _ _
  have hmanifest : isPrefixedHash "manifest-" p.manifestId := hp.manifestId ▸ isPrefixedHash_append _ _
  have hversion : p.policy.policyVersion = agentAuthorizationPolicyVersion := by
    rw [hp.policy]
    rfl
  have hinstant := addMinutes_instant hexpires
  obtain ⟨hone, hmost⟩ := ttlMinutes.2
  have hlater : clock.val.instant < expiresAt.val.instant := by omega
  have httl : expiresAt.val.instant - clock.val.instant ≤ agentApprovalMaxTtl := by
    rw [hinstant, agentApprovalMaxTtl]
    omega
  refine ⟨?_, grantOf_valid hproposal hmanifest hversion hactor hreason hlater httl⟩
  simp only [grantEvent, bind_ok]
  refine ⟨p.reference, document_accepted hp (presented_document p), ?_⟩
  simp only [hexpires, bind_ok]
  exact ⟨_, buildAgentApproval_ok hproposal hmanifest hversion hactor hreason hlater httl, rfl⟩

/-- Over a verified ledger only the unique columns refuse a grant. -/
theorem grantCommand_accepts {entries : List AgentRunLedgerEntry} (hvalid : (verifyAgentRunLedger crypto entries none).valid)
    {preflight : Json} {signer : crypto.PrivateKey} {actorId text : String}
    {ttlMinutes : {minutes : ℕ // 1 ≤ minutes ∧ minutes ≤ 1440}} {clock : UtcDatetime} {g : AgentApprovalGrant}
    (hevent : grantEvent crypto preflight actorId ttlMinutes.val text clock = .ok (.grant g))
    (hgrant : g.validate crypto = .ok ()) (hartifact : g.approvalId ∉ entries.map (·.artifactId))
    (hentry : (nextEntry crypto entries ⟨.grant g, signer⟩).entryId ∉ entries.map (·.entryId)) :
    governanceCommand crypto (entries.map ledgerRow) (.grant preflight signer actorId ttlMinutes text clock, none) =
      (.ok (nextEntry crypto entries ⟨.grant g, signer⟩),
        (entries ++ [nextEntry crypto entries ⟨.grant g, signer⟩]).map ledgerRow) := by
  have hcommand : commandEvent crypto (entries.map ledgerRow) (.grant preflight signer actorId ttlMinutes text clock) =
      .ok (.grant g) := hevent
  simp only [governanceCommand, hcommand]
  exact postgres_append_accepted hvalid ⟨hgrant, hartifact⟩ hentry

/-! ## The next preflight -/

/-- What was never granted was never revoked. -/
theorem revoked_granted {l : GovernanceLog crypto} {rows : List LedgerRow} (h : LedgerKept crypto l rows)
    {approvalId : String} (hgrants : grantsOf approvalId (appended l) = []) : revocationsOf approvalId (appended l) = [] := by
  rw [List.eq_nil_iff_forall_not_mem]
  intro r hr
  obtain ⟨hid, e, he, hevent⟩ := mem_revocationsOf hr
  obtain ⟨attempt, hmem⟩ := mem_appended.mp he
  obtain ⟨before, hp, hperforms, -⟩ := h.performed attempt e hmem
  obtain ⟨command, fault⟩ := attempt
  cases command with
  | grant preflight signer actorId ttlMinutes text clock =>
    obtain ⟨_, _, -, heq, -⟩ := hperforms
    rw [hevent] at heq
    cases heq
  | revoke id signer actorId text clock seen =>
    obtain ⟨g, keyId, r', hread, heq, hid', -⟩ := hperforms
    rw [hevent] at heq
    obtain rfl := AgentGovernanceEvent.revocation.inj heq
    obtain ⟨after, hafter⟩ := (List.take_prefix seen before).trans ((List.prefix_append before [e]).trans hp)
    rw [← hafter, grantsOf_append, ← hid, hid', hread] at hgrants
    simp at hgrants
  | recordPreflight preflight signer actorId clock =>
    obtain ⟨_, _, -, heq, -⟩ := hperforms
    rw [hevent] at heq
    cases heq

theorem granted_next {l : GovernanceLog crypto} {rows : List LedgerRow} (h : LedgerKept crypto l rows)
    {g : AgentApprovalGrant} {signer : crypto.PrivateKey}
    (hvalid : (verifyAgentRunLedger crypto (appended l ++ [nextEntry crypto (appended l) ⟨.grant g, signer⟩]) none).valid)
    (trusted : List String) {t : UtcDatetime} (hfrom : g.issuedAt.val.instant ≤ t.val.instant)
    (hto : t.val.instant < g.expiresAt.val.instant) :
    Granted crypto (some ⟨trusted, some ((appended l ++ [nextEntry crypto (appended l) ⟨.grant g, signer⟩]).map ledgerRow)⟩)
        g.approvalId g.proposalId t ↔
      (∀ e ∈ appended l, e.signature.keyId ∈ trusted) ∧ signerKeyId crypto signer ∈ trusted := by
  have hsigner : (nextEntry crypto (appended l) ⟨.grant g, signer⟩).signature.keyId = signerKeyId crypto signer := by
    rw [nextEntry_signature]
    rfl
  have hmem : (g, signerKeyId crypto signer) ∈
      grantsOf g.approvalId (appended l ++ [nextEntry crypto (appended l) ⟨.grant g, signer⟩]) := by
    rw [grantsOf_append, ← hsigner]
    refine List.mem_append_right _ ?_
    simp [grantsOf, nextEntry, signedEntry]
  have hone := grantsOf_unique hvalid hmem
  have hnone : grantsOf g.approvalId (appended l) = [] := by
    have hlast : grantsOf g.approvalId [nextEntry crypto (appended l) ⟨.grant g, signer⟩] ≠ [] := by
      simp [grantsOf, nextEntry, signedEntry]
    rw [grantsOf_append] at hone
    rcases List.append_eq_singleton_iff.mp hone with ⟨hnil, -⟩ | ⟨-, hnil⟩
    · exact hnil
    · exact absurd hnil hlast
  have hunrevoked : revocationsOf g.approvalId (appended l ++ [nextEntry crypto (appended l) ⟨.grant g, signer⟩]) = [] := by
    rw [revocationsOf_append, revoked_granted h hnone]
    simp [revocationsOf, nextEntry, signedEntry]
  rw [granted_rows hvalid]
  constructor
  · intro hgranted
    obtain ⟨g', hg⟩ := hgranted
    refine ⟨fun e he => hg.signers e (List.mem_append_left _ he), ?_⟩
    rw [← hsigner]
    exact hg.signers _ (List.mem_append_right _ (List.mem_singleton_self _))
  · intro hboth
    obtain ⟨hsigners, hlast⟩ := hboth
    refine ⟨g, hvalid, fun e he => ?_, ⟨_, hone⟩, rfl, hfrom, hto, by simp [hunrevoked], by simp [hunrevoked]⟩
    rcases List.mem_append.mp he with hold | hnew
    · exact hsigners e hold
    · rw [List.mem_singleton.mp hnew, hsigner]
      exact hlast

namespace QuakeRun

theorem ten_lt : 10 < 24 := by decide

theorem sixty_allowed : 1 ≤ 60 ∧ 60 ≤ 1440 := by decide

def oneHour : {minutes : ℕ // 1 ≤ minutes ∧ minutes ≤ 1440} := ⟨60, sixty_allowed⟩

theorem hour_later : addMinutes (TwoGrants.clock 9 nine_lt) oneHour.val = some (TwoGrants.clock 10 ten_lt) := by
  have hroom : (TwoGrants.clock 9 nine_lt).val.micros + oneHour.val * 60000000 < maxMicros := TwoGrants.clock_inRange ten_lt
  rw [addMinutes, dif_pos hroom]
  rfl

end QuakeRun

end AtlasPulse
