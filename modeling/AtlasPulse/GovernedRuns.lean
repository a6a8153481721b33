import AtlasPulse.AgentRuns
import AtlasPulse.Correlation

/-!
# Governed runs

`agent_governance_cli.py`: what the commands read off a manifest, and the
commands that append to the signed ledger; with the builders of
`agent_governance.py`. A document is what `json.loads` gives of the file, so its
objects have distinct keys.
-/

namespace AtlasPulse

open PyJson PyTime

/-! ## Builders -/

section builders
variable (crypto : Crypto)

/-- `build_agent_approval` -/
def buildAgentApproval (proposalId sourceManifestId policyVersion approverId : String)
    (issuedAt expiresAt : UtcDatetime) (text : String) : Except String AgentApprovalGrant := do
  prefixedHash proposalId "proposal-" "proposal_id"
  prefixedHash sourceManifestId "manifest-" "source_manifest_id"
  let text := strip text
  reason text "reason"
  let approver : GovernanceActor := ⟨approverId, .humanReleaseApprover⟩
  approver.validate
  let draft : AgentApprovalGrant :=
    { artifactType := "approval"
      approvalId := ""
      schemaVersion := agentApprovalSchemaVersion
      ruleVersion := agentApprovalRuleVersion
      identityAlgorithm := agentRunLedgerIdentityAlgorithm
      proposalId, sourceManifestId, policyVersion, approver, issuedAt, expiresAt
      reason := text
      caveat := agentApprovalCaveat }
  let approval := { draft with approvalId := draft.expectedId crypto }
  approval.validate crypto
  return approval

/-- `build_agent_approval_revocation` -/
def buildAgentApprovalRevocation (approval : AgentApprovalGrant) (revokerId : String) (revokedAt : UtcDatetime)
    (text : String) : Except String AgentApprovalRevocation := do
  check (approval.issuedAt.val.instant ≤ revokedAt.val.instant) "revocation cannot predate the approval"
  let revokedBy : GovernanceActor := ⟨revokerId, .humanReleaseRevoker⟩
  revokedBy.validate
  let text := strip text
  reason text "reason"
  let draft : AgentApprovalRevocation :=
    { artifactType := "revocation"
      revocationId := ""
      schemaVersion := agentApprovalSchemaVersion
      ruleVersion := agentApprovalRevocationRuleVersion
      identityAlgorithm := agentRunLedgerIdentityAlgorithm
      approvalId := approval.approvalId
      proposalId := approval.proposalId
      sourceManifestId := approval.sourceManifestId
      revokedBy, revokedAt
      reason := text
      caveat := agentRevocationCaveat }
  let revocation := { draft with revocationId := draft.expectedId crypto }
  revocation.validate crypto
  return revocation

/-- `build_agent_preflight_record` -/
def buildAgentPreflightRecord (manifestId proposalId : String) (blockingReasons : List String) (recorderId : String)
    (recordedAt : UtcDatetime) : Except String AgentPreflightRecord := do
  prefixedHash manifestId "manifest-" "manifest_id"
  prefixedHash proposalId "proposal-" "proposal_id"
  let recordedBy : GovernanceActor := ⟨recorderId, .preflightRecorder⟩
  recordedBy.validate
  let draft : AgentPreflightRecord :=
    { artifactType := "preflight_record"
      recordId := ""
      schemaVersion := agentApprovalSchemaVersion
      ruleVersion := agentPreflightRecordRuleVersion
      identityAlgorithm := agentRunLedgerIdentityAlgorithm
      manifestId, proposalId
      decision := "blocked"
      blockingReasons
      executionStatus := "not_started"
      recordedBy, recordedAt
      caveat := agentPreflightRecordCaveat }
  let record := { draft with recordId := draft.expectedId crypto }
  record.validate crypto
  return record

end builders

/-! ## Manifest references -/

structure ManifestReference where
  manifestId : String
  proposalId : String
  policyVersion : String
  blockingReasons : List String
  deriving DecidableEq

/-- A manifest as the answer of a preflight writes it: its id and the fields of
which the id is computed. -/
def AgentRunManifest.document (p : AgentRunManifest) : Json :=
  .obj (("manifest_id", .str p.manifestId) :: manifestPayload p.proposalId p.request p.evidence p.policy p.release
    p.approval p.authorization p.execution)

/-- `_object` -/
def asObject (value : Option Json) (field : String) : Except String (List (String × Json)) :=
  match value with
  | some (.obj members) => .ok members
  | _ => .error (field ++ " must be a JSON object")

/-- `_string` -/
def asString (value : Option Json) (field : String) : Except String String :=
  match value with
  | some (.str text) => .ok text
  | _ => .error (field ++ " must be a string")

def isText (expected : String) : Option Json → Bool
  | some (.str text) => text = expected
  | _ => false

/-- `value is False` -/
def isFalse : Option Json → Bool
  | some (.bool b) => !b
  | _ => false

/-- `value == False`, which numbers that are zero satisfy too. -/
def equalsFalse : Json → Bool
  | .bool b => !b
  | .int n => n = 0
  | .float x => x.text = "0.0".toList || x.text = "-0.0".toList
  | _ => false

/-- The execution state equals the one of a manifest that was not started. -/
def isNotStarted (members : List (String × Json)) : Bool :=
  members.length = 6 && isText "not_started" (member "status" (.obj members)) &&
    ["agent_model_invoked", "agent_network_accessed", "agent_tools_invoked", "answer_generated",
      "agent_side_effects_performed"].all fun key => (member key (.obj members)).any equalsFalse

/-- The texts of a list of non-empty texts. -/
def asReasons : Option Json → Option (List String)
  | some (.arr items) => items.mapM fun
    | .str text => if text = "" then none else some text
    | _ => none
  | _ => none

/-- The scope of a manifest, of which the id of its proposal is computed. -/
def manifestScope (request evidence policy release : List (String × Json)) : Json :=
  .obj [("schema_version", .str agentRunSchemaVersion), ("manifest_rule_version", .str agentRunRuleVersion),
    ("proposal_rule_version", .str agentRunProposalRuleVersion), ("identity_algorithm", .str agentRunIdentityAlgorithm),
    ("request", .obj request), ("evidence", .obj evidence), ("policy", .obj policy), ("release", .obj release)]

/-- `_manifest_reference`, of the document that was read. -/
def manifestReference (sha256 : Bytes → HexDigest) (root : Json) : Except String ManifestReference := do
  let document ← asObject (some root) "preflight"
  let manifest ← asObject (some ((member "manifest" (.obj document)).getD root)) "manifest"
  let field := fun key => member key (.obj manifest)
  let manifestId ← asString (field "manifest_id") "manifest_id"
  check (manifestId = "manifest-" ++ canonicalJsonSha256 sha256 (.obj (manifest.filter fun m => m.1 ≠ "manifest_id")))
    "manifest identity does not match its canonical content"
  check (isText agentRunSchemaVersion (field "schema_version")) "manifest schema version is not supported"
  check (isText agentRunRuleVersion (field "rule_version")) "manifest rule version is not supported"
  check (isText agentRunIdentityAlgorithm (field "identity_algorithm"))
    "manifest identity algorithm is not supported"
  check (isText "blocked" (field "status")) "only blocked, no-execution manifests can enter this ledger"
  let request ← asObject (field "request") "manifest.request"
  let evidence ← asObject (field "evidence") "manifest.evidence"
  let policy ← asObject (field "policy") "manifest.policy"
  let release ← asObject (field "release") "manifest.release"
  let proposalId ← asString (field "proposal_id") "proposal_id"
  check (proposalId = "proposal-" ++ canonicalJsonSha256 sha256 (manifestScope request evidence policy release))
    "proposal identity does not match the manifest scope"
  check (isFalse (member "execution_enabled" (.obj policy))) "manifest policy must keep execution disabled"
  let policyVersion ← asString (member "policy_version" (.obj policy)) "policy.policy_version"
  check (policyVersion = agentAuthorizationPolicyVersion) "manifest authorization policy is not supported"
  let execution ← asObject (field "execution") "manifest.execution"
  check (isNotStarted execution) "manifest execution state must remain exactly not_started"
  let authorization ← asObject (field "authorization") "manifest.authorization"
  match asReasons (member "blocking_reasons" (.obj authorization)) with
  | some (first :: rest) => return ⟨manifestId, proposalId, policyVersion, first :: rest⟩
  | _ => .error "manifest must contain non-empty blocking reasons"

/-! ## Commands -/

theorem isUtc_zero {micros : ℕ} (h : micros < maxMicros) : Datetime.isUtc ⟨micros, some 0, h, offsetBound_zero⟩ := by
  simp [Datetime.isUtc]

/-- `moment + timedelta(minutes=minutes)`, while the calendar lasts. -/
def addMinutes (moment : UtcDatetime) (minutes : ℕ) : Option UtcDatetime :=
  if h : moment.val.micros + minutes * 60000000 < maxMicros then
    some ⟨⟨moment.val.micros + minutes * 60000000, some 0, h, offsetBound_zero⟩, isUtc_zero h⟩
  else none

section commands
variable (crypto : Crypto)

/-- The commands that append, with the arguments that the parser accepts, what
the files hold, and the clock. Between the two reads of `revoke` others may
append, so it comes with the number of rows of its first read. -/
inductive GovernanceCommand
  | grant (preflight : Json) (signer : crypto.PrivateKey) (actorId : String)
      (ttlMinutes : {minutes : ℕ // 1 ≤ minutes ∧ minutes ≤ 1440}) (reason : String) (clock : UtcDatetime)
  | revoke (approvalId : String) (signer : crypto.PrivateKey) (actorId reason : String) (clock : UtcDatetime) (seen : ℕ)
  | recordPreflight (preflight : Json) (signer : crypto.PrivateKey) (actorId : String) (clock : UtcDatetime)

variable {crypto} in
def GovernanceCommand.signer : GovernanceCommand crypto → crypto.PrivateKey
  | grant _ signer _ _ _ _ => signer
  | revoke _ signer _ _ _ _ => signer
  | recordPreflight _ signer _ _ => signer

/-- `_grant`, up to the append. -/
def grantEvent (preflight : Json) (actorId : String) (ttlMinutes : ℕ) (text : String) (clock : UtcDatetime) :
    Except String AgentGovernanceEvent := do
  let reference ← manifestReference crypto.sha256 preflight
  match addMinutes clock ttlMinutes with
  | none => .error "date value out of range"
  | some expiresAt => do
    let approval ← buildAgentApproval crypto reference.proposalId reference.manifestId reference.policyVersion actorId clock
      expiresAt text
    return .grant approval

/-- `_revoke`, up to the append, over the rows that it reads first. -/
def revokeEvent (rows : List LedgerRow) (approvalId actorId text : String) (clock : UtcDatetime) :
    Except String AgentGovernanceEvent := do
  let entries ← PostgresAgentRunLedger.entries crypto rows
  match grantsOf approvalId entries with
  | [(approval, _)] => do
    let revocation ← buildAgentApprovalRevocation crypto approval actorId clock text
    return .revocation revocation
  | _ => .error "approval ID must identify exactly one ledger grant"

/-- `_record_preflight`, up to the append. -/
def recordEvent (preflight : Json) (actorId : String) (clock : UtcDatetime) : Except String AgentGovernanceEvent := do
  let reference ← manifestReference crypto.sha256 preflight
  let record ← buildAgentPreflightRecord crypto reference.manifestId reference.proposalId reference.blockingReasons actorId clock
  return .preflight record

def commandEvent (rows : List LedgerRow) : GovernanceCommand crypto → Except String AgentGovernanceEvent
  | .grant preflight _ actorId ttlMinutes text clock => grantEvent crypto preflight actorId ttlMinutes.val text clock
  | .revoke approvalId _ actorId text clock seen => revokeEvent crypto (rows.take seen) approvalId actorId text clock
  | .recordPreflight preflight _ actorId clock => recordEvent crypto preflight actorId clock

/-- A command over the table. It comes with the error that the database raises
on its own. -/
def governanceCommand (rows : List LedgerRow) (attempt : GovernanceCommand crypto × Option String) :
    Except String AgentRunLedgerEntry × List LedgerRow :=
  match commandEvent crypto rows attempt.1 with
  | .error e => (.error e, rows)
  | .ok event => PostgresAgentRunLedger.append crypto rows (⟨event, attempt.1.signer⟩, attempt.2)

end commands

end AtlasPulse
