import AtlasPulse.Identity
import AtlasPulse.Lib.Base64

/-!
# Agent governance

`agent_governance.py`: approvals, revocations and preflight records, the signed
ledger entry and its verification, and the resolution of an approval. The time
validators of the models convert to UTC, so the times here are UTC datetimes.
All other fields are plain data, which the validators and the verification
check. A report of pydantic stands here as the message of its first error.
-/

namespace AtlasPulse

open PyJson PyTime

def agentApprovalSchemaVersion : String := "1.0.0"

def agentApprovalRuleVersion : String := "agent-approval-v1"

def agentApprovalRevocationRuleVersion : String := "agent-approval-revocation-v1"

def agentPreflightRecordRuleVersion : String := "agent-preflight-record-v1"

def agentRunLedgerSchemaVersion : String := "1.0.0"

def agentRunLedgerRuleVersion : String := "signed-agent-run-ledger-v1"

def agentRunLedgerIdentityAlgorithm : String := "sha256-canonical-json-v1"

def agentRunLedgerSignatureAlgorithm : String := "ed25519-v1"

/-- 24 hours, in microseconds. -/
def agentApprovalMaxTtl : Int := 24 * 3600 * 1000000

def agentApprovalCaveat : String :=
  "This approval applies only to the exact proposal identity until expiry or revocation. " ++
    "It can satisfy only the human-release check and does not enable execution."

def agentRevocationCaveat : String :=
  "Revocation is immutable and applies only to the referenced approval and proposal."

def agentPreflightRecordCaveat : String :=
  "This ledger event records a no-execution preflight decision; it is not a run receipt."

inductive GovernanceActorRole
  | humanReleaseApprover
  | humanReleaseRevoker
  | preflightRecorder
  deriving DecidableEq

def GovernanceActorRole.text : GovernanceActorRole → String
  | .humanReleaseApprover => "human_release_approver"
  | .humanReleaseRevoker => "human_release_revoker"
  | .preflightRecorder => "preflight_recorder"

inductive AgentLedgerEventType
  | approvalGranted
  | approvalRevoked
  | preflightRecorded
  deriving DecidableEq

def AgentLedgerEventType.text : AgentLedgerEventType → String
  | .approvalGranted => "approval_granted"
  | .approvalRevoked => "approval_revoked"
  | .preflightRecorded => "preflight_recorded"

/-! ## Cryptography -/

/-- SHA-256 and Ed25519: keys and signatures have fixed lengths, and what a key
signs verifies under its public key. -/
structure Crypto where
  sha256 : Bytes → HexDigest
  PrivateKey : Type
  publicKeyBytes : PrivateKey → Bytes
  sign : PrivateKey → Bytes → Bytes
  verify : Bytes → Bytes → Bytes → Bool
  publicKeyBytes_length : ∀ key, (publicKeyBytes key).length = 32
  sign_length : ∀ key message, (sign key message).length = 64
  verify_sign : ∀ key message, verify (publicKeyBytes key) (sign key message) message = true

/-! ## Field validators -/

def literal (allowed : List String) (value : String) : Except String Unit :=
  check (allowed.contains value) ("Input should be " ++ " or ".intercalate (allowed.map fun a => "'" ++ a ++ "'"))

/-- The patterns of the content identities. -/
def pattern (lead value : String) : Except String Unit :=
  check (isPrefixedHash lead value) ("String should match pattern '^" ++ lead ++ "[0-9a-f]\x7b64\x7d$'")

/-- `_prefixed_hash`. -/
def prefixedHash (value lead field : String) : Except String Unit :=
  check (isPrefixedHash lead value) (field ++ " must use " ++ lead ++ "<sha256>")

/-- `_utc`. -/
def utc (value : Datetime) (field : String) : Except String UtcDatetime :=
  if value.utcoffset = none then .error (field ++ " must be timezone-aware")
  else match value.astimezoneUtc with
    | some d => .ok d
    | none => .error "date value out of range"

/-- `_reason`: no space at the ends, and 8 to 1000 characters. -/
def reason (value field : String) : Except String Unit :=
  check (!value.toList.head?.any isSpace && !value.toList.getLast?.any isSpace && 8 ≤ value.length && value.length ≤ 1000)
    (field ++ " must contain 8 to 1000 non-whitespace characters")

structure GovernanceActor where
  actorId : String
  role : GovernanceActorRole
  deriving DecidableEq

/-- `_ACTOR_ID`: an issuer, a colon, and 1 to 180 characters that are not
spaces, the first of them no colon. -/
def matchesActorId (value : String) : Bool :=
  match value.toList.span (· ≠ ':') with
  | (c :: issuer, ':' :: d :: name) =>
    c.isLower && issuer.all (fun c => c.isLower || c.isDigit || c = '+' || c = '.' || c = '-') &&
      !isSpace d && d ≠ ':' && name.length ≤ 179 && name.all (!isSpace ·)
  | _ => false

def GovernanceActor.validate (a : GovernanceActor) : Except String Unit :=
  check (matchesActorId a.actorId) "actor_id must be an issuer-qualified value such as github:12345"

def GovernanceActor.modelDump (a : GovernanceActor) : Json :=
  .obj [("actor_id", .str a.actorId), ("role", .str a.role.text)]

/-- `_model_payload`: the dumped model without its identity. -/
def modelPayload (dump : List (String × Json)) (identityField : String) : Json :=
  .obj (dump.filter fun m => m.1 ≠ identityField)

/-! ## Artifacts -/

structure AgentApprovalGrant where
  artifactType : String
  approvalId : String
  schemaVersion : String
  ruleVersion : String
  identityAlgorithm : String
  proposalId : String
  sourceManifestId : String
  policyVersion : String
  approver : GovernanceActor
  issuedAt : UtcDatetime
  expiresAt : UtcDatetime
  reason : String
  caveat : String
  deriving DecidableEq

def AgentApprovalGrant.modelDump (g : AgentApprovalGrant) : List (String × Json) :=
  [("artifact_type", .str g.artifactType), ("approval_id", .str g.approvalId),
    ("schema_version", .str g.schemaVersion), ("rule_version", .str g.ruleVersion),
    ("identity_algorithm", .str g.identityAlgorithm), ("proposal_id", .str g.proposalId),
    ("source_manifest_id", .str g.sourceManifestId), ("policy_version", .str g.policyVersion),
    ("approver", g.approver.modelDump), ("issued_at", encodeExtra g.issuedAt),
    ("expires_at", encodeExtra g.expiresAt), ("reason", .str g.reason), ("caveat", .str g.caveat)]

structure AgentApprovalRevocation where
  artifactType : String
  revocationId : String
  schemaVersion : String
  ruleVersion : String
  identityAlgorithm : String
  approvalId : String
  proposalId : String
  sourceManifestId : String
  revokedBy : GovernanceActor
  revokedAt : UtcDatetime
  reason : String
  caveat : String
  deriving DecidableEq

def AgentApprovalRevocation.modelDump (r : AgentApprovalRevocation) : List (String × Json) :=
  [("artifact_type", .str r.artifactType), ("revocation_id", .str r.revocationId),
    ("schema_version", .str r.schemaVersion), ("rule_version", .str r.ruleVersion),
    ("identity_algorithm", .str r.identityAlgorithm), ("approval_id", .str r.approvalId),
    ("proposal_id", .str r.proposalId), ("source_manifest_id", .str r.sourceManifestId),
    ("revoked_by", r.revokedBy.modelDump), ("revoked_at", encodeExtra r.revokedAt), ("reason", .str r.reason),
    ("caveat", .str r.caveat)]

structure AgentPreflightRecord where
  artifactType : String
  recordId : String
  schemaVersion : String
  ruleVersion : String
  identityAlgorithm : String
  manifestId : String
  proposalId : String
  decision : String
  blockingReasons : List String
  executionStatus : String
  recordedBy : GovernanceActor
  recordedAt : UtcDatetime
  caveat : String
  deriving DecidableEq

def AgentPreflightRecord.modelDump (p : AgentPreflightRecord) : List (String × Json) :=
  [("artifact_type", .str p.artifactType), ("record_id", .str p.recordId),
    ("schema_version", .str p.schemaVersion), ("rule_version", .str p.ruleVersion),
    ("identity_algorithm", .str p.identityAlgorithm), ("manifest_id", .str p.manifestId),
    ("proposal_id", .str p.proposalId), ("decision", .str p.decision),
    ("blocking_reasons", .arr (p.blockingReasons.map .str)), ("execution_status", .str p.executionStatus),
    ("recorded_by", p.recordedBy.modelDump), ("recorded_at", encodeExtra p.recordedAt), ("caveat", .str p.caveat)]

section artifacts
variable (crypto : Crypto)

def AgentApprovalGrant.expectedId (g : AgentApprovalGrant) : String :=
  "approval-" ++ canonicalJsonSha256 crypto.sha256 (modelPayload g.modelDump "approval_id")

def AgentApprovalGrant.validate (g : AgentApprovalGrant) : Except String Unit := do
  literal ["approval"] g.artifactType
  pattern "approval-" g.approvalId
  literal [agentApprovalSchemaVersion] g.schemaVersion
  literal [agentApprovalRuleVersion] g.ruleVersion
  literal [agentRunLedgerIdentityAlgorithm] g.identityAlgorithm
  pattern "proposal-" g.proposalId
  pattern "manifest-" g.sourceManifestId
  literal ["agent-authorization-v2", "agent-authorization-v3"] g.policyVersion
  g.approver.validate
  AtlasPulse.reason g.reason "reason"
  literal [agentApprovalCaveat] g.caveat
  check (g.approver.role = .humanReleaseApprover) "approval actor must have the human_release_approver role"
  check (g.issuedAt.val.instant < g.expiresAt.val.instant) "approval expiry must be later than issue time"
  check (g.expiresAt.val.instant - g.issuedAt.val.instant ≤ agentApprovalMaxTtl)
    "approval lifetime must not exceed 24 hours"
  check (g.approvalId = g.expectedId crypto) "approval identity does not match its canonical content"

def AgentApprovalRevocation.expectedId (r : AgentApprovalRevocation) : String :=
  "revocation-" ++ canonicalJsonSha256 crypto.sha256 (modelPayload r.modelDump "revocation_id")

def AgentApprovalRevocation.validate (r : AgentApprovalRevocation) : Except String Unit := do
  literal ["revocation"] r.artifactType
  pattern "revocation-" r.revocationId
  literal [agentApprovalSchemaVersion] r.schemaVersion
  literal [agentApprovalRevocationRuleVersion] r.ruleVersion
  literal [agentRunLedgerIdentityAlgorithm] r.identityAlgorithm
  pattern "approval-" r.approvalId
  pattern "proposal-" r.proposalId
  pattern "manifest-" r.sourceManifestId
  r.revokedBy.validate
  AtlasPulse.reason r.reason "reason"
  literal [agentRevocationCaveat] r.caveat
  check (r.revokedBy.role = .humanReleaseRevoker) "revocation actor must have the human_release_revoker role"
  check (r.revocationId = r.expectedId crypto) "revocation identity does not match its canonical content"

def AgentPreflightRecord.expectedId (p : AgentPreflightRecord) : String :=
  "preflight-" ++ canonicalJsonSha256 crypto.sha256 (modelPayload p.modelDump "record_id")

def AgentPreflightRecord.validate (p : AgentPreflightRecord) : Except String Unit := do
  literal ["preflight_record"] p.artifactType
  pattern "preflight-" p.recordId
  literal [agentApprovalSchemaVersion] p.schemaVersion
  literal [agentPreflightRecordRuleVersion] p.ruleVersion
  literal [agentRunLedgerIdentityAlgorithm] p.identityAlgorithm
  pattern "manifest-" p.manifestId
  pattern "proposal-" p.proposalId
  literal ["blocked"] p.decision
  check (!p.blockingReasons.isEmpty) "Tuple should have at least 1 item after validation, not 0"
  check (p.blockingReasons.all (· ≠ "")) "blocking reasons cannot be empty"
  literal ["not_started"] p.executionStatus
  p.recordedBy.validate
  literal [agentPreflightRecordCaveat] p.caveat
  check (p.recordedBy.role = .preflightRecorder) "preflight actor must have the preflight_recorder role"
  check (p.recordId = p.expectedId crypto) "preflight record identity does not match its canonical content"

inductive AgentGovernanceEvent
  | grant (g : AgentApprovalGrant)
  | revocation (r : AgentApprovalRevocation)
  | preflight (p : AgentPreflightRecord)
  deriving DecidableEq

def AgentGovernanceEvent.modelDump : AgentGovernanceEvent → Json
  | .grant g => .obj g.modelDump
  | .revocation r => .obj r.modelDump
  | .preflight p => .obj p.modelDump

def AgentGovernanceEvent.validate : AgentGovernanceEvent → Except String Unit
  | .grant g => g.validate crypto
  | .revocation r => r.validate crypto
  | .preflight p => p.validate crypto

end artifacts

/-! ## Ledger entries -/

structure EventMetadata where
  eventType : AgentLedgerEventType
  occurredAt : UtcDatetime
  artifactId : String
  manifestId : String
  proposalId : String
  deriving DecidableEq

/-- `_event_metadata`. -/
def eventMetadata : AgentGovernanceEvent → EventMetadata
  | .grant g => ⟨.approvalGranted, g.issuedAt, g.approvalId, g.sourceManifestId, g.proposalId⟩
  | .revocation r => ⟨.approvalRevoked, r.revokedAt, r.revocationId, r.sourceManifestId, r.proposalId⟩
  | .preflight p => ⟨.preflightRecorded, p.recordedAt, p.recordId, p.manifestId, p.proposalId⟩

structure AgentRunLedgerSignature where
  algorithm : String
  keyId : String
  publicKey : String
  value : String
  deriving DecidableEq

def AgentRunLedgerSignature.modelDump (s : AgentRunLedgerSignature) : Json :=
  .obj [("algorithm", .str s.algorithm), ("key_id", .str s.keyId), ("public_key", .str s.publicKey),
    ("value", .str s.value)]

structure AgentRunLedgerEntry where
  entryId : String
  schemaVersion : String
  ruleVersion : String
  identityAlgorithm : String
  sequence : Int
  previousEntryId : Option String
  eventType : AgentLedgerEventType
  occurredAt : UtcDatetime
  artifactId : String
  manifestId : String
  proposalId : String
  event : AgentGovernanceEvent
  signature : AgentRunLedgerSignature
  deriving DecidableEq

def optionalText : Option String → Json
  | none => .null
  | some text => .str text

def AgentRunLedgerEntry.modelDump (e : AgentRunLedgerEntry) : Json :=
  .obj [("entry_id", .str e.entryId), ("schema_version", .str e.schemaVersion), ("rule_version", .str e.ruleVersion),
    ("identity_algorithm", .str e.identityAlgorithm), ("sequence", .int e.sequence),
    ("previous_entry_id", optionalText e.previousEntryId), ("event_type", .str e.eventType.text),
    ("occurred_at", encodeExtra e.occurredAt), ("artifact_id", .str e.artifactId),
    ("manifest_id", .str e.manifestId), ("proposal_id", .str e.proposalId), ("event", e.event.modelDump),
    ("signature", e.signature.modelDump)]

/-- `ledger_entry_json`. -/
def ledgerEntryJson (e : AgentRunLedgerEntry) : String := dumps false e.modelDump

/-- `_entry_payload`. -/
def entryPayload (sequence : Int) (previousEntryId : Option String) (event : AgentGovernanceEvent) :
    List (String × Json) :=
  let m := eventMetadata event
  [("schema_version", .str agentRunLedgerSchemaVersion), ("rule_version", .str agentRunLedgerRuleVersion),
    ("identity_algorithm", .str agentRunLedgerIdentityAlgorithm), ("sequence", .int sequence),
    ("previous_entry_id", optionalText previousEntryId), ("event_type", .str m.eventType.text),
    ("occurred_at", encodeExtra m.occurredAt), ("artifact_id", .str m.artifactId),
    ("manifest_id", .str m.manifestId), ("proposal_id", .str m.proposalId), ("event", event.modelDump)]

/-- The payload with the signature as one more member. -/
def signedContent (payload : List (String × Json)) (signature : AgentRunLedgerSignature) : Json :=
  .obj (payload ++ [("signature", signature.modelDump)])

section entries
variable (crypto : Crypto)

/-- `key_id_for_public_key`. -/
def keyIdForPublicKey (publicKey : Bytes) : Except String String :=
  if publicKey.length = 32 then .ok ("ed25519-" ++ (crypto.sha256 publicKey).val)
  else .error "Ed25519 public keys must contain exactly 32 raw bytes"

def encodeBase64 (bytes : Bytes) : String := String.ofList (Base64.encode bytes)

/-- `Ed25519LedgerSigner.key_id`; raw public keys always have 32 bytes. -/
def signerKeyId (signer : crypto.PrivateKey) : String :=
  "ed25519-" ++ (crypto.sha256 (crypto.publicKeyBytes signer)).val

/-- `Ed25519LedgerSigner.sign`. -/
def signPayload (signer : crypto.PrivateKey) (payload : Bytes) : AgentRunLedgerSignature where
  algorithm := agentRunLedgerSignatureAlgorithm
  keyId := signerKeyId crypto signer
  publicKey := encodeBase64 (crypto.publicKeyBytes signer)
  value := encodeBase64 (crypto.sign signer payload)

/-- `_decode_base64`. -/
def decodeBase64 (value field : String) : Except String Bytes :=
  match Base64.decode? value.toList with
  | some decoded => if encodeBase64 decoded = value then .ok decoded else .error (field ++ " must be canonical base64")
  | none => .error (field ++ " must be canonical base64")

/-- `_verify_entry`. -/
def verifyEntry (e : AgentRunLedgerEntry) : Except String Unit := do
  check (e.schemaVersion = agentRunLedgerSchemaVersion && e.ruleVersion = agentRunLedgerRuleVersion &&
      e.identityAlgorithm = agentRunLedgerIdentityAlgorithm &&
      e.signature.algorithm = agentRunLedgerSignatureAlgorithm)
    "ledger entry contract version is not supported"
  prefixedHash e.entryId "ledger-" "entry_id"
  check (decide (e.sequence = 1) = e.previousEntryId.isNone) "only ledger sequence 1 may omit previous_entry_id"
  e.previousEntryId.forM fun id => prefixedHash id "ledger-" "previous_entry_id"
  e.event.validate crypto
  check (eventMetadata e.event = ⟨e.eventType, e.occurredAt, e.artifactId, e.manifestId, e.proposalId⟩)
    "ledger metadata does not match its embedded event"
  let payload := entryPayload e.sequence e.previousEntryId e.event
  let publicKey ← decodeBase64 e.signature.publicKey "signature.public_key"
  let keyId ← keyIdForPublicKey crypto publicKey
  check (e.signature.keyId = keyId) "ledger signature key ID does not match its public key"
  let signature ← decodeBase64 e.signature.value "signature.value"
  check (signature.length = 64) "Ed25519 signatures must contain exactly 64 bytes"
  check (crypto.verify publicKey signature (canonicalJsonBytes (.obj payload))) "ledger entry signature is invalid"
  check (e.entryId = "ledger-" ++ canonicalJsonSha256 crypto.sha256 (signedContent payload e.signature))
    "ledger entry identity does not match its signed content"

/-- The field patterns of an entry, its event, and `_verify_entry`. -/
def AgentRunLedgerEntry.validate (e : AgentRunLedgerEntry) : Except String Unit := do
  pattern "ledger-" e.entryId
  literal [agentRunLedgerSchemaVersion] e.schemaVersion
  literal [agentRunLedgerRuleVersion] e.ruleVersion
  literal [agentRunLedgerIdentityAlgorithm] e.identityAlgorithm
  check (1 ≤ e.sequence) "Input should be greater than or equal to 1"
  e.previousEntryId.forM fun id => pattern "ledger-" id
  pattern "manifest-" e.manifestId
  pattern "proposal-" e.proposalId
  e.event.validate crypto
  literal [agentRunLedgerSignatureAlgorithm] e.signature.algorithm
  pattern "ed25519-" e.signature.keyId
  verifyEntry crypto e

/-- The entry that `build_signed_ledger_entry` makes, before its validation. -/
def signedEntry (event : AgentGovernanceEvent) (sequence : Int) (previousEntryId : Option String)
    (signer : crypto.PrivateKey) : AgentRunLedgerEntry :=
  let payload := entryPayload sequence previousEntryId event
  let signature := signPayload crypto signer (canonicalJsonBytes (.obj payload))
  let m := eventMetadata event
  { entryId := "ledger-" ++ canonicalJsonSha256 crypto.sha256 (signedContent payload signature)
    schemaVersion := agentRunLedgerSchemaVersion
    ruleVersion := agentRunLedgerRuleVersion
    identityAlgorithm := agentRunLedgerIdentityAlgorithm
    sequence
    previousEntryId
    eventType := m.eventType
    occurredAt := m.occurredAt
    artifactId := m.artifactId
    manifestId := m.manifestId
    proposalId := m.proposalId
    event
    signature }

/-- `build_signed_ledger_entry`. -/
def buildSignedLedgerEntry (event : AgentGovernanceEvent) (sequence : Int) (previousEntryId : Option String)
    (signer : crypto.PrivateKey) : Except String AgentRunLedgerEntry := do
  check (decide (sequence = 1) = previousEntryId.isNone) "only ledger sequence 1 may omit previous_entry_id"
  previousEntryId.forM fun id => prefixedHash id "ledger-" "previous_entry_id"
  let entry := signedEntry crypto event sequence previousEntryId signer
  entry.validate crypto
  return entry

/-! ## Verification -/

structure AgentRunLedgerVerification where
  valid : Bool
  entryCount : Nat
  headEntryId : Option String
  errors : List String

/-- What the verification loop carries from entry to entry. -/
structure LedgerScan where
  expectedSequence : Nat
  previous : Option String
  seenEntries : List String
  seenArtifacts : List String
  errors : List String

def LedgerScan.start : LedgerScan := ⟨1, none, [], [], []⟩

/-- The message of a raised `ValueError`. -/
def raised : Except String Unit → Option String
  | .ok _ => none
  | .error message => some message

/-- What is wrong with the next entry. -/
def entryErrors (trusted : Option (List String)) (s : LedgerScan) (e : AgentRunLedgerEntry) : List String :=
  let report := fun message => "entry " ++ toString s.expectedSequence ++ ": " ++ message
  (if e.sequence ≠ s.expectedSequence then
      [report ("sequence is " ++ toString e.sequence ++ ", expected " ++ toString s.expectedSequence)] else []) ++
    (if e.previousEntryId ≠ s.previous then [report "previous entry does not match the chain head"] else []) ++
    (if e.entryId ∈ s.seenEntries then [report "duplicate entry identity"] else []) ++
    (if e.artifactId ∈ s.seenArtifacts then [report "duplicate artifact identity"] else []) ++
    (if ∃ ids ∈ trusted, e.signature.keyId ∉ ids then [report "signing key is not trusted"] else []) ++
    (raised (verifyEntry crypto e)).toList.map report

def scanEntry (trusted : Option (List String)) (s : LedgerScan) (e : AgentRunLedgerEntry) : LedgerScan where
  expectedSequence := s.expectedSequence + 1
  previous := some e.entryId
  seenEntries := e.entryId :: s.seenEntries
  seenArtifacts := e.artifactId :: s.seenArtifacts
  errors := s.errors ++ entryErrors crypto trusted s e

def verifyAgentRunLedger (entries : List AgentRunLedgerEntry) (trustedKeyIds : Option (List String)) :
    AgentRunLedgerVerification :=
  let scan := entries.foldl (scanEntry crypto trustedKeyIds) .start
  { valid := scan.errors.isEmpty
    entryCount := entries.length
    headEntryId := entries.getLast?.map (·.entryId)
    errors := scan.errors }

/-! ## Resolution of approvals -/

inductive AgentApprovalStatus
  | notSupplied
  | notFound
  | notYetValid
  | active
  | expired
  | revoked
  | scopeMismatch
  | untrustedSigner
  | ledgerInvalid
  | ledgerUnavailable
  deriving DecidableEq

structure AgentApprovalObservation where
  status : AgentApprovalStatus
  approvalId : Option String
  approvedProposalId : Option String
  sourceManifestId : Option String
  approverId : Option String
  signingKeyId : Option String
  issuedAt : Option UtcDatetime
  expiresAt : Option UtcDatetime
  revocationId : Option String
  evaluatedAt : Option UtcDatetime
  deriving DecidableEq

/-- `_observation`; the approval comes with the key that signed its entry. -/
def observation (status : AgentApprovalStatus) (approvalId : String) (evaluatedAt : UtcDatetime)
    (approval : Option (AgentApprovalGrant × String)) (revocationId : Option String) : AgentApprovalObservation where
  status
  approvalId := some approvalId
  approvedProposalId := approval.map (·.1.proposalId)
  sourceManifestId := approval.map (·.1.sourceManifestId)
  approverId := approval.map (·.1.approver.actorId)
  signingKeyId := approval.map (·.2)
  issuedAt := approval.map (·.1.issuedAt)
  expiresAt := approval.map (·.1.expiresAt)
  revocationId
  evaluatedAt := some evaluatedAt

/-- The grants of an approval, each with the key that signed its entry. -/
def grantsOf (approvalId : String) (entries : List AgentRunLedgerEntry) : List (AgentApprovalGrant × String) :=
  entries.filterMap fun e =>
    match e.event with
    | .grant g => if g.approvalId = approvalId then some (g, e.signature.keyId) else none
    | _ => none

def revocationsOf (approvalId : String) (entries : List AgentRunLedgerEntry) : List AgentApprovalRevocation :=
  entries.filterMap fun e =>
    match e.event with
    | .revocation r => if r.approvalId = approvalId then some r else none
    | _ => none

/-- The revocation agrees with the grant. -/
def AgentApprovalRevocation.isConsistent (r : AgentApprovalRevocation) (g : AgentApprovalGrant) : Bool :=
  r.proposalId = g.proposalId && r.sourceManifestId = g.sourceManifestId &&
    g.issuedAt.val.instant ≤ r.revokedAt.val.instant

/-- The status of a grant by the clock alone. -/
def windowStatus (g : AgentApprovalGrant) (evaluatedAt : UtcDatetime) : AgentApprovalStatus :=
  if evaluatedAt.val.instant < g.issuedAt.val.instant then .notYetValid
  else if g.expiresAt.val.instant ≤ evaluatedAt.val.instant then .expired
  else .active

/-- The answer for the one grant of an approval, given its revocations. -/
def resolveGrant (approvalId proposalId : String) (evaluatedAt : UtcDatetime) (approval : AgentApprovalGrant)
    (keyId : String) (revocations : List AgentApprovalRevocation) : AgentApprovalObservation :=
  let observe := fun status => observation status approvalId evaluatedAt (some (approval, keyId))
  if approval.proposalId ≠ proposalId then observe .scopeMismatch none
  else match revocations with
    | [] => observe (windowStatus approval evaluatedAt) none
    | [revocation] =>
      if !revocation.isConsistent approval then observation .ledgerInvalid approvalId evaluatedAt none none
      else if revocation.revokedAt.val.instant ≤ evaluatedAt.val.instant then
        observe .revoked (some revocation.revocationId)
      else observe (windowStatus approval evaluatedAt) none
    | _ => observation .ledgerInvalid approvalId evaluatedAt none none

/-- The answer for the grants of an approval, given its revocations. -/
def resolveGrants (approvalId proposalId : String) (evaluatedAt : UtcDatetime)
    (grants : List (AgentApprovalGrant × String)) (revocations : List AgentApprovalRevocation) :
    AgentApprovalObservation :=
  match grants with
  | [] => observation .notFound approvalId evaluatedAt none none
  | [(approval, keyId)] => resolveGrant approvalId proposalId evaluatedAt approval keyId revocations
  | _ => observation .ledgerInvalid approvalId evaluatedAt none none

/-- The answer for well-formed arguments. -/
def resolveAt (entries : List AgentRunLedgerEntry) (approvalId proposalId : String) (evaluatedAt : UtcDatetime)
    (trustedKeyIds : List String) : AgentApprovalObservation :=
  if !(verifyAgentRunLedger crypto entries none).valid then
    observation .ledgerInvalid approvalId evaluatedAt none none
  else if entries.any fun e => !trustedKeyIds.contains e.signature.keyId then
    observation .untrustedSigner approvalId evaluatedAt none none
  else resolveGrants approvalId proposalId evaluatedAt (grantsOf approvalId entries) (revocationsOf approvalId entries)

/-- `resolve_agent_approval`. -/
def resolveAgentApproval (entries : List AgentRunLedgerEntry) (approvalId proposalId : String) (evaluatedAt : Datetime)
    (trustedKeyIds : List String) : Except String AgentApprovalObservation := do
  prefixedHash approvalId "approval-" "approval_id"
  prefixedHash proposalId "proposal-" "proposal_id"
  let evaluatedAt ← utc evaluatedAt "evaluated_at"
  return resolveAt crypto entries approvalId proposalId evaluatedAt trustedKeyIds

end entries

end AtlasPulse
