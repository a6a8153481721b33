import AtlasPulse.Governance
import AtlasPulse.Lib.Machine

/-!
# Run ledgers

The in-memory ledger of `agent_governance.py` and the Postgres ledger of
`agent_ledger.py`. An append is one step: Postgres appends hold the advisory
lock for their whole transaction. A row's JSON column holds the entry's data,
which is validated again whenever it is read.
-/

namespace AtlasPulse

structure AppendCall (crypto : Crypto) where
  event : AgentGovernanceEvent
  signer : crypto.PrivateKey

section ledgers
variable (crypto : Crypto)

/-- `InMemoryAgentRunLedger.append`. -/
def InMemoryAgentRunLedger.append (entries : List AgentRunLedgerEntry) (call : AppendCall crypto) :
    Except String AgentRunLedgerEntry × List AgentRunLedgerEntry :=
  match buildSignedLedgerEntry crypto call.event (entries.length + 1) (entries.getLast?.map (·.entryId))
      call.signer with
  | .error e => (.error e, entries)
  | .ok entry =>
    if entries.any (·.artifactId = entry.artifactId) then (.error "ledger artifact identity already exists", entries)
    else (.ok entry, entries ++ [entry])

/-! ## The table -/

/-- A row of `agent_run_ledger_entries`. -/
structure LedgerRow where
  sequenceNo : Int
  entryId : String
  previousEntryId : Option String
  eventType : AgentLedgerEventType
  occurredAt : PyTime.UtcDatetime
  artifactId : String
  manifestId : String
  proposalId : String
  signingKeyId : String
  entryJson : AgentRunLedgerEntry

/-- The parameters of `_INSERT_ENTRY`. -/
def ledgerRow (e : AgentRunLedgerEntry) : LedgerRow :=
  ⟨e.sequence, e.entryId, e.previousEntryId, e.eventType, e.occurredAt, e.artifactId, e.manifestId, e.proposalId,
    e.signature.keyId, e⟩

/-- The unique columns, the reference to the previous entry and the checks of
the table. A check of a row against its own JSON column cannot fail. -/
def insertEntry (rows : List LedgerRow) (row : LedgerRow) : Except String (List LedgerRow) := do
  check (0 < row.sequenceNo) "ck_agent_run_ledger_sequence"
  check (decide (row.sequenceNo = 1) = row.previousEntryId.isNone) "ck_agent_run_ledger_genesis"
  check (isPrefixedHash "ledger-" row.entryId) "ck_agent_run_ledger_entry_id"
  check (isPrefixedHash "manifest-" row.manifestId) "ck_agent_run_ledger_manifest_id"
  check (isPrefixedHash "proposal-" row.proposalId) "ck_agent_run_ledger_proposal_id"
  check (isPrefixedHash "ed25519-" row.signingKeyId) "ck_agent_run_ledger_signing_key"
  check (rows.all (·.sequenceNo ≠ row.sequenceNo)) "agent_run_ledger_entries_pkey"
  check (rows.all (·.entryId ≠ row.entryId)) "agent_run_ledger_entries_entry_id_key"
  check (rows.all fun r => r.previousEntryId ≠ row.previousEntryId || row.previousEntryId.isNone)
    "agent_run_ledger_entries_previous_entry_id_key"
  check (rows.all (·.artifactId ≠ row.artifactId)) "agent_run_ledger_entries_artifact_id_key"
  check (rows.all (·.previousEntryId.isSome) || row.previousEntryId.isSome) "uq_agent_run_ledger_single_genesis"
  check (row.previousEntryId.all fun id => id = row.entryId || rows.any (·.entryId = id)) "fk_agent_run_ledger_previous_entry"
  return rows ++ [row]

/-- `_entry_from_database`. -/
def entryFromDatabase (row : LedgerRow) : Except String AgentRunLedgerEntry := do
  row.entryJson.validate crypto
  return row.entryJson

/-- `PostgresAgentRunLedger.entries`: the rows in the order of their numbers. -/
def PostgresAgentRunLedger.entries (rows : List LedgerRow) : Except String (List AgentRunLedgerEntry) :=
  (rows.insertionSort fun a b => a.sequenceNo ≤ b.sequenceNo).mapM (entryFromDatabase crypto)

/-- The transaction of `PostgresAgentRunLedger.append`. -/
def PostgresAgentRunLedger.transaction (rows : List LedgerRow) (call : AppendCall crypto) :
    Except String (AgentRunLedgerEntry × List LedgerRow) := do
  let entries ← PostgresAgentRunLedger.entries crypto rows
  let verification := verifyAgentRunLedger crypto entries none
  check verification.valid
    ("cannot append to an invalid agent-run ledger: " ++ "; ".intercalate verification.errors)
  let entry ← buildSignedLedgerEntry crypto call.event (entries.length + 1) (entries.getLast?.map (·.entryId))
    call.signer
  let rows' ← insertEntry rows (ledgerRow entry)
  return (entry, rows')

/-- `PostgresAgentRunLedger.append`. A call comes with the error that the
database raises on its own, at the latest at the commit. -/
def PostgresAgentRunLedger.append (rows : List LedgerRow) (call : AppendCall crypto × Option String) :
    Except String AgentRunLedgerEntry × List LedgerRow :=
  match PostgresAgentRunLedger.transaction crypto rows call.1, call.2 with
  | .error e, _ => (.error e, rows)
  | .ok _, some e => (.error e, rows)
  | .ok (entry, rows'), none => (.ok entry, rows')

end ledgers

end AtlasPulse
