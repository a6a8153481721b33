import AtlasPulse.Governance
import AtlasPulse.Lib.Chain

/-!
# What verification accepts

`verify_agent_run_ledger` accepts a list of entries exactly when each entry is
admissible after the ones before it.
-/

namespace AtlasPulse

open PyJson PyTime

variable {crypto : Crypto}

/-! ## Fields -/

theorem decodeBase64_eq_ok {value field : String} {bytes : Bytes} :
    decodeBase64 value field = .ok bytes ↔ value = encodeBase64 bytes := by
  unfold decodeBase64
  constructor
  · intro h
    split at h
    · split at h
      · rename_i heq
        cases h
        exact heq.symm
      · cases h
    · cases h
  · rintro rfl
    have hdecode : Base64.decode? (encodeBase64 bytes).toList = some bytes := by
      rw [encodeBase64, String.toList_ofList, Base64.decode_encode]
    simp only [hdecode, if_true]

theorem encodeBase64_injective : Function.Injective encodeBase64 :=
  fun _ _ h => Base64.encode_injective (String.ofList_injective h)

theorem keyIdForPublicKey_eq_ok {publicKey : Bytes} {keyId : String} :
    keyIdForPublicKey crypto publicKey = .ok keyId ↔
      publicKey.length = 32 ∧ keyId = "ed25519-" ++ (crypto.sha256 publicKey).val := by
  unfold keyIdForPublicKey
  by_cases h : publicKey.length = 32
  · simp [h, eq_comm]
  · simp [h]

/-! ## One entry -/

/-- The bytes that an entry's signature covers. -/
def payloadBytes (e : AgentRunLedgerEntry) : Bytes :=
  canonicalJsonBytes (.obj (entryPayload e.sequence e.previousEntryId e.event))

/-- The bytes that an entry's identity covers. -/
def signedBytes (e : AgentRunLedgerEntry) : Bytes :=
  canonicalJsonBytes (signedContent (entryPayload e.sequence e.previousEntryId e.event) e.signature)

/-- What `_verify_entry` establishes, with the decoded key and signature. -/
structure VerifiedEntry (crypto : Crypto) (e : AgentRunLedgerEntry) (publicKey signature : Bytes) : Prop where
  schemaVersion : e.schemaVersion = agentRunLedgerSchemaVersion
  ruleVersion : e.ruleVersion = agentRunLedgerRuleVersion
  identityAlgorithm : e.identityAlgorithm = agentRunLedgerIdentityAlgorithm
  algorithm : e.signature.algorithm = agentRunLedgerSignatureAlgorithm
  entryShape : isPrefixedHash "ledger-" e.entryId
  genesis : e.sequence = 1 ↔ e.previousEntryId = none
  previousShape : ∀ id ∈ e.previousEntryId, isPrefixedHash "ledger-" id
  event : e.event.validate crypto = .ok ()
  metadata : eventMetadata e.event = ⟨e.eventType, e.occurredAt, e.artifactId, e.manifestId, e.proposalId⟩
  keyText : e.signature.publicKey = encodeBase64 publicKey
  keyLength : publicKey.length = 32
  keyId : e.signature.keyId = "ed25519-" ++ (crypto.sha256 publicKey).val
  valueText : e.signature.value = encodeBase64 signature
  valueLength : signature.length = 64
  verifies : crypto.verify publicKey signature (payloadBytes e) = true
  identity : e.entryId = "ledger-" ++ (crypto.sha256 (signedBytes e)).val

theorem genesis_check {sequence : Int} {previous : Option String} :
    (decide (sequence = 1) = previous.isNone) ↔ (sequence = 1 ↔ previous = none) := by
  cases previous <;> simp

theorem verifyEntry_eq_ok {e : AgentRunLedgerEntry} :
    verifyEntry crypto e = .ok () ↔ ∃ publicKey signature, VerifiedEntry crypto e publicKey signature := by
  simp only [verifyEntry, bind_ok, exists_unit, check_eq_ok, forM_ok, prefixedHash, decodeBase64_eq_ok,
    keyIdForPublicKey_eq_ok, genesis_check, Bool.and_eq_true, decide_eq_true_eq]
  constructor
  · rintro ⟨⟨⟨⟨h1, h2⟩, h3⟩, h4⟩, h5, h6, h7, h8, h9, publicKey, h10, keyId, ⟨h11, rfl⟩, h12, signature, h13, h14, h15, h16⟩
    exact ⟨publicKey, signature, h1, h2, h3, h4, h5, h6, h7, h8, h9, h10, h11, h12, h13, h14, h15, h16⟩
  · rintro ⟨publicKey, signature, h1, h2, h3, h4, h5, h6, h7, h8, h9, h10, h11, h12, h13, h14, h15, h16⟩
    exact ⟨⟨⟨⟨h1, h2⟩, h3⟩, h4⟩, h5, h6, h7, h8, h9, publicKey, h10, _, ⟨h11, rfl⟩, h12, signature, h13, h14, h15, h16⟩

/-! ## The whole ledger -/

/-- What an entry must satisfy after the entries before it. -/
structure Admissible (crypto : Crypto) (trusted : Option (List String)) (before : List AgentRunLedgerEntry)
    (e : AgentRunLedgerEntry) : Prop where
  sequence : e.sequence = before.length + 1
  previous : e.previousEntryId = before.getLast?.map (·.entryId)
  freshEntry : e.entryId ∉ before.map (·.entryId)
  freshArtifact : e.artifactId ∉ before.map (·.artifactId)
  trusted : ∀ ids ∈ trusted, e.signature.keyId ∈ ids
  verified : verifyEntry crypto e = .ok ()

theorem raised_eq_none {r : Except String Unit} : raised r = none ↔ r = .ok () := by
  cases r <;> simp [raised]

theorem entryErrors_eq_nil {trusted : Option (List String)} {s : LedgerScan} {e : AgentRunLedgerEntry} :
    entryErrors crypto trusted s e = [] ↔
      e.sequence = s.expectedSequence ∧ e.previousEntryId = s.previous ∧ e.entryId ∉ s.seenEntries ∧
        e.artifactId ∉ s.seenArtifacts ∧ (∀ ids ∈ trusted, e.signature.keyId ∈ ids) ∧
        verifyEntry crypto e = .ok () := by
  simp only [entryErrors, List.append_eq_nil_iff, ite_eq_right_iff, List.cons_ne_nil, imp_false, not_not,
    List.map_eq_nil_iff, Option.toList_eq_nil_iff, raised_eq_none, not_exists, not_and, and_assoc]

/-- The scan summarises the entries it has read. -/
theorem scan_summary (trusted : Option (List String)) (entries : List AgentRunLedgerEntry) :
    let s := entries.foldl (scanEntry crypto trusted) .start
    s.expectedSequence = entries.length + 1 ∧ s.previous = entries.getLast?.map (·.entryId) ∧
      (∀ id, id ∈ s.seenEntries ↔ id ∈ entries.map (·.entryId)) ∧
      ∀ id, id ∈ s.seenArtifacts ↔ id ∈ entries.map (·.artifactId) := by
  induction entries using List.reverseRecOn with
  | nil => simp [LedgerScan.start]
  | append_singleton entries e ih =>
    obtain ⟨h1, -, h3, h4⟩ := ih
    simp only [List.foldl_append, List.foldl_cons, List.foldl_nil, scanEntry]
    refine ⟨by simp [h1], by simp, fun id => ?_, fun id => ?_⟩
    · simp [h3, or_comm]
    · simp [h4, or_comm]

/-- **Verification.** -/
theorem verify_valid_iff {trusted : Option (List String)} {entries : List AgentRunLedgerEntry} :
    (verifyAgentRunLedger crypto entries trusted).valid ↔ Chain.Admitted (Admissible crypto trusted) entries := by
  show (entries.foldl (scanEntry crypto trusted) .start).errors.isEmpty ↔ _
  rw [List.isEmpty_iff]
  induction entries using List.reverseRecOn with
  | nil => exact iff_of_true rfl Chain.admitted_nil
  | append_singleton entries e ih =>
    obtain ⟨h1, h2, h3, h4⟩ := @scan_summary crypto trusted entries
    have hlast : entryErrors crypto trusted (entries.foldl (scanEntry crypto trusted) .start) e = [] ↔
        Admissible crypto trusted entries e := by
      rw [entryErrors_eq_nil, h1, h2, h3, h4]
      constructor
      · rintro ⟨h1, h2, h3, h4, h5, h6⟩
        exact ⟨by simpa using h1, h2, h3, h4, h5, h6⟩
      · intro h
        exact ⟨by simpa using h.sequence, h.previous, h.freshEntry, h.freshArtifact, h.trusted, h.verified⟩
    rw [Chain.admitted_snoc, ← ih, ← hlast, List.foldl_append, List.foldl_cons, List.foldl_nil, scanEntry,
      List.append_eq_nil_iff]

theorem verify_initial {trusted : Option (List String)} {l m : List AgentRunLedgerEntry}
    (h : (verifyAgentRunLedger crypto m trusted).valid) (hp : l <+: m) : (verifyAgentRunLedger crypto l trusted).valid :=
  verify_valid_iff.mpr ((verify_valid_iff.mp h).of_initial hp)

/-- Trust is a condition of its own. -/
theorem verify_trusted_iff {trusted : Option (List String)} {entries : List AgentRunLedgerEntry} :
    (verifyAgentRunLedger crypto entries trusted).valid ↔
      (verifyAgentRunLedger crypto entries none).valid ∧ ∀ ids ∈ trusted, ∀ e ∈ entries, e.signature.keyId ∈ ids := by
  rw [verify_valid_iff, verify_valid_iff]
  constructor
  · intro h
    refine ⟨h.mono fun l e he => { he with trusted := by simp }, fun ids hids e he => ?_⟩
    obtain ⟨before, hadm⟩ := h.at_mem he
    exact hadm.trusted ids hids
  · intro ⟨h, ht⟩ before e hp
    have hmem : e ∈ entries := hp.subset (by simp)
    exact { h before e hp with trusted := fun ids hids => ht ids hids e hmem }

theorem verified_of_mem {trusted : Option (List String)} {entries : List AgentRunLedgerEntry}
    (h : (verifyAgentRunLedger crypto entries trusted).valid) {e : AgentRunLedgerEntry} (he : e ∈ entries) :
    ∃ publicKey signature, VerifiedEntry crypto e publicKey signature := by
  obtain ⟨before, hadm⟩ := (verify_valid_iff.mp h).at_mem he
  exact verifyEntry_eq_ok.mp hadm.verified

theorem numbered_of_valid {trusted : Option (List String)} {entries : List AgentRunLedgerEntry}
    (h : (verifyAgentRunLedger crypto entries trusted).valid) : Chain.Numbered (·.sequence) entries :=
  (verify_valid_iff.mp h).mono fun _ _ he => he.sequence

end AtlasPulse
