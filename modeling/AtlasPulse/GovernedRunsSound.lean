import AtlasPulse.GovernedRuns
import AtlasPulse.AgentRunsSound

/-!
# Runs of governance commands

Whatever commands run in whatever order, the table holds a verified ledger with
exactly the entries that the commands appended, each for what its command asked
for. So an approval counts for a proposal exactly when a grant of the run covers
the moment and no revocation of the run ended it.
-/

namespace AtlasPulse

open PyJson PyTime

variable {crypto : Crypto}

/-! ## One append -/

theorem insertEntry_entryId {e : AgentRunLedgerEntry} {entries : List AgentRunLedgerEntry} {rows : List LedgerRow}
    (h : insertEntry (entries.map ledgerRow) (ledgerRow e) = .ok rows) : e.entryId ∉ entries.map (·.entryId) := by
  simp only [insertEntry, bind_ok, exists_unit, check_eq_ok, List.all_eq_true, List.mem_map, decide_eq_true_eq,
    forall_exists_index, and_imp, forall_apply_eq_imp_iff₂] at h
  intro hmem
  obtain ⟨x, hx, heq⟩ := List.mem_map.mp hmem
  exact h.2.2.2.2.2.2.2.1 x hx heq

/-- What an append did to the table. -/
structure Appended (crypto : Crypto) (entries : List AgentRunLedgerEntry) (call : AppendCall crypto)
    (e : AgentRunLedgerEntry) (rows : List LedgerRow) : Prop where
  valid : (verifyAgentRunLedger crypto (entries ++ [e]) none).valid
  rows : rows = (entries ++ [e]).map ledgerRow
  event : e.event = call.event
  signer : e.signature.keyId = signerKeyId crypto call.signer

/-- An append over a verified ledger either refuses and leaves the table, or
extends the ledger by an entry for its event. The unique entry identity takes
the place of an assumption on the hash. -/
theorem postgres_append_cases {entries : List AgentRunLedgerEntry}
    (hvalid : (verifyAgentRunLedger crypto entries none).valid) (call : AppendCall crypto) (fault : Option String) :
    (∃ message, PostgresAgentRunLedger.append crypto (entries.map ledgerRow) (call, fault) =
        (.error message, entries.map ledgerRow)) ∨
      ∃ e rows, PostgresAgentRunLedger.append crypto (entries.map ledgerRow) (call, fault) = (.ok e, rows) ∧
        Appended crypto entries call e rows := by
  cases htransaction : PostgresAgentRunLedger.transaction crypto (entries.map ledgerRow) call with
  | error e => exact .inl ⟨e, by rw [PostgresAgentRunLedger.append, htransaction]⟩
  | ok r =>
    cases fault with
    | some message => exact .inl ⟨message, by rw [PostgresAgentRunLedger.append, htransaction]⟩
    | none =>
      have hparts := htransaction
      simp only [PostgresAgentRunLedger.transaction, bind_ok, exists_unit] at hparts
      obtain ⟨l, hl, -, e, hbuild, rows, hinsert, -⟩ := hparts
      obtain rfl : entries = l := Except.ok.inj ((entries_of_rows hvalid).symm.trans hl)
      obtain ⟨hevent, rfl⟩ := (build_next hvalid).mp hbuild
      have haccepts : Accepts crypto entries call := ⟨hevent, insertEntry_artifact hinsert⟩
      have hfresh := insertEntry_entryId hinsert
      refine .inr ⟨_, _, postgres_append_accepted hvalid haccepts hfresh, verify_nextEntry hvalid haccepts hfresh, rfl,
        rfl, ?_⟩
      rw [nextEntry_signature]
      rfl

/-! ## What commands ask for -/

/-- The event is the one that the command asks for, of the ledger before it. -/
def Performs (crypto : Crypto) (before : List AgentRunLedgerEntry) :
    GovernanceCommand crypto → AgentGovernanceEvent → Prop
  | .grant preflight _ actorId ttlMinutes _ clock, event => ∃ reference approval,
      manifestReference crypto.sha256 preflight = .ok reference ∧ event = .grant approval ∧
        approval.proposalId = reference.proposalId ∧ approval.sourceManifestId = reference.manifestId ∧
        approval.approver.actorId = actorId ∧ approval.issuedAt = clock ∧
        approval.expiresAt.val.instant = clock.val.instant + ttlMinutes.val * 60000000
  | .revoke approvalId _ actorId _ clock seen, event => ∃ approval keyId revocation,
      grantsOf approvalId (before.take seen) = [(approval, keyId)] ∧ event = .revocation revocation ∧
        revocation.approvalId = approvalId ∧ revocation.isConsistent approval ∧
        revocation.revokedBy.actorId = actorId ∧ revocation.revokedAt = clock
  | .recordPreflight preflight _ actorId clock, event => ∃ reference record,
      manifestReference crypto.sha256 preflight = .ok reference ∧ event = .preflight record ∧
        record.manifestId = reference.manifestId ∧ record.proposalId = reference.proposalId ∧
        record.blockingReasons = reference.blockingReasons ∧ record.recordedBy.actorId = actorId ∧
        record.recordedAt = clock

theorem addMinutes_instant {clock expiresAt : UtcDatetime} {minutes : ℕ} (h : addMinutes clock minutes = some expiresAt) :
    expiresAt.val.instant = clock.val.instant + minutes * 60000000 := by
  unfold addMinutes at h
  split at h
  · rw [← Option.some.inj h, Datetime.instant_of_isUtc (isUtc_zero _), Datetime.instant_of_isUtc clock.2]
    push_cast
    ring
  · cases h

theorem grantEvent_ok {preflight : Json} {signer : crypto.PrivateKey} {actorId text : String}
    {ttlMinutes : {minutes : ℕ // 1 ≤ minutes ∧ minutes ≤ 1440}} {clock : UtcDatetime} {event : AgentGovernanceEvent}
    (h : grantEvent crypto preflight actorId ttlMinutes.val text clock = .ok event) (before : List AgentRunLedgerEntry) :
    Performs crypto before (.grant preflight signer actorId ttlMinutes text clock) event := by
  simp only [grantEvent, bind_ok] at h
  obtain ⟨reference, hreference, h⟩ := h
  cases hexpires : addMinutes clock ttlMinutes.val with
  | none => simp [hexpires] at h
  | some expiresAt =>
    simp only [hexpires, bind_ok, buildAgentApproval, exists_unit] at h
    obtain ⟨approval, ⟨-, -, -, -, -, happroval⟩, hevent⟩ := h
    obtain rfl := Except.ok.inj happroval
    exact ⟨reference, _, hreference, (Except.ok.inj hevent).symm, rfl, rfl, rfl, rfl, addMinutes_instant hexpires⟩

theorem revokeEvent_ok {before : List AgentRunLedgerEntry} (hvalid : (verifyAgentRunLedger crypto before none).valid)
    {approvalId actorId text : String} {signer : crypto.PrivateKey} {clock : UtcDatetime} {seen : ℕ}
    {event : AgentGovernanceEvent}
    (h : revokeEvent crypto ((before.map ledgerRow).take seen) approvalId actorId text clock = .ok event) :
    Performs crypto before (.revoke approvalId signer actorId text clock seen) event := by
  have hread : PostgresAgentRunLedger.entries crypto ((before.map ledgerRow).take seen) = .ok (before.take seen) := by
    rw [← List.map_take]
    exact entries_of_rows (verify_initial hvalid (List.take_prefix seen before))
  simp only [revokeEvent, hread, bind_ok, Except.ok.injEq, exists_eq_left'] at h
  split at h
  · rename_i approval keyId hgrants
    simp only [bind_ok, buildAgentApprovalRevocation, exists_unit, check_eq_ok, decide_eq_true_eq] at h
    obtain ⟨revocation, ⟨hissued, -, -, -, hrevocation⟩, hevent⟩ := h
    obtain rfl := Except.ok.inj hrevocation
    have hid : approval.approvalId = approvalId := (mem_grantsOf (hgrants ▸ List.mem_singleton_self _)).1
    refine ⟨approval, keyId, _, hgrants, (Except.ok.inj hevent).symm, hid, ?_, rfl, rfl⟩
    simp [AgentApprovalRevocation.isConsistent, hissued]
  · cases h

theorem recordEvent_ok {preflight : Json} {signer : crypto.PrivateKey} {actorId : String} {clock : UtcDatetime}
    {event : AgentGovernanceEvent} (h : recordEvent crypto preflight actorId clock = .ok event)
    (before : List AgentRunLedgerEntry) : Performs crypto before (.recordPreflight preflight signer actorId clock) event := by
  simp only [recordEvent, bind_ok, buildAgentPreflightRecord, exists_unit] at h
  obtain ⟨reference, hreference, record, ⟨-, -, -, -, hrecord⟩, hevent⟩ := h
  obtain rfl := Except.ok.inj hrecord
  exact ⟨reference, _, hreference, (Except.ok.inj hevent).symm, rfl, rfl, rfl, rfl, rfl⟩

theorem commandEvent_ok {before : List AgentRunLedgerEntry} (hvalid : (verifyAgentRunLedger crypto before none).valid)
    {command : GovernanceCommand crypto} {event : AgentGovernanceEvent}
    (h : commandEvent crypto (before.map ledgerRow) command = .ok event) : Performs crypto before command event := by
  cases command with
  | grant preflight signer actorId ttlMinutes text clock => exact grantEvent_ok h before
  | revoke approvalId signer actorId text clock seen => exact revokeEvent_ok hvalid h
  | recordPreflight preflight signer actorId clock => exact recordEvent_ok h before

/-- A command either refuses and leaves the table, or extends the ledger by the
entry that it asked for. -/
theorem governanceCommand_cases {entries : List AgentRunLedgerEntry}
    (hvalid : (verifyAgentRunLedger crypto entries none).valid) (attempt : GovernanceCommand crypto × Option String) :
    (∃ message, governanceCommand crypto (entries.map ledgerRow) attempt = (.error message, entries.map ledgerRow)) ∨
      ∃ e, governanceCommand crypto (entries.map ledgerRow) attempt = (.ok e, (entries ++ [e]).map ledgerRow) ∧
        (verifyAgentRunLedger crypto (entries ++ [e]) none).valid ∧ Performs crypto entries attempt.1 e.event ∧
        e.signature.keyId = signerKeyId crypto attempt.1.signer := by
  cases hevent : commandEvent crypto (entries.map ledgerRow) attempt.1 with
  | error message => exact .inl ⟨message, by simp only [governanceCommand, hevent]⟩
  | ok event =>
    rcases postgres_append_cases hvalid ⟨event, attempt.1.signer⟩ attempt.2 with ⟨message, h⟩ | ⟨e, rows, h, ha⟩
    · exact .inl ⟨message, by simp only [governanceCommand, hevent, h]⟩
    · refine .inr ⟨e, by simp only [governanceCommand, hevent, h, ha.rows], ha.valid, ?_, ha.signer⟩
      rw [ha.event]
      exact commandEvent_ok hvalid hevent

/-! ## Runs -/

abbrev GovernanceLog (crypto : Crypto) :=
  List ((GovernanceCommand crypto × Option String) × Except String AgentRunLedgerEntry)

/-- The entries that a run appended. -/
def appended (l : GovernanceLog crypto) : List AgentRunLedgerEntry := l.filterMap (·.2.toOption)

theorem appended_error (l : GovernanceLog crypto) (attempt : GovernanceCommand crypto × Option String) (message : String) :
    appended (l ++ [(attempt, .error message)]) = appended l := by
  simp [appended, Except.toOption]

theorem appended_ok (l : GovernanceLog crypto) (attempt : GovernanceCommand crypto × Option String)
    (e : AgentRunLedgerEntry) : appended (l ++ [(attempt, .ok e)]) = appended l ++ [e] := by
  simp [appended, Except.toOption]

theorem mem_appended {l : GovernanceLog crypto} {e : AgentRunLedgerEntry} :
    e ∈ appended l ↔ ∃ attempt, (attempt, .ok e) ∈ l := by
  simp only [appended, List.mem_filterMap]
  constructor
  · intro hmem
    obtain ⟨x, hx, he⟩ := hmem
    obtain ⟨attempt, answer⟩ := x
    cases answer with
    | error message => simp [Except.toOption] at he
    | ok e' =>
      obtain rfl : e' = e := by simpa [Except.toOption] using he
      exact ⟨attempt, hx⟩
  · intro hanswer
    obtain ⟨attempt, h⟩ := hanswer
    exact ⟨_, h, rfl⟩

/-- What a run keeps: a verified ledger of the entries that were asked for. -/
structure LedgerKept (crypto : Crypto) (l : GovernanceLog crypto) (rows : List LedgerRow) : Prop where
  rows : rows = (appended l).map ledgerRow
  valid : (verifyAgentRunLedger crypto (appended l) none).valid
  performed : ∀ attempt e, (attempt, .ok e) ∈ l → ∃ before, before ++ [e] <+: appended l ∧
    Performs crypto before attempt.1 e.event ∧ e.signature.keyId = signerKeyId crypto attempt.1.signer

theorem kept_nil : LedgerKept crypto [] [] where
  rows := rfl
  valid := verify_valid_iff.mpr Chain.admitted_nil
  performed := by simp

theorem kept_step {l : GovernanceLog crypto} {rows : List LedgerRow} (h : LedgerKept crypto l rows)
    (attempt : GovernanceCommand crypto × Option String) :
    LedgerKept crypto (l ++ [(attempt, (governanceCommand crypto rows attempt).1)]) (governanceCommand crypto rows attempt).2 := by
  obtain ⟨hrows, hvalid, hperformed⟩ := h
  subst hrows
  rcases governanceCommand_cases hvalid attempt with ⟨message, heq⟩ | ⟨e, heq, hvalid', hperforms, hsigner⟩
  · rw [heq]
    refine ⟨by rw [appended_error], by rwa [appended_error], fun a e' hmem => ?_⟩
    rw [appended_error]
    exact hperformed a e' (by simpa using hmem)
  · rw [heq]
    refine ⟨by rw [appended_ok], by rwa [appended_ok], fun a e' hmem => ?_⟩
    rw [appended_ok]
    rcases List.mem_append.mp hmem with hold | hnew
    · obtain ⟨before, hp, hrest⟩ := hperformed a e' hold
      exact ⟨before, hp.trans (List.prefix_append _ _), hrest⟩
    · obtain ⟨rfl, heq'⟩ := Prod.mk.inj (List.mem_singleton.mp hnew)
      obtain rfl := Except.ok.inj heq'
      exact ⟨appended l, List.prefix_refl _, hperforms, hsigner⟩

theorem kept_run (attempts : List (GovernanceCommand crypto × Option String)) :
    LedgerKept crypto (Machine.log (governanceCommand crypto) [] attempts) (Machine.run (governanceCommand crypto) [] attempts) :=
  Machine.run_log_inv (P := fun _ => True) kept_nil (fun _ _ attempt _ h => kept_step h attempt) fun _ _ => trivial

/-- **Governed ledger.** After any commands, in any order and whatever the
database fails, the table reads as a verified ledger of exactly the entries that
the commands were answered with, in their order; and each entry holds what its
command asked for, of the ledger before it, signed by the key of the command. -/
theorem governed_ledger (crypto : Crypto) (attempts : List (GovernanceCommand crypto × Option String)) :
    PostgresAgentRunLedger.entries crypto (Machine.run (governanceCommand crypto) [] attempts) =
        .ok (appended (Machine.log (governanceCommand crypto) [] attempts)) ∧
      (verifyAgentRunLedger crypto (appended (Machine.log (governanceCommand crypto) [] attempts)) none).valid ∧
      ∀ attempt e, (attempt, .ok e) ∈ Machine.log (governanceCommand crypto) [] attempts →
        ∃ before, before ++ [e] <+: appended (Machine.log (governanceCommand crypto) [] attempts) ∧
          Performs crypto before attempt.1 e.event ∧ e.signature.keyId = signerKeyId crypto attempt.1.signer := by
  obtain ⟨hrows, hvalid, hperformed⟩ := kept_run attempts
  refine ⟨?_, hvalid, hperformed⟩
  rw [hrows]
  exact entries_of_rows hvalid

/-! ## Approvals of a run -/

/-- The artifact of a grant's entry is the approval. -/
theorem grant_artifact {entries : List AgentRunLedgerEntry} (hvalid : (verifyAgentRunLedger crypto entries none).valid)
    {e : AgentRunLedgerEntry} (he : e ∈ entries) {g : AgentApprovalGrant} (hevent : e.event = .grant g) :
    e.artifactId = g.approvalId := by
  obtain ⟨_, _, hv⟩ := verified_of_mem hvalid he
  have hmetadata := congrArg EventMetadata.artifactId hv.metadata
  rw [hevent] at hmetadata
  exact hmetadata.symm

/-- A ledger has at most one grant of an approval. -/
theorem grantsOf_unique {entries : List AgentRunLedgerEntry} (hvalid : (verifyAgentRunLedger crypto entries none).valid)
    {approvalId keyId : String} {g : AgentApprovalGrant} (h : (g, keyId) ∈ grantsOf approvalId entries) :
    grantsOf approvalId entries = [(g, keyId)] := by
  induction entries using List.reverseRecOn with
  | nil => simp [grantsOf] at h
  | append_singleton entries e ih =>
    have hbefore := verify_initial hvalid (List.prefix_append entries [e])
    have hfresh := (Chain.admitted_snoc.mp (verify_valid_iff.mp hvalid)).2.freshArtifact
    -- a second grant would repeat the artifact of the first
    have hexclusive : ∀ x ∈ grantsOf approvalId entries, ∀ y ∈ grantsOf approvalId [e], False := by
      intro x hx y hy
      have hx' : (x.1, x.2) ∈ grantsOf approvalId entries := hx
      have hy' : (y.1, y.2) ∈ grantsOf approvalId [e] := hy
      obtain ⟨hid, e', he', hevent', -⟩ := mem_grantsOf hx'
      obtain ⟨hid₂, e₂, he₂, hevent₂, -⟩ := mem_grantsOf hy'
      obtain rfl := List.mem_singleton.mp he₂
      have hsame : e'.artifactId = e₂.artifactId := by
        rw [grant_artifact hbefore he' hevent', hid,
          grant_artifact hvalid (List.mem_append_right _ (List.mem_singleton_self _)) hevent₂, hid₂]
      exact hfresh (List.mem_map.mpr ⟨e', he', hsame⟩)
    rw [grantsOf_append] at h ⊢
    rcases List.mem_append.mp h with hold | hnew
    · have hnone : grantsOf approvalId [e] = [] :=
        List.eq_nil_iff_forall_not_mem.mpr fun y hy => hexclusive _ hold y hy
      rw [hnone, List.append_nil]
      exact ih hbefore hold
    · have hnone : grantsOf approvalId entries = [] :=
        List.eq_nil_iff_forall_not_mem.mpr fun x hx => hexclusive x hx _ hnew
      have hone : (grantsOf approvalId [e]).length ≤ 1 := List.length_filterMap_le _ [e]
      rw [hnone, List.nil_append]
      obtain ⟨x, hx⟩ := List.length_eq_one_iff.mp (Nat.le_antisymm hone (List.length_pos_of_mem hnew))
      rw [hx] at hnew ⊢
      rw [List.mem_singleton.mp hnew]

/-- When the command revokes the approval, if it does. -/
def GovernanceCommand.revokes (approvalId : String) : GovernanceCommand crypto → Option UtcDatetime
  | .revoke id _ _ _ clock _ => if id = approvalId then some clock else none
  | .grant .. => none
  | .recordPreflight .. => none

/-- When the run revoked the approval. -/
def revokedAt (approvalId : String) (l : GovernanceLog crypto) : List UtcDatetime :=
  l.filterMap fun x => if x.2.toOption.isSome then x.1.1.revokes approvalId else none

/-- A grant of the run for the proposal covers the moment. -/
def GrantCovers (l : GovernanceLog crypto) (approvalId proposalId : String) (t : UtcDatetime) : Prop :=
  ∃ preflight signer actorId ttlMinutes reason clock fault e reference,
    ((.grant preflight signer actorId ttlMinutes reason clock, fault), .ok e) ∈ l ∧ e.artifactId = approvalId ∧
      manifestReference crypto.sha256 preflight = .ok reference ∧ reference.proposalId = proposalId ∧
      clock.val.instant ≤ t.val.instant ∧ t.val.instant < clock.val.instant + ttlMinutes.val * 60000000

theorem revokes_of_performs {before : List AgentRunLedgerEntry} {command : GovernanceCommand crypto}
    {e : AgentRunLedgerEntry} (h : Performs crypto before command e.event) (approvalId : String) :
    (revocationsOf approvalId [e]).map (·.revokedAt) = (command.revokes approvalId).toList := by
  cases command with
  | grant preflight signer actorId ttlMinutes text clock =>
    obtain ⟨_, approval, -, hevent, -⟩ := h
    simp [revocationsOf, hevent, GovernanceCommand.revokes]
  | revoke id signer actorId text clock seen =>
    obtain ⟨_, _, revocation, -, hevent, hid, -, -, hclock⟩ := h
    by_cases heq : id = approvalId <;> simp [revocationsOf, hevent, GovernanceCommand.revokes, hid, heq, hclock]
  | recordPreflight preflight signer actorId clock =>
    obtain ⟨_, record, -, hevent, -⟩ := h
    simp [revocationsOf, hevent, GovernanceCommand.revokes]

theorem revokedAt_eq {l : GovernanceLog crypto}
    (h : ∀ attempt e, (attempt, .ok e) ∈ l → ∃ before, Performs crypto before attempt.1 e.event) (approvalId : String) :
    revokedAt approvalId l = (revocationsOf approvalId (appended l)).map (·.revokedAt) := by
  induction l using List.reverseRecOn with
  | nil => rfl
  | append_singleton l x ih =>
    have hbefore := ih fun attempt e hmem => h attempt e (List.mem_append_left _ hmem)
    obtain ⟨attempt, answer⟩ := x
    have hsplit : revokedAt approvalId (l ++ [(attempt, answer)]) =
        revokedAt approvalId l ++ revokedAt approvalId [(attempt, answer)] := List.filterMap_append
    rw [hsplit, hbefore]
    cases answer with
    | error message => simp [appended_error, revokedAt, Except.toOption]
    | ok e =>
      obtain ⟨before, hperforms⟩ := h attempt e (by simp)
      rw [appended_ok, revocationsOf_append, List.map_append, revokes_of_performs hperforms]
      cases hrevokes : attempt.1.revokes approvalId <;> simp [revokedAt, Except.toOption, hrevokes]

theorem mem_revocationsOf {approvalId : String} {entries : List AgentRunLedgerEntry} {r : AgentApprovalRevocation}
    (h : r ∈ revocationsOf approvalId entries) : r.approvalId = approvalId ∧ ∃ e ∈ entries, e.event = .revocation r := by
  obtain ⟨e, he, hsome⟩ := List.mem_filterMap.mp h
  cases hevent : e.event with
  | grant g => simp [hevent] at hsome
  | revocation r' =>
    simp only [hevent, Option.ite_none_right_eq_some, Option.some.injEq] at hsome
    obtain ⟨hid, rfl⟩ := hsome
    exact ⟨hid, e, he, hevent⟩
  | preflight p => simp [hevent] at hsome

/-- The revocations of a run agree with the grant that they revoke. -/
theorem revocation_consistent {l : GovernanceLog crypto} {rows : List LedgerRow} (h : LedgerKept crypto l rows)
    {approvalId keyId : String} {g : AgentApprovalGrant} (hgrants : grantsOf approvalId (appended l) = [(g, keyId)])
    {r : AgentApprovalRevocation} (hr : r ∈ revocationsOf approvalId (appended l)) : r.isConsistent g := by
  obtain ⟨hid, e, he, hevent⟩ := mem_revocationsOf hr
  obtain ⟨attempt, hmem⟩ := mem_appended.mp he
  obtain ⟨before, hp, hperforms, -⟩ := h.performed attempt e hmem
  obtain ⟨command, fault⟩ := attempt
  cases command with
  | grant preflight signer actorId ttlMinutes text clock =>
    obtain ⟨_, _, -, heq, -⟩ := hperforms
    rw [hevent] at heq
    cases heq
  | revoke id signer actorId text clock seen =>
    obtain ⟨g', keyId', r', hgrants', heq, hid', hconsistent, -⟩ := hperforms
    rw [hevent] at heq
    obtain rfl := AgentGovernanceEvent.revocation.inj heq
    have hseen : before.take seen <+: appended l :=
      (List.take_prefix _ _).trans ((List.prefix_append before [e]).trans hp)
    obtain ⟨after, hafter⟩ := hseen
    have hmem' : (g', keyId') ∈ grantsOf approvalId (appended l) := by
      rw [← hafter, grantsOf_append, ← hid, hid', hgrants']
      simp
    rw [hgrants] at hmem'
    obtain ⟨rfl, rfl⟩ := Prod.mk.inj (List.mem_singleton.mp hmem')
    exact hconsistent
  | recordPreflight preflight signer actorId clock =>
    obtain ⟨_, _, -, heq, -⟩ := hperforms
    rw [hevent] at heq
    cases heq

/-- The grant of an approval is the one of the command that asked for it. -/
theorem covers_iff {l : GovernanceLog crypto} {rows : List LedgerRow} (h : LedgerKept crypto l rows)
    {approvalId proposalId : String} {t : UtcDatetime} :
    GrantCovers l approvalId proposalId t ↔ ∃ g keyId, grantsOf approvalId (appended l) = [(g, keyId)] ∧
      g.proposalId = proposalId ∧ g.issuedAt.val.instant ≤ t.val.instant ∧ t.val.instant < g.expiresAt.val.instant := by
  constructor
  · rintro ⟨preflight, signer, actorId, ttlMinutes, reason, clock, fault, e, reference, hmem, hid, href, hproposal, hfrom, hto⟩
    obtain ⟨before, -, hperforms, -⟩ := h.performed _ e hmem
    obtain ⟨reference', g, href', hevent, hproposal', -, -, hissued, hexpires⟩ := hperforms
    obtain rfl := Except.ok.inj (href.symm.trans href')
    have he : e ∈ appended l := mem_appended.mpr ⟨_, hmem⟩
    have hgrant : (g, e.signature.keyId) ∈ grantsOf approvalId (appended l) := by
      have hartifact := grant_artifact h.valid he hevent
      exact List.mem_filterMap.mpr ⟨e, he, by simp [hevent, ← hartifact, hid]⟩
    exact ⟨g, _, grantsOf_unique h.valid hgrant, hproposal'.trans hproposal, hissued ▸ hfrom, hexpires ▸ hto⟩
  · intro hgrant
    obtain ⟨g, keyId, hgrants, hproposal, hfrom, hto⟩ := hgrant
    obtain ⟨hid, e, he, hevent, -⟩ := mem_grantsOf (hgrants ▸ List.mem_singleton_self _)
    obtain ⟨attempt, hmem⟩ := mem_appended.mp he
    obtain ⟨before, -, hperforms, -⟩ := h.performed attempt e hmem
    obtain ⟨command, fault⟩ := attempt
    cases command with
    | grant preflight signer actorId ttlMinutes text clock =>
      obtain ⟨reference, g', href, heq, hproposal', -, -, hissued, hexpires⟩ := hperforms
      rw [hevent] at heq
      obtain rfl := AgentGovernanceEvent.grant.inj heq
      exact ⟨preflight, signer, actorId, ttlMinutes, text, clock, fault, e, reference, hmem,
        (grant_artifact h.valid he hevent).trans hid, href, hproposal'.symm.trans hproposal, hissued ▸ hfrom, hexpires ▸ hto⟩
    | revoke id signer actorId text clock seen =>
      obtain ⟨_, _, _, -, heq, -⟩ := hperforms
      rw [hevent] at heq
      cases heq
    | recordPreflight preflight signer actorId clock =>
      obtain ⟨_, _, -, heq, -⟩ := hperforms
      rw [hevent] at heq
      cases heq

theorem signers_iff {l : GovernanceLog crypto} {rows : List LedgerRow} (h : LedgerKept crypto l rows) (trusted : List String) :
    (∀ e ∈ appended l, e.signature.keyId ∈ trusted) ↔
      ∀ attempt e, (attempt, .ok e) ∈ l → signerKeyId crypto attempt.1.signer ∈ trusted := by
  constructor
  · intro hall attempt e hmem
    obtain ⟨_, -, -, hsigner⟩ := h.performed attempt e hmem
    rw [← hsigner]
    exact hall e (mem_appended.mpr ⟨attempt, hmem⟩)
  · intro hall e he
    obtain ⟨attempt, hmem⟩ := mem_appended.mp he
    obtain ⟨_, -, -, hsigner⟩ := h.performed attempt e hmem
    rw [hsigner]
    exact hall attempt e hmem

theorem granted_rows {entries : List AgentRunLedgerEntry} (hvalid : (verifyAgentRunLedger crypto entries none).valid)
    (trusted : List String) (approvalId proposalId : String) (t : UtcDatetime) :
    Granted crypto (some ⟨trusted, some (entries.map ledgerRow)⟩) approvalId proposalId t ↔
      ∃ g, Released crypto entries approvalId proposalId trusted g t.val.instant := by
  simp [Granted, entries_of_rows hvalid]

theorem granted_iff {l : GovernanceLog crypto} {rows : List LedgerRow} (h : LedgerKept crypto l rows) (trusted : List String)
    (approvalId proposalId : String) (t : UtcDatetime) :
    Granted crypto (some ⟨trusted, some rows⟩) approvalId proposalId t ↔
      (∀ attempt e, (attempt, .ok e) ∈ l → signerKeyId crypto attempt.1.signer ∈ trusted) ∧
        GrantCovers l approvalId proposalId t ∧ (revokedAt approvalId l).length ≤ 1 ∧
        ∀ c ∈ revokedAt approvalId l, t.val.instant < c.val.instant := by
  have hrevoked := revokedAt_eq (fun attempt e hmem => by
    obtain ⟨before, -, hperforms, -⟩ := h.performed attempt e hmem
    exact ⟨before, hperforms⟩) approvalId
  rw [h.rows, granted_rows h.valid, ← signers_iff h, covers_iff h, hrevoked, List.length_map]
  simp only [List.forall_mem_map]
  constructor
  · intro hgranted
    obtain ⟨g, hg⟩ := hgranted
    obtain ⟨keyId, hgrants⟩ := hg.granted
    exact ⟨hg.signers, ⟨g, keyId, hgrants, hg.proposal, hg.issued, hg.unexpired⟩, hg.single,
      fun r hr => (hg.unrevoked r hr).2⟩
  · intro hboth
    obtain ⟨hsigners, hcovers, hsingle, hlater⟩ := hboth
    obtain ⟨g, keyId, hgrants, hproposal, hfrom, hto⟩ := hcovers
    exact ⟨g, h.valid, hsigners, ⟨keyId, hgrants⟩, hproposal, hfrom, hto, hsingle,
      fun r hr => ⟨revocation_consistent h hgrants hr, hlater r hr⟩⟩

/-- **Governed approvals.** A preflight over the ledger that a run of commands
left counts the approval exactly when every signer of the run is trusted, a
grant of the run for the very proposal covers the moment, and the run revoked it
at most once and not before the moment has passed. -/
theorem governed_approval {S : Type} {m : ReleaseModel S} (crypto : Crypto)
    (attempts : List (GovernanceCommand crypto × Option String)) (trusted : List String) (pack : EvidencePack)
    (assessment : Option (AgentReleaseAssessment m)) (approvalId : String) (t : UtcDatetime)
    (hid : isPrefixedHash "approval-" approvalId) :
    ∃ manifest, agentRunPreflight crypto pack assessment
        (some ⟨trusted, some (Machine.run (governanceCommand crypto) [] attempts)⟩) (some approvalId) t = .ok manifest ∧
      (manifest.approval.status = .active ↔
        (∀ attempt e, (attempt, .ok e) ∈ Machine.log (governanceCommand crypto) [] attempts →
          signerKeyId crypto attempt.1.signer ∈ trusted) ∧
        GrantCovers (Machine.log (governanceCommand crypto) [] attempts) approvalId manifest.proposalId t ∧
        (revokedAt approvalId (Machine.log (governanceCommand crypto) [] attempts)).length ≤ 1 ∧
        ∀ c ∈ revokedAt approvalId (Machine.log (governanceCommand crypto) [] attempts), t.val.instant < c.val.instant) := by
  have hids : ∀ id ∈ some approvalId, isPrefixedHash "approval-" id := by
    intro id h
    rwa [← Option.some.inj h]
  obtain ⟨approval, hpreflight, -, hactive⟩ := preflight_ok pack assessment
    (some ⟨trusted, some (Machine.run (governanceCommand crypto) [] attempts)⟩) (some approvalId) t hids
  refine ⟨_, hpreflight, ?_⟩
  rw [← granted_iff (kept_run attempts)]
  refine hactive.trans ⟨fun h => ?_, fun h => ⟨approvalId, rfl, h⟩⟩
  obtain ⟨id, hmem, h⟩ := h
  rwa [← Option.some.inj hmem] at h

open QuakeRun QuakePack in
theorem governed_approval_revoked :
    ∃ pack manifest, buildEvidencePack reports result query none = .ok pack ∧
      agentRunPreflight (suite pack) pack (none : Option (AgentReleaseAssessment noSystems))
        (some ⟨[], some (Machine.run (governanceCommand (suite pack)) []
          [(.revoke approvalId () "github:7" "granted in error" (TwoGrants.clock 9 nine_lt) 0, none)])⟩)
        (some approvalId) (TwoGrants.clock 9 nine_lt) = .ok manifest ∧
      manifest.approval.status ≠ .active := by
  obtain ⟨pack, hbuild, -, -⟩ := @build_accepted _ reports _ _ packable none rfl
  obtain ⟨manifest, hmanifest, hactive⟩ := governed_approval (suite pack)
    [(.revoke approvalId () "github:7" "granted in error" (TwoGrants.clock 9 nine_lt) 0, none)] [] pack
    (none : Option (AgentReleaseAssessment noSystems)) approvalId (TwoGrants.clock 9 nine_lt) (isPrefixedHash_append _ _)
  refine ⟨pack, manifest, hbuild, hmanifest, fun h => ?_⟩
  obtain ⟨-, hcovers, -⟩ := hactive.mp h
  simp [GrantCovers, Machine.log] at hcovers

end AtlasPulse
