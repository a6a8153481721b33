import AtlasPulse.LedgerSound

/-!
# Resolution of approvals

An approval is active exactly when every check of the ledger and of the grant
passes; what closed it stays, and entries about other artifacts do not matter.
-/

namespace AtlasPulse

open PyJson PyTime

variable {crypto : Crypto}

/-! ## Grants and revocations of a ledger -/

theorem grantsOf_append (approvalId : String) (l m : List AgentRunLedgerEntry) :
    grantsOf approvalId (l ++ m) = grantsOf approvalId l ++ grantsOf approvalId m := List.filterMap_append

theorem revocationsOf_append (approvalId : String) (l m : List AgentRunLedgerEntry) :
    revocationsOf approvalId (l ++ m) = revocationsOf approvalId l ++ revocationsOf approvalId m :=
  List.filterMap_append

theorem mem_grantsOf {approvalId : String} {entries : List AgentRunLedgerEntry} {g : AgentApprovalGrant}
    {keyId : String} (h : (g, keyId) ∈ grantsOf approvalId entries) :
    g.approvalId = approvalId ∧ ∃ e ∈ entries, e.event = .grant g ∧ e.signature.keyId = keyId := by
  obtain ⟨e, he, hsome⟩ := List.mem_filterMap.mp h
  cases hevent : e.event with
  | grant g' =>
    simp only [hevent, Option.ite_none_right_eq_some, Option.some.injEq, Prod.mk.injEq] at hsome
    obtain ⟨hid, rfl, rfl⟩ := hsome
    exact ⟨hid, e, he, hevent, rfl⟩
  | revocation r => simp [hevent] at hsome
  | preflight p => simp [hevent] at hsome

/-- A grant of a verified ledger has well-formed identities. -/
theorem grant_shapes {entries : List AgentRunLedgerEntry} (hvalid : (verifyAgentRunLedger crypto entries none).valid)
    {approvalId keyId : String} {g : AgentApprovalGrant} (h : (g, keyId) ∈ grantsOf approvalId entries) :
    isPrefixedHash "approval-" approvalId ∧ isPrefixedHash "proposal-" g.proposalId := by
  obtain ⟨rfl, e, he, hevent, -⟩ := mem_grantsOf h
  obtain ⟨_, _, hv⟩ := verified_of_mem hvalid he
  have hgrant := hv.event
  simp only [hevent, AgentGovernanceEvent.validate, AgentApprovalGrant.validate, bind_ok, exists_unit, pattern,
    check_eq_ok] at hgrant
  exact ⟨hgrant.2.1, hgrant.2.2.2.2.2.1⟩

/-! ## What an active approval needs -/

/-- The ledger and the moment under which a grant releases its proposal. -/
structure Released (crypto : Crypto) (entries : List AgentRunLedgerEntry) (approvalId proposalId : String)
    (trusted : List String) (g : AgentApprovalGrant) (t : Int) : Prop where
  verified : (verifyAgentRunLedger crypto entries none).valid
  signers : ∀ e ∈ entries, e.signature.keyId ∈ trusted
  granted : ∃ keyId, grantsOf approvalId entries = [(g, keyId)]
  proposal : g.proposalId = proposalId
  issued : g.issuedAt.val.instant ≤ t
  unexpired : t < g.expiresAt.val.instant
  single : (revocationsOf approvalId entries).length ≤ 1
  unrevoked : ∀ r ∈ revocationsOf approvalId entries, r.isConsistent g ∧ t < r.revokedAt.val.instant

theorem windowStatus_active {g : AgentApprovalGrant} {u : UtcDatetime} :
    windowStatus g u = .active ↔ g.issuedAt.val.instant ≤ u.val.instant ∧ u.val.instant < g.expiresAt.val.instant := by
  unfold windowStatus
  split
  · simp only [reduceCtorEq, false_iff]
    omega
  · split
    · simp only [reduceCtorEq, false_iff]
      omega
    · simp only [true_iff]
      omega

section resolution
variable {entries : List AgentRunLedgerEntry} {approvalId proposalId : String} {trusted : List String}

theorem resolveAt_verified (hvalid : (verifyAgentRunLedger crypto entries none).valid)
    (htrusted : ∀ e ∈ entries, e.signature.keyId ∈ trusted) (u : UtcDatetime) :
    resolveAt crypto entries approvalId proposalId u trusted =
      resolveGrants approvalId proposalId u (grantsOf approvalId entries) (revocationsOf approvalId entries) := by
  have hany : (entries.any fun e => !trusted.contains e.signature.keyId) = false := by
    rw [List.any_eq_false]
    intro e he
    simpa using htrusted e he
  simp only [resolveAt, hvalid, hany, Bool.not_true, Bool.false_eq_true, if_false]

/-- Without an effective revocation the clock decides. -/
theorem resolveGrant_unrevoked {g : AgentApprovalGrant} {keyId : String} {revocations : List AgentApprovalRevocation}
    {u : UtcDatetime} (hp : g.proposalId = proposalId) (hone : revocations.length ≤ 1)
    (hr : ∀ r ∈ revocations, r.isConsistent g ∧ u.val.instant < r.revokedAt.val.instant) :
    (resolveGrant approvalId proposalId u g keyId revocations).status = windowStatus g u := by
  match revocations, hone, hr with
  | [], _, _ => simp [resolveGrant, hp, observation]
  | [r], _, hr =>
    obtain ⟨hc, hlater⟩ := hr r (List.mem_singleton_self r)
    simp [resolveGrant, hp, hc, Int.not_le.mpr hlater, observation]

theorem resolveGrant_active {g : AgentApprovalGrant} {keyId : String} {revocations : List AgentApprovalRevocation}
    {u : UtcDatetime} :
    (resolveGrant approvalId proposalId u g keyId revocations).status = .active ↔
      g.proposalId = proposalId ∧ windowStatus g u = .active ∧ revocations.length ≤ 1 ∧
        ∀ r ∈ revocations, r.isConsistent g ∧ u.val.instant < r.revokedAt.val.instant := by
  constructor
  · unfold resolveGrant
    by_cases hp : g.proposalId = proposalId
    · match revocations with
      | [] => simp [hp, observation]
      | [r] =>
        by_cases hc : r.isConsistent g
        · by_cases ht : r.revokedAt.val.instant ≤ u.val.instant
          · simp [hp, hc, ht, observation]
          · simp [hp, hc, ht, observation, Int.not_le.mp ht]
        · simp [hp, hc, observation]
      | _ :: _ :: _ => simp [hp, observation]
    · simp [hp, observation]
  · rintro ⟨hp, hw, hone, hr⟩
    rw [resolveGrant_unrevoked hp hone hr, hw]

theorem resolveGrants_active {grants : List (AgentApprovalGrant × String)} {revocations : List AgentApprovalRevocation}
    {u : UtcDatetime} :
    (resolveGrants approvalId proposalId u grants revocations).status = .active ↔
      ∃ g keyId, grants = [(g, keyId)] ∧ (resolveGrant approvalId proposalId u g keyId revocations).status = .active := by
  match grants with
  | [] => simp [resolveGrants, observation]
  | [(g, keyId)] => simp [resolveGrants]
  | _ :: _ :: _ => simp [resolveGrants, observation]

theorem resolveAt_active {u : UtcDatetime} :
    (resolveAt crypto entries approvalId proposalId u trusted).status = .active ↔
      ∃ g, Released crypto entries approvalId proposalId trusted g u.val.instant := by
  by_cases hvalid : (verifyAgentRunLedger crypto entries none).valid
  · by_cases htrusted : ∀ e ∈ entries, e.signature.keyId ∈ trusted
    · rw [resolveAt_verified hvalid htrusted, resolveGrants_active]
      constructor
      · rintro ⟨g, keyId, hg, hactive⟩
        obtain ⟨hp, hw, hone, hr⟩ := resolveGrant_active.mp hactive
        obtain ⟨hissued, hexpires⟩ := windowStatus_active.mp hw
        exact ⟨g, hvalid, htrusted, ⟨keyId, hg⟩, hp, hissued, hexpires, hone, hr⟩
      · rintro ⟨g, h⟩
        obtain ⟨keyId, hg⟩ := h.granted
        have hw := windowStatus_active.mpr ⟨h.issued, h.unexpired⟩
        exact ⟨g, keyId, hg, resolveGrant_active.mpr ⟨h.proposal, hw, h.single, h.unrevoked⟩⟩
    · have hany : (entries.any fun e => !trusted.contains e.signature.keyId) = true := by
        push Not at htrusted
        obtain ⟨e, he, hne⟩ := htrusted
        exact List.any_eq_true.mpr ⟨e, he, by simpa using hne⟩
      refine iff_of_false ?_ fun ⟨g, h⟩ => htrusted h.signers
      simp only [resolveAt, hvalid, hany, Bool.not_true, Bool.false_eq_true, if_false, if_true, observation]
      exact nofun
  · refine iff_of_false ?_ fun ⟨g, h⟩ => hvalid h.verified
    simp [resolveAt, hvalid, observation]

/-- What a later release says about now. -/
theorem status_before_release {more : List AgentRunLedgerEntry} {g : AgentApprovalGrant} {t : Int} {u : UtcDatetime}
    (h : Released crypto (entries ++ more) approvalId proposalId trusted g t) (ht : u.val.instant ≤ t) :
    (resolveAt crypto entries approvalId proposalId u trusted).status ∈
      [AgentApprovalStatus.active, .notFound, .notYetValid] := by
  have hvalid := verify_initial h.verified (List.prefix_append entries more)
  rw [resolveAt_verified hvalid fun e he => h.signers e (List.mem_append_left _ he)]
  obtain ⟨keyId, hg⟩ := h.granted
  rw [grantsOf_append] at hg
  have hwindow : windowStatus g u ∈ [AgentApprovalStatus.active, .notFound, .notYetValid] := by
    have hexpires := h.unexpired
    unfold windowStatus
    split
    · simp
    · split
      · omega
      · simp
  have hsingle := h.single
  have hunrevoked := h.unrevoked
  rw [revocationsOf_append] at hsingle hunrevoked
  rw [List.length_append] at hsingle
  have hbefore : ∀ r ∈ revocationsOf approvalId entries, r.isConsistent g ∧ u.val.instant < r.revokedAt.val.instant := by
    intro r hr
    obtain ⟨hc, hlater⟩ := hunrevoked r (List.mem_append_left _ hr)
    exact ⟨hc, by omega⟩
  rcases List.append_eq_singleton_iff.mp hg with ⟨hnone, -⟩ | ⟨hone, -⟩
  · simp [hnone, resolveGrants, observation]
  · rw [hone, resolveGrants, resolveGrant_unrevoked h.proposal (by omega) hbefore]
    exact hwindow

/-- Entries that are neither grants nor revocations of an approval do not show
in its resolution. -/
theorem resolveAt_frame {more : List AgentRunLedgerEntry}
    (hvalid : (verifyAgentRunLedger crypto (entries ++ more) none).valid)
    (htrusted : ∀ e ∈ entries ++ more, e.signature.keyId ∈ trusted) (hgrants : grantsOf approvalId more = [])
    (hrevocations : revocationsOf approvalId more = []) (u : UtcDatetime) :
    resolveAt crypto (entries ++ more) approvalId proposalId u trusted =
      resolveAt crypto entries approvalId proposalId u trusted := by
  rw [resolveAt_verified hvalid htrusted, resolveAt_verified (verify_initial hvalid (List.prefix_append _ _))
    fun e he => htrusted e (List.mem_append_left _ he), grantsOf_append, revocationsOf_append, hgrants, hrevocations,
    List.append_nil, List.append_nil]

end resolution

/-! ## Resolution of arguments -/

theorem utc_eq_ok {t : Datetime} {field : String} {u : UtcDatetime} :
    utc t field = .ok u ↔ t.utcoffset ≠ none ∧ u.val.instant = t.instant := by
  unfold utc
  by_cases h : t.utcoffset = none
  · simp [h]
  · rw [if_neg h, ← astimezoneUtc_eq_some]
    cases t.astimezoneUtc <;> simp [h]

theorem resolveAgentApproval_eq_ok {entries : List AgentRunLedgerEntry} {approvalId proposalId : String} {t : Datetime}
    {trusted : List String} {o : AgentApprovalObservation} :
    resolveAgentApproval crypto entries approvalId proposalId t trusted = .ok o ↔
      isPrefixedHash "approval-" approvalId ∧ isPrefixedHash "proposal-" proposalId ∧ ∃ u : UtcDatetime,
        (t.utcoffset ≠ none ∧ u.val.instant = t.instant) ∧
          resolveAt crypto entries approvalId proposalId u trusted = o := by
  simp only [resolveAgentApproval, bind_ok, exists_unit, prefixedHash, check_eq_ok, utc_eq_ok, pure, Except.pure,
    Except.ok.injEq]

/-- **Fail-closed resolution.** An approval is active exactly when the whole
ledger and the one grant release it at that moment. A status other than active,
not found and not yet valid excludes active for any later time and any longer
ledger. -/
theorem approval_active_iff (crypto : Crypto) (entries : List AgentRunLedgerEntry) (approvalId proposalId : String)
    (t : Datetime) (trusted : List String) :
    ((∃ o, resolveAgentApproval crypto entries approvalId proposalId t trusted = .ok o ∧ o.status = .active) ↔
      t.utcoffset ≠ none ∧ ∃ g, Released crypto entries approvalId proposalId trusted g t.instant) ∧
    ∀ o, resolveAgentApproval crypto entries approvalId proposalId t trusted = .ok o →
      o.status ∉ [AgentApprovalStatus.active, .notFound, .notYetValid] →
      ∀ t' more, t.instant ≤ t'.instant → ¬ ∃ o',
        resolveAgentApproval crypto (entries ++ more) approvalId proposalId t' trusted = .ok o' ∧
          o'.status = .active := by
  constructor
  · constructor
    · rintro ⟨o, ho, hactive⟩
      obtain ⟨-, -, u, ⟨haware, hinstant⟩, rfl⟩ := resolveAgentApproval_eq_ok.mp ho
      obtain ⟨g, hg⟩ := resolveAt_active.mp hactive
      exact ⟨haware, g, hinstant ▸ hg⟩
    · rintro ⟨haware, g, hg⟩
      obtain ⟨keyId, hgrant⟩ := hg.granted
      obtain ⟨ha, hp⟩ := grant_shapes hg.verified (hgrant ▸ List.mem_singleton_self _)
      -- the moment lies between two UTC datetimes
      have hlow := instant_bounds g.issuedAt
      have hhigh := instant_bounds g.expiresAt
      have hrange : 0 ≤ t.instant ∧ t.instant < maxMicros := ⟨hlow.1.trans hg.issued, hg.unexpired.trans hhigh.2⟩
      obtain ⟨u, hu⟩ := exists_utc hrange
      exact ⟨_, resolveAgentApproval_eq_ok.mpr ⟨ha, hg.proposal ▸ hp, u, ⟨haware, hu⟩, rfl⟩,
        resolveAt_active.mpr ⟨g, hu ▸ hg⟩⟩
  · rintro o ho hstatus t' more ht ⟨o', ho', hactive⟩
    obtain ⟨-, -, u, ⟨-, hu⟩, rfl⟩ := resolveAgentApproval_eq_ok.mp ho
    obtain ⟨-, -, u', ⟨-, hu'⟩, rfl⟩ := resolveAgentApproval_eq_ok.mp ho'
    obtain ⟨g, hg⟩ := resolveAt_active.mp hactive
    exact hstatus (status_before_release hg (by omega))

/-- **Approval frame.** -/
theorem approval_frame (crypto : Crypto) (entries : List AgentRunLedgerEntry) (e : AgentRunLedgerEntry)
    (trusted : List String) (hvalid : (verifyAgentRunLedger crypto (entries ++ [e]) none).valid)
    (htrusted : ∀ x ∈ entries ++ [e], x.signature.keyId ∈ trusted) (approvalId : String)
    (hgrant : ∀ g, e.event = .grant g → g.approvalId ≠ approvalId)
    (hrevocation : ∀ r, e.event = .revocation r → r.approvalId ≠ approvalId) (proposalId : String) (t : Datetime) :
    resolveAgentApproval crypto (entries ++ [e]) approvalId proposalId t trusted =
      resolveAgentApproval crypto entries approvalId proposalId t trusted := by
  have hg : grantsOf approvalId [e] = [] := by
    cases hevent : e.event with
    | grant g => simp [grantsOf, hevent, hgrant g hevent]
    | revocation r => simp [grantsOf, hevent]
    | preflight p => simp [grantsOf, hevent]
  have hr : revocationsOf approvalId [e] = [] := by
    cases hevent : e.event with
    | grant g => simp [revocationsOf, hevent]
    | revocation r => simp [revocationsOf, hevent, hrevocation r hevent]
    | preflight p => simp [revocationsOf, hevent]
  simp only [resolveAgentApproval, resolveAt_frame hvalid htrusted hg hr]

theorem approval_frame_two_grants :
    resolveAgentApproval TwoGrants.suite (inMemoryLedger TwoGrants.suite TwoGrants.calls) TwoGrants.first.approvalId
        TwoGrants.first.proposalId TwoGrants.first.issuedAt.val ["ed25519-" ++ TwoGrants.keyDigest.val] =
      resolveAgentApproval TwoGrants.suite [TwoGrants.firstEntry] TwoGrants.first.approvalId
        TwoGrants.first.proposalId TwoGrants.first.issuedAt.val ["ed25519-" ++ TwoGrants.keyDigest.val] := by
  have hvalid : (verifyAgentRunLedger TwoGrants.suite ([TwoGrants.firstEntry] ++ [TwoGrants.secondEntry]) none).valid := by
    have h := inMemoryLedger_valid TwoGrants.calls TwoGrants.signedInjective
    rw [TwoGrants.ledger_eq] at h
    exact h
  have hkey : ∀ e ∈ [TwoGrants.firstEntry] ++ [TwoGrants.secondEntry],
      e.signature.keyId ∈ ["ed25519-" ++ TwoGrants.keyDigest.val] := by
    intro e he
    rw [← TwoGrants.signerKeyId_eq, List.mem_singleton]
    rcases List.mem_pair.mp he with he | he
    · rw [he, TwoGrants.firstEntry, nextEntry_signature]
      rfl
    · rw [he, TwoGrants.secondEntry, nextEntry_signature]
      rfl
  have hevent : TwoGrants.secondEntry.event = .grant TwoGrants.second := rfl
  have hother : ∀ g, TwoGrants.secondEntry.event = .grant g → g.approvalId ≠ TwoGrants.first.approvalId := by
    intro g hg h
    rw [hevent] at hg
    rw [← AgentGovernanceEvent.grant.inj hg] at h
    exact TwoGrants.digests_ne ((String.append_right_inj "approval-").mp h)
  rw [TwoGrants.ledger_eq]
  exact approval_frame TwoGrants.suite [TwoGrants.firstEntry] TwoGrants.secondEntry _ hvalid hkey _ hother
    (fun r hr => by rw [hevent] at hr; cases hr) _ _

end AtlasPulse
