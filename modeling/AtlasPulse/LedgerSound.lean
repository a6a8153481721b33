import AtlasPulse.GovernanceSound
import AtlasPulse.Ledger

/-!
# Integrity of built ledgers

What appends build is accepted, prefix by prefix, and what is accepted under
keys that signed only one built ledger is a prefix of it.
-/

namespace AtlasPulse

open PyJson PyTime

variable {crypto : Crypto}

/-! ## Building one entry -/

theorem literal_self (value : String) : literal [value] value = .ok () := by
  simp [literal, check_eq_ok]

theorem event_shapes {event : AgentGovernanceEvent} (h : event.validate crypto = .ok ()) :
    isPrefixedHash "manifest-" (eventMetadata event).manifestId ∧
      isPrefixedHash "proposal-" (eventMetadata event).proposalId := by
  cases event with
  | grant g =>
    simp only [AgentGovernanceEvent.validate, AgentApprovalGrant.validate, bind_ok, exists_unit, pattern,
      check_eq_ok] at h
    exact ⟨h.2.2.2.2.2.2.1, h.2.2.2.2.2.1⟩
  | revocation r =>
    simp only [AgentGovernanceEvent.validate, AgentApprovalRevocation.validate, bind_ok, exists_unit, pattern,
      check_eq_ok] at h
    exact ⟨h.2.2.2.2.2.2.2.1, h.2.2.2.2.2.2.1⟩
  | preflight p =>
    simp only [AgentGovernanceEvent.validate, AgentPreflightRecord.validate, bind_ok, exists_unit, pattern,
      check_eq_ok] at h
    exact ⟨h.2.2.2.2.2.1, h.2.2.2.2.2.2.1⟩

theorem signedEntry_verified {event : AgentGovernanceEvent} {sequence : Int} {previous : Option String}
    {signer : crypto.PrivateKey} (hevent : event.validate crypto = .ok ())
    (hgenesis : sequence = 1 ↔ previous = none) (hprevious : ∀ id ∈ previous, isPrefixedHash "ledger-" id) :
    VerifiedEntry crypto (signedEntry crypto event sequence previous signer) (crypto.publicKeyBytes signer)
      (crypto.sign signer (canonicalJsonBytes (.obj (entryPayload sequence previous event)))) where
  schemaVersion := rfl
  ruleVersion := rfl
  identityAlgorithm := rfl
  algorithm := rfl
  entryShape := isPrefixedHash_append _ _
  genesis := hgenesis
  previousShape := hprevious
  event := hevent
  metadata := rfl
  keyText := rfl
  keyLength := crypto.publicKeyBytes_length signer
  keyId := rfl
  valueText := rfl
  valueLength := crypto.sign_length _ _
  verifies := crypto.verify_sign _ _
  identity := rfl

theorem validate_of_verified {e : AgentRunLedgerEntry} {publicKey signature : Bytes}
    (h : VerifiedEntry crypto e publicKey signature) (hsequence : 1 ≤ e.sequence) : e.validate crypto = .ok () := by
  have hshapes := event_shapes h.event
  rw [h.metadata] at hshapes
  have hkey : isPrefixedHash "ed25519-" e.signature.keyId := h.keyId ▸ isPrefixedHash_append _ _
  have hverify : verifyEntry crypto e = .ok () := verifyEntry_eq_ok.mpr ⟨_, _, h⟩
  simp only [AgentRunLedgerEntry.validate, bind_ok, exists_unit, pattern, check_eq_ok, forM_ok, h.schemaVersion,
    h.ruleVersion, h.identityAlgorithm, h.algorithm, literal_self, decide_eq_true_eq]
  exact ⟨h.entryShape, trivial, trivial, trivial, hsequence, h.previousShape, hshapes.1, hshapes.2, h.event, trivial,
    hkey, hverify⟩

theorem event_of_validate {e : AgentRunLedgerEntry} (h : e.validate crypto = .ok ()) :
    e.event.validate crypto = .ok () := by
  simp only [AgentRunLedgerEntry.validate, bind_ok, exists_unit] at h
  exact h.2.2.2.2.2.2.2.2.1

/-- The entry that a call adds to a ledger. -/
def nextEntry (crypto : Crypto) (entries : List AgentRunLedgerEntry) (call : AppendCall crypto) : AgentRunLedgerEntry :=
  signedEntry crypto call.event (entries.length + 1) (entries.getLast?.map (·.entryId)) call.signer

theorem nextEntry_entryId (entries : List AgentRunLedgerEntry) (call : AppendCall crypto) :
    (nextEntry crypto entries call).entryId =
      "ledger-" ++ (crypto.sha256 (signedBytes (nextEntry crypto entries call))).val := rfl

theorem nextEntry_signature (entries : List AgentRunLedgerEntry) (call : AppendCall crypto) :
    (nextEntry crypto entries call).signature =
      signPayload crypto call.signer (payloadBytes (nextEntry crypto entries call)) := rfl

section valid
variable {entries : List AgentRunLedgerEntry} (hvalid : (verifyAgentRunLedger crypto entries none).valid)
include hvalid

theorem last_shape : ∀ id ∈ entries.getLast?.map (·.entryId), isPrefixedHash "ledger-" id := by
  intro id hid
  obtain ⟨e, he, rfl⟩ := Option.map_eq_some_iff.mp (Option.mem_def.mp hid)
  obtain ⟨_, _, hv⟩ := verified_of_mem hvalid (List.mem_of_getLast? he)
  exact hv.entryShape

omit hvalid in
theorem genesis_next : (entries.length : Int) + 1 = 1 ↔ entries.getLast?.map (·.entryId) = none := by
  rw [Option.map_eq_none_iff, List.getLast?_eq_none_iff, ← List.length_eq_zero_iff]
  omega

theorem nextEntry_verified {call : AppendCall crypto} (h : call.event.validate crypto = .ok ()) :
    ∃ publicKey signature, VerifiedEntry crypto (nextEntry crypto entries call) publicKey signature :=
  ⟨_, _, signedEntry_verified h genesis_next (last_shape hvalid)⟩

/-- A call builds its entry exactly when its event is valid. -/
theorem build_next {call : AppendCall crypto} {e : AgentRunLedgerEntry} :
    buildSignedLedgerEntry crypto call.event (entries.length + 1) (entries.getLast?.map (·.entryId)) call.signer =
        .ok e ↔ call.event.validate crypto = .ok () ∧ e = nextEntry crypto entries call := by
  simp only [buildSignedLedgerEntry, bind_ok, exists_unit, prefixedHash, check_eq_ok, forM_ok, genesis_check,
    decide_eq_true_eq]
  constructor
  · rintro ⟨_, _, hval, he⟩
    exact ⟨event_of_validate hval, (Except.ok.inj he).symm⟩
  · rintro ⟨hevent, he⟩
    obtain ⟨_, _, hv⟩ := nextEntry_verified hvalid hevent
    have hone : 1 ≤ (nextEntry crypto entries call).sequence := by
      show (1 : Int) ≤ entries.length + 1
      omega
    exact ⟨genesis_next, last_shape hvalid, validate_of_verified hv hone, by rw [he]; rfl⟩

/-- The calls that a ledger takes. -/
def Accepts (crypto : Crypto) (entries : List AgentRunLedgerEntry) (call : AppendCall crypto) : Prop :=
  call.event.validate crypto = .ok () ∧ (eventMetadata call.event).artifactId ∉ entries.map (·.artifactId)

theorem verify_nextEntry {call : AppendCall crypto} (ha : Accepts crypto entries call)
    (hfresh : (nextEntry crypto entries call).entryId ∉ entries.map (·.entryId)) :
    (verifyAgentRunLedger crypto (entries ++ [nextEntry crypto entries call]) none).valid := by
  refine verify_valid_iff.mpr (Chain.admitted_snoc.mpr ⟨verify_valid_iff.mp hvalid, ?_⟩)
  exact
    { sequence := rfl
      previous := rfl
      freshEntry := hfresh
      freshArtifact := ha.2
      trusted := by simp
      verified := verifyEntry_eq_ok.mpr (nextEntry_verified hvalid ha.1) }

/-! ## One append -/

theorem inMemory_append_accepted {call : AppendCall crypto} (ha : Accepts crypto entries call) :
    InMemoryAgentRunLedger.append crypto entries call =
      (.ok (nextEntry crypto entries call), entries ++ [nextEntry crypto entries call]) := by
  have hany : entries.any (·.artifactId = (nextEntry crypto entries call).artifactId) = false := by
    rw [List.any_eq_false]
    intro e he
    have hne : e.artifactId ≠ (eventMetadata call.event).artifactId := fun h => ha.2 (h ▸ List.mem_map_of_mem he)
    exact fun h => hne (of_decide_eq_true h)
  rw [InMemoryAgentRunLedger.append, (build_next hvalid).mpr ⟨ha.1, rfl⟩]
  simp only [hany, Bool.false_eq_true, if_false]

theorem inMemory_append_rejected {call : AppendCall crypto} (ha : ¬ Accepts crypto entries call) :
    ∃ message, InMemoryAgentRunLedger.append crypto entries call = (.error message, entries) := by
  unfold InMemoryAgentRunLedger.append
  split
  · exact ⟨_, rfl⟩
  · rename_i entry hbuild
    obtain ⟨hevent, rfl⟩ := (build_next hvalid).mp hbuild
    have hdup : (eventMetadata call.event).artifactId ∈ entries.map (·.artifactId) := by
      by_contra h
      exact ha ⟨hevent, h⟩
    obtain ⟨e, he, heq⟩ := List.mem_map.mp hdup
    rw [if_pos (List.any_eq_true.mpr ⟨e, he, decide_eq_true heq⟩)]
    exact ⟨_, rfl⟩

/-! ## The table holds the entries -/

theorem sequence_pairwise : entries.Pairwise fun a b => a.sequence < b.sequence := by
  rw [List.pairwise_iff_getElem]
  intro i j hi hj hij
  rw [(numbered_of_valid hvalid).at_index hi, (numbered_of_valid hvalid).at_index hj]
  omega

theorem entries_of_rows : PostgresAgentRunLedger.entries crypto (entries.map ledgerRow) = .ok entries := by
  have hsorted : (entries.map ledgerRow).Pairwise fun a b => a.sequenceNo ≤ b.sequenceNo :=
    List.pairwise_map.mpr ((sequence_pairwise hvalid).imp fun h => h.le)
  have hread : ∀ r ∈ entries.map ledgerRow, entryFromDatabase crypto r = .ok r.entryJson := by
    intro r hr
    obtain ⟨e, he, rfl⟩ := List.mem_map.mp hr
    obtain ⟨_, _, hv⟩ := verified_of_mem hvalid he
    obtain ⟨i, hi, rfl⟩ := List.getElem_of_mem he
    have hone : 1 ≤ entries[i].sequence := by
      rw [(numbered_of_valid hvalid).at_index hi]
      omega
    simp only [entryFromDatabase, ledgerRow, bind_ok]
    exact ⟨(), validate_of_verified hv hone, rfl⟩
  rw [PostgresAgentRunLedger.entries, hsorted.insertionSort_eq, mapM_of_ok hread, List.map_map]
  show Except.ok (entries.map id) = _
  rw [List.map_id]

/-- No entry of a ledger follows its head. -/
theorem head_unfollowed {e : AgentRunLedgerEntry} (he : e ∈ entries) :
    entries.getLast?.map (·.entryId) ≠ e.previousEntryId := by
  have hadm := verify_valid_iff.mp hvalid
  rcases List.eq_nil_or_concat entries with rfl | ⟨l, x, rfl⟩
  · cases he
  rw [List.concat_eq_append] at *
  obtain ⟨before, after, heq⟩ := List.append_of_mem he
  have hp : before ++ [e] <+: l ++ [x] := ⟨after, by simp [heq]⟩
  have hpl : before <+: l := by
    refine List.prefix_of_prefix_length_le ((List.prefix_append _ _).trans hp) (List.prefix_append _ _) ?_
    simpa using hp.length_le
  intro hhead
  rw [(hadm before e hp).previous, List.getLast?_concat] at hhead
  obtain ⟨y, hy, hyx⟩ := Option.map_eq_some_iff.mp hhead.symm
  have hmem : x.entryId ∈ l.map (·.entryId) :=
    List.mem_map.mpr ⟨y, hpl.subset (List.mem_of_getLast? hy), hyx⟩
  exact (Chain.admitted_snoc.mp hadm).2.freshEntry hmem

theorem insertEntry_admissible {e : AgentRunLedgerEntry} (ha : Admissible crypto none entries e) :
    insertEntry (entries.map ledgerRow) (ledgerRow e) = .ok ((entries ++ [e]).map ledgerRow) := by
  obtain ⟨_, _, hv⟩ := verifyEntry_eq_ok.mp ha.verified
  have hshapes := event_shapes hv.event
  rw [hv.metadata] at hshapes
  have hkey : isPrefixedHash "ed25519-" e.signature.keyId := hv.keyId ▸ isPrefixedHash_append _ _
  have hnumber : ∀ x ∈ entries, x.sequence ≠ e.sequence := by
    intro x hx
    obtain ⟨i, hi, rfl⟩ := List.getElem_of_mem hx
    rw [(numbered_of_valid hvalid).at_index hi, ha.sequence]
    omega
  have hfollow : ∀ x ∈ entries, x.previousEntryId ≠ e.previousEntryId := by
    intro x hx h
    exact head_unfollowed hvalid hx (ha.previous ▸ h.symm)
  have hgenesis : e.previousEntryId = none → ∀ x ∈ entries, x.previousEntryId.isSome := by
    intro h x hx
    exact Option.isSome_iff_ne_none.mpr (h ▸ hfollow x hx)
  have hhead : ∀ id ∈ e.previousEntryId, ∃ x ∈ entries, x.entryId = id := by
    intro id hid
    rw [ha.previous] at hid
    obtain ⟨x, hx, rfl⟩ := Option.map_eq_some_iff.mp (Option.mem_def.mp hid)
    exact ⟨x, List.mem_of_getLast? hx, rfl⟩
  have hpositive : 0 < e.sequence := by
    rw [ha.sequence]
    omega
  simp only [insertEntry, bind_ok, exists_unit, check_eq_ok, genesis_check, decide_eq_true_eq, List.all_eq_true,
    Bool.or_eq_true, Option.all_eq_true, List.any_eq_true, List.mem_map, exists_exists_and_eq_and, forall_exists_index, and_imp, forall_apply_eq_imp_iff₂]
  refine ⟨hpositive, hv.genesis, hv.entryShape, hshapes.1, hshapes.2, hkey, hnumber, ?_, ?_, ?_, ?_, ?_, ?_⟩
  · intro x hx h
    exact ha.freshEntry (List.mem_map.mpr ⟨x, hx, h⟩)
  · exact fun x hx => Or.inl (hfollow x hx)
  · intro x hx h
    exact ha.freshArtifact (List.mem_map.mpr ⟨x, hx, h⟩)
  · cases hp : e.previousEntryId with
    | none => exact Or.inl (hgenesis hp)
    | some id => exact Or.inr (by simp [ledgerRow, hp])
  · exact fun id hid => Or.inr (hhead id hid)
  · simp [pure, Except.pure]

omit hvalid in
theorem insertEntry_artifact {e : AgentRunLedgerEntry} {rows : List LedgerRow}
    (h : insertEntry (entries.map ledgerRow) (ledgerRow e) = .ok rows) : e.artifactId ∉ entries.map (·.artifactId) := by
  simp only [insertEntry, bind_ok, exists_unit, check_eq_ok, List.all_eq_true, List.mem_map, decide_eq_true_eq,
    forall_exists_index, and_imp, forall_apply_eq_imp_iff₂] at h
  rintro hmem
  obtain ⟨x, hx, heq⟩ := List.mem_map.mp hmem
  exact h.2.2.2.2.2.2.2.2.2.1 x hx heq

theorem postgres_append_accepted {call : AppendCall crypto} (ha : Accepts crypto entries call)
    (hfresh : (nextEntry crypto entries call).entryId ∉ entries.map (·.entryId)) :
    PostgresAgentRunLedger.append crypto (entries.map ledgerRow) (call, none) =
      (.ok (nextEntry crypto entries call), (entries ++ [nextEntry crypto entries call]).map ledgerRow) := by
  have hadm := (Chain.admitted_snoc.mp (verify_valid_iff.mp (verify_nextEntry hvalid ha hfresh))).2
  have htransaction : PostgresAgentRunLedger.transaction crypto (entries.map ledgerRow) call =
      .ok (nextEntry crypto entries call, (entries ++ [nextEntry crypto entries call]).map ledgerRow) := by
    simp only [PostgresAgentRunLedger.transaction, bind_ok, exists_unit, check_eq_ok]
    exact ⟨entries, entries_of_rows hvalid, hvalid, _, (build_next hvalid).mpr ⟨ha.1, rfl⟩, _,
      insertEntry_admissible hvalid hadm, rfl⟩
  rw [PostgresAgentRunLedger.append, htransaction]

theorem postgres_append_rejected {call : AppendCall crypto} (ha : ¬ Accepts crypto entries call)
    (fault : Option String) : ∃ message,
      PostgresAgentRunLedger.append crypto (entries.map ledgerRow) (call, fault) =
        (.error message, entries.map ledgerRow) := by
  cases htransaction : PostgresAgentRunLedger.transaction crypto (entries.map ledgerRow) call with
  | error e => exact ⟨e, by rw [PostgresAgentRunLedger.append, htransaction]⟩
  | ok r =>
    simp only [PostgresAgentRunLedger.transaction, bind_ok, exists_unit] at htransaction
    obtain ⟨l, hl, -, e, hbuild, rows, hinsert, -⟩ := htransaction
    obtain rfl : entries = l := Except.ok.inj ((entries_of_rows hvalid).symm.trans hl)
    obtain ⟨hevent, rfl⟩ := (build_next hvalid).mp hbuild
    exact absurd ⟨hevent, insertEntry_artifact hinsert⟩ ha

omit hvalid in
theorem postgres_append_fault {call : AppendCall crypto} {rows : List LedgerRow} {fault : String} :
    (PostgresAgentRunLedger.append crypto rows (call, some fault)).2 = rows := by
  unfold PostgresAgentRunLedger.append
  split <;> simp_all

end valid

/-! ## Runs of appends -/

def inMemoryLedger (crypto : Crypto) (calls : List (AppendCall crypto)) : List AgentRunLedgerEntry :=
  Machine.run (InMemoryAgentRunLedger.append crypto) [] calls

def postgresTable (crypto : Crypto) (attempts : List (AppendCall crypto × Option String)) : List LedgerRow :=
  Machine.run (PostgresAgentRunLedger.append crypto) [] attempts

/-- The attempts that the database did not fail. -/
def unfailed (attempts : List (AppendCall crypto × Option String)) : List (AppendCall crypto) :=
  (attempts.filter (·.2.isNone)).map Prod.fst

/-- SHA-256 is injective on the signed contents of the entries. -/
def SignedInjective (crypto : Crypto) (entries : List AgentRunLedgerEntry) : Prop :=
  Set.InjOn crypto.sha256 {b | b ∈ entries.map signedBytes}

theorem SignedInjective.of_initial {l m : List AgentRunLedgerEntry} (h : SignedInjective crypto m) (hp : l <+: m) :
    SignedInjective crypto l :=
  h.mono fun _ hb => (hp.map signedBytes).subset hb

theorem SignedInjective.pair {a b : AgentRunLedgerEntry}
    (h : crypto.sha256 (signedBytes a) ≠ crypto.sha256 (signedBytes b)) : SignedInjective crypto [a, b] := by
  have hmem : ∀ x, x ∈ {y | y ∈ [a, b].map signedBytes} → x = signedBytes a ∨ x = signedBytes b :=
    fun x hx => List.mem_pair.mp hx
  intro x hx y hy heq
  rcases hmem x hx with hx | hx <;> rcases hmem y hy with hy | hy
  · rw [hx, hy]
  · rw [hx, hy] at heq
    exact absurd heq h
  · rw [hx, hy] at heq
    exact absurd heq.symm h
  · rw [hx, hy]

theorem payload_member {a b : AgentRunLedgerEntry} (h : signedBytes a = signedBytes b) : a.sequence = b.sequence := by
  have hm := member_of_dumps_eq (encodeUtf8_injective h) "sequence"
  simpa [signedContent, entryPayload, member, sortKeys] using hm

/-- Entries at different places have different identities. -/
theorem nextEntry_fresh {entries : List AgentRunLedgerEntry} {call : AppendCall crypto}
    (hvalid : (verifyAgentRunLedger crypto entries none).valid)
    (hsha : SignedInjective crypto (entries ++ [nextEntry crypto entries call])) :
    (nextEntry crypto entries call).entryId ∉ entries.map (·.entryId) := by
  intro hmem
  obtain ⟨x, hx, heq⟩ := List.mem_map.mp hmem
  obtain ⟨_, _, hv⟩ := verified_of_mem hvalid hx
  have hdigest : crypto.sha256 (signedBytes x) = crypto.sha256 (signedBytes (nextEntry crypto entries call)) := by
    rw [hv.identity, nextEntry_entryId] at heq
    exact Subtype.ext (String.append_right_inj _ |>.mp heq)
  have hbytes := hsha (List.mem_map_of_mem (by simp [hx])) (List.mem_map_of_mem (by simp)) hdigest
  have hsequence := payload_member hbytes
  obtain ⟨i, hi, rfl⟩ := List.getElem_of_mem hx
  rw [(numbered_of_valid hvalid).at_index hi] at hsequence
  have hlast : (nextEntry crypto entries call).sequence = entries.length + 1 := rfl
  omega

theorem inMemoryLedger_snoc (calls : List (AppendCall crypto)) (call : AppendCall crypto) :
    inMemoryLedger crypto (calls ++ [call]) =
      (InMemoryAgentRunLedger.append crypto (inMemoryLedger crypto calls) call).2 :=
  Machine.run_snoc _ _ _ _

theorem inMemoryLedger_grows (calls : List (AppendCall crypto)) (call : AppendCall crypto) :
    inMemoryLedger crypto calls <+: inMemoryLedger crypto (calls ++ [call]) := by
  rw [inMemoryLedger_snoc, InMemoryAgentRunLedger.append]
  split
  · exact List.prefix_refl _
  · split
    · exact List.prefix_refl _
    · exact List.prefix_append _ _

/-- **Built ledgers verify.** -/
theorem inMemoryLedger_valid (calls : List (AppendCall crypto))
    (hsha : SignedInjective crypto (inMemoryLedger crypto calls)) :
    (verifyAgentRunLedger crypto (inMemoryLedger crypto calls) none).valid := by
  induction calls using List.reverseRecOn with
  | nil => exact verify_valid_iff.mpr Chain.admitted_nil
  | append_singleton calls call ih =>
    have hvalid := ih (hsha.of_initial (inMemoryLedger_grows calls call))
    rw [inMemoryLedger_snoc] at hsha ⊢
    by_cases ha : Accepts crypto (inMemoryLedger crypto calls) call
    · rw [inMemory_append_accepted hvalid ha] at hsha ⊢
      exact verify_nextEntry hvalid ha (nextEntry_fresh hvalid hsha)
    · obtain ⟨message, h⟩ := inMemory_append_rejected hvalid ha
      rw [h]
      exact hvalid

/-- **The table refines the list.** -/
theorem postgresTable_eq (attempts : List (AppendCall crypto × Option String))
    (hsha : SignedInjective crypto (inMemoryLedger crypto (unfailed attempts))) :
    postgresTable crypto attempts = (inMemoryLedger crypto (unfailed attempts)).map ledgerRow := by
  induction attempts using List.reverseRecOn with
  | nil => rfl
  | append_singleton attempts attempt ih =>
    obtain ⟨call, fault⟩ := attempt
    have hrun : postgresTable crypto (attempts ++ [(call, fault)]) =
        (PostgresAgentRunLedger.append crypto (postgresTable crypto attempts) (call, fault)).2 :=
      Machine.run_snoc _ _ _ _
    cases fault with
    | some fault =>
      have hsame : unfailed (attempts ++ [(call, some fault)]) = unfailed attempts := by simp [unfailed]
      rw [hrun, postgres_append_fault, hsame]
      exact ih (hsame ▸ hsha)
    | none =>
      have hmore : unfailed (attempts ++ [(call, none)]) = unfailed attempts ++ [call] := by simp [unfailed]
      rw [hmore] at hsha ⊢
      have hbefore := hsha.of_initial (inMemoryLedger_grows (unfailed attempts) call)
      have hvalid := inMemoryLedger_valid _ hbefore
      rw [hrun, ih hbefore, inMemoryLedger_snoc]
      rw [inMemoryLedger_snoc] at hsha
      by_cases ha : Accepts crypto (inMemoryLedger crypto (unfailed attempts)) call
      · rw [inMemory_append_accepted hvalid ha] at hsha ⊢
        rw [postgres_append_accepted hvalid ha (nextEntry_fresh hvalid hsha)]
      · obtain ⟨message, h⟩ := inMemory_append_rejected hvalid ha
        obtain ⟨message', h'⟩ := postgres_append_rejected hvalid ha none
        rw [h, h']

/-- Valid events with distinct artifacts are all appended. -/
theorem inMemoryLedger_events (calls : List (AppendCall crypto))
    (hsha : SignedInjective crypto (inMemoryLedger crypto calls))
    (hevents : ∀ c ∈ calls, c.event.validate crypto = .ok ())
    (hdistinct : (calls.map fun c => (eventMetadata c.event).artifactId).Nodup) :
    (inMemoryLedger crypto calls).map (·.event) = calls.map (·.event) ∧
      (inMemoryLedger crypto calls).map (·.artifactId) = calls.map fun c => (eventMetadata c.event).artifactId := by
  induction calls using List.reverseRecOn with
  | nil => exact ⟨rfl, rfl⟩
  | append_singleton calls call ih =>
    rw [List.map_append, List.nodup_append] at hdistinct
    have hbefore := hsha.of_initial (inMemoryLedger_grows calls call)
    obtain ⟨hev, hart⟩ := ih hbefore (fun c hc => hevents c (List.mem_append_left _ hc)) hdistinct.1
    have ha : Accepts crypto (inMemoryLedger crypto calls) call := by
      refine ⟨hevents call (by simp), fun hmem => ?_⟩
      rw [hart] at hmem
      exact hdistinct.2.2 _ hmem _ (by simp) rfl
    rw [inMemoryLedger_snoc, inMemory_append_accepted (inMemoryLedger_valid _ hbefore) ha]
    simp only [List.map_append, hev, hart]
    exact ⟨rfl, rfl⟩

/-! ## Tamper evidence -/

/-- A verified entry dumps its identity, its payload and its signature. -/
theorem modelDump_eq {e : AgentRunLedgerEntry} {publicKey signature : Bytes}
    (h : VerifiedEntry crypto e publicKey signature) :
    e.modelDump = .obj (("entry_id", .str e.entryId) ::
      (entryPayload e.sequence e.previousEntryId e.event ++ [("signature", e.signature.modelDump)])) := by
  simp only [AgentRunLedgerEntry.modelDump, entryPayload, h.metadata, h.schemaVersion, h.ruleVersion,
    h.identityAlgorithm, List.cons_append, List.nil_append]

theorem payload_members {a b : AgentRunLedgerEntry} (h : payloadBytes a = payloadBytes b) :
    sortMembers (entryPayload a.sequence a.previousEntryId a.event) =
      sortMembers (entryPayload b.sequence b.previousEntryId b.event) := by
  refine sortMembers_of_dumps_eq (encodeUtf8_injective h) rfl ?_
  show (["schema_version", "rule_version", "identity_algorithm", "sequence", "previous_entry_id", "event_type",
    "occurred_at", "artifact_id", "manifest_id", "proposal_id", "event"] : List String).Nodup
  decide

theorem payload_sequence {a b : AgentRunLedgerEntry} (h : payloadBytes a = payloadBytes b) :
    a.sequence = b.sequence := by
  have hm := member_of_dumps_eq (encodeUtf8_injective h) "sequence"
  simpa [entryPayload, member, sortKeys] using hm

/-- Verified entries with one payload and one signature are one entry. -/
theorem ledgerEntryJson_eq {a b : AgentRunLedgerEntry} {p s p' s' : Bytes} (ha : VerifiedEntry crypto a p s)
    (hb : VerifiedEntry crypto b p' s') (hpayload : payloadBytes a = payloadBytes b)
    (hsignature : a.signature = b.signature) : ledgerEntryJson a = ledgerEntryJson b := by
  have hmembers := payload_members hpayload
  have hsigned : signedBytes a = signedBytes b := by
    simp only [signedBytes, canonicalJsonBytes, signedContent, dumps, sortKeys, sortMembers_append, hmembers, hsignature]
  have hid : a.entryId = b.entryId := by rw [ha.identity, hb.identity, hsigned]
  simp only [ledgerEntryJson, modelDump_eq ha, modelDump_eq hb, dumps, sortKeys, sortMembers, sortMembers_append,
    hmembers, hsignature, hid]

/-- The holders of the trusted keys have signed only entries of one ledger, and
the presented entries carry neither a forged signature nor a public key that
collides with a trusted one. -/
structure Custody (crypto : Crypto) (trusted : List String) (signed : crypto.PrivateKey → Bytes → Prop)
    (ledger presented : List AgentRunLedgerEntry) : Prop where
  held : ∀ id ∈ trusted, ∃ key, signerKeyId crypto key = id
  only : ∀ key message, signerKeyId crypto key ∈ trusted → signed key message →
    ∃ l ∈ ledger, payloadBytes l = message ∧ l.signature = signPayload crypto key message
  unforged : ∀ e ∈ presented, ∀ key signature, signerKeyId crypto key ∈ trusted →
    e.signature.value = encodeBase64 signature →
    crypto.verify (crypto.publicKeyBytes key) signature (payloadBytes e) = true →
    signed key (payloadBytes e) ∧ signature = crypto.sign key (payloadBytes e)
  keyHash : ∀ e ∈ presented, ∀ key publicKey, signerKeyId crypto key ∈ trusted →
    e.signature.publicKey = encodeBase64 publicKey →
    crypto.sha256 publicKey = crypto.sha256 (crypto.publicKeyBytes key) → publicKey = crypto.publicKeyBytes key

/-- Every presented entry that verifies under a trusted key is one of the ledger. -/
theorem presented_mem {trusted : List String} {signed : crypto.PrivateKey → Bytes → Prop}
    {ledger presented : List AgentRunLedgerEntry} (hc : Custody crypto trusted signed ledger presented)
    (hledger : (verifyAgentRunLedger crypto ledger none).valid) {e : AgentRunLedgerEntry} (he : e ∈ presented)
    {publicKey signature : Bytes} (hv : VerifiedEntry crypto e publicKey signature)
    (htrusted : e.signature.keyId ∈ trusted) :
    ∃ l ∈ ledger, e.sequence = l.sequence ∧ ledgerEntryJson e = ledgerEntryJson l := by
  obtain ⟨key, hkey⟩ := hc.held _ htrusted
  have hkey' : signerKeyId crypto key ∈ trusted := hkey ▸ htrusted
  have hdigest : crypto.sha256 publicKey = crypto.sha256 (crypto.publicKeyBytes key) := by
    rw [hv.keyId, signerKeyId] at hkey
    exact (Subtype.ext ((String.append_right_inj _).mp hkey)).symm
  obtain rfl := hc.keyHash e he key publicKey hkey' hv.keyText hdigest
  obtain ⟨hsigned, rfl⟩ := hc.unforged e he key signature hkey' hv.valueText hv.verifies
  obtain ⟨l, hl, hpayload, hsignature⟩ := hc.only key _ hkey' hsigned
  obtain ⟨_, _, hvl⟩ := verified_of_mem hledger hl
  have hsame : e.signature = l.signature := by
    rw [hsignature]
    have h1 := hv.algorithm
    have h2 := hv.keyText
    have h3 := hv.keyId
    have h4 := hv.valueText
    cases hs : e.signature
    rw [hs] at h1 h2 h3 h4
    simp only at h1 h2 h3 h4
    rw [h1, h2, h3, h4]
    rfl
  exact ⟨l, hl, payload_sequence hpayload.symm, ledgerEntryJson_eq hv hvl hpayload.symm hsame⟩

/-- **Tamper evidence.** -/
theorem accepted_prefix {trusted : List String} {signed : crypto.PrivateKey → Bytes → Prop}
    {ledger presented : List AgentRunLedgerEntry} (hc : Custody crypto trusted signed ledger presented)
    (hledger : (verifyAgentRunLedger crypto ledger none).valid)
    (hpresented : (verifyAgentRunLedger crypto presented (some trusted)).valid) :
    presented.map ledgerEntryJson <+: ledger.map ledgerEntryJson := by
  refine (numbered_of_valid hpresented).prefix_of_shown (numbered_of_valid hledger) fun e he => ?_
  obtain ⟨_, _, hv⟩ := verified_of_mem hpresented he
  exact presented_mem hc hledger he hv ((verify_trusted_iff.mp hpresented).2 trusted rfl e he)

/-- **Ledger integrity.** The in-memory ledger of any calls, which is also what
Postgres holds after any attempts of which these calls did not fail: it holds
distinct valid artifacts one by one, all its prefixes verify, and what verifies
under keys that signed nothing else is a prefix of it. -/
theorem ledger_integrity (crypto : Crypto) (calls : List (AppendCall crypto))
    (hsha : SignedInjective crypto (inMemoryLedger crypto calls)) :
    ((∀ c ∈ calls, c.event.validate crypto = .ok ()) →
      (calls.map fun c => (eventMetadata c.event).artifactId).Nodup →
      (inMemoryLedger crypto calls).map (·.event) = calls.map (·.event)) ∧
    (∀ attempts, unfailed attempts = calls →
      PostgresAgentRunLedger.entries crypto (postgresTable crypto attempts) = .ok (inMemoryLedger crypto calls)) ∧
    (∀ l, l <+: inMemoryLedger crypto calls → ∀ trusted,
      (verifyAgentRunLedger crypto l trusted).valid = true ↔
        ∀ ids ∈ trusted, ∀ e ∈ l, e.signature.keyId ∈ ids) ∧
    ∀ trusted signed presented, Custody crypto trusted signed (inMemoryLedger crypto calls) presented →
      (verifyAgentRunLedger crypto presented (some trusted)).valid = true →
      presented.map ledgerEntryJson <+: (inMemoryLedger crypto calls).map ledgerEntryJson := by
  have hvalid := inMemoryLedger_valid calls hsha
  refine ⟨fun hevents hdistinct => (inMemoryLedger_events calls hsha hevents hdistinct).1, ?_, ?_, ?_⟩
  · rintro attempts rfl
    rw [postgresTable_eq attempts hsha, entries_of_rows hvalid]
  · intro l hl trusted
    rw [verify_trusted_iff]
    exact and_iff_right (verify_initial hvalid hl)
  · intro trusted signed presented hc hpresented
    exact accepted_prefix hc hvalid hpresented

/-! ## Two grants under one key -/

namespace TwoGrants

theorem clock_inRange {hour : Nat} (h : hour < 24) : 63924940800000000 + hour * 3600000000 < maxMicros := by
  simp only [maxMicros, usPerDay]
  omega

theorem clock_isUtc {hour : Nat} (h : hour < 24) :
    Datetime.isUtc ⟨63924940800000000 + hour * 3600000000, some 0, clock_inRange h, offsetBound_zero⟩ := by
  simp [Datetime.isUtc]

/-- 2026-09-14 at the hour. -/
def clock (hour : Nat) (h : hour < 24) : UtcDatetime :=
  ⟨⟨63924940800000000 + hour * 3600000000, some 0, clock_inRange h, offsetBound_zero⟩, clock_isUtc h⟩

def firstDigest : HexDigest := ⟨"e186c1757ecefc7ce79d5f3ff93c2c9f0d804680943120753ec2bcb29176b2ec", by decide +kernel⟩

def secondDigest : HexDigest := ⟨"37991cefb0db1028c7a4d70d5a1bdb6ffdddec881131d100359849623ee03966", by decide +kernel⟩

def firstEntryDigest : HexDigest :=
  ⟨"c4d5f7897f6d7a18c8ef87ffe7643b643e0763db9a56a2cd9be2ea79c43b5564", by decide +kernel⟩

def secondEntryDigest : HexDigest :=
  ⟨"2a368fb7072443cf27cd0bd637727c7a82ced1a7a8bb90574bed221eddbf537b", by decide +kernel⟩

def keyDigest : HexDigest := ⟨"21fe31dfa154a261626bf854046fd2271b7bed4b6abe45aa58877ef47f9721b9", by decide +kernel⟩

def grant (proposal : Char) (digest : HexDigest) : AgentApprovalGrant where
  artifactType := "approval"
  approvalId := "approval-" ++ digest.val
  schemaVersion := agentApprovalSchemaVersion
  ruleVersion := agentApprovalRuleVersion
  identityAlgorithm := agentRunLedgerIdentityAlgorithm
  proposalId := "proposal-" ++ String.ofList (List.replicate 64 proposal)
  sourceManifestId := "manifest-" ++ String.ofList (List.replicate 64 'c')
  policyVersion := "agent-authorization-v3"
  approver := ⟨"github:12345", .humanReleaseApprover⟩
  issuedAt := clock 9 (by decide)
  expiresAt := clock 10 (by decide)
  reason := "Reviewed the exact evidence-bound proposal."
  caveat := agentApprovalCaveat

def first : AgentApprovalGrant := grant 'a' firstDigest

def second : AgentApprovalGrant := grant 'b' secondDigest

def publicKey : Bytes :=
  [215, 90, 152, 1, 130, 177, 10, 183, 213, 75, 254, 211, 201, 100, 7, 58, 14, 225, 114, 243, 218, 166, 35, 37, 175, 2,
    26, 104, 247, 7, 81, 26]

def firstSignature : Bytes :=
  [142, 67, 224, 34, 125, 66, 144, 217, 218, 148, 83, 4, 207, 167, 72, 84, 251, 230, 222, 109, 225, 106, 251, 228, 159,
    213, 245, 156, 96, 81, 246, 186, 11, 35, 52, 215, 188, 45, 222, 104, 151, 154, 74, 46, 177, 121, 62, 232, 118, 53, 8,
    143, 71, 134, 223, 150, 9, 157, 69, 151, 36, 197, 30, 2]

def secondSignature : Bytes :=
  [12, 42, 129, 255, 228, 141, 104, 231, 17, 156, 87, 50, 192, 250, 158, 43, 241, 52, 38, 194, 207, 174, 63, 228, 187,
    246, 225, 145, 181, 144, 113, 148, 244, 172, 37, 182, 9, 252, 248, 246, 125, 216, 146, 134, 80, 85, 124, 193, 44, 176,
    106, 41, 79, 163, 196, 58, 228, 186, 149, 244, 174, 191, 185, 9]

def firstPayload : List (String × Json) := entryPayload 1 none (.grant first)

def secondPayload : List (String × Json) :=
  entryPayload 2 (some ("ledger-" ++ firstEntryDigest.val)) (.grant second)

def signedWith (value : Bytes) : AgentRunLedgerSignature :=
  ⟨agentRunLedgerSignatureAlgorithm, "ed25519-" ++ keyDigest.val, encodeBase64 publicKey, encodeBase64 value⟩

/-- The digests and the signatures that SHA-256 and one Ed25519 key give on
these messages. -/
def digest (message : Bytes) : HexDigest :=
  if message = publicKey then keyDigest
  else if message = canonicalJsonBytes (modelPayload first.modelDump "approval_id") then firstDigest
  else if message = canonicalJsonBytes (modelPayload second.modelDump "approval_id") then secondDigest
  else if message = canonicalJsonBytes (signedContent firstPayload (signedWith firstSignature)) then firstEntryDigest
  else secondEntryDigest

def signature (message : Bytes) : Bytes :=
  if message = canonicalJsonBytes (.obj firstPayload) then firstSignature
  else if message = canonicalJsonBytes (.obj secondPayload) then secondSignature
  else List.replicate 64 0

theorem length_signature (message : Bytes) : (signature message).length = 64 := by
  unfold signature
  split
  · rfl
  · split <;> rfl

def suite : Crypto where
  sha256 := digest
  PrivateKey := Unit
  publicKeyBytes _ := publicKey
  sign _ message := signature message
  verify key value message := key = publicKey ∧ value = signature message
  publicKeyBytes_length _ := rfl
  sign_length _ message := length_signature message
  verify_sign _ message := by simp

theorem suite_sha256 (message : Bytes) : suite.sha256 message = digest message := rfl

def calls : List (AppendCall suite) := [⟨.grant first, ()⟩, ⟨.grant second, ()⟩]

theorem ne_publicKey (members : List (String × Json)) : canonicalJsonBytes (.obj members) ≠ publicKey := by
  intro h
  have hhead := head_canonicalJsonBytes members
  rw [h] at hhead
  exact absurd hhead (by decide)

theorem digest_first : digest (canonicalJsonBytes (modelPayload first.modelDump "approval_id")) = firstDigest := by
  exact (if_neg (ne_publicKey _)).trans (if_pos rfl)

theorem second_ne_first : canonicalJsonBytes (modelPayload second.modelDump "approval_id") ≠
    canonicalJsonBytes (modelPayload first.modelDump "approval_id") := by
  refine canonicalJsonBytes_ne "proposal_id" ?_
  simp [modelPayload, AgentApprovalGrant.modelDump, member, sortKeys, first, second, grant]

theorem digest_second : digest (canonicalJsonBytes (modelPayload second.modelDump "approval_id")) = secondDigest := by
  exact (if_neg (ne_publicKey _)).trans ((if_neg second_ne_first).trans (if_pos rfl))

/-- An entry's content is no approval's. -/
theorem signed_ne_payload (payload : List (String × Json)) (hsequence : (member "sequence" (.obj payload)).isSome)
    (s : AgentRunLedgerSignature) (g : AgentApprovalGrant) :
    canonicalJsonBytes (signedContent payload s) ≠ canonicalJsonBytes (modelPayload g.modelDump "approval_id") := by
  refine canonicalJsonBytes_ne "sequence" ?_
  obtain ⟨v, hv⟩ := Option.isSome_iff_exists.mp hsequence
  simp only [member, Option.map_eq_some_iff] at hv
  obtain ⟨m, hm, rfl⟩ := hv
  simp [signedContent, modelPayload, AgentApprovalGrant.modelDump, member, List.find?_append, hm]

theorem digest_firstEntry :
    digest (canonicalJsonBytes (signedContent firstPayload (signedWith firstSignature))) = firstEntryDigest := by
  exact (if_neg (ne_publicKey _)).trans ((if_neg (signed_ne_payload _ rfl _ _)).trans
    ((if_neg (signed_ne_payload _ rfl _ _)).trans (if_pos rfl)))

theorem expectedId_eq (g : AgentApprovalGrant) : g.expectedId suite =
    "approval-" ++ (digest (canonicalJsonBytes (modelPayload g.modelDump "approval_id"))).val := rfl

theorem grant_valid {proposal : Char} {d : HexDigest}
    (hd : digest (canonicalJsonBytes (modelPayload (grant proposal d).modelDump "approval_id")) = d)
    (hp : isPrefixedHash "proposal-" (grant proposal d).proposalId) :
    (AgentGovernanceEvent.grant (grant proposal d)).validate suite = .ok () := by
  have hid : (grant proposal d).approvalId = (grant proposal d).expectedId suite := by
    rw [expectedId_eq, hd]
    rfl
  simp only [AgentGovernanceEvent.validate, AgentApprovalGrant.validate, bind_ok, exists_unit, check_eq_ok, pattern,
    decide_eq_true_eq]
  have hexpiry : (clock 9 (by decide)).val.instant < (clock 10 (by decide)).val.instant := by decide
  have hlife : (clock 10 (by decide)).val.instant - (clock 9 (by decide)).val.instant ≤ agentApprovalMaxTtl := by decide
  refine ⟨literal_self _, isPrefixedHash_append _ _, literal_self _, literal_self _, literal_self _, hp, ?_, ?_, ?_,
    ?_, literal_self _, rfl, hexpiry, hlife, hid⟩
  · show isPrefixedHash "manifest-" ("manifest-" ++ String.ofList (List.replicate 64 'c')) = true
    decide
  · show literal ["agent-authorization-v2", "agent-authorization-v3"] "agent-authorization-v3" = .ok ()
    decide
  · show GovernanceActor.validate ⟨"github:12345", .humanReleaseApprover⟩ = .ok ()
    decide
  · show reason "Reviewed the exact evidence-bound proposal." "reason" = .ok ()
    decide

theorem valid : ∀ c ∈ calls, c.event.validate suite = .ok () := by
  have hfirst := grant_valid digest_first (by decide)
  have hsecond := grant_valid digest_second (by decide)
  intro c hc
  rcases List.mem_cons.mp hc with hc | hc
  · rw [hc]
    exact hfirst
  · rw [List.mem_singleton.mp hc]
    exact hsecond

def firstEntry : AgentRunLedgerEntry := nextEntry suite [] ⟨.grant first, ()⟩

def secondEntry : AgentRunLedgerEntry := nextEntry suite [firstEntry] ⟨.grant second, ()⟩

theorem signPayload_eq {message value : Bytes} (h : signature message = value) :
    signPayload suite () message = signedWith value := by
  have hkey : digest publicKey = keyDigest := if_pos rfl
  show AgentRunLedgerSignature.mk _ ("ed25519-" ++ (digest publicKey).val) _ (encodeBase64 (signature message)) = _
  rw [hkey, h]
  rfl

theorem payload_firstEntry :
    entryPayload firstEntry.sequence firstEntry.previousEntryId firstEntry.event = firstPayload := rfl

theorem signature_firstEntry : firstEntry.signature = signedWith firstSignature := by
  rw [firstEntry, nextEntry_signature, ← firstEntry, payloadBytes, payload_firstEntry]
  exact signPayload_eq (if_pos rfl)

theorem digest_signed_first : suite.sha256 (signedBytes firstEntry) = firstEntryDigest := by
  rw [signedBytes, signature_firstEntry, payload_firstEntry, suite_sha256, digest_firstEntry]

theorem firstEntry_entryId : firstEntry.entryId = "ledger-" ++ firstEntryDigest.val := by
  rw [firstEntry, nextEntry_entryId, ← firstEntry, digest_signed_first]

theorem payload_secondEntry :
    entryPayload secondEntry.sequence secondEntry.previousEntryId secondEntry.event = secondPayload := by
  show entryPayload 2 (some firstEntry.entryId) (.grant second) = _
  rw [firstEntry_entryId]
  rfl

theorem digest_signed_second : suite.sha256 (signedBytes secondEntry) = secondEntryDigest := by
  rw [signedBytes, payload_secondEntry, suite_sha256]
  have hfirst : canonicalJsonBytes (signedContent secondPayload secondEntry.signature) ≠
      canonicalJsonBytes (signedContent firstPayload (signedWith firstSignature)) := by
    refine canonicalJsonBytes_ne "sequence" ?_
    simp [signedContent, secondPayload, firstPayload, entryPayload, member, sortKeys]
  exact (if_neg (ne_publicKey _)).trans ((if_neg (signed_ne_payload _ rfl _ _)).trans
    ((if_neg (signed_ne_payload _ rfl _ _)).trans (if_neg hfirst)))

theorem accepts_first : Accepts suite [] ⟨.grant first, ()⟩ :=
  ⟨valid ⟨.grant first, ()⟩ List.mem_cons_self, List.not_mem_nil⟩

theorem digests_ne : secondDigest.val ≠ firstDigest.val :=
  fun h => absurd (congrArg (fun s : String => s.toList.head?) h) (by decide)

theorem accepts_second : Accepts suite [firstEntry] ⟨.grant second, ()⟩ := by
  have hfirst : firstEntry.artifactId = "approval-" ++ firstDigest.val := rfl
  refine ⟨valid ⟨.grant second, ()⟩ (List.mem_cons_of_mem _ List.mem_cons_self), ?_⟩
  rw [List.map_cons, List.map_nil, List.mem_singleton, hfirst]
  exact fun h => digests_ne ((String.append_right_inj _).mp h)

theorem ledger_eq : inMemoryLedger suite calls = [firstEntry, secondEntry] := by
  have hnil : (verifyAgentRunLedger suite [] none).valid := rfl
  have hone : (verifyAgentRunLedger suite ([] ++ [firstEntry]) none).valid :=
    verify_nextEntry hnil accepts_first List.not_mem_nil
  have hfirst : InMemoryAgentRunLedger.append suite [] ⟨.grant first, ()⟩ = (.ok firstEntry, [firstEntry]) :=
    inMemory_append_accepted hnil accepts_first
  have hsecond : InMemoryAgentRunLedger.append suite [firstEntry] ⟨.grant second, ()⟩ =
      (.ok secondEntry, [firstEntry, secondEntry]) := inMemory_append_accepted hone accepts_second
  rw [inMemoryLedger, calls, Machine.run, hfirst, Machine.run, hsecond, Machine.run_nil]

theorem signedInjective : SignedInjective suite (inMemoryLedger suite calls) := by
  have hne : firstEntryDigest ≠ secondEntryDigest := by decide
  rw [ledger_eq]
  apply SignedInjective.pair
  rw [digest_signed_first, digest_signed_second]
  exact hne

theorem signerKeyId_eq : signerKeyId suite () = "ed25519-" ++ keyDigest.val := by
  have hkey : digest publicKey = keyDigest := if_pos rfl
  rw [← hkey]
  rfl

/-- The key has signed the payloads of the two entries. -/
theorem custody : Custody suite ["ed25519-" ++ keyDigest.val]
    (fun _ message => message ∈ (inMemoryLedger suite calls).map payloadBytes) (inMemoryLedger suite calls)
    [firstEntry] where
  held := by
    intro id hid
    rw [List.mem_singleton.mp hid]
    exact ⟨(), signerKeyId_eq⟩
  only := by
    intro key message _ hsigned
    obtain ⟨e, he, rfl⟩ := List.mem_map.mp hsigned
    refine ⟨e, he, rfl, ?_⟩
    rw [ledger_eq] at he
    rcases List.mem_cons.mp he with rfl | he
    · rfl
    · rw [List.mem_singleton.mp he]
      rfl
  unforged := by
    intro e he key value _ hvalue _
    rw [List.mem_singleton.mp he] at hvalue ⊢
    refine ⟨List.mem_map_of_mem (by simp [ledger_eq]), ?_⟩
    exact encodeBase64_injective hvalue.symm
  keyHash := by
    intro e he key bytes _ hbytes _
    rw [List.mem_singleton.mp he] at hbytes
    exact encodeBase64_injective hbytes.symm

end TwoGrants

theorem ledger_integrity_two_grants :
    (inMemoryLedger TwoGrants.suite TwoGrants.calls).map (·.event) = [.grant TwoGrants.first, .grant TwoGrants.second] ∧
    PostgresAgentRunLedger.entries TwoGrants.suite
        (postgresTable TwoGrants.suite
          [(⟨.grant TwoGrants.first, ()⟩, none), (⟨.grant TwoGrants.second, ()⟩, some "connection lost"),
            (⟨.grant TwoGrants.second, ()⟩, none)]) =
      .ok (inMemoryLedger TwoGrants.suite TwoGrants.calls) ∧
    (verifyAgentRunLedger TwoGrants.suite (inMemoryLedger TwoGrants.suite TwoGrants.calls) none).valid = true ∧
    [TwoGrants.firstEntry].map ledgerEntryJson <+:
      (inMemoryLedger TwoGrants.suite TwoGrants.calls).map ledgerEntryJson := by
  obtain ⟨hevents, hpostgres, hvalid, hprefix⟩ :=
    ledger_integrity TwoGrants.suite TwoGrants.calls TwoGrants.signedInjective
  have hdistinct : (TwoGrants.calls.map fun c => (eventMetadata c.event).artifactId).Nodup := by
    show ["approval-" ++ TwoGrants.firstDigest.val, "approval-" ++ TwoGrants.secondDigest.val].Nodup
    decide
  have hone : [TwoGrants.firstEntry] <+: inMemoryLedger TwoGrants.suite TwoGrants.calls := by
    rw [TwoGrants.ledger_eq]
    exact ⟨[TwoGrants.secondEntry], rfl⟩
  refine ⟨hevents TwoGrants.valid hdistinct, hpostgres _ rfl, (hvalid _ (List.prefix_refl _) none).mpr (by simp), ?_⟩
  refine hprefix _ _ _ TwoGrants.custody ((hvalid _ hone _).mpr ?_)
  intro ids hids e he
  obtain rfl := Option.some.inj hids
  rw [List.mem_singleton.mp he, TwoGrants.signature_firstEntry]
  exact List.mem_singleton_self _

end AtlasPulse
