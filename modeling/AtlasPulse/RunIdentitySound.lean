import AtlasPulse.AgentRunsSound
import AtlasPulse.EvidencePacksSound

/-!
# Identities of agent runs

The id of a proposal binds its evidence and its release, and the id of a
manifest binds all of it: what is written of each record determines the record.
The evidence carries the id of its pack, which binds the pack.
-/

namespace AtlasPulse

open PyJson PyTime

/-! ## Optional members and lists -/

theorem optionalText_inj {a b : Option String} (h : sortKeys (optionalText a) = sortKeys (optionalText b)) : a = b := by
  cases a <;> cases b <;> simp [optionalText, sortKeys] at h ⊢
  exact h

theorem optionalTime_inj {a b : Option UtcDatetime} (h : sortKeys (optionalTime a) = sortKeys (optionalTime b)) : a = b := by
  cases a with
  | none => cases b with
    | none => rfl
    | some t => simp [optionalTime, encodeExtra, sortKeys] at h
  | some t => cases b with
    | none => simp [optionalTime, encodeExtra, sortKeys] at h
    | some u => exact congrArg some (encodeExtra_injective h)

/-! ## Records -/

theorem AgentApprovalStatus.text_inj {a b : AgentApprovalStatus} (h : a.text = b.text) : a = b := by
  cases a <;> cases b <;> first | rfl | simp [AgentApprovalStatus.text] at h

theorem AgentReleaseStatus.text_inj {a b : AgentReleaseStatus} (h : a.text = b.text) : a = b := by
  cases a <;> cases b <;> first | rfl | simp [AgentReleaseStatus.text] at h

theorem runEvidence_inj {a b : AgentRunEvidence} (h : sortKeys a.asdict = sortKeys b.asdict) : a = b := by
  have hmembers := sortMembers_of_sortKeys_eq h rfl (by simp)
  simp only [sortMembers, sortKeys, List.cons.injEq, Prod.mk.injEq, true_and, and_true, Json.str.injEq, Json.int.injEq,
    Int.natCast_inj] at hmembers
  obtain ⟨hpack, hrule, hstatus, hitems, hexclusions, hcharacters, hids⟩ := hmembers
  obtain ⟨packId, packRuleVersion, packStatus, itemCount, exclusionCount, sourceTextCharacters, evidenceIds⟩ := a
  obtain rfl := EvidencePackStatus.text_inj hstatus
  obtain rfl := texts_inj hids
  simp_all

theorem releaseObservation_inj {a b : AgentReleaseObservation} (h : sortKeys a.asdict = sortKeys b.asdict) : a = b := by
  have hmembers := sortMembers_of_sortKeys_eq h rfl (by simp)
  simp only [sortMembers, List.cons.injEq, Prod.mk.injEq, true_and, and_true] at hmembers
  obtain ⟨h1, h2, h3, h4, h5, h6, h7, h8, h9, h10, h11, h12, h13, h14, h15⟩ := hmembers
  obtain ⟨a1, a2, a3, a4, a5, a6, a7, a8, a9, a10, a11, a12, a13, a14, a15⟩ := a
  obtain rfl := AgentReleaseStatus.text_inj (Json.str.inj h1)
  obtain rfl := optionalText_inj h2
  obtain rfl := optionalText_inj h3
  obtain rfl := optionalText_inj h4
  obtain rfl := optionalText_inj h5
  obtain rfl := optionalText_inj h6
  obtain rfl := optionalText_inj h7
  obtain rfl := texts_inj h8
  obtain rfl := Json.bool.inj h9
  obtain rfl := Json.bool.inj h10
  obtain rfl := Json.bool.inj h11
  obtain rfl := Json.bool.inj h12
  obtain rfl := Json.bool.inj h13
  obtain rfl := Json.bool.inj h14
  obtain rfl := texts_inj h15
  rfl

theorem approvalObservation_inj {a b : AgentApprovalObservation} (h : sortKeys a.asdict = sortKeys b.asdict) : a = b := by
  have hmembers := sortMembers_of_sortKeys_eq h rfl (by simp)
  simp only [sortMembers, List.cons.injEq, Prod.mk.injEq, true_and, and_true] at hmembers
  obtain ⟨h1, h2, h3, h4, h5, h6, h7, h8, h9, h10⟩ := hmembers
  obtain ⟨a1, a2, a3, a4, a5, a6, a7, a8, a9, a10⟩ := a
  obtain rfl := AgentApprovalStatus.text_inj (Json.str.inj h1)
  obtain rfl := optionalText_inj h2
  obtain rfl := optionalText_inj h3
  obtain rfl := optionalText_inj h4
  obtain rfl := optionalText_inj h5
  obtain rfl := optionalText_inj h6
  obtain rfl := optionalTime_inj h7
  obtain rfl := optionalTime_inj h8
  obtain rfl := optionalText_inj h9
  obtain rfl := optionalTime_inj h10
  rfl

/-! ## Proposals and manifests -/

/-- The bytes that the id of the proposal of a manifest is the hash of. -/
def AgentRunManifest.proposalBytes (p : AgentRunManifest) : Bytes :=
  canonicalJsonBytes (proposalPayload p.request p.evidence p.policy p.release)

/-- The bytes that the id of a manifest is the hash of. -/
def AgentRunManifest.bytes (p : AgentRunManifest) : Bytes :=
  canonicalJsonBytes (.obj (manifestPayload p.proposalId p.request p.evidence p.policy p.release p.approval
    p.authorization p.execution))

theorem proposalPayload_inj {evidence evidence' : AgentRunEvidence} {release release' : AgentReleaseObservation}
    (h : canonicalJsonBytes (proposalPayload .default evidence .default release) =
      canonicalJsonBytes (proposalPayload .default evidence' .default release')) :
    evidence = evidence' ∧ release = release' := by
  have hmembers := sortMembers_of_sortKeys_eq (canonicalJsonBytes_inj h) rfl (by simp)
  simp only [sortMembers, List.cons.injEq, Prod.mk.injEq, true_and, and_true] at hmembers
  exact ⟨runEvidence_inj hmembers.1, releaseObservation_inj hmembers.2⟩

section manifests
variable {sha256 : Bytes → HexDigest} {a b : EvidencePack} {release release' : AgentReleaseObservation}
  {approval approval' : AgentApprovalObservation}

/-- Of a pack the checks read only what its evidence says. -/
theorem decidedChecks_congr (h : runEvidence a = runEvidence b) :
    decidedChecks a release approval = decidedChecks b release approval := by
  have hstatus : a.status = b.status := congrArg (·.packStatus) h
  have hitems : a.items.length = b.items.length := congrArg (·.itemCount) h
  have hempty : a.items.isEmpty = b.items.isEmpty := by
    rw [Bool.eq_iff_iff, List.isEmpty_iff_length_eq_zero, List.isEmpty_iff_length_eq_zero, hitems]
  have htraceable : isTraceable a = isTraceable b := by rw [isTraceable, isTraceable, hstatus, hempty]
  rw [decidedChecks, decidedChecks, htraceable, hstatus]

theorem runManifest_congr (h : runEvidence a = runEvidence b) :
    runManifest sha256 a release approval = runManifest sha256 b release approval := by
  simp only [runManifest, runPayload, runProposal, decidedChecks_congr h, h]

theorem runManifest_inj
    (h : (runManifest sha256 a release approval).bytes = (runManifest sha256 b release' approval').bytes) :
    runEvidence a = runEvidence b ∧ release = release' ∧ approval = approval' := by
  simp only [AgentRunManifest.bytes, runManifest] at h
  have hmembers := sortMembers_of_sortKeys_eq (canonicalJsonBytes_inj h) (by simp [manifestPayload])
    (by simp [manifestPayload])
  simp only [manifestPayload, sortMembers, List.cons.injEq, Prod.mk.injEq, true_and, and_true] at hmembers
  obtain ⟨-, hevidence, hrelease, happroval, -⟩ := hmembers
  exact ⟨runEvidence_inj hevidence, releaseObservation_inj hrelease, approvalObservation_inj happroval⟩

theorem manifestId_iff
    (hsha : Set.InjOn sha256
      {(runManifest sha256 a release approval).bytes, (runManifest sha256 b release' approval').bytes}) :
    (runManifest sha256 a release approval).manifestId = (runManifest sha256 b release' approval').manifestId ↔
      runManifest sha256 a release approval = runManifest sha256 b release' approval' := by
  constructor
  · intro h
    have hhex := Subtype.ext ((String.append_right_inj _).mp h)
    obtain ⟨hevidence, rfl, rfl⟩ := runManifest_inj (hsha (Or.inl rfl) (Or.inr rfl) hhex)
    exact runManifest_congr hevidence
  · exact congrArg AgentRunManifest.manifestId

theorem proposalId_iff
    (hsha : Set.InjOn sha256
      {(runManifest sha256 a release approval).proposalBytes, (runManifest sha256 b release' approval').proposalBytes}) :
    (runManifest sha256 a release approval).proposalId = (runManifest sha256 b release' approval').proposalId ↔
      runEvidence a = runEvidence b ∧ release = release' := by
  constructor
  · intro h
    have hhex : sha256 (runManifest sha256 a release approval).proposalBytes =
        sha256 (runManifest sha256 b release' approval').proposalBytes :=
      Subtype.ext ((String.append_right_inj "proposal-").mp h)
    have hbytes := hsha (Or.inl rfl) (Or.inr rfl) hhex
    simp only [AgentRunManifest.proposalBytes, runManifest] at hbytes
    exact proposalPayload_inj hbytes
  · rintro ⟨hevidence, rfl⟩
    simp only [runManifest, runProposal, hevidence]

end manifests

/-! ## Packs -/

/-- Accepted packs under one id are one pack, unless their texts collide. -/
theorem samePack_of_packId {E : Type} {m : RetrievalModel E} {a b : EvidencePack}
    (ha : validateEvidencePackIdentity m a = .ok ()) (hb : validateEvidencePackIdentity m b = .ok ())
    (hsha : Set.InjOn m.sha256 {text | packText m a = .ok text ∨ packText m b = .ok text}) (hid : a.packId = b.packId) :
    a.status = b.status ∧ a.budget = b.budget ∧ SameRetrieval m a.retrieval b.retrieval ∧
      List.Forall₂ (SameItem m) a.items b.items ∧ List.Forall₂ (SameExclusion m) a.exclusions b.exclusions ∧
      a.sourceTextCharacters = b.sourceTextCharacters := by
  obtain ⟨-, v, hv, hav⟩ := accepted_identity ha
  obtain ⟨-, w, hw, hbw⟩ := accepted_identity hb
  have hhex : m.sha256 (dumps false v) = m.sha256 (dumps false w) := by
    rw [hav, hbw] at hid
    exact (String.append_right_inj _).mp hid
  have htext := hsha (Or.inl (map_ok.mpr ⟨v, hv, rfl⟩)) (Or.inr (map_ok.mpr ⟨w, hw, rfl⟩)) hhex
  exact samePack_of_json hv hw (dumps_inj htext)

/-- Built manifests are told apart by their ids, and their proposals by what a
human is asked to approve, down to every item of the evidence pack. -/
theorem run_ids_bind {E : Type} {m : RetrievalModel E} {sha256 : Bytes → HexDigest} {a b : EvidencePack}
    (ha : validateEvidencePackIdentity m a = .ok ()) (hb : validateEvidencePackIdentity m b = .ok ())
    {approval approval' : Option AgentApprovalObservation} {proposal proposal' : Option AgentRunProposal}
    {release release' : Option AgentReleaseObservation} {p q : AgentRunManifest}
    (hp : buildAgentRunManifest sha256 a approval proposal release = .ok p)
    (hq : buildAgentRunManifest sha256 b approval' proposal' release' = .ok q)
    (hpack : Set.InjOn m.sha256 {text | packText m a = .ok text ∨ packText m b = .ok text})
    (hproposal : Set.InjOn sha256 {p.proposalBytes, q.proposalBytes}) (hmanifest : Set.InjOn sha256 {p.bytes, q.bytes}) :
    (p.manifestId = q.manifestId ↔ p = q) ∧
      (p.proposalId = q.proposalId ↔ p.evidence = q.evidence ∧ p.release = q.release) ∧
      (p.evidence = q.evidence → a.status = b.status ∧ a.budget = b.budget ∧ SameRetrieval m a.retrieval b.retrieval ∧
        List.Forall₂ (SameItem m) a.items b.items ∧ List.Forall₂ (SameExclusion m) a.exclusions b.exclusions ∧
        a.sourceTextCharacters = b.sourceTextCharacters) := by
  obtain ⟨-, -, -, rfl⟩ := buildManifest_ok.mp hp
  obtain ⟨-, -, -, rfl⟩ := buildManifest_ok.mp hq
  exact ⟨manifestId_iff hmanifest, proposalId_iff hproposal, fun h => samePack_of_packId ha hb hpack
    (congrArg AgentRunEvidence.packId h)⟩

/-! ## Two manifests of one proposal -/

namespace QuakeRun

theorem digest_proposal (pack : EvidencePack) : digest pack (proposalBytes pack) = proposalDigest := if_pos rfl

theorem proposalId_eq (pack : EvidencePack) :
    (runProposal (digest pack) pack .default).proposalId = "proposal-" ++ proposalDigest.val := by
  show "proposal-" ++ (digest pack (proposalBytes pack)).val = _
  rw [digest_proposal]

theorem bytes_eq (pack : EvidencePack) (approval : AgentApprovalObservation) :
    (runManifest (digest pack) pack .default approval).bytes = manifestBytes pack approval := by
  simp only [AgentRunManifest.bytes, runManifest, manifestBytes, proposalId_eq]

theorem proposalBytes_eq (pack : EvidencePack) (approval : AgentApprovalObservation) :
    (runManifest (digest pack) pack .default approval).proposalBytes = proposalBytes pack := by
  simp only [AgentRunManifest.proposalBytes, runManifest, proposalBytes]

theorem manifest_ne_proposal (pack : EvidencePack) (approval : AgentApprovalObservation) :
    manifestBytes pack approval ≠ proposalBytes pack := by
  refine canonicalJsonBytes_ne "proposal_id" ?_
  simp [manifestPayload, proposalPayload, member]

theorem unavailable_ne (pack : EvidencePack) : manifestBytes pack unavailable ≠ manifestBytes pack .default := by
  intro h
  rw [← bytes_eq, ← bytes_eq] at h
  obtain ⟨-, -, happroval⟩ := runManifest_inj h
  simp [unavailable, observation, AgentApprovalObservation.default] at happroval

theorem digests_differ : manifestDigest ≠ unavailableDigest := by decide

theorem digest_manifest (pack : EvidencePack) : digest pack (manifestBytes pack .default) = manifestDigest :=
  (if_neg (manifest_ne_proposal pack .default)).trans (if_pos rfl)

theorem digest_unavailable (pack : EvidencePack) : digest pack (manifestBytes pack unavailable) = unavailableDigest :=
  (if_neg (manifest_ne_proposal pack unavailable)).trans (if_neg (unavailable_ne pack))

end QuakeRun

open QuakeRun QuakePack in
theorem run_ids_bind_quake :
    ∃ pack p q, buildEvidencePack reports result query none = .ok pack ∧
      buildAgentRunManifest (digest pack) pack none none none = .ok p ∧
      buildAgentRunManifest (digest pack) pack (some unavailable) none none = .ok q ∧
      p.proposalId = q.proposalId ∧ p.manifestId ≠ q.manifestId := by
  obtain ⟨pack, hbuild, hconsistent, haccepted⟩ := @build_accepted _ reports _ _ packable none rfl
  obtain ⟨outcomes, haccounts, hitems, -⟩ := hconsistent.accounted
  have hone : (pack.items.map (·.evidenceId)).length ≤ 1 := by
    rw [hitems, List.length_map]
    exact (List.length_filterMap_le _ outcomes).trans haccounts.length_eq.ge
  have hids := haccepted (nodup_of_length_le_one hone)
  have hp : buildAgentRunManifest (digest pack) pack none none none = .ok (runManifest (digest pack) pack .default .default) :=
    buildManifest_ok.mpr ⟨rfl, by simp, rfl, rfl⟩
  have hq : buildAgentRunManifest (digest pack) pack (some unavailable) none none =
      .ok (runManifest (digest pack) pack .default unavailable) := buildManifest_ok.mpr ⟨rfl, by simp, rfl, rfl⟩
  have htexts : Set.InjOn reports.sha256 {text | packText reports pack = .ok text ∨ packText reports pack = .ok text} := by
    rintro x (hx | hx) y (hy | hy) _ <;> exact Except.ok.inj (hx.symm.trans hy)
  have hbytes : Set.InjOn (digest pack) {(runManifest (digest pack) pack .default .default).bytes,
      (runManifest (digest pack) pack .default unavailable).bytes} := by
    refine Set.injOn_pair.mpr fun h => ?_
    rw [bytes_eq, bytes_eq, digest_manifest, digest_unavailable] at h
    exact absurd h digests_differ
  have hproposals : Set.InjOn (digest pack) {(runManifest (digest pack) pack .default .default).proposalBytes,
      (runManifest (digest pack) pack .default unavailable).proposalBytes} := by
    rw [proposalBytes_eq, proposalBytes_eq, Set.pair_eq_singleton]
    exact Set.injOn_singleton _ _
  obtain ⟨hmanifest, hproposal, -⟩ := run_ids_bind hids hids hp hq htexts hproposals hbytes
  refine ⟨pack, _, _, hbuild, hp, hq, hproposal.mpr ⟨rfl, rfl⟩, fun h => ?_⟩
  have happroval := congrArg AgentRunManifest.approval (hmanifest.mp h)
  simp [runManifest, unavailable, observation, AgentApprovalObservation.default] at happroval

end AtlasPulse
