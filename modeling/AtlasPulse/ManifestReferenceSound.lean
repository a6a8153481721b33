import AtlasPulse.GovernedRuns
import AtlasPulse.RunIdentitySound

/-!
# Manifest references

What the governance commands read off a manifest that a preflight built, and
that no other document passes for it.
-/

namespace AtlasPulse

open PyJson PyTime

variable {sha256 : Bytes → HexDigest}

/-! ## Accepted documents -/

/-- The members of the manifest that a document presents. -/
def presentedManifest : Json → Option (List (String × Json))
  | .obj document =>
    match (member "manifest" (.obj document)).getD (.obj document) with
    | .obj manifest => some manifest
    | _ => none
  | _ => none

/-- The members of which the id of a presented manifest is computed. -/
def unidentified (manifest : List (String × Json)) : List (String × Json) := manifest.filter fun m => m.1 ≠ "manifest_id"

/-- What is read off a manifest, and what was checked of it. -/
structure Referenced (sha256 : Bytes → HexDigest) (manifest : List (String × Json)) (r : ManifestReference) : Prop where
  identity : r.manifestId = "manifest-" ++ canonicalJsonSha256 sha256 (.obj (unidentified manifest))
  manifestId : member "manifest_id" (.obj manifest) = some (.str r.manifestId)
  proposalId : member "proposal_id" (.obj manifest) = some (.str r.proposalId)
  schema : isText agentRunSchemaVersion (member "schema_version" (.obj manifest))
  rule : isText agentRunRuleVersion (member "rule_version" (.obj manifest))
  algorithm : isText agentRunIdentityAlgorithm (member "identity_algorithm" (.obj manifest))
  blocked : isText "blocked" (member "status" (.obj manifest))
  scope : ∃ request evidence policy release, member "request" (.obj manifest) = some (.obj request) ∧
    member "evidence" (.obj manifest) = some (.obj evidence) ∧ member "policy" (.obj manifest) = some (.obj policy) ∧
    member "release" (.obj manifest) = some (.obj release) ∧
    r.proposalId = "proposal-" ++ canonicalJsonSha256 sha256 (manifestScope request evidence policy release) ∧
    isFalse (member "execution_enabled" (.obj policy)) ∧
    member "policy_version" (.obj policy) = some (.str r.policyVersion)
  version : r.policyVersion = agentAuthorizationPolicyVersion
  unstarted : ∃ execution, member "execution" (.obj manifest) = some (.obj execution) ∧ isNotStarted execution
  reasons : ∃ authorization, member "authorization" (.obj manifest) = some (.obj authorization) ∧
    asReasons (member "blocking_reasons" (.obj authorization)) = some r.blockingReasons
  reasoned : r.blockingReasons ≠ []

theorem asObject_ok {value : Option Json} {field : String} {members : List (String × Json)} :
    asObject value field = .ok members ↔ value = some (.obj members) := by
  unfold asObject
  split <;> simp_all

theorem asString_ok {value : Option Json} {field text : String} :
    asString value field = .ok text ↔ value = some (.str text) := by
  unfold asString
  split <;> simp_all

theorem presentedManifest_ok {root : Json} {manifest : List (String × Json)} :
    presentedManifest root = some manifest ↔
      ∃ document, root = .obj document ∧ (member "manifest" (.obj document)).getD root = .obj manifest := by
  unfold presentedManifest
  split
  · rename_i document
    split <;> simp_all
  · simp_all

theorem manifestReference_ok {root : Json} {r : ManifestReference} :
    manifestReference sha256 root = .ok r ↔
      ∃ manifest, presentedManifest root = some manifest ∧ Referenced sha256 manifest r := by
  simp only [manifestReference, bind_ok, exists_unit, check_eq_ok, asObject_ok, asString_ok, decide_eq_true_eq]
  constructor
  · rintro ⟨document, hdocument, manifest, hmanifest, manifestId, hid, hidentity, hschema, hrule, halgorithm, hblocked,
      request, hrequest, evidence, hevidence, policy, hpolicy, release, hrelease, proposalId, hproposal, hscope, hdisabled,
      policyVersion, hversion, hsupported, execution, hexecution, hunstarted, authorization, hauthorization, hreasons⟩
    refine ⟨manifest, presentedManifest_ok.mpr ⟨document, Option.some.inj hdocument, Option.some.inj hmanifest⟩, ?_⟩
    split at hreasons
    · rename_i first rest hfound
      obtain rfl := Except.ok.inj hreasons
      exact ⟨hidentity, hid, hproposal, hschema, hrule, halgorithm, hblocked, ⟨request, evidence, policy, release, hrequest,
        hevidence, hpolicy, hrelease, hscope, hdisabled, hversion⟩, hsupported, ⟨execution, hexecution, hunstarted⟩,
        ⟨authorization, hauthorization, hfound⟩, by simp⟩
    · cases hreasons
  · rintro ⟨manifest, hpresented, h⟩
    obtain ⟨document, hdocument, hmanifest⟩ := presentedManifest_ok.mp hpresented
    obtain ⟨request, evidence, policy, release, hrequest, hevidence, hpolicy, hrelease, hscope, hdisabled, hversion⟩ := h.scope
    obtain ⟨execution, hexecution, hunstarted⟩ := h.unstarted
    obtain ⟨authorization, hauthorization, hfound⟩ := h.reasons
    refine ⟨document, by rw [hdocument], manifest, by rw [hmanifest], r.manifestId, h.manifestId, h.identity, h.schema,
      h.rule, h.algorithm, h.blocked, request, hrequest, evidence, hevidence, policy, hpolicy, release, hrelease,
      r.proposalId, h.proposalId, hscope, hdisabled, r.policyVersion, hversion, h.version, execution, hexecution,
      hunstarted, authorization, hauthorization, ?_⟩
    rw [hfound]
    cases hreasons : r.blockingReasons with
    | nil => exact absurd hreasons h.reasoned
    | cons first rest =>
      simp only [← hreasons]
      rfl

theorem asReasons_some {items : List Json} : ∀ {texts : List String}, asReasons (some (.arr items)) = some texts →
    items = texts.map .str := by
  simp only [asReasons]
  induction items with
  | nil => simp
  | cons item items ih =>
    intro texts h
    simp only [List.mapM_cons, Option.bind_eq_bind, Option.bind_eq_some_iff, Option.pure_def, Option.some.injEq] at h
    obtain ⟨text, hitem, rest, hrest, rfl⟩ := h
    cases item with
    | str value =>
      by_cases hvalue : value = ""
      · simp [hvalue] at hitem
      · obtain rfl : value = text := by simpa [hvalue] using hitem
        rw [ih hrest, List.map_cons]
    | _ => simp at hitem

theorem asReasons_of_texts {texts : List String} (h : ∀ text ∈ texts, text ≠ "") :
    asReasons (some (.arr (texts.map .str))) = some texts := by
  simp only [asReasons]
  induction texts with
  | nil => rfl
  | cons text texts ih =>
    have htext := h text List.mem_cons_self
    simp [htext, ih fun x hx => h x (List.mem_cons_of_mem _ hx)]

/-! ## Built manifests -/

/-- What the commands read off a built manifest. -/
def AgentRunManifest.reference (p : AgentRunManifest) : ManifestReference where
  manifestId := p.manifestId
  proposalId := p.proposalId
  policyVersion := p.policy.policyVersion
  blockingReasons := p.authorization.blockingReasons.map (·.text)

/-- The fields of a manifest, of which its id is computed. -/
def AgentRunManifest.payload (p : AgentRunManifest) : List (String × Json) :=
  manifestPayload p.proposalId p.request p.evidence p.policy p.release p.approval p.authorization p.execution

theorem reason_ne_empty (reason : AuthorizationBlockReason) : reason.text ≠ "" := by
  cases reason <;> simp [AuthorizationBlockReason.text]

theorem unidentified_document (p : AgentRunManifest) :
    unidentified (("manifest_id", .str p.manifestId) :: p.payload) = p.payload := by
  simp [unidentified, AgentRunManifest.payload, manifestPayload]

def objectMembers : Json → List (String × Json)
  | .obj members => members
  | _ => []

/-- What the commands need of a manifest. -/
structure Blocked (sha256 : Bytes → HexDigest) (p : AgentRunManifest) : Prop where
  manifestId : p.manifestId = "manifest-" ++ canonicalJsonSha256 sha256 (.obj p.payload)
  proposalId : p.proposalId =
    "proposal-" ++ canonicalJsonSha256 sha256 (proposalPayload p.request p.evidence p.policy p.release)
  policy : p.policy = .default
  execution : p.execution = .default
  reasons : p.authorization.blockingReasons ≠ []

theorem runManifest_blocked (pack : EvidencePack) (release : AgentReleaseObservation) (approval : AgentApprovalObservation) :
    Blocked sha256 (runManifest sha256 pack release approval) where
  manifestId := by simp only [runManifest, AgentRunManifest.payload, runPayload]
  proposalId := by simp only [runManifest, runProposal]
  policy := by simp only [runManifest]
  execution := by simp only [runManifest]
  reasons := by
    have hmem := executionDisabled_mem (isTraceable pack) release approval
    rw [← (tallied_decided pack release approval).reasons] at hmem
    exact List.ne_nil_of_mem hmem

theorem referenced_document {p : AgentRunManifest} (h : Blocked sha256 p) :
    Referenced sha256 (("manifest_id", .str p.manifestId) :: p.payload) p.reference := by
  have hpolicy := h.policy
  have hexecution := h.execution
  refine ⟨?_, ?_, ?_, ?_, ?_, ?_, ?_, ⟨objectMembers p.request.asdict, objectMembers p.evidence.asdict,
    objectMembers p.policy.asdict, objectMembers p.release.asdict, ?_, ?_, ?_, ?_, ?_, ?_, ?_⟩, ?_,
    ⟨objectMembers p.execution.asdict, ?_, ?_⟩, ⟨objectMembers p.authorization.asdict, ?_, ?_⟩, ?_⟩
  · rw [unidentified_document]
    exact h.manifestId
  · simp [member, AgentRunManifest.reference]
  · simp [member, AgentRunManifest.payload, manifestPayload, AgentRunManifest.reference]
  · simp [member, AgentRunManifest.payload, manifestPayload, isText]
  · simp [member, AgentRunManifest.payload, manifestPayload, isText]
  · simp [member, AgentRunManifest.payload, manifestPayload, isText]
  · simp [member, AgentRunManifest.payload, manifestPayload, isText, AgentRunStatus.text]
  · simp [member, AgentRunManifest.payload, manifestPayload, AgentRunRequest.asdict, objectMembers]
  · simp [member, AgentRunManifest.payload, manifestPayload, AgentRunEvidence.asdict, objectMembers]
  · simp [member, AgentRunManifest.payload, manifestPayload, AgentAuthorizationPolicy.asdict, objectMembers]
  · simp [member, AgentRunManifest.payload, manifestPayload, AgentReleaseObservation.asdict, objectMembers]
  · exact h.proposalId
  · simp [member, hpolicy, AgentAuthorizationPolicy.asdict, AgentAuthorizationPolicy.default, objectMembers, isFalse]
  · simp [member, AgentRunManifest.reference, AgentAuthorizationPolicy.asdict, objectMembers]
  · simp [AgentRunManifest.reference, hpolicy, AgentAuthorizationPolicy.default]
  · simp [member, AgentRunManifest.payload, manifestPayload, AgentExecutionState.asdict, objectMembers]
  · simp [member, hexecution, AgentExecutionState.asdict, AgentExecutionState.default, objectMembers, isNotStarted, isText,
      equalsFalse]
  · simp [member, AgentRunManifest.payload, manifestPayload, AgentAuthorization.asdict, objectMembers]
  · have htexts : member "blocking_reasons" (.obj (objectMembers p.authorization.asdict)) =
        some (.arr (p.reference.blockingReasons.map .str)) := by
      simp [member, AgentAuthorization.asdict, objectMembers, AgentRunManifest.reference, Function.comp_def]
    rw [htexts]
    refine asReasons_of_texts fun text htext => ?_
    obtain ⟨reason, -, rfl⟩ := List.mem_map.mp htext
    exact reason_ne_empty reason
  · simpa [AgentRunManifest.reference] using h.reasons

theorem document_accepted {p : AgentRunManifest} (h : Blocked sha256 p) {root : Json}
    (hroot : presentedManifest root = some (("manifest_id", .str p.manifestId) :: p.payload)) :
    manifestReference sha256 root = .ok p.reference :=
  manifestReference_ok.mpr ⟨_, hroot, referenced_document h⟩

theorem presented_document (p : AgentRunManifest) :
    presentedManifest p.document = some (("manifest_id", .str p.manifestId) :: p.payload) := by
  rw [presentedManifest_ok]
  refine ⟨_, rfl, ?_⟩
  simp [member, AgentRunManifest.document, AgentRunManifest.payload, manifestPayload]

theorem presented_answer {p : AgentRunManifest} {answer : List (String × Json)}
    (h : member "manifest" (.obj answer) = some p.document) :
    presentedManifest (.obj answer) = some (("manifest_id", .str p.manifestId) :: p.payload) := by
  rw [presentedManifest_ok]
  exact ⟨_, rfl, by rw [h]; rfl⟩

/-! ## Altered documents -/

theorem member_unidentified {manifest : List (String × Json)} {key : String} (hkey : key ≠ "manifest_id") :
    member key (.obj (unidentified manifest)) = member key (.obj manifest) := by
  simp only [member, unidentified]
  congr 1
  rw [List.find?_filter]
  congr 1
  funext m
  by_cases hm : m.1 = key <;> simp [hm, hkey]

theorem text_of_sortKeys {a b : String} {value : Option Json} (ha : value = some (.str a))
    (h : value.map sortKeys = (some (Json.str b)).map sortKeys) : a = b := by
  subst ha
  simpa [sortKeys] using h

/-- A manifest with the canonical content of a built one is read as that one. -/
theorem reference_of_content {p : AgentRunManifest} (hp : Blocked sha256 p) {manifest : List (String × Json)}
    {r : ManifestReference} (hr : Referenced sha256 manifest r) (hid : r.manifestId = p.manifestId)
    (h : sortKeys (.obj (unidentified manifest)) = sortKeys (.obj p.payload)) : r = p.reference := by
  have hmember : ∀ key, key ≠ "manifest_id" →
      (member key (.obj manifest)).map sortKeys = (member key (.obj p.payload)).map sortKeys := by
    intro key hkey
    rw [← member_unidentified hkey]
    exact member_of_sortKeys_eq h key
  have hproposal : r.proposalId = p.proposalId := by
    refine text_of_sortKeys hr.proposalId ((hmember "proposal_id" (by decide)).trans ?_)
    simp [member, AgentRunManifest.payload, manifestPayload]
  have hversion : r.policyVersion = p.policy.policyVersion := by
    rw [hr.version, hp.policy]
    rfl
  have hreasons : r.blockingReasons = p.authorization.blockingReasons.map (·.text) := by
    obtain ⟨authorization, hauthorization, hfound⟩ := hr.reasons
    have hsorted := hmember "authorization" (by decide)
    rw [hauthorization] at hsorted
    have hcontent : sortKeys (.obj authorization) = sortKeys p.authorization.asdict := by
      simpa [member, AgentRunManifest.payload, manifestPayload] using hsorted
    have hlist := member_of_sortKeys_eq hcontent "blocking_reasons"
    have htexts : member "blocking_reasons" p.authorization.asdict =
        some (.arr ((p.authorization.blockingReasons.map (·.text)).map .str)) := by
      simp [member, AgentAuthorization.asdict, Function.comp_def]
    rw [htexts] at hlist
    cases hvalue : member "blocking_reasons" (.obj authorization) with
    | none => simp [hvalue] at hlist
    | some value =>
      rw [hvalue] at hlist hfound
      cases value with
      | arr items =>
        obtain rfl := asReasons_some hfound
        exact texts_inj (Option.some.inj hlist)
      | _ => simp [asReasons] at hfound
  obtain ⟨rid, rproposal, rversion, rreasons⟩ := r
  simp only at hid hproposal hversion hreasons
  rw [AgentRunManifest.reference, hid, hproposal, hversion, hreasons]

/-- The commands read every built manifest off the answer of its preflight, and
off its own document; and whatever they read off any other document under the
id of the manifest is what they read off the manifest itself, unless the hash of
its content collides. -/
theorem manifest_reference_binds {pack : EvidencePack} {approval : Option AgentApprovalObservation}
    {proposal : Option AgentRunProposal} {release : Option AgentReleaseObservation} {p : AgentRunManifest}
    (hp : buildAgentRunManifest sha256 pack approval proposal release = .ok p) :
    (∀ answer, member "manifest" (.obj answer) = some p.document →
        manifestReference sha256 (.obj answer) = .ok p.reference) ∧
      manifestReference sha256 p.document = .ok p.reference ∧
      ∀ root manifest r, presentedManifest root = some manifest → manifestReference sha256 root = .ok r →
        Set.InjOn sha256 {canonicalJsonBytes (.obj (unidentified manifest)), p.bytes} →
        r.manifestId = p.manifestId → r = p.reference := by
  have hblocked : Blocked sha256 p := by
    obtain ⟨-, -, -, rfl⟩ := buildManifest_ok.mp hp
    exact runManifest_blocked pack _ _
  refine ⟨fun answer h => document_accepted hblocked (presented_answer h),
    document_accepted hblocked (presented_document p), fun root manifest r hpresented hr hsha hid => ?_⟩
  obtain ⟨manifest', hpresented', hreferenced⟩ := manifestReference_ok.mp hr
  obtain rfl := Option.some.inj (hpresented.symm.trans hpresented')
  have hhex : sha256 (canonicalJsonBytes (.obj (unidentified manifest))) = sha256 p.bytes := by
    have heq := hreferenced.identity.symm.trans (hid.trans hblocked.manifestId)
    exact Subtype.ext ((String.append_right_inj "manifest-").mp heq)
  exact reference_of_content hblocked hreferenced hid (canonicalJsonBytes_inj (hsha (Or.inl rfl) (Or.inr rfl) hhex))

open QuakeRun QuakePack in
theorem manifest_reference_binds_quake :
    ∃ pack p, buildEvidencePack reports result query none = .ok pack ∧
      buildAgentRunManifest (digest pack) pack none none none = .ok p ∧
      manifestReference (digest pack) p.document = .ok p.reference ∧
      p.manifestId = "manifest-" ++ manifestDigest.val := by
  obtain ⟨pack, hbuild, -, -⟩ := @build_accepted _ reports _ _ packable none rfl
  have hp : buildAgentRunManifest (digest pack) pack none none none = .ok (runManifest (digest pack) pack .default .default) :=
    buildManifest_ok.mpr ⟨rfl, by simp, rfl, rfl⟩
  refine ⟨pack, _, hbuild, hp, (manifest_reference_binds hp).2.1, ?_⟩
  rw [← digest_manifest pack, ← bytes_eq]
  exact (runManifest_blocked pack _ _).manifestId

end AtlasPulse
