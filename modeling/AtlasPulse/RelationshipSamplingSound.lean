import AtlasPulse.Lib.Strata
import AtlasPulse.RelationshipSampling

/-!
# Soundness of the relationship sampling

An accepted response is its edges, one bundle each, whatever the order of the
incidents and of their edges. The sample is that of a stratified list, and the
pool of the cases passes its validators.
-/

namespace AtlasPulse

open PyJson PyTime Binary64

section
variable {E T F : Type} {m : TextModel E T F}

/-! ## Accepted responses -/

/-- The bundle of one edge: the body of the loop over `incident.edges`, less
the check for duplicates. -/
def edgeBundle (m : TextModel E T F) (ruleVersion : String) (nodes : List (String × EvidenceNodeResponse E))
    (analysis : RelationshipAnalysisResponse) (edge : EvidenceEdgeResponse F) : Except String (EdgeBundle m) := do
  check (edge.ruleVersion = ruleVersion) "evidence edge changed correlation rule within capture"
  check (edge.fromNodeId < edge.toNodeId) "evidence edge endpoints are not in canonical node order"
  match PyDict.get nodes edge.fromNodeId, PyDict.get nodes edge.toNodeId with
  | some leftNode, some rightNode => do
    let left ← eventEvidence m leftNode
    let right ← eventEvidence m rightNode
    .ok { edge, left, right, claims := analysis.claims, relationships := analysis.relationships }
  | _, _ => .error "evidence edge references an unknown node"

theorem edgeBundle_edge {ruleVersion : String} {nodes : List (String × EvidenceNodeResponse E)}
    {analysis : RelationshipAnalysisResponse} {edge : EvidenceEdgeResponse F} {b : EdgeBundle m}
    (h : edgeBundle m ruleVersion nodes analysis edge = .ok b) : b.edge = edge := by
  unfold edgeBundle at h
  simp only [bind_ok, exists_unit] at h
  obtain ⟨-, -, h⟩ := h
  split at h
  · simp only [bind_ok] at h
    obtain ⟨left, -, right, -, h⟩ := h
    rw [← Except.ok.inj h]
  · cases h

theorem setItem_of_not_mem {V : Type} {d : List (String × V)} {key : String} {value : V} (h : key ∉ d.map Prod.fst) :
    PyDict.setItem d key value = d ++ [(key, value)] := if_neg h

theorem addBundle_iff {ruleVersion : String} {nodes : List (String × EvidenceNodeResponse E)}
    {analysis : RelationshipAnalysisResponse} {bundles bundles' : List (String × EdgeBundle m)} {edge : EvidenceEdgeResponse F} :
    addBundle m ruleVersion nodes analysis bundles edge = .ok bundles' ↔
      ∃ b, edgeBundle m ruleVersion nodes analysis edge = .ok b ∧ edge.edgeId ∉ bundles.map Prod.fst ∧
        bundles' = bundles ++ [(edge.edgeId, b)] := by
  unfold addBundle edgeBundle
  simp only [bind_ok, exists_unit]
  cases hleft : PyDict.get nodes edge.fromNodeId with
  | none => simp
  | some leftNode =>
    cases hright : PyDict.get nodes edge.toNodeId with
    | none => simp
    | some rightNode =>
      simp only [bind_ok, exists_unit, check_eq_ok, decide_eq_true_eq, Except.ok.injEq]
      constructor
      · rintro ⟨hrule, horder, hnew, left, hl, right, hr, rfl⟩
        exact ⟨_, ⟨hrule, horder, left, hl, right, hr, rfl⟩, hnew, setItem_of_not_mem hnew⟩
      · rintro ⟨_, ⟨hrule, horder, left, hl, right, hr, rfl⟩, hnew, rfl⟩
        exact ⟨hrule, horder, hnew, left, hl, right, hr, setItem_of_not_mem hnew⟩

/-- An edge with what its incident gives it. -/
structure EdgeInContext (E F : Type) where
  nodes : List (String × EvidenceNodeResponse E)
  analysis : RelationshipAnalysisResponse
  edge : EvidenceEdgeResponse F

def EdgeInContext.bundle (m : TextModel E T F) (ruleVersion : String) (x : EdgeInContext E F) : Except String (EdgeBundle m) :=
  edgeBundle m ruleVersion x.nodes x.analysis x.edge

def IncidentCandidateResponse.contextEdges (i : IncidentCandidateResponse E T F) : List (EdgeInContext E F) :=
  i.edges.map fun edge => ⟨PyDict.ofItems (i.nodes.map fun node => (node.nodeId, node)), i.relationshipAnalysis, edge⟩

/-- The loop over edges collects the bundle of each, under new ids. -/
theorem addBundles_iff {ruleVersion : String} {xs : List (EdgeInContext E F)} {bundles bundles' : List (String × EdgeBundle m)} :
    xs.foldlM (fun bs x => addBundle m ruleVersion x.nodes x.analysis bs x.edge) bundles = .ok bundles' ↔
      ∃ bs, xs.mapM (EdgeInContext.bundle m ruleVersion) = .ok bs ∧ (xs.map (·.edge.edgeId)).Nodup ∧
        (∀ x ∈ xs, x.edge.edgeId ∉ bundles.map Prod.fst) ∧ bundles' = bundles ++ bs.map fun b => (b.edge.edgeId, b) := by
  induction xs generalizing bundles with
  | nil =>
    simp only [List.foldlM_nil, List.mapM_nil, List.map_nil, List.nodup_nil, List.not_mem_nil, false_implies, implies_true,
      true_and, pure, Except.pure, Except.ok.injEq]
    constructor
    · rintro rfl
      exact ⟨[], rfl, by simp⟩
    · rintro ⟨_, rfl, h⟩
      simpa using h.symm
  | cons x xs ih =>
    rw [List.foldlM_cons, List.mapM_cons]
    simp only [bind_ok, ih, addBundle_iff, List.map_cons, List.nodup_cons, List.forall_mem_cons, pure, Except.pure,
      Except.ok.injEq]
    constructor
    · rintro ⟨_, ⟨b, hb, hnew, rfl⟩, bs, hbs, hnodup, hfresh, rfl⟩
      simp only [List.map_append, List.map_cons, List.map_nil, List.mem_append, List.mem_singleton, not_or] at hfresh
      refine ⟨b :: bs, ⟨b, hb, bs, hbs, rfl⟩, ⟨fun hmem => ?_, hnodup⟩, ⟨hnew, fun y hy => (hfresh y hy).1⟩, ?_⟩
      · obtain ⟨y, hy, heq⟩ := List.mem_map.mp hmem
        exact (hfresh y hy).2 heq
      · rw [List.map_cons, edgeBundle_edge hb, List.append_assoc, List.singleton_append]
    · rintro ⟨_, ⟨b, hb, bs, hbs, rfl⟩, ⟨hother, hnodup⟩, ⟨hnew, hfresh⟩, rfl⟩
      refine ⟨_, ⟨b, hb, hnew, rfl⟩, bs, hbs, hnodup, fun y hy => ?_, ?_⟩
      · simp only [List.map_append, List.map_cons, List.map_nil, List.mem_append, List.mem_singleton, not_or]
        exact ⟨hfresh y hy, fun heq => hother (heq ▸ List.mem_map_of_mem hy)⟩
      · rw [List.map_cons, edgeBundle_edge hb, List.append_assoc, List.singleton_append]

theorem addIncidents_iff {ruleVersion relationshipRuleVersion : String} {items : List (IncidentCandidateResponse E T F)}
    {bundles bundles' : List (String × EdgeBundle m)} :
    items.foldlM (addIncident m ruleVersion relationshipRuleVersion) bundles = .ok bundles' ↔
      (∀ i ∈ items, checkIncident relationshipRuleVersion i = .ok ()) ∧
        (items.flatMap (·.contextEdges)).foldlM (fun bs x => addBundle m ruleVersion x.nodes x.analysis bs x.edge) bundles =
          .ok bundles' := by
  induction items generalizing bundles with
  | nil => simp
  | cons i items ih =>
    rw [List.foldlM_cons, List.flatMap_cons, List.foldlM_append, List.forall_mem_cons]
    simp only [bind_ok, ih, addIncident, exists_unit]
    have hedges : ∀ r, i.edges.foldlM (addBundle m ruleVersion (PyDict.ofItems (i.nodes.map fun node => (node.nodeId, node)))
        i.relationshipAnalysis) bundles = .ok r ↔
        i.contextEdges.foldlM (fun bs x => addBundle m ruleVersion x.nodes x.analysis bs x.edge) bundles = .ok r := by
      intro r
      rw [IncidentCandidateResponse.contextEdges, List.foldlM_map]
    constructor
    · rintro ⟨r, ⟨hi, hr⟩, hitems, hrest⟩
      exact ⟨⟨hi, hitems⟩, r, (hedges r).mp hr, hrest⟩
    · rintro ⟨⟨hi, hitems⟩, r, hr, hrest⟩
      exact ⟨r, ⟨hi, (hedges r).mpr hr⟩, hitems, hrest⟩

/-- The edges of a response. -/
def IncidentsResponse.contextEdges (response : IncidentsResponse E T F) : List (EdgeInContext E F) :=
  response.items.flatMap (·.contextEdges)

/-- The checks on a response before its incidents. -/
structure Echoes [DecidableEq F] (response : IncidentsResponse E T F) (definition : RelationshipBenchmarkDefinition F) : Prop where
  parameters : response.parameters = definition.parameters
  rule : response.ruleVersion = definition.expectedCorrelationRuleVersion
  relationshipRule : response.relationshipRuleVersion = definition.expectedRelationshipRuleVersion
  count : response.count = response.items.length
  total : response.count ≤ response.totalIncidents

theorem validateResponse_iff [DecidableEq F] {response : IncidentsResponse E T F} {definition : RelationshipBenchmarkDefinition F}
    {bundles : List (EdgeBundle m)} :
    validateResponse m response definition = .ok bundles ↔
      Echoes response definition ∧ (∀ i ∈ response.items, checkIncident response.relationshipRuleVersion i = .ok ()) ∧
        response.contextEdges.mapM (EdgeInContext.bundle m response.ruleVersion) = .ok bundles ∧
        (response.contextEdges.map (·.edge.edgeId)).Nodup ∧ bundles ≠ [] := by
  unfold validateResponse
  simp only [bind_ok, exists_unit, check_eq_ok, decide_eq_true_eq, Bool.and_eq_true, Bool.not_eq_true', Except.ok.injEq,
    addIncidents_iff, addBundles_iff]
  have hmap : ∀ bs : List (EdgeBundle m), (([] : List (String × EdgeBundle m)) ++
      bs.map fun b => (b.edge.edgeId, b)).map Prod.snd = bs := by
    intro bs
    rw [List.nil_append, List.map_map]
    exact List.map_id bs
  constructor
  · rintro ⟨hparameters, hrule, hrelationship, ⟨hcount, htotal⟩, _, ⟨hitems, bs, hbs, hnodup, -, rfl⟩, hne, rfl⟩
    refine ⟨⟨hparameters, hrule, hrelationship, hcount, htotal⟩, hitems, (hmap bs).symm ▸ hbs, hnodup, ?_⟩
    rw [hmap]
    rintro rfl
    cases hne
  · rintro ⟨hechoes, hitems, hbs, hnodup, hne⟩
    refine ⟨hechoes.parameters, hechoes.rule, hechoes.relationshipRule, ⟨hechoes.count, hechoes.total⟩, _,
      ⟨hitems, bundles, hbs, hnodup, fun _ _ => List.not_mem_nil, rfl⟩, ?_, hmap bundles⟩
    cases bundles with
    | nil => exact absurd rfl hne
    | cons b bundles => rfl

/-! ## Rearranged responses -/

/-- An incident with its edges in another order. -/
def SameIncident (i i' : IncidentCandidateResponse E T F) : Prop := i' = { i with edges := i'.edges } ∧ i.edges.Perm i'.edges

/-- A response with its incidents, and the edges of each, in another order. -/
def Rearranged (r r' : IncidentsResponse E T F) : Prop :=
  r' = { r with items := r'.items } ∧ ∃ items, List.Forall₂ SameIncident r.items items ∧ items.Perm r'.items

theorem ofItems_edges_perm {es es' : List (EvidenceEdgeResponse F)} (hperm : es.Perm es') (hnodup : (es.map (·.edgeId)).Nodup) :
    (PyDict.ofItems (es.map fun e => (e.edgeId, e))).Perm (PyDict.ofItems (es'.map fun e => (e.edgeId, e))) := by
  have hkeys : ∀ l : List (EvidenceEdgeResponse F), (l.map fun e => (e.edgeId, e)).map Prod.fst = l.map (·.edgeId) := fun l => by
    rw [List.map_map]
    rfl
  have hnodup' : (es'.map (·.edgeId)).Nodup := (hperm.map _).nodup_iff.mp hnodup
  rw [PyDict.ofItems_of_nodup (by rwa [hkeys]), PyDict.ofItems_of_nodup (by rwa [hkeys])]
  exact hperm.map _

theorem checkRelationship_congr {d d' : List (String × EvidenceEdgeResponse F)} (claims : List (String × EvidenceClaimResponse))
    {r : EvidenceRelationshipResponse} (h : PyDict.get d' r.edgeId = PyDict.get d r.edgeId) :
    checkRelationship d' claims r = checkRelationship d claims r := by
  unfold checkRelationship
  rw [h]

theorem checkIncident_rearranged {version : String} {i i' : IncidentCandidateResponse E T F} (h : SameIncident i i')
    (hok : checkIncident version i = .ok ()) : checkIncident version i' = .ok () := by
  obtain ⟨hi', hperm⟩ := h
  generalize i'.edges = es at hi' hperm
  subst hi'
  unfold checkIncident at hok ⊢
  simp only [bind_ok, exists_unit, check_eq_ok, decide_eq_true_eq, listForM_ok] at hok ⊢
  obtain ⟨hcounts, hanalyzed, hversion, hversions, hnodes, hedges, hclaims, hids, hknown, hends, hrelationships⟩ := hok
  have hkeys : (i.edges.map (·.edgeId)).Nodup := by
    have hlength : (PyDict.ofItems (i.edges.map fun e => (e.edgeId, e))).length = (i.edges.map fun e => (e.edgeId, e)).length := by
      rw [hedges, List.length_map]
    have hnodup := PyDict.length_ofItems_iff.mp hlength
    rwa [List.map_map] at hnodup
  have hdict := ofItems_edges_perm hperm hkeys
  have hget : ∀ key, PyDict.get (PyDict.ofItems (es.map fun e => (e.edgeId, e))) key =
      PyDict.get (PyDict.ofItems (i.edges.map fun e => (e.edgeId, e))) key :=
    fun key => PyDict.get_perm (PyDict.nodup_ofItems _) hdict.symm key
  have hmem : ∀ key, key ∈ (PyDict.ofItems (es.map fun e => (e.edgeId, e))).map Prod.fst ↔
      key ∈ (PyDict.ofItems (i.edges.map fun e => (e.edgeId, e))).map Prod.fst :=
    fun key => (hdict.map Prod.fst).symm.mem_iff
  refine ⟨?_, hanalyzed, hversion, hversions, hnodes, ?_, hclaims, hids, ?_, hends, fun r hr => ?_⟩
  · rwa [← hperm.length_eq]
  · rw [← hperm.length_eq, ← hedges, hdict.length_eq]
  · simpa only [hmem] using hknown
  · rw [checkRelationship_congr _ (hget r.edgeId)]
    exact hrelationships r hr

theorem contextEdges_rearranged {r r' : IncidentsResponse E T F} (h : Rearranged r r') : r.contextEdges.Perm r'.contextEdges := by
  obtain ⟨-, items, hsame, hperm⟩ := h
  refine List.Perm.trans ?_ (hperm.flatMap_right _)
  unfold IncidentsResponse.contextEdges
  generalize r.items = given at hsame
  clear hperm
  induction hsame with
  | nil => exact List.Perm.refl _
  | @cons i i' items items' hi _ ih =>
    rw [List.flatMap_cons, List.flatMap_cons]
    refine List.Perm.append ?_ ih
    obtain ⟨hi', hes⟩ := hi
    generalize i'.edges = es at hi' hes
    subst hi'
    exact hes.map _

theorem mapM_perm {α β : Type} {f : α → Except String β} {l l' : List α} (hperm : l.Perm l') {r : List β} (h : l.mapM f = .ok r) :
    ∃ r', l'.mapM f = .ok r' ∧ r.Perm r' := by
  induction hperm generalizing r with
  | nil => exact ⟨r, h, List.Perm.refl _⟩
  | cons a _ ih =>
    rw [List.mapM_cons] at h
    simp only [bind_ok, pure, Except.pure, Except.ok.injEq] at h
    obtain ⟨b, hb, bs, hbs, rfl⟩ := h
    obtain ⟨bs', hbs', hp⟩ := ih hbs
    refine ⟨b :: bs', ?_, hp.cons b⟩
    rw [List.mapM_cons, hb, hbs']
    rfl
  | swap a b l =>
    rw [List.mapM_cons, List.mapM_cons] at h
    simp only [bind_ok, pure, Except.pure, Except.ok.injEq] at h
    obtain ⟨y, hy, _, ⟨x, hx, zs, hzs, rfl⟩, rfl⟩ := h
    refine ⟨x :: y :: zs, ?_, List.Perm.swap _ _ _⟩
    rw [List.mapM_cons, List.mapM_cons, hx, hy, hzs]
    rfl
  | trans _ _ ih ih' =>
    obtain ⟨r', hr', hp⟩ := ih h
    obtain ⟨r'', hr'', hp'⟩ := ih' hr'
    exact ⟨r'', hr'', hp.trans hp'⟩

/-- A rearranged response is accepted with the same bundles. -/
theorem validateResponse_rearranged [DecidableEq F] {r r' : IncidentsResponse E T F} {definition : RelationshipBenchmarkDefinition F}
    (h : Rearranged r r') {bundles : List (EdgeBundle m)} (hok : validateResponse m r definition = .ok bundles) :
    ∃ bundles', validateResponse m r' definition = .ok bundles' ∧ bundles.Perm bundles' := by
  obtain ⟨hechoes, hitems, hbundles, hnodup, hne⟩ := validateResponse_iff.mp hok
  have hedges := contextEdges_rearranged h
  obtain ⟨bundles', hbundles', hperm⟩ := mapM_perm hedges hbundles
  obtain ⟨hr', items, hsame, hitemsPerm⟩ := h
  have hlen : r'.items.length = r.items.length := by rw [← hitemsPerm.length_eq, hsame.length_eq]
  refine ⟨bundles', validateResponse_iff.mpr ⟨?_, fun i' hi' => ?_, ?_, ?_, ?_⟩, hperm⟩
  · rw [hr']
    exact ⟨hechoes.parameters, hechoes.rule, hechoes.relationshipRule, hlen ▸ hechoes.count, hechoes.total⟩
  · obtain ⟨i, hi, hs⟩ := Keyed.exists_left hsame (hitemsPerm.mem_iff.mpr hi')
    rw [hr']
    exact checkIncident_rearranged hs (hitems i hi)
  · rw [hr'] at hbundles' ⊢
    exact hbundles'
  · exact (hedges.map _).nodup_iff.mp hnodup
  · rintro rfl
    exact hne hperm.eq_nil

end

section
variable {E : Type} {m : ReviewModel E} {definitionHash : String} {bundles selected : List (EdgeBundle m.toTextModel)}

/-! ## Samples -/

theorem sampleEdges_eq (definitionHash : String) (cap : Nat) (bundles : List (EdgeBundle m.toTextModel)) :
    sampleEdges m definitionHash cap bundles =
      Strata.sample EdgeBundle.sourcePairKey (edgeSampleKey m definitionHash) cap bundles := rfl

theorem length_documentHash (e : {e : EventEvidence Datetime // e.validate m.toTextModel = .ok ()}) :
    e.val.documentHash.toList.length = 64 := by
  have hvalid := e.property
  unfold EventEvidence.validate at hvalid
  simp only [bind_ok, exists_unit, check_eq_ok, decide_eq_true_eq] at hvalid
  obtain ⟨-, -, -, -, -, -, -, hhash⟩ := hvalid
  rw [hhash]
  exact (m.sha256_hex _).1

/-- The text that is hashed tells the edges of a source pair apart. -/
theorem sampleText_inj {pair : String} {a b : EdgeBundle m.toTextModel}
    (h : sampleText definitionHash pair a = sampleText definitionHash pair b) : a.edge.edgeId = b.edge.edgeId := by
  have hlist := congrArg String.toList h
  simp only [sampleText, String.toList_append] at hlist
  have hright := List.append_inj_left' hlist (by rw [length_documentHash, length_documentHash])
  have hcolon := List.append_inj_left' hright rfl
  have hleft := List.append_inj_left' hcolon (by rw [length_documentHash, length_documentHash])
  have hid := List.append_inj_left' hleft rfl
  exact String.toList_inj.mp (List.append_cancel_left hid)

/-- SHA-256 does not collide on the sample keys of the bundles. -/
def SampleKeysDistinct (definitionHash : String) (bundles : List (EdgeBundle m.toTextModel)) : Prop :=
  ∀ a ∈ bundles, ∀ b ∈ bundles,
    m.sha256 (sampleText definitionHash a.sourcePairKey a) = m.sha256 (sampleText definitionHash b.sourcePairKey b) →
      sampleText definitionHash a.sourcePairKey a = sampleText definitionHash b.sourcePairKey b

theorem ranked_bundles (hids : (bundles.map (·.edge.edgeId)).Nodup) (hsha : SampleKeysDistinct definitionHash bundles) :
    Strata.Ranked EdgeBundle.sourcePairKey (edgeSampleKey m definitionHash) bundles := by
  intro a ha b hb hpair hkey
  refine List.inj_on_of_nodup_map hids ha hb ?_
  have htext := hsha a ha b hb (by rw [← hpair]; exact hkey)
  rw [← hpair] at htext
  exact sampleText_inj htext

/-- Edges of accepted responses have different ids. -/
theorem bundleEdges_nodup {response : IncidentsResponse E Datetime Float64} {definition : RelationshipBenchmarkDefinition Float64}
    (h : validateResponse m.toTextModel response definition = .ok bundles) : (bundles.map (·.edge.edgeId)).Nodup := by
  obtain ⟨-, -, hbundles, hnodup, -⟩ := validateResponse_iff.mp h
  rwa [map_of_mapM hbundles fun x _ b hb => by rw [edgeBundle_edge hb]]

/-! ## Cases -/

variable {predicates : List ClaimPredicate}

/-- The cases of a sample, in the order in which they are made. -/
structure CasesOf (m : ReviewModel E) (selected : List (EdgeBundle m.toTextModel)) (predicates : List ClaimPredicate)
    (cases : List RelationshipCase) : Prop where
  evidence : cases.map (·.toCaseEvidence) = selected.flatMap fun b => predicates.map fun p => caseEvidence m b p
  unjudged : ∀ c ∈ cases, c.goldLabel = none ∧ c.rationale = none
  valid : ∀ c ∈ cases, c.validate m = .ok ()

theorem relationshipCase_ok {b : EdgeBundle m.toTextModel} {p : ClaimPredicate} {c : RelationshipCase}
    (h : relationshipCase m b p = .ok c) : c.toCaseEvidence = caseEvidence m b p ∧ (c.goldLabel = none ∧ c.rationale = none) ∧
      c.validate m = .ok () := by
  unfold relationshipCase at h
  simp only [bind_ok, exists_unit, Except.ok.injEq] at h
  obtain ⟨prediction, -, hvalid, rfl⟩ := h
  exact ⟨rfl, ⟨rfl, rfl⟩, hvalid⟩

/-- What a case of a bundle needs besides its prediction: the rest of
`RelationshipCase` holds of it as it is made. -/
structure Presentable (b : EdgeBundle m.toTextModel) : Prop where
  named : 1 ≤ b.edge.edgeId.length ∧ b.edge.edgeId.length ≤ 200
  distance : isMeasure b.edge.distanceKm = true
  delta : isMeasure b.edge.timeDeltaMinutes = true
  ordered : b.left.val.nodeId < b.right.val.nodeId
  independent : b.left.val.source ≠ b.right.val.source

instance (b : EdgeBundle m.toTextModel) : Decidable (Presentable b) :=
  decidable_of_iff ((1 ≤ b.edge.edgeId.length ∧ b.edge.edgeId.length ≤ 200) ∧ isMeasure b.edge.distanceKm = true ∧
    isMeasure b.edge.timeDeltaMinutes = true ∧ b.left.val.nodeId < b.right.val.nodeId ∧ b.left.val.source ≠ b.right.val.source)
    ⟨fun ⟨h1, h2, h3, h4, h5⟩ => ⟨h1, h2, h3, h4, h5⟩, fun h => ⟨h.named, h.distance, h.delta, h.ordered, h.independent⟩⟩

theorem matchesCaseId_relationshipCaseId (m : ReviewModel E) (e : CaseEvidence) : matchesCaseId (relationshipCaseId m e) = true := by
  obtain ⟨hlen, hhex⟩ := m.sha256_hex (dumps true (caseIdPayload m e))
  have hdrop : (relationshipCaseId m e).toList.drop 5 = (m.sha256 (dumps true (caseIdPayload m e))).toList.take 20 := by
    rw [relationshipCaseId, digestPrefix, String.toList_append, String.toList_ofList, String.toList_ofList]
    rfl
  have hlead : "pair-".toList.isPrefixOf (relationshipCaseId m e).toList = true := by
    rw [relationshipCaseId, String.toList_append]
    exact List.isPrefixOf_iff_prefix.mpr (List.prefix_append _ _)
  rw [matchesCaseId, hlead, hdrop, List.length_take, hlen, Bool.true_and]
  exact List.all_eq_true.mpr fun c hc => List.all_eq_true.mp hhex c (List.mem_of_mem_take hc)

theorem caseEvidence_valid_iff {b : EdgeBundle m.toTextModel} {p : ClaimPredicate} :
    (caseEvidence m b p).validate m = .ok () ↔ Presentable b := by
  have hid : (caseEvidence m b p).caseId = relationshipCaseId m (caseEvidence m b p) := rfl
  unfold CaseEvidence.validate
  simp only [bind_ok, exists_unit, check_eq_ok, Bool.and_eq_true, decide_eq_true_eq]
  constructor
  · rintro ⟨-, hnamed, -, -, hdistance, hdelta, hordered, hind, -, -⟩
    exact ⟨hnamed, hdistance, hdelta, hordered, hind⟩
  · intro h
    refine ⟨?_, h.named, b.left.property, b.right.property, h.distance, h.delta, h.ordered, h.independent, rfl, hid⟩
    rw [hid]
    exact matchesCaseId_relationshipCaseId m _

/-- The claims of a prediction are of its predicate and of its endpoints. -/
theorem prediction_claims {b : EdgeBundle m.toTextModel} {p : ClaimPredicate} {s : SystemPrediction} (h : prediction b p = .ok s) :
    s.validate = .ok () ∧ ∀ claim ∈ s.claims, claim.predicate = p ∧ claim.nodeId ∈ [b.left.val.nodeId, b.right.val.nodeId] := by
  unfold prediction at h
  simp only [bind_ok, exists_unit, Except.ok.injEq] at h
  obtain ⟨-, found, -, hvalid, rfl⟩ := h
  refine ⟨hvalid, fun claim hclaim => ?_⟩
  rw [List.mem_insertionSort] at hclaim
  obtain ⟨claim, hmem, rfl⟩ := List.mem_map.mp hclaim
  have hmatch := (List.mem_filter.mp hmem).2
  simp only [Bool.and_eq_true, decide_eq_true_eq] at hmatch
  exact hmatch

/-- A case is accepted when its prediction and its bundle are. -/
theorem relationshipCase_iff {b : EdgeBundle m.toTextModel} {p : ClaimPredicate} :
    (∃ c, relationshipCase m b p = .ok c) ↔ (∃ s, prediction b p = .ok s) ∧ Presentable b := by
  unfold relationshipCase
  simp only [bind_ok, exists_unit]
  constructor
  · rintro ⟨c, s, hs, hvalid, -⟩
    unfold RelationshipCase.validate at hvalid
    simp only [bind_ok, exists_unit] at hvalid
    exact ⟨⟨s, hs⟩, caseEvidence_valid_iff.mp hvalid.2.2.1⟩
  · rintro ⟨⟨s, hs⟩, hb⟩
    obtain ⟨hvalid, hclaims⟩ := prediction_claims hs
    refine ⟨_, s, hs, ?_, rfl⟩
    unfold RelationshipCase.validate
    simp only [bind_ok, exists_unit, check_eq_ok, List.all_eq_true, decide_eq_true_eq]
    exact ⟨hvalid, rfl, caseEvidence_valid_iff.mpr hb, fun claim hclaim => (hclaims claim hclaim).1,
      fun claim hclaim => (hclaims claim hclaim).2⟩

theorem casesOf {cases : List RelationshipCase}
    (h : (selected.flatMap fun b => predicates.map (b, ·)).mapM (fun x => relationshipCase m x.1 x.2) = .ok cases) :
    CasesOf m selected predicates cases := by
  have hmem := (mem_mapM h).1
  refine ⟨?_, fun c hc => ?_, fun c hc => ?_⟩
  · rw [map_of_mapM h fun x _ c hc => (relationshipCase_ok hc).1, List.map_flatMap]
    simp only [List.map_map, Function.comp_def]
  · obtain ⟨x, -, hx⟩ := hmem c hc
    exact (relationshipCase_ok hx).2.1
  · obtain ⟨x, -, hx⟩ := hmem c hc
    exact (relationshipCase_ok hx).2.2

namespace CasesOf

variable {cases : List RelationshipCase} (h : CasesOf m selected predicates cases)
include h

theorem exists_edge {c : RelationshipCase} (hc : c ∈ cases) :
    ∃ b ∈ selected, ∃ p ∈ predicates, c.toCaseEvidence = caseEvidence m b p := by
  have hmem := List.mem_map_of_mem (f := (·.toCaseEvidence)) hc
  rw [h.evidence] at hmem
  obtain ⟨b, hb, hmem⟩ := List.mem_flatMap.mp hmem
  obtain ⟨p, hp, heq⟩ := List.mem_map.mp hmem
  exact ⟨b, hb, p, hp, heq.symm⟩

theorem exists_case {b : EdgeBundle m.toTextModel} (hb : b ∈ selected) {p : ClaimPredicate} (hp : p ∈ predicates) :
    ∃ c ∈ cases, c.toCaseEvidence = caseEvidence m b p := by
  have hmem : caseEvidence m b p ∈ cases.map (·.toCaseEvidence) := by
    rw [h.evidence]
    exact List.mem_flatMap.mpr ⟨b, hb, List.mem_map_of_mem hp⟩
  obtain ⟨c, hc, heq⟩ := List.mem_map.mp hmem
  exact ⟨c, hc, heq⟩

/-- Every edge once for every predicate. -/
theorem edgePredicates : cases.map (fun c => (c.edgeId, c.predicate)) = (selected.map (·.edge.edgeId)).product predicates := by
  have hmap := congrArg (List.map fun e : CaseEvidence => (e.edgeId, e.predicate)) h.evidence
  rw [List.map_map, List.map_flatMap] at hmap
  refine hmap.trans ?_
  rw [List.product, List.flatMap_map]
  simp only [List.map_map, Function.comp_def]
  rfl

end CasesOf

/-- How many distinct keys there are. -/
theorem length_dedup_eq {α : Type} [DecidableEq α] {k l : List α} (hl : l.Nodup) (h : ∀ x, x ∈ k ↔ x ∈ l) :
    k.dedup.length = l.length :=
  ((List.perm_ext_iff_of_nodup (List.nodup_dedup k) hl).mpr fun x => by rw [List.mem_dedup, h]).length_eq

theorem sameItems_self {items : List (String × Int)} (h : (items.map Prod.fst).Nodup) : sameItems items items = true := by
  rw [sameItems, Bool.and_eq_true, decide_eq_true_eq, List.all_eq_true]
  exact ⟨rfl, fun item hitem => decide_eq_true ((PyDict.get_eq_some h).mpr hitem)⟩

theorem map_fst_sortedCounts (keys : List String) : (sortedCounts keys).map Prod.fst = keys.dedup.insertionSort (· ≤ ·) := by
  rw [sortedCounts, List.map_map]
  exact List.map_id _

theorem nodup_sortedCounts (keys : List String) : ((sortedCounts keys).map Prod.fst).Nodup := by
  rw [map_fst_sortedCounts]
  exact (List.perm_insertionSort _ _).nodup_iff.mpr (List.nodup_dedup _)

theorem get_sortedCounts {keys : List String} {key : String} (h : key ∈ keys) :
    PyDict.get (sortedCounts keys) key = some (keys.count key : Int) := by
  refine (PyDict.get_eq_some (nodup_sortedCounts keys)).mpr (List.mem_map.mpr ⟨key, ?_, rfl⟩)
  rwa [List.mem_insertionSort, List.mem_dedup]

theorem sum_sortedCounts (keys : List String) : ((sortedCounts keys).map Prod.snd).sum = keys.length := by
  have hperm := (List.perm_insertionSort (fun a b : String => a ≤ b) keys.dedup).map fun key => (keys.count key : Int)
  have hsum : ((keys.dedup.map fun key => (keys.count key : Int))).sum = keys.length := by
    rw [← List.sum_map_count_dedup_eq_length keys, Nat.cast_list_sum, List.map_map]
    rfl
  rw [sortedCounts, List.map_map, ← hsum]
  exact hperm.sum_eq

/-! ## Pools -/

theorem sortedPair_lt {a b : String} (h : a ≠ b) : (sortedPair a b).1 < (sortedPair a b).2 := by
  unfold sortedPair
  split
  · assumption
  · rename_i hle
    exact lt_of_le_of_ne (not_lt.mp hle) h

theorem sortedPair_mem {a b : String} (ha : a ∈ sourceNames) (hb : b ∈ sourceNames) :
    (sortedPair a b).1 ∈ sourceNames ∧ (sortedPair a b).2 ∈ sourceNames := by
  unfold sortedPair
  split
  · exact ⟨hb, ha⟩
  · exact ⟨ha, hb⟩

theorem splitPair_sources : ∀ a ∈ sourceNames, ∀ b ∈ sourceNames, splitPair (a ++ "+" ++ b) = [a, b] := by decide

theorem checkPairCounts_ok {counts : List (String × Int)} (hpair : ∀ item ∈ counts, ∃ a ∈ sourceNames, ∃ b ∈ sourceNames,
    a < b ∧ item.1 = a ++ "+" ++ b) (hcount : ∀ item ∈ counts, 0 ≤ item.2) : checkPairCounts counts = .ok () := by
  rw [checkPairCounts, listForM_ok]
  intro item hitem
  obtain ⟨a, ha, b, hb, hlt, hkey⟩ := hpair item hitem
  simp only [bind_ok, exists_unit, check_eq_ok, hkey, splitPair_sources a ha b hb]
  exact ⟨decide_eq_true hlt, by simp [ha, hb], decide_eq_true (hcount item hitem)⟩

theorem source_mem (e : {e : EventEvidence Datetime // e.validate m.toTextModel = .ok ()}) : e.val.source ∈ sourceNames := by
  have hvalid := e.property
  unfold EventEvidence.validate at hvalid
  simp only [bind_ok, exists_unit, check_eq_ok, decide_eq_true_eq] at hvalid
  exact hvalid.2.1

theorem independent_of_valid {c : RelationshipCase} (h : c.validate m = .ok ()) : c.left.source ≠ c.right.source := by
  unfold RelationshipCase.validate at h
  simp only [bind_ok, exists_unit, check_eq_ok] at h
  obtain ⟨-, -, hevidence, -⟩ := h
  unfold CaseEvidence.validate at hevidence
  simp only [bind_ok, exists_unit, check_eq_ok, decide_eq_true_eq] at hevidence
  exact hevidence.2.2.2.2.2.2.2.1

/-- A source pair that has a case is a pair of two sources. -/
theorem CasesOf.pair_of_edge {cases : List RelationshipCase} (h : CasesOf m selected predicates cases) (hp : predicates ≠ [])
    {b : EdgeBundle m.toTextModel} (hb : b ∈ selected) :
    ∃ x ∈ sourceNames, ∃ y ∈ sourceNames, x < y ∧ b.sourcePairKey = x ++ "+" ++ y := by
  obtain ⟨p, hpmem⟩ := List.exists_mem_of_ne_nil _ hp
  obtain ⟨c, hc, heq⟩ := h.exists_case hb hpmem
  have hind := independent_of_valid (h.valid c hc)
  rw [heq] at hind
  obtain ⟨h1, h2⟩ := sortedPair_mem (source_mem b.left) (source_mem b.right)
  exact ⟨_, h1, _, h2, sortedPair_lt hind, rfl⟩

/-- The pairs of a sample, counted by the edges of its cases. -/
theorem CasesOf.sampledCounts_eq {cases : List RelationshipCase} (h : CasesOf m selected predicates cases) (hp : predicates ≠ [])
    (hids : (selected.map (·.edge.edgeId)).Nodup) : sampledCounts cases = sortedCounts (selected.map (·.sourcePairKey)) := by
  obtain ⟨p, hpmem⟩ := List.exists_mem_of_ne_nil _ hp
  have hkeys : ∀ key, key ∈ cases.map (fun c => c.pairKey) ↔ key ∈ selected.map (·.sourcePairKey) := by
    intro key
    rw [List.mem_map, List.mem_map]
    constructor
    · rintro ⟨c, hc, rfl⟩
      obtain ⟨b, hb, q, -, heq⟩ := h.exists_edge hc
      exact ⟨b, hb, by rw [heq]; rfl⟩
    · rintro ⟨b, hb, rfl⟩
      obtain ⟨c, hc, heq⟩ := h.exists_case hb hpmem
      exact ⟨c, hc, by rw [heq]; rfl⟩
  have hcount : ∀ pair, ((cases.filter fun c => c.pairKey = pair).map fun c => c.edgeId).dedup.length =
      (selected.map (·.sourcePairKey)).count pair := by
    intro pair
    have hpart : ((selected.filter fun b => b.sourcePairKey = pair).map (·.edge.edgeId)).Nodup :=
      hids.sublist (List.filter_sublist.map _)
    rw [length_dedup_eq hpart fun x => ?_, List.length_map, List.count_eq_countP, List.countP_map, List.countP_eq_length_filter]
    · exact congrArg List.length (List.filter_congr fun b _ => (beq_eq_decide _ _).symm)
    · simp only [List.mem_map, List.mem_filter, decide_eq_true_eq]
      constructor
      · rintro ⟨c, ⟨hc, hpair⟩, rfl⟩
        obtain ⟨b, hb, q, -, heq⟩ := h.exists_edge hc
        exact ⟨b, ⟨hb, by rw [← hpair, heq]; rfl⟩, by rw [heq]; rfl⟩
      · rintro ⟨b, ⟨hb, hpair⟩, rfl⟩
        obtain ⟨c, hc, heq⟩ := h.exists_case hb hpmem
        exact ⟨c, ⟨hc, by rw [← hpair, heq]; rfl⟩, by rw [heq]; rfl⟩
  unfold sampledCounts sortedCounts
  rw [Strata.sortedSet_congr hkeys]
  simp only [hcount]

theorem sampledCounts_perm {cases cases' : List RelationshipCase} (hperm : cases.Perm cases') :
    sampledCounts cases' = sampledCounts cases := by
  have hcount : ∀ pair, ((cases'.filter fun c => c.pairKey = pair).map fun c => c.edgeId).dedup.length =
      ((cases.filter fun c => c.pairKey = pair).map fun c => c.edgeId).dedup.length := fun pair =>
    (((hperm.filter _).map _).dedup).length_eq.symm
  unfold sampledCounts
  rw [Strata.sortedSet_congr fun key => (hperm.map fun c => c.pairKey).mem_iff.symm]
  simp only [hcount]

theorem isDigit_digitChar : ∀ d < 10, (Nat.digitChar d).isDigit = true := by decide

theorem isDigit_of_mem_pad {w n : Nat} {c : Char} (h : c ∈ Digits.pad w n) : c.isDigit = true := by
  induction w generalizing n with
  | zero => cases h
  | succ w ih =>
    rcases List.mem_append.mp h with h | h
    · exact ih h
    · rw [List.mem_singleton.mp h]
      exact isDigit_digitChar _ (Nat.mod_lt _ (by decide))

theorem matchesSlug_append {punctuation : List Char} {least most : Nat} {text : String} (extra : String)
    (h : matchesSlug punctuation least most text = true)
    (hextra : ∀ c ∈ extra.toList, (c.isDigit || c.isLower || decide (c ∈ punctuation)) = true) :
    matchesSlug punctuation least (most + extra.toList.length) (text ++ extra) = true := by
  unfold matchesSlug at h ⊢
  rw [String.toList_append]
  split at h
  · cases h
  · rename_i c cs htext
    rw [htext, List.cons_append]
    simp only [Bool.and_eq_true, decide_eq_true_eq, List.all_append, List.length_append] at h ⊢
    obtain ⟨⟨⟨hc, hcs⟩, hleast⟩, hmost⟩ := h
    exact ⟨⟨⟨hc, hcs, List.all_eq_true.mpr hextra⟩, by omega⟩, by omega⟩

theorem compactTimestamp_chars (time : UtcDatetime) : (compactTimestamp time).toList.length = 16 ∧
    ∀ c ∈ (compactTimestamp time).toList, (c.isDigit || c.isLower) = true := by
  unfold compactTimestamp
  rw [String.toList_ofList]
  constructor
  · simp only [List.length_append, List.length_cons, Digits.length_pad, List.length_nil]
  · intro c hc
    simp only [List.mem_append, List.mem_cons, List.not_mem_nil, or_false] at hc
    have hdigit : ∀ w n, c ∈ Digits.pad w n → (c.isDigit || c.isLower) = true := fun w n h => by
      rw [isDigit_of_mem_pad h, Bool.true_or]
    rcases hc with ((h | h) | h) | rfl | ((h | h) | h) | rfl
    all_goals first | exact hdigit _ _ h | decide

/-! ## The captured pool -/

theorem matchesSlug_mono {punctuation : List Char} {least most most' : Nat} {text : String} (hle : most ≤ most')
    (h : matchesSlug punctuation least most text = true) : matchesSlug punctuation least most' text = true := by
  unfold matchesSlug at h ⊢
  cases htext : text.toList with
  | nil =>
    simp only [htext] at h
    exact h
  | cons c cs =>
    simp only [htext, Bool.and_eq_true, decide_eq_true_eq] at h ⊢
    exact ⟨h.1, h.2.trans hle⟩

theorem BenchmarkDefinition.bounds (definition : BenchmarkDefinition) :
    matchesSlug ['.', '_', '-'] 2 119 definition.val.benchmarkId = true ∧
      (1 ≤ definition.val.expectedCorrelationRuleVersion.length ∧ definition.val.expectedCorrelationRuleVersion.length ≤ 200) ∧
      (1 ≤ definition.val.expectedRelationshipRuleVersion.length ∧ definition.val.expectedRelationshipRuleVersion.length ≤ 200) ∧
      (1 ≤ definition.val.predicates.length ∧ definition.val.predicates.length ≤ 3) ∧
      (1 ≤ definition.val.maxEdgesPerSourcePair ∧ definition.val.maxEdgesPerSourcePair ≤ 100) ∧ definition.val.predicates.Nodup := by
  have hvalid := definition.property
  unfold BenchmarkDefinitionData.validate at hvalid
  simpa only [bind_ok, exists_unit, check_eq_ok, Bool.and_eq_true, decide_eq_true_eq] using hvalid

theorem checkSample_eq_ok {p : RelationshipPoolData} : p.checkSample = .ok () ↔
    p.incidentCount ≤ p.totalIncidents ∧ (p.availableEdgesBySourcePair.map Prod.snd).sum = p.availableEdgeCount ∧
      (p.sampledEdgesBySourcePair.map Prod.snd).sum = p.sampledEdgeCount ∧
      (∀ item ∈ p.sampledEdgesBySourcePair, item.2 ≤ (PyDict.get p.availableEdgesBySourcePair item.1).getD 0 ∧
        item.2 ≤ p.maxEdgesPerSourcePair) ∧
      (p.cases.map fun c => c.caseId).Nodup ∧ (p.cases.map fun c => (c.edgeId, c.predicate)).Nodup ∧
      ((p.cases.map fun c => c.edgeId).dedup.length : Int) = p.sampledEdgeCount ∧
      sameItems (sampledCounts p.cases) p.sampledEdgesBySourcePair = true ∧
      ∀ c ∈ p.cases, sameSet ((p.cases.filter fun other => other.edgeId = c.edgeId).map fun other => other.predicate) p.predicates =
        true := by
  unfold RelationshipPoolData.checkSample
  simp only [bind_ok, exists_unit, check_eq_ok, decide_eq_true_eq, listForM_ok, List.all_eq_true]

/-- A pool is captured of a sample: its cases in the order of the blind keys. -/
structure Sampled (m : ReviewModel E) (definition : BenchmarkDefinition) (run : CaptureRun)
    (response : IncidentsResponse E Datetime Float64) (bundles : List (EdgeBundle m.toTextModel))
    (cases : List RelationshipCase) : Prop where
  accepted : validateResponse m.toTextModel response definition.val.toRelationshipBenchmarkDefinition = .ok bundles
  made : CasesOf m (sampleEdges m run.definitionHash.val definition.val.maxEdgesPerSourcePair bundles) definition.val.predicates cases

theorem BenchmarkDefinition.predicates_ne_nil (definition : BenchmarkDefinition) : definition.val.predicates ≠ [] :=
  List.ne_nil_of_length_pos definition.bounds.2.2.2.1.1

theorem selected_subset {cap : Nat} : ∀ b ∈ sampleEdges m definitionHash cap bundles, b ∈ bundles :=
  fun _ hb => Strata.mem_of_mem_sample hb

/-- What a source pair gives is what it has, up to the cap. -/
theorem count_selected (cap : Nat) (pair : String) :
    ((sampleEdges m definitionHash cap bundles).map (·.sourcePairKey)).count pair =
      min cap ((bundles.map (·.sourcePairKey)).count pair) := by
  have hcount : ∀ l : List (EdgeBundle m.toTextModel), (l.map (·.sourcePairKey)).count pair =
      (l.filter fun b => b.sourcePairKey = pair).length := by
    intro l
    rw [List.count_eq_countP, List.countP_map, List.countP_eq_length_filter]
    exact congrArg List.length (List.filter_congr fun b _ => (beq_eq_decide _ _))
  rw [hcount, hcount, sampleEdges_eq]
  exact Strata.length_filter_sample _ _ _

namespace Sampled

variable {definition : BenchmarkDefinition} {run : CaptureRun} {response : IncidentsResponse E Datetime Float64}
  {cases : List RelationshipCase} (h : Sampled m definition run response bundles cases)
include h

theorem bundles_ne_nil : bundles ≠ [] := (validateResponse_iff.mp h.accepted).2.2.2.2

theorem selected_nodup :
    ((sampleEdges m run.definitionHash.val definition.val.maxEdgesPerSourcePair bundles).map (·.edge.edgeId)).Nodup := by
  have hids := bundleEdges_nodup h.accepted
  rw [sampleEdges_eq]
  refine (List.nodup_map_iff_inj_on (Strata.nodup_sample (List.Nodup.of_map _ hids))).mpr fun a ha b hb heq => ?_
  exact List.inj_on_of_nodup_map hids (Strata.mem_of_mem_sample ha) (Strata.mem_of_mem_sample hb) heq

omit h in
theorem exists_selected {b : EdgeBundle m.toTextModel} (hb : b ∈ bundles) :
    ∃ b' ∈ sampleEdges m run.definitionHash.val definition.val.maxEdgesPerSourcePair bundles, b'.sourcePairKey = b.sourcePairKey := by
  have hstrata : Strata.strata EdgeBundle.sourcePairKey (sampleEdges m run.definitionHash.val definition.val.maxEdgesPerSourcePair bundles) =
      Strata.strata EdgeBundle.sourcePairKey bundles := Strata.strata_sample definition.bounds.2.2.2.2.1.1
  exact Strata.mem_strata.mp (hstrata ▸ Strata.mem_strata.mpr ⟨b, hb, rfl⟩)

/-- Every source pair of the response has cases. -/
theorem pair_of_bundle {b : EdgeBundle m.toTextModel} (hb : b ∈ bundles) :
    ∃ x ∈ sourceNames, ∃ y ∈ sourceNames, x < y ∧ b.sourcePairKey = x ++ "+" ++ y := by
  obtain ⟨b', hb', heq⟩ := exists_selected hb
  rw [← heq]
  exact h.made.pair_of_edge definition.predicates_ne_nil hb'

theorem pair_of_count {l : List (EdgeBundle m.toTextModel)} (hl : ∀ b ∈ l, b ∈ bundles) :
    checkPairCounts (sortedCounts (l.map (·.sourcePairKey))) = .ok () := by
  refine checkPairCounts_ok (fun item hitem => ?_) fun item hitem => ?_
  · obtain ⟨key, hkey, rfl⟩ := List.mem_map.mp hitem
    rw [List.mem_insertionSort, List.mem_dedup] at hkey
    obtain ⟨b, hb, rfl⟩ := List.mem_map.mp hkey
    obtain ⟨x, hx, y, hy, hlt, heq⟩ := h.pair_of_bundle (hl b hb)
    exact ⟨x, hx, y, hy, hlt, heq⟩
  · obtain ⟨key, -, rfl⟩ := List.mem_map.mp hitem
    exact Int.natCast_nonneg _

theorem selected_ne_nil : sampleEdges m run.definitionHash.val definition.val.maxEdgesPerSourcePair bundles ≠ [] := by
  obtain ⟨b, hb⟩ := List.exists_mem_of_ne_nil _ h.bundles_ne_nil
  obtain ⟨b', hb', -⟩ := exists_selected hb
  exact List.ne_nil_of_mem hb'

theorem cases_ne_nil : cases ≠ [] := by
  obtain ⟨b, hb⟩ := List.exists_mem_of_ne_nil _ h.selected_ne_nil
  obtain ⟨p, hp⟩ := List.exists_mem_of_ne_nil _ definition.predicates_ne_nil
  obtain ⟨c, hc, -⟩ := h.made.exists_case hb hp
  exact List.ne_nil_of_mem hc

theorem checkFields_ok : (poolOf m definition run response bundles
    (sampleEdges m run.definitionHash.val definition.val.maxEdgesPerSourcePair bundles) cases).checkFields = .ok () := by
  obtain ⟨hid, hrule, hrelationship, hpredicates, hcap, hnodup⟩ := definition.bounds
  obtain ⟨hechoes, -⟩ := validateResponse_iff.mp h.accepted
  obtain ⟨hlen, hchars⟩ := compactTimestamp_chars run.capturedAt
  have hpool : matchesSlug ['.', '_', '-'] 2 159 (definition.val.benchmarkId ++ "-" ++ compactTimestamp run.capturedAt) = true := by
    have hdash := matchesSlug_append "-" hid (List.all_eq_true.mp (by decide))
    refine matchesSlug_mono ?_ (matchesSlug_append _ hdash fun c hc => ?_)
    · rw [hlen]
      decide
    · rw [hchars c hc, Bool.true_or]
  have hempty : cases ≠ [] := h.cases_ne_nil
  unfold RelationshipPoolData.checkFields
  simp only [poolOf, bind_ok, exists_unit, check_eq_ok, Bool.and_eq_true, decide_eq_true_eq, hechoes.rule,
    hechoes.relationshipRule]
  refine ⟨hpool, hid, matchesSha256_val _, run.endpoint_length, run.latency_measured, hpredicates,
    ⟨Int.ofNat_le.mpr hcap.1, Int.ofNat_le.mpr hcap.2⟩, hrule, hrelationship, ⟨Int.natCast_nonneg _, Int.natCast_nonneg _⟩,
    ⟨?_, ?_⟩, rfl, ?_, hnodup, h.pair_of_count fun _ hb => hb, h.pair_of_count selected_subset, rfl⟩
  · exact Int.ofNat_le.mpr (List.length_pos_of_ne_nil h.bundles_ne_nil)
  · exact Int.ofNat_le.mpr (List.length_pos_of_ne_nil h.selected_ne_nil)
  · rw [Bool.not_eq_true', List.isEmpty_eq_false_iff, ← List.length_pos_iff, List.length_insertionSort]
    exact List.length_pos_of_ne_nil hempty

theorem checkSample_ok (hids : (cases.map fun c => c.caseId).Nodup) : (poolOf m definition run response bundles
    (sampleEdges m run.definitionHash.val definition.val.maxEdgesPerSourcePair bundles) cases).checkSample = .ok () := by
  obtain ⟨-, -, -, -, -, hnodup⟩ := definition.bounds
  obtain ⟨hechoes, -⟩ := validateResponse_iff.mp h.accepted
  have hsorted := List.perm_insertionSort (fun a b => blindKey m run.definitionHash.val a ≤ blindKey m run.definitionHash.val b) cases
  have hmem : ∀ c, c ∈ cases.insertionSort (fun a b => blindKey m run.definitionHash.val a ≤ blindKey m run.definitionHash.val b) ↔
      c ∈ cases := fun c => hsorted.mem_iff
  have hcounts : sampledCounts (cases.insertionSort fun a b => blindKey m run.definitionHash.val a ≤ blindKey m run.definitionHash.val b) =
      sortedCounts ((sampleEdges m run.definitionHash.val definition.val.maxEdgesPerSourcePair bundles).map (·.sourcePairKey)) := by
    rw [sampledCounts_perm hsorted.symm, h.made.sampledCounts_eq definition.predicates_ne_nil h.selected_nodup]
  refine checkSample_eq_ok.mpr ⟨Int.ofNat_le.mpr hechoes.total, ?_, ?_, fun item hitem => ?_, (hsorted.map _).nodup_iff.mpr hids, ?_,
    ?_, ?_, fun c hc => ?_⟩
  · exact (sum_sortedCounts _).trans (congrArg _ (List.length_map _))
  · exact (sum_sortedCounts _).trans (congrArg _ (List.length_map _))
  · obtain ⟨key, hkey, rfl⟩ := List.mem_map.mp hitem
    rw [List.mem_insertionSort, List.mem_dedup] at hkey
    have havailable : key ∈ bundles.map (·.sourcePairKey) := by
      obtain ⟨b, hb, rfl⟩ := List.mem_map.mp hkey
      exact List.mem_map_of_mem (selected_subset b hb)
    have hget := get_sortedCounts havailable
    simp only [poolOf, hget, count_selected, Option.getD_some]
    exact ⟨Int.ofNat_le.mpr (min_le_right _ _), Int.ofNat_le.mpr (min_le_left _ _)⟩
  · refine (hsorted.map _).nodup_iff.mpr ?_
    rw [h.made.edgePredicates]
    exact h.selected_nodup.product hnodup
  · refine congrArg _ ((length_dedup_eq h.selected_nodup fun x => ?_).trans (List.length_map _))
    refine ((hsorted.map _).mem_iff).trans ?_
    simp only [List.mem_map]
    constructor
    · rintro ⟨c, hc, rfl⟩
      obtain ⟨b, hb, _, -, heq⟩ := h.made.exists_edge hc
      exact ⟨b, hb, by rw [heq]; rfl⟩
    · rintro ⟨b, hb, rfl⟩
      obtain ⟨p, hp⟩ := List.exists_mem_of_ne_nil _ definition.predicates_ne_nil
      obtain ⟨c, hc, heq⟩ := h.made.exists_case hb hp
      exact ⟨c, hc, by rw [heq]; rfl⟩
  · exact hcounts ▸ sameItems_self (nodup_sortedCounts _)
  · obtain ⟨b, hb, _, -, hedge⟩ := h.made.exists_edge ((hmem c).mp hc)
    refine sameSet_iff.mpr fun p => ?_
    simp only [List.mem_map, List.mem_filter, decide_eq_true_eq]
    constructor
    · rintro ⟨c', ⟨hc', -⟩, rfl⟩
      obtain ⟨_, -, q, hq, heq⟩ := h.made.exists_edge ((hmem c').mp hc')
      rw [heq]
      exact hq
    · intro hp
      obtain ⟨c', hc', heq⟩ := h.made.exists_case hb hp
      exact ⟨c', ⟨(hmem c').mpr hc', by rw [heq, hedge]; rfl⟩, by rw [heq]; rfl⟩

theorem checkReview_ok : (poolOf m definition run response bundles
    (sampleEdges m run.definitionHash.val definition.val.maxEdgesPerSourcePair bundles) cases).checkReview = .ok () := by
  have hunjudged : ((cases.insertionSort fun a b => blindKey m run.definitionHash.val a ≤ blindKey m run.definitionHash.val b).all
      fun c => c.goldLabel.isNone && c.rationale.isNone) = true := by
    refine List.all_eq_true.mpr fun c hc => ?_
    rw [List.mem_insertionSort] at hc
    obtain ⟨hgold, hrationale⟩ := h.made.unjudged c hc
    rw [hgold, hrationale]
    rfl
  simp only [RelationshipPoolData.checkReview, poolOf, bind_ok, exists_unit, check_eq_ok, Option.isNone_none, Bool.and_self, hunjudged]
  exact ⟨trivial, trivial⟩

/-- The capture is a pool when the cases have different ids. -/
theorem valid (hids : (cases.map fun c => c.caseId).Nodup) : (poolOf m definition run response bundles
    (sampleEdges m run.definitionHash.val definition.val.maxEdgesPerSourcePair bundles) cases).validate m = .ok () := by
  unfold RelationshipPoolData.validate
  simp only [bind_ok, exists_unit, check_eq_ok, listForM_ok]
  refine ⟨h.checkFields_ok, fun c hc => h.made.valid c ?_, ?_, rfl, h.checkSample_ok hids, h.checkReview_ok, rfl⟩
  · rwa [poolOf, List.mem_insertionSort] at hc
  · have hutc : run.capturedAt.val.utcoffset = some 0 := of_decide_eq_true run.capturedAt.property
    rw [poolOf, hutc]
    rfl

end Sampled

/-- The cases of a sample. -/
def sampledCases (m : ReviewModel E) (definition : BenchmarkDefinition) (selected : List (EdgeBundle m.toTextModel)) :
    Except String (List RelationshipCase) :=
  (selected.flatMap fun b => definition.val.predicates.map (b, ·)).mapM fun x => relationshipCase m x.1 x.2

section
variable {definition : BenchmarkDefinition} {run : CaptureRun} {response response' : IncidentsResponse E Datetime Float64}

theorem captureRelationshipPool_eq (h : validateResponse m.toTextModel response definition.val.toRelationshipBenchmarkDefinition =
    .ok bundles) :
    captureRelationshipPool m definition run response =
      let selected := sampleEdges m run.definitionHash.val definition.val.maxEdgesPerSourcePair bundles
      (sampledCases m definition selected).bind fun cases => (poolOf m definition run response bundles selected cases).modelValidate := by
  unfold captureRelationshipPool
  rw [h]
  rfl

theorem poolOf_normalize {selected : List (EdgeBundle m.toTextModel)} {cases : List RelationshipCase} :
    (poolOf m definition run response bundles selected cases).normalize =
      poolOf m definition run response bundles selected cases := rfl

theorem captureRelationshipPool_ok (h : validateResponse m.toTextModel response definition.val.toRelationshipBenchmarkDefinition =
    .ok bundles) {pool : RelationshipPool m} (hpool : captureRelationshipPool m definition run response = .ok pool) :
    ∃ cases, sampledCases m definition (sampleEdges m run.definitionHash.val definition.val.maxEdgesPerSourcePair bundles) = .ok cases ∧
      pool.toRelationshipPoolData = poolOf m definition run response bundles
        (sampleEdges m run.definitionHash.val definition.val.maxEdgesPerSourcePair bundles) cases := by
  rw [captureRelationshipPool_eq h] at hpool
  obtain ⟨cases, hcases, hmodel⟩ := bind_ok.mp hpool
  exact ⟨cases, hcases, (RelationshipPoolData.modelValidate_ok hmodel).trans poolOf_normalize⟩

/-- The capture returns a pool when every case is accepted and no two have one id. -/
theorem captures_iff (h : validateResponse m.toTextModel response definition.val.toRelationshipBenchmarkDefinition = .ok bundles) :
    (∃ pool, captureRelationshipPool m definition run response = .ok pool) ↔
      ∃ cases, sampledCases m definition (sampleEdges m run.definitionHash.val definition.val.maxEdgesPerSourcePair bundles) =
        .ok cases ∧ (cases.map fun c => c.caseId).Nodup := by
  constructor
  · rintro ⟨pool, hpool⟩
    obtain ⟨cases, hcases, heq⟩ := captureRelationshipPool_ok h hpool
    refine ⟨cases, hcases, ?_⟩
    have hvalid := pool.valid
    rw [heq] at hvalid
    unfold RelationshipPoolData.validate at hvalid
    simp only [bind_ok, exists_unit] at hvalid
    have hids := (checkSample_eq_ok.mp hvalid.2.2.2.2.1).2.2.2.2.1
    exact ((List.perm_insertionSort _ _).map _).nodup_iff.mp hids
  · rintro ⟨cases, hcases, hids⟩
    have hsampled : Sampled m definition run response bundles cases := ⟨h, casesOf hcases⟩
    obtain ⟨pool, hpool⟩ := RelationshipPoolData.modelValidate_of_valid (poolOf_normalize.symm ▸ hsampled.valid hids)
    rw [captureRelationshipPool_eq h]
    exact ⟨pool, bind_ok.mpr ⟨cases, hcases, hpool⟩⟩

/-- The cases of the pool: every sampled edge once for every predicate. -/
theorem captured_cases (h : validateResponse m.toTextModel response definition.val.toRelationshipBenchmarkDefinition = .ok bundles)
    {pool : RelationshipPool m} (hpool : captureRelationshipPool m definition run response = .ok pool) :
    (pool.cases.map fun c => (c.edgeId, c.predicate)).Perm
      (((sampleEdges m run.definitionHash.val definition.val.maxEdgesPerSourcePair bundles).map (·.edge.edgeId)).product
        definition.val.predicates) := by
  obtain ⟨cases, hcases, heq⟩ := captureRelationshipPool_ok h hpool
  rw [heq, ← (casesOf hcases).edgePredicates]
  exact (List.perm_insertionSort _ _).map _

theorem sortedCounts_perm {keys keys' : List String} (h : keys.Perm keys') : sortedCounts keys = sortedCounts keys' := by
  unfold sortedCounts
  rw [Strata.sortedSet_congr fun x => h.mem_iff]
  exact List.map_congr_left fun key _ => by rw [h.count_eq]

theorem capture_rearranged (h : validateResponse m.toTextModel response definition.val.toRelationshipBenchmarkDefinition = .ok bundles)
    (hsha : SampleKeysDistinct run.definitionHash.val bundles) (hsame : Rearranged response response') :
    ∃ bundles', validateResponse m.toTextModel response' definition.val.toRelationshipBenchmarkDefinition = .ok bundles' ∧
      (∀ cap, sampleEdges m run.definitionHash.val cap bundles' = sampleEdges m run.definitionHash.val cap bundles) ∧
      captureRelationshipPool m definition run response' = captureRelationshipPool m definition run response := by
  obtain ⟨bundles', h', hperm⟩ := validateResponse_rearranged hsame h
  have hsample : ∀ cap, sampleEdges m run.definitionHash.val cap bundles' = sampleEdges m run.definitionHash.val cap bundles :=
    fun cap => (Strata.sample_perm hperm (ranked_bundles (bundleEdges_nodup h) hsha)).symm
  refine ⟨bundles', h', hsample, ?_⟩
  have hpool : ∀ selected cases, poolOf m definition run response' bundles' selected cases =
      poolOf m definition run response bundles selected cases := by
    intro selected cases
    unfold poolOf
    rw [hsame.1, hperm.length_eq, sortedCounts_perm (hperm.map _)]
  rw [captureRelationshipPool_eq h, captureRelationshipPool_eq h', hsample]
  simp only [hpool]

end

/-- **Relationship sampling.** Every source pair of an accepted response gives
as many edges as it has, up to the cap. The edges are different and they only
grow with the cap. A pool is captured exactly when every case of a sampled edge
is accepted and no two have one id; it has each sampled edge once for every
predicate. The incidents and the edges may come in any order. -/
theorem relationship_sampling_fair {E : Type} (m : ReviewModel E) (definition : BenchmarkDefinition) (run : CaptureRun)
    (response : IncidentsResponse E Datetime Float64) (bundles : List (EdgeBundle m.toTextModel))
    (accepted : validateResponse m.toTextModel response definition.val.toRelationshipBenchmarkDefinition = .ok bundles) :
    (∀ cap pair, ((sampleEdges m run.definitionHash.val cap bundles).filter fun b => b.sourcePairKey = pair).length =
      min cap (bundles.filter fun b => b.sourcePairKey = pair).length) ∧
    (∀ cap, (sampleEdges m run.definitionHash.val cap bundles).Nodup ∧
      ∀ b ∈ sampleEdges m run.definitionHash.val cap bundles, b ∈ bundles) ∧
    (∀ cap cap', cap ≤ cap' →
      (sampleEdges m run.definitionHash.val cap bundles).Sublist (sampleEdges m run.definitionHash.val cap' bundles)) ∧
    ((∃ pool, captureRelationshipPool m definition run response = .ok pool) ↔
      ∃ cases, sampledCases m definition (sampleEdges m run.definitionHash.val definition.val.maxEdgesPerSourcePair bundles) =
        .ok cases ∧ (cases.map fun c => c.caseId).Nodup) ∧
    (∀ pool, captureRelationshipPool m definition run response = .ok pool →
      (pool.cases.map fun c => (c.edgeId, c.predicate)).Perm
        (((sampleEdges m run.definitionHash.val definition.val.maxEdgesPerSourcePair bundles).map (·.edge.edgeId)).product
          definition.val.predicates)) ∧
    ∀ response', Rearranged response response' → SampleKeysDistinct run.definitionHash.val bundles →
      ∃ bundles', validateResponse m.toTextModel response' definition.val.toRelationshipBenchmarkDefinition = .ok bundles' ∧
        (∀ cap, sampleEdges m run.definitionHash.val cap bundles' = sampleEdges m run.definitionHash.val cap bundles) ∧
        captureRelationshipPool m definition run response' = captureRelationshipPool m definition run response := by
  refine ⟨fun cap pair => ?_, fun cap => ⟨?_, fun b hb => Strata.mem_of_mem_sample hb⟩, fun cap cap' hle => Strata.sample_mono hle,
    captures_iff accepted, fun pool hpool => captured_cases accepted hpool, fun response' hsame hsha =>
      capture_rearranged accepted hsha hsame⟩
  · rw [sampleEdges_eq]
    exact Strata.length_filter_sample _ _ _
  · rw [sampleEdges_eq]
    exact Strata.nodup_sample (List.Nodup.of_map _ (bundleEdges_nodup accepted))

end

/-! ## A measured edge -/

namespace MeasuredEdge

/-- The source and the id of a signal. -/
abbrev Report := String × String

def floats : FloatOps Float64 where
  ofRat := fun q => (intDiv q.num q.den).toOption.getD (Float64.ofInt 0)
  isfinite := Float64.isFinite
  lt := Float64.lt
  le := Float64.le
  abs := Float64.abs
  mul := Float64.mul
  div := fun x y => ((x.div y).toOption).getD x
  sum := Float64.sum
  radians := id
  degrees := id
  cos := id
  sin := id
  hypot := fun x _ => x
  atan2 := fun x _ => x
  round := fun x digits => x.round digits

def moment : Datetime := ⟨63902822400000000, some 0, by decide, offsetBound_zero⟩

def warningHash : String := "76f0f7856d0045d8a9db6aac176acb56e04e8af7b18e3bd9033acc491684b104"

def quakeHash : String := "3da3b62ea1124fda88707c8f01f2dea0371a37e3a1f54e5214959cba04b6eb1f"

def tremorHash : String := "ff6c73b02218301bd5eee49fc0a63abfe5b20a714f49facf2fa1c1efcc34381e"

def definitionHash : String := "6e5744fde5e40cb3e0f758280c302c872c2198a3e2241190156b0b5156ab2304"

/-- SHA-256 of the texts that are hashed for the two signals. -/
def digests : List (String × HexDigest) :=
  [("Source: nws\nEvent type: signal\nEvent ID: warning\nOccurred at: 2026-01-01T00:00:00+00:00",
      ⟨warningHash, by decide +kernel⟩),
    ("Source: usgs\nEvent type: signal\nEvent ID: quake\nOccurred at: 2026-01-01T00:00:00+00:00",
      ⟨quakeHash, by decide +kernel⟩),
    ("Source: usgs\nEvent type: signal\nEvent ID: tremor\nOccurred at: 2026-01-01T00:00:00+00:00",
      ⟨tremorHash, by decide +kernel⟩),
    ("\x7b\"distance_km\":4.0,\"edge_id\":\"edge-1\",\"left_document_hash\":\"" ++ warningHash ++ "\",\"left_geometry_basis\":\"point\",\"predicate\":\"hazard_domain\",\"right_document_hash\":\"" ++ quakeHash ++ "\",\"right_geometry_basis\":\"point\",\"time_delta_minutes\":4.0\x7d",
      ⟨"38ed5a90093322df04d3944533543e902d3552b1b9a0c1d764c6a6cd55d59d7b", by decide +kernel⟩)]

def digest (text : String) : HexDigest :=
  (digests.lookup text).getD ⟨"e3b0c44298fc1c149afbf4c8996fb92427ae41e4649b934ca495991b7852b855", by decide +kernel⟩

def reports : ReviewModel Report where
  eventId := Prod.snd
  source := Prod.fst
  modelDump := fun _ => .null
  modelDumpJson := fun _ => ""
  modelValidateJson := fun _ => .error "not stored"
  sha256 := fun text => (digest text).val
  float := floats
  eventType := fun _ => "signal"
  occurredAt := fun _ => moment
  location := fun _ => none
  payload := fun _ _ => none
  totalSeconds := fun later earlier => Float64.ofInt (later.instant - earlier.instant)
  isoformat := fun t => String.ofList t.isoChars
  formatGeneral := fun _ => ""
  formatFixed := fun _ => ""
  casefold := fun text => String.ofList (text.toList.map Char.toLower)
  isWord := fun c => c.isAlphanum || c = '_'
  sha256_hex := fun text => (digest text).property
  reprFloat := fun _ => ⟨"4.0".toList, by decide, by decide⟩
  formatSignificant := fun _ => "4"
  dumpPool := fun pool => .str pool.poolId
  dumpCapture := fun capture => .str capture.poolId

def parameters : CorrelationParameters Float64 := ⟨Float64.ofInt 50, 360, 24, 2000, 100, true, none⟩

def definition : BenchmarkDefinition where
  val :=
    { expectedCorrelationRuleVersion := "spatiotemporal-v1"
      expectedRelationshipRuleVersion := "structured-claims-v1"
      parameters
      benchmarkId := "quakes"
      predicates := [.hazardDomain]
      maxEdgesPerSourcePair := 1 }
  property := by decide +kernel

def run : CaptureRun where
  definitionHash := ⟨MeasuredEdge.definitionHash, by decide +kernel⟩
  endpoint := "http://atlas"
  endpoint_length := by decide
  capturedAt := ⟨moment, rfl⟩
  latencyMs := Float64.ofInt 4
  latency_measured := by decide +kernel

/-- An incident of one edge between two signals. -/
def response (left right : Report) : IncidentsResponse Report Datetime Float64 where
  count := 1
  totalIncidents := 1
  items := [{
    incidentId := "incident-1"
    title := "Two signals"
    startedAt := moment
    latestSignalAt := moment
    center := none
    sources := [left.1, right.1]
    nodeCount := 2
    edgeCount := 1
    maxDistanceKm := Float64.ofInt 4
    timeSpanMinutes := Float64.ofInt 4
    nodes := [⟨left.1 ++ ":" ++ left.2, "1-0", left⟩, ⟨right.1 ++ ":" ++ right.2, "2-0", right⟩]
    edges := [{
      edgeId := "edge-1"
      fromNodeId := left.1 ++ ":" ++ left.2
      toNodeId := right.1 ++ ":" ++ right.2
      relation := "co_occurs_with"
      spatialRelation := .withinRadius
      distanceKm := Float64.ofInt 4
      timeDeltaMinutes := Float64.ofInt 4
      fromGeometryBasis := .point
      toGeometryBasis := .point
      ruleVersion := "spatiotemporal-v1" }]
    relationshipAnalysis := ⟨[], [], 1, 0, 0, 0, "structured-claims-v1", "caveat"⟩
    ruleVersion := "spatiotemporal-v1"
    caveat := "caveat" }]
  incidentsTruncated := false
  candidateEdgesTruncated := false
  ruleVersion := "spatiotemporal-v1"
  caveat := "caveat"
  relationshipRuleVersion := "structured-claims-v1"
  relationshipCaveat := "caveat"
  parameters

def accepts {α : Type} (x : Except String α) : Bool :=
  match x with
  | .ok _ => true
  | .error _ => false

theorem ok_of_accepts {α : Type} {x : Except String α} (h : accepts x = true) : ∃ a, x = .ok a := by
  cases x with
  | ok a => exact ⟨a, rfl⟩
  | error e => cases h

/-- What the witnesses need of the bundles of a response. -/
def outline (left right : Report) : Except String (List (String × Bool × Bool)) :=
  (validateResponse reports.toTextModel (response left right) definition.val.toRelationshipBenchmarkDefinition).map fun bundles =>
    bundles.map fun b => (b.sourcePairKey, accepts (prediction b .hazardDomain), decide (Presentable b))

theorem quake_outline : outline ("nws", "warning") ("usgs", "quake") = .ok [("nws+usgs", true, true)] := by decide +kernel

theorem tremor_outline : outline ("usgs", "quake") ("usgs", "tremor") = .ok [("usgs+usgs", true, false)] := by decide +kernel

end MeasuredEdge

open MeasuredEdge in
/-- The one edge of the response is sampled, and its pool is captured. -/
theorem relationship_sampling_fair_quake :
    ∃ pool, captureRelationshipPool reports definition run (response ("nws", "warning") ("usgs", "quake")) = .ok pool := by
  obtain ⟨bundles, hbundles, houtline⟩ := map_ok.mp quake_outline
  obtain ⟨b, rfl, hshown⟩ := List.map_eq_singleton_iff.mp houtline
  have hprediction : accepts (prediction b .hazardDomain) = true := congrArg (fun row => row.2.1) hshown
  have hcomparable : decide (Presentable b) = true := congrArg (fun row => row.2.2) hshown
  obtain ⟨case, hcase⟩ := relationshipCase_iff.mpr ⟨ok_of_accepts hprediction, of_decide_eq_true hcomparable⟩
  have hsample : sampleEdges reports definitionHash 1 [b] = [b] := by simp [sampleEdges, sourcePairs, rankedEdges]
  have hcases : sampledCases reports definition [b] = .ok [case] := by
    show [(b, ClaimPredicate.hazardDomain)].mapM (fun x => relationshipCase reports x.1 x.2) = _
    rw [List.mapM_cons, hcase]
    rfl
  have hsampled : sampledCases reports definition
      (sampleEdges reports run.definitionHash.val definition.val.maxEdgesPerSourcePair [b]) = .ok [case] := by
    rw [show sampleEdges reports run.definitionHash.val definition.val.maxEdgesPerSourcePair [b] = [b] from hsample, hcases]
  have hsound := relationship_sampling_fair reports definition run _ [b] hbundles
  exact hsound.2.2.2.1.mpr ⟨[case], hsampled, List.nodup_singleton _⟩

/-- An edge between two signals of one source is accepted, and has no pool. -/
theorem one_source_is_not_captured :
    (∃ bundles, validateResponse MeasuredEdge.reports.toTextModel (MeasuredEdge.response ("usgs", "quake") ("usgs", "tremor"))
      MeasuredEdge.definition.val.toRelationshipBenchmarkDefinition = .ok bundles) ∧
    ¬ ∃ pool, captureRelationshipPool MeasuredEdge.reports MeasuredEdge.definition MeasuredEdge.run
      (MeasuredEdge.response ("usgs", "quake") ("usgs", "tremor")) = .ok pool := by
  obtain ⟨bundles, hbundles, houtline⟩ := map_ok.mp MeasuredEdge.tremor_outline
  obtain ⟨b, rfl, hshown⟩ := List.map_eq_singleton_iff.mp houtline
  refine ⟨⟨_, hbundles⟩, fun hpool => ?_⟩
  obtain ⟨cases, hcases, -⟩ := (captures_iff hbundles).mp hpool
  have hsampled : Sampled MeasuredEdge.reports MeasuredEdge.definition MeasuredEdge.run _ [b] cases := ⟨hbundles, casesOf hcases⟩
  obtain ⟨x, hx, y, hy, hlt, heq⟩ := hsampled.pair_of_bundle (List.mem_singleton_self b)
  have hapart : ∀ x ∈ sourceNames, ∀ y ∈ sourceNames, x < y → "usgs+usgs" ≠ x ++ "+" ++ y := by decide
  exact hapart x hx y hy hlt ((congrArg Prod.fst hshown).symm.trans heq)

end AtlasPulse
