import AtlasPulse.IncidentSound
import AtlasPulse.RelationshipCapture
import AtlasPulse.RelationshipsSound

/-!
# Soundness of relationship capture

The ledgers of built incidents are sound, and the capture accepts a response
exactly when it shows an incident and its signals are within the bounds of
`EventEvidence`.
-/

namespace AtlasPulse

section
variable {E T F : Type} {m : TextModel E T F}

/-! ## Incidents -/

variable {pairs : List (CorrelationPair m.toSignalModel)} {ns : List String} {i : IncidentCandidate E T F}

/-- What the shown incidents of some pairs have. -/
structure BuiltIncident (m : TextModel E T F) (pairs : List (CorrelationPair m.toSignalModel)) (i : IncidentCandidate E T F) :
    Prop where
  graph : MeasuredGraph i
  edge : ∀ e ∈ i.edges, ∃ p ∈ pairs, edgeFromPair p = e
  nodes : ∀ node ∈ i.nodes, node.nodeId = evidenceNodeId m.toSignalModel node.message
  touched : ∀ node ∈ i.nodes, ∃ e ∈ i.edges, e.fromNodeId = node.nodeId ∨ e.toNodeId = node.nodeId
  inhabited : i.edges ≠ []

theorem edgeFromPair_le (p : CorrelationPair m.toSignalModel) : (edgeFromPair p).fromNodeId ≤ (edgeFromPair p).toNodeId := by
  unfold edgeFromPair
  dsimp only
  split
  · rename_i h
    exact le_of_lt h
  · rename_i h
    exact not_lt.mp h

theorem edgeFromPair_version (p : CorrelationPair m.toSignalModel) : (edgeFromPair p).ruleVersion = correlationRuleVersion ∧
    ∃ values, (edgeFromPair p).edgeId = contentId m.sha256 correlationRuleVersion "edge" values := ⟨rfl, _, rfl⟩

theorem Shows.built (hs : Shows pairs ns i) (hns : ComponentIds pairs ns) : BuiltIncident m pairs i := by
  have hends : ∀ n ∈ ns, ∃ e ∈ i.edges, e.fromNodeId = n ∨ e.toNodeId = n := by
    intro n hn
    obtain ⟨n', -, hmem⟩ := hns.component
    obtain ⟨x, hx, rfl⟩ := List.mem_map.mp ((hmem n).mp hn).1
    obtain ⟨p, hp, hxp⟩ := mem_occurrences.mp hx
    have hlinked := linked_ends hp
    have hboth : evidenceNodeId m.toSignalModel p.left ∈ ns ∧ evidenceNodeId m.toSignalModel p.right ∈ ns := by
      rcases hxp with rfl | rfl
      · exact ⟨hn, (hmem _).mpr ⟨List.mem_map_of_mem (right_mem hp), ((hmem _).mp hn).2.trans _ _ _ hlinked⟩⟩
      · exact ⟨(hmem _).mpr ⟨List.mem_map_of_mem (left_mem hp), ((hmem _).mp hn).2.trans _ _ _ (hlinked.symm _ _)⟩, hn⟩
    refine ⟨edgeFromPair p, (hs.edges _).mpr ⟨⟨p, hp, rfl⟩, ?_⟩, ?_⟩
    · rcases edgeFromPair_ends p with ⟨ha, hb⟩ | ⟨ha, hb⟩ <;> rw [ha, hb]
      · exact hboth
      · exact hboth.symm
    · rcases edgeFromPair_ends p with ⟨ha, hb⟩ | ⟨ha, hb⟩ <;> rw [ha, hb] <;> rcases hxp with rfl | rfl <;> simp
  refine ⟨⟨?_, ?_, fun e he => ?_, fun e he => ?_⟩, fun e he => ((hs.edges e).mp he).1, fun node hnode => ?_, fun node hnode => ?_, ?_⟩
  · rw [hs.nodes]
    exact hns.sorted.imp ne_of_lt
  · exact List.pairwise_map.mpr (hs.edgesSorted.imp ne_of_lt)
  · obtain ⟨p, -, rfl⟩ := ((hs.edges e).mp he).1
    exact edgeFromPair_le p
  · rw [hs.nodes]
    exact ((hs.edges e).mp he).2
  · obtain ⟨p, hp, hx⟩ := mem_occurrences.mp (hs.messages node hnode)
    rcases hx with hx | hx
    · rw [(Prod.mk.inj hx).1, (Prod.mk.inj hx).2]
    · rw [(Prod.mk.inj hx).1, (Prod.mk.inj hx).2]
  · refine hends _ ?_
    rw [← hs.nodes]
    exact List.mem_map_of_mem hnode
  · obtain ⟨n, hn⟩ := hns.exists_mem
    obtain ⟨e, he, -⟩ := hends n hn
    exact List.ne_nil_of_mem he

variable [LinearOrder T] [DecidableEq F]
variable {batch : CorrelationBatch m.toSignalModel} {limit : Int} {result : CorrelationResult E T F}

/-- The shown incidents of an accepted batch. -/
theorem result_incidents (hok : buildIncidentCandidates m.toSignalModel batch limit = .ok result) :
    Consistent batch.pairs ∧ (∀ i ∈ result.incidents, BuiltIncident m batch.pairs i) ∧
      ((result.incidents.flatMap (·.edges)).map (·.edgeId)).Nodup ∧ result.incidents.length ≤ result.totalIncidents := by
  have haccepted : 1 ≤ limit ∧ limit ≤ 100 ∧ Consistent batch.pairs := by
    by_contra hbad
    obtain ⟨e, -, herror⟩ := (buildIncidentCandidates_spec batch limit).2 hbad
    rw [herror] at hok
    cases hok
  obtain ⟨st, incidents, h, hincidents, hresult⟩ := (buildIncidentCandidates_spec batch limit).1 haccepted
  obtain rfl := Except.ok.inj (hresult.symm.trans hok)
  have hshows : ∀ i ∈ incidents, ∃ ns, ComponentIds batch.pairs ns ∧ Shows batch.pairs ns i := by
    intro i hi
    obtain ⟨ns, hns, hcandidate⟩ := (mem_mapM hincidents).1 i hi
    have hns := (mem_groups_iff h).mp hns
    obtain ⟨i', hi', hs⟩ := incidentCandidate_spec h hns
    obtain rfl := Except.ok.inj (hi'.symm.trans hcandidate)
    exact ⟨ns, hns, hs⟩
  have hperm : (incidents.insertionSort incidentBefore).Perm incidents := List.perm_insertionSort _ _
  refine ⟨haccepted.2.2, fun i hi => ?_, ?_, ?_⟩
  · obtain ⟨ns, hns, hs⟩ := hshows i (hperm.mem_iff.mp (List.mem_of_mem_take hi))
    exact hs.built hns
  · have hall : ((incidents.flatMap (·.edges)).map (·.edgeId)).Nodup := by
      have hgroups : incidents.map (fun i => i.nodes.map (·.nodeId)) = groups st := by
        refine (map_of_mapM (k := id) hincidents fun ns hns i hi => ?_).trans (List.map_id _)
        obtain ⟨i', hi', hs⟩ := incidentCandidate_spec h ((mem_groups_iff h).mp hns)
        obtain rfl := Except.ok.inj (hi'.symm.trans hi)
        exact hs.nodes
      rw [List.map_flatMap, List.nodup_flatMap]
      refine ⟨fun i hi => ?_, ?_⟩
      · obtain ⟨ns, -, hs⟩ := hshows i hi
        exact List.pairwise_map.mpr (hs.edgesSorted.imp ne_of_lt)
      · have hne : incidents.Pairwise fun i i' => i.nodes.map (·.nodeId) ≠ i'.nodes.map (·.nodeId) :=
          List.pairwise_map.mp (hgroups ▸ groups_nodup st)
        refine (List.Pairwise.and_mem.mp hne).imp ?_
        rintro i i' ⟨hi, hi', hne⟩ id hid hid'
        obtain ⟨e, he, rfl⟩ := List.mem_map.mp hid
        obtain ⟨e', he', heq⟩ := List.mem_map.mp hid'
        obtain ⟨ns, hns, hs⟩ := hshows i hi
        obtain ⟨ns', hns', hs'⟩ := hshows i' hi'
        obtain ⟨⟨p, hp, rfl⟩, hfrom, -⟩ := (hs.edges e).mp he
        obtain ⟨⟨p', hp', rfl⟩, hfrom', -⟩ := (hs'.edges e').mp he'
        rw [haccepted.2.2.edges p' hp' p hp heq] at hfrom'
        rw [hs.nodes, hs'.nodes] at hne
        exact hne (hns.eq hns' hfrom hfrom')
    have hsorted := ((hperm.flatMap_right (·.edges)).map (·.edgeId)).nodup_iff.mpr hall
    rw [← List.take_append_drop limit.toNat (incidents.insertionSort incidentBefore), List.flatMap_append, List.map_append] at hsorted
    exact (List.nodup_append.mp hsorted).1
  · rw [List.length_take, List.length_insertionSort]
    exact min_le_right _ _

/-! ## Evidence -/

/-- The bounds of `EventEvidence` on a signal. -/
def Reviewable (m : TextModel E T F) (event : E) : Prop :=
  m.source event ∈ sourceNames ∧ (1 ≤ (m.eventId event).length ∧ (m.eventId event).length ≤ 900) ∧
    1 ≤ (m.eventType event).length ∧ (m.eventType event).length ≤ 500

omit [LinearOrder T] [DecidableEq F] in
theorem EventEvidence.validate_ok (e : EventEvidence T) : e.validate m = .ok () ↔
    (3 ≤ e.nodeId.length ∧ e.nodeId.length ≤ 1000) ∧ e.source ∈ sourceNames ∧
    (1 ≤ e.eventId.length ∧ e.eventId.length ≤ 900) ∧ (1 ≤ e.eventType.length ∧ e.eventType.length ≤ 500) ∧
    (1 ≤ e.documentText.length ∧ e.documentText.length ≤ 8000) ∧ isPrefixedHash "" e.documentHash ∧
    e.nodeId = e.source ++ ":" ++ e.eventId ∧ e.documentHash = m.sha256 e.documentText := by
  simp only [EventEvidence.validate, bind_unit_ok, check_eq_ok, Bool.and_eq_true, decide_eq_true_eq]

omit [LinearOrder T] [DecidableEq F] in
theorem eventEvidence_ok (hsha : ∀ text, isPrefixedHash "" (m.sha256 text)) {node : EvidenceNode E}
    (hid : node.nodeId = evidenceNodeId m.toSignalModel node.message) :
    (∃ e, eventEvidence m (nodeResponse node) = .ok e) ↔ Reviewable m node.message.event := by
  obtain ⟨hlow, hhigh⟩ := length_renderEventDocument m node.message.event
  have hsource : ∀ source ∈ sourceNames, 3 ≤ source.length ∧ source.length ≤ 5 := by decide
  unfold maxDocumentCharacters at hhigh
  have hlen : node.nodeId.length = (m.source node.message.event).length + 1 + (m.eventId node.message.event).length := by
    rw [hid, evidenceNodeId, String.length_append, String.length_append]
    rfl
  unfold eventEvidence
  rw [construct_ok, EventEvidence.validate_ok]
  dsimp only [nodeResponse]
  unfold Reviewable
  constructor
  · rintro ⟨-, hs, hi, ht, -⟩
    exact ⟨hs, hi, ht⟩
  · rintro ⟨hs, hi, ht⟩
    obtain ⟨h3, h5⟩ := hsource _ hs
    exact ⟨⟨by omega, by omega⟩, hs, hi, ht, ⟨hlow, hhigh⟩, hsha _, hid, rfl⟩

/-! ## One incident -/

variable {r : EvidenceRelationship}

/-- A dict by a key that tells the elements apart. -/
theorem ofItems_key {α β : Type} {key : β → String} {f : α → β} {l : List α} (h : (l.map fun a => key (f a)).Nodup) :
    PyDict.ofItems ((l.map f).map fun b => (key b, b)) = (l.map f).map fun b => (key b, b) := by
  refine PyDict.ofItems_of_nodup ?_
  rw [List.map_map, List.map_map]
  exact h

theorem get_of_nodup {α β : Type} {k : β → String} {f : α → β} {l : List α} (h : (l.map fun a => k (f a)).Nodup) {a : α}
    (ha : a ∈ l) : PyDict.get (PyDict.ofItems ((l.map f).map fun b => (k b, b))) (k (f a)) = some (f a) := by
  have hkeys : (((l.map f).map fun b => (k b, b)).map Prod.fst).Nodup := by
    rw [List.map_map, List.map_map]
    exact h
  rw [ofItems_key h, PyDict.get_eq_some hkeys]
  exact List.mem_map_of_mem (List.mem_map_of_mem ha)

omit [LinearOrder T] [DecidableEq F] in
theorem checkRelationship_ok (h : MeasuredGraph i) (hclaims : ((analyzeIncident m i).claims.map (·.claimId)).Nodup)
    (hr : r ∈ (analyzeIncident m i).relationships) :
    checkRelationship (PyDict.ofItems ((i.edges.map edgeResponse).map fun edge => (edge.edgeId, edge)))
      (PyDict.ofItems (((analyzeIncident m i).claims.map claimResponse).map fun claim => (claim.claimId, claim)))
      (relationshipResponse r) = .ok () := by
  obtain ⟨edge, hedge, hmem⟩ := mem_relationships.mp hr
  have hgetEdge : PyDict.get (PyDict.ofItems ((i.edges.map edgeResponse).map fun edge => (edge.edgeId, edge)))
      (relationshipResponse r).edgeId = some (edgeResponse edge) := by
    have hid : (relationshipResponse r).edgeId = (edgeResponse edge).edgeId := edgeId_eq h hedge hmem
    rw [hid]
    exact get_of_nodup (k := EvidenceEdgeResponse.edgeId) h.edges hedge
  have hgetClaim : ∀ c ∈ (analyzeIncident m i).claims,
      PyDict.get (PyDict.ofItems (((analyzeIncident m i).claims.map claimResponse).map fun claim => (claim.claimId, claim)))
        c.claimId = some (claimResponse c) := fun c hc =>
    get_of_nodup (k := EvidenceClaimResponse.claimId) (f := claimResponse) hclaims hc
  unfold checkRelationship
  rw [hgetEdge]
  rcases edge_spec (m := m) h hedge with ⟨-, -, lefts, rights, hlefts, hrights, hin, hcites⟩ | hunresolved
  · obtain ⟨left, hl, right, hrr, hcite⟩ := hcites r hmem
    have hlabel : (relationshipResponse r).label ≠ .insufficientEvidence := by
      show r.label ≠ _
      rcases hcite.label with ⟨hlabel, -⟩ | ⟨hlabel, -⟩ <;> rw [hlabel] <;> simp
    have hpredicate : (relationshipResponse r).predicate = some left.predicate := hcite.predicate.1
    have hfrom : (relationshipResponse r).fromClaimId = some left.claimId := hcite.claims.1
    have hto : (relationshipResponse r).toClaimId = some right.claimId := hcite.claims.2
    simp only [hpredicate, hfrom, hto, hgetClaim left (hin left (Or.inl hl)), hgetClaim right (hin right (Or.inr hrr)),
      if_neg hlabel, bind_unit_ok, check_eq_ok, Bool.and_eq_true, decide_eq_true_eq]
    exact ⟨hcite.ends.2, ⟨⟨hlefts.node left hl, hrights.node right hrr⟩, rfl⟩, hcite.predicate.2⟩
  · rw [hunresolved] at hmem
    rw [List.mem_singleton.mp hmem]
    simp [unresolved, relationshipResponse, edgeResponse, check, bind, Except.bind]

omit [LinearOrder T] [DecidableEq F] in
/-- A response shows an incident as it is checked. -/
theorem checkIncident_ok (h : MeasuredGraph i) (hclaims : ((analyzeIncident m i).claims.map (·.claimId)).Nodup)
    (hrelationships : ((analyzeIncident m i).relationships.map (·.relationshipId)).Nodup) :
    checkIncident relationshipRuleVersion (incidentResponse m i) = .ok () := by
  have hgraph : (incidentResponse m i).nodeCount = (incidentResponse m i).nodes.length ∧
      (incidentResponse m i).edgeCount = (incidentResponse m i).edges.length :=
    ⟨(List.length_map _).symm, (List.length_map _).symm⟩
  have hversion : ∀ c ∈ (analyzeIncident m i).claims, c.ruleVersion = relationshipRuleVersion := by
    intro c hc
    obtain ⟨node, -, hc⟩ := (mem_claims h).mp hc
    obtain ⟨content, -, -, -, rfl⟩ := (extractClaims_spec node).claim c hc
    rfl
  have hversion' : ∀ r ∈ (analyzeIncident m i).relationships, r.ruleVersion = relationshipRuleVersion := by
    intro r hr
    obtain ⟨edge, hedge, hr⟩ := mem_relationships.mp hr
    rcases edge_spec (m := m) h hedge with ⟨-, -, _, _, -, -, -, hcites⟩ | hunresolved
    · obtain ⟨_, -, _, -, hcite⟩ := hcites r hr
      exact hcite.version
    · rw [hunresolved] at hr
      rw [List.mem_singleton.mp hr]
      rfl
  have hedges : ∀ r ∈ (analyzeIncident m i).relationships, r.edgeId ∈ i.edges.map (·.edgeId) := by
    intro r hr
    obtain ⟨edge, hedge, hr⟩ := mem_relationships.mp hr
    rw [edgeId_eq h hedge hr]
    exact List.mem_map_of_mem hedge
  have hnodes : ∀ c ∈ (analyzeIncident m i).claims, c.nodeId ∈ i.nodes.map (·.nodeId) := by
    intro c hc
    obtain ⟨node, hnode, hc⟩ := (mem_claims h).mp hc
    rw [(extractClaims_spec node).node c hc]
    exact List.mem_map_of_mem hnode
  have hlength : ∀ {α β : Type} {k : β → String} {f : α → β} {l : List α}, (l.map fun a => k (f a)).Nodup →
      (PyDict.ofItems ((l.map f).map fun b => (k b, b))).length = (l.map f).length := by
    intro α β k f l hnodup
    rw [ofItems_key hnodup, List.length_map]
  unfold checkIncident
  simp only [bind_unit_ok, check_eq_ok, listForM_ok]
  refine ⟨by simpa using hgraph, decide_eq_true rfl, decide_eq_true rfl, ?_, ?_, ?_, ?_, ?_, ?_, ?_, ?_⟩
  · rw [Bool.not_eq_true', Bool.or_eq_false_iff, List.any_eq_false, List.any_eq_false]
    refine ⟨fun c hc => ?_, fun r hr => ?_⟩
    · obtain ⟨c, hmem, rfl⟩ := List.mem_map.mp hc
      exact fun hd => of_decide_eq_true hd (hversion c hmem)
    · obtain ⟨r, hmem, rfl⟩ := List.mem_map.mp hr
      exact fun hd => of_decide_eq_true hd (hversion' r hmem)
  · exact decide_eq_true (hlength (f := nodeResponse) (k := EvidenceNodeResponse.nodeId) h.nodes)
  · exact decide_eq_true (hlength (f := edgeResponse) (k := EvidenceEdgeResponse.edgeId) h.edges)
  · exact decide_eq_true (hlength (f := claimResponse) (k := EvidenceClaimResponse.claimId) hclaims)
  · refine decide_eq_true ?_
    have hids : (incidentResponse m i).relationshipAnalysis.relationships.map (·.relationshipId) =
        (analyzeIncident m i).relationships.map (·.relationshipId) := List.map_map
    rw [hids, hrelationships.dedup, List.length_map]
    exact (List.length_map _).symm
  · rw [Bool.not_eq_true', List.any_eq_false]
    intro r hr hd
    obtain ⟨r, hmem, rfl⟩ := List.mem_map.mp hr
    refine of_decide_eq_true hd (PyDict.mem_keys_ofItems.mpr ?_)
    rw [List.map_map]
    show r.edgeId ∈ (i.edges.map edgeResponse).map (·.edgeId)
    rw [List.map_map]
    exact hedges r hmem
  · rw [Bool.not_eq_true', List.any_eq_false]
    intro c hc hd
    obtain ⟨c, hmem, rfl⟩ := List.mem_map.mp hc
    refine of_decide_eq_true hd (PyDict.mem_keys_ofItems.mpr ?_)
    rw [List.map_map]
    show c.nodeId ∈ (i.nodes.map nodeResponse).map (·.nodeId)
    rw [List.map_map]
    exact hnodes c hmem
  · intro r hr
    obtain ⟨r, hmem, rfl⟩ := List.mem_map.mp hr
    exact checkRelationship_ok h hclaims hmem

/-! ## Bundles -/

def nodesOf (i : IncidentCandidate E T F) : List (String × EvidenceNodeResponse E) :=
  PyDict.ofItems ((i.nodes.map nodeResponse).map fun node => (node.nodeId, node))

omit [LinearOrder T] [DecidableEq F] in
theorem get_nodesOf (h : MeasuredGraph i) {id : String} (hid : id ∈ i.nodes.map (·.nodeId)) :
    ∃ node ∈ i.nodes, node.nodeId = id ∧ PyDict.get (nodesOf i) id = some (nodeResponse node) := by
  obtain ⟨node, hnode, rfl⟩ := List.mem_map.mp hid
  exact ⟨node, hnode, rfl, get_of_nodup (k := EvidenceNodeResponse.nodeId) (f := nodeResponse) h.nodes hnode⟩

/-- An edge whose signals are reviewable. -/
def ReviewableEdge (m : TextModel E T F) (i : IncidentCandidate E T F) (e : EvidenceEdge F) : Prop :=
  ∀ node ∈ i.nodes, node.nodeId = e.fromNodeId ∨ node.nodeId = e.toNodeId → Reviewable m node.message.event

variable {bundles : List (String × EdgeBundle m)} {e : EvidenceEdge F} {analysis : RelationshipAnalysisResponse}

omit [LinearOrder T] [DecidableEq F] in
theorem addBundle_ok (hsha : ∀ text, isPrefixedHash "" (m.sha256 text)) (h : BuiltIncident m pairs i) (he : e ∈ i.edges)
    (hlt : e.fromNodeId < e.toNodeId) (hfresh : e.edgeId ∉ bundles.map Prod.fst) :
    ((∃ b, addBundle m correlationRuleVersion (nodesOf i) analysis bundles (edgeResponse e) = .ok b) ↔ ReviewableEdge m i e) ∧
      ∀ b, addBundle m correlationRuleVersion (nodesOf i) analysis bundles (edgeResponse e) = .ok b →
        b.map Prod.fst = bundles.map Prod.fst ++ [e.edgeId] := by
  obtain ⟨hfrom, hto⟩ := h.graph.ends e he
  obtain ⟨left, hleft, hleftId, hgetLeft⟩ := get_nodesOf h.graph hfrom
  obtain ⟨right, hright, hrightId, hgetRight⟩ := get_nodesOf h.graph hto
  have hversion : e.ruleVersion = correlationRuleVersion := by
    obtain ⟨p, -, rfl⟩ := h.edge e he
    exact (edgeFromPair_version p).1
  have hstep : addBundle m correlationRuleVersion (nodesOf i) analysis bundles (edgeResponse e) = (do
      let l ← eventEvidence m (nodeResponse left)
      let r ← eventEvidence m (nodeResponse right)
      .ok (PyDict.setItem bundles e.edgeId
        ⟨edgeResponse e, l, r, analysis.claims, analysis.relationships⟩)) := by
    have hversion' : check ((edgeResponse e).ruleVersion = correlationRuleVersion)
        "evidence edge changed correlation rule within capture" = .ok () := check_eq_ok.mpr (decide_eq_true hversion)
    have hlt' : check ((edgeResponse e).fromNodeId < (edgeResponse e).toNodeId)
        "evidence edge endpoints are not in canonical node order" = .ok () := check_eq_ok.mpr (decide_eq_true hlt)
    have hfresh' : check ((edgeResponse e).edgeId ∉ bundles.map Prod.fst)
        ("duplicate evidence edge across incidents: " ++ (edgeResponse e).edgeId) = .ok () :=
      check_eq_ok.mpr (decide_eq_true hfresh)
    have hgetLeft' : PyDict.get (nodesOf i) (edgeResponse e).fromNodeId = some (nodeResponse left) := hgetLeft
    have hgetRight' : PyDict.get (nodesOf i) (edgeResponse e).toNodeId = some (nodeResponse right) := hgetRight
    unfold addBundle
    rw [hversion', hlt', hgetLeft', hgetRight', hfresh']
    rfl
  have hside : ∀ node ∈ i.nodes, node.nodeId = e.fromNodeId ∨ node.nodeId = e.toNodeId → node = left ∨ node = right := by
    intro node hnode hid
    refine hid.imp (fun hid => ?_) fun hid => ?_
    · exact List.inj_on_of_nodup_map h.graph.nodes hnode hleft (hid.trans hleftId.symm)
    · exact List.inj_on_of_nodup_map h.graph.nodes hnode hright (hid.trans hrightId.symm)
  have hl := eventEvidence_ok hsha (h.nodes left hleft)
  have hr := eventEvidence_ok hsha (h.nodes right hright)
  rw [hstep]
  constructor
  · constructor
    · rintro ⟨b, hb⟩ node hnode hid
      obtain ⟨l, hlok, hb⟩ := bind_ok.mp hb
      obtain ⟨r, hrok, -⟩ := bind_ok.mp hb
      rcases hside node hnode hid with rfl | rfl
      · exact hl.mp ⟨l, hlok⟩
      · exact hr.mp ⟨r, hrok⟩
    · intro hall
      obtain ⟨l, hlok⟩ := hl.mpr (hall left hleft (Or.inl hleftId))
      obtain ⟨r, hrok⟩ := hr.mpr (hall right hright (Or.inr hrightId))
      exact ⟨_, bind_ok.mpr ⟨l, hlok, bind_ok.mpr ⟨r, hrok, rfl⟩⟩⟩
  · intro b hb
    obtain ⟨l, -, hb⟩ := bind_ok.mp hb
    obtain ⟨r, -, hb⟩ := bind_ok.mp hb
    rw [← Except.ok.inj hb, PyDict.map_fst_setItem, if_neg hfresh]

omit [LinearOrder T] [DecidableEq F] in
/-- The step of an incident, after which its edges have bundles. -/
theorem addIncident_ok (hsha : ∀ text, isPrefixedHash "" (m.sha256 text)) (h : BuiltIncident m pairs i)
    (hlt : ∀ e ∈ i.edges, e.fromNodeId < e.toNodeId)
    (hclaims : ((analyzeIncident m i).claims.map (·.claimId)).Nodup)
    (hrelationships : ((analyzeIncident m i).relationships.map (·.relationshipId)).Nodup)
    (hfresh : (bundles.map Prod.fst ++ i.edges.map (·.edgeId)).Nodup) :
    ((∃ b, addIncident m correlationRuleVersion relationshipRuleVersion bundles (incidentResponse m i) = .ok b) ↔
        ∀ node ∈ i.nodes, Reviewable m node.message.event) ∧
      ∀ b, addIncident m correlationRuleVersion relationshipRuleVersion bundles (incidentResponse m i) = .ok b →
        b.map Prod.fst = bundles.map Prod.fst ++ i.edges.map (·.edgeId) := by
  have hstep : addIncident m correlationRuleVersion relationshipRuleVersion bundles (incidentResponse m i) =
      i.edges.foldlM (fun b e => addBundle m correlationRuleVersion (nodesOf i)
        (incidentResponse m i).relationshipAnalysis b (edgeResponse e)) bundles := by
    unfold addIncident
    rw [checkIncident_ok h.graph hclaims hrelationships]
    exact List.foldlM_map
  have hloop := foldlM_iff (l := i.edges) (s := bundles) (P := ReviewableEdge m i)
    (I := fun before b => b.map Prod.fst = bundles.map Prod.fst ++ before.map (·.edgeId))
    (f := fun b e => addBundle m correlationRuleVersion (nodesOf i) (incidentResponse m i).relationshipAnalysis b (edgeResponse e))
    (by simp) fun before e b hbefore hkeys => by
      obtain ⟨rest, hrest⟩ := hbefore
      have he : e ∈ i.edges := hrest ▸ by simp
      have hnew : e.edgeId ∉ b.map Prod.fst := by
        rw [← hrest, List.map_append, List.map_append, ← List.append_assoc, ← List.append_assoc, ← hkeys] at hfresh
        intro hmem
        exact (List.nodup_append.mp (List.nodup_append.mp hfresh).1).2.2 _ hmem _ (List.mem_singleton.mpr rfl) rfl
      obtain ⟨hiff, hnext⟩ := @addBundle_ok E T F m pairs i b e (incidentResponse m i).relationshipAnalysis hsha h he (hlt e he) hnew
      refine ⟨hiff, fun b' hb' => ?_⟩
      rw [hnext b' hb', hkeys, List.map_append, List.append_assoc]
      rfl
  rw [hstep]
  refine ⟨hloop.1.trans ⟨fun hall node hnode => ?_, fun hall e he node hnode _ => hall node hnode⟩, hloop.2⟩
  obtain ⟨e, he, hend⟩ := h.touched node hnode
  exact hall e he node hnode (hend.imp Eq.symm Eq.symm)

/-! ## Responses -/

/-- The first 20 digits of their digests tell the hashed texts of an incident's
ledger apart. -/
def NoCollision (m : TextModel E T F) (i : IncidentCandidate E T F) : Prop :=
  Distinguishes m ((analyzeIncident m i).claims.map EvidenceClaim.values) ∧
    Distinguishes m ((analyzeIncident m i).relationships.map EvidenceRelationship.values)

/-- What a definition expects of the service. -/
def Expects (definition : RelationshipBenchmarkDefinition F) (parameters : CorrelationParameters F) : Prop :=
  parameters = definition.parameters ∧ definition.expectedCorrelationRuleVersion = correlationRuleVersion ∧
    definition.expectedRelationshipRuleVersion = relationshipRuleVersion

theorem validateResponse_ok (hok : buildIncidentCandidates m.toSignalModel batch limit = .ok result)
    (hrev : OneRevision batch.pairs) (hsha : ∀ text, isPrefixedHash "" (m.sha256 text))
    (hcollision : ∀ i ∈ result.incidents, NoCollision m i) (parameters : CorrelationParameters F)
    (definition : RelationshipBenchmarkDefinition F) :
    (∃ bundles, validateResponse m (incidentsResponse m parameters result) definition = .ok bundles) ↔
      Expects definition parameters ∧ result.incidents ≠ [] ∧
        ∀ i ∈ result.incidents, ∀ node ∈ i.nodes, Reviewable m node.message.event := by
  obtain ⟨hcons, hbuilt, hnodup, htotal⟩ := result_incidents hok
  have hlt : ∀ i ∈ result.incidents, ∀ e ∈ i.edges, e.fromNodeId < e.toNodeId := by
    intro i hi e he
    obtain ⟨p, hp, rfl⟩ := (hbuilt i hi).edge e he
    have hne := nodeIds_ne hcons hrev hp
    refine lt_of_le_of_ne (edgeFromPair_le p) ?_
    rcases edgeFromPair_ends p with ⟨ha, hb⟩ | ⟨ha, hb⟩ <;> rw [ha, hb]
    · exact hne
    · exact hne.symm
  have hhex : ∀ text, ((m.sha256 text).toList.take 20).all isHex := by
    intro text
    have hhash := hsha text
    simp only [isPrefixedHash, Bool.and_eq_true] at hhash
    exact List.all_eq_true.mpr fun c hc => List.all_eq_true.mp hhash.2 c (List.mem_of_mem_take hc)
  have hline : ∀ i ∈ result.incidents, ∀ e ∈ i.edges, OneLine e.edgeId := by
    intro i hi e he
    obtain ⟨p, -, rfl⟩ := (hbuilt i hi).edge e he
    obtain ⟨-, values, hid⟩ := edgeFromPair_version p
    have hedge : OneLine "edge" := by decide
    rw [hid]
    exact oneLine_contentId hhex hedge values
  have hloop := foldlM_iff (l := result.incidents) (s := ([] : List (String × EdgeBundle m)))
    (P := fun i => ∀ node ∈ i.nodes, Reviewable m node.message.event)
    (I := fun before b => b.map Prod.fst = (before.flatMap (·.edges)).map (·.edgeId))
    (f := fun b i => addIncident m correlationRuleVersion relationshipRuleVersion b (incidentResponse m i))
    rfl fun before i b hbefore hkeys => by
      obtain ⟨rest, hrest⟩ := hbefore
      have hi : i ∈ result.incidents := hrest ▸ by simp
      have hfresh : (b.map Prod.fst ++ i.edges.map (·.edgeId)).Nodup := by
        rw [← hrest, List.flatMap_append, List.flatMap_append, List.map_append, List.map_append, ← hkeys,
          List.flatMap_singleton] at hnodup
        exact (List.nodup_append.mp hnodup).1
      have hclaims := claimIds_nodup (hbuilt i hi).graph (hcollision i hi).1
      have hrelationships := relationshipIds_nodup (hbuilt i hi).graph (hline i hi) hhex (hcollision i hi).2
      obtain ⟨hiff, hnext⟩ := addIncident_ok hsha (hbuilt i hi) (hlt i hi) hclaims hrelationships hfresh
      refine ⟨hiff, fun b' hb' => ?_⟩
      rw [hnext b' hb', hkeys, List.flatMap_append, List.map_append, List.flatMap_singleton]
  have hfold : (incidentsResponse m parameters result).items.foldlM
      (addIncident m (incidentsResponse m parameters result).ruleVersion
        (incidentsResponse m parameters result).relationshipRuleVersion) [] =
      result.incidents.foldlM (fun b i => addIncident m correlationRuleVersion relationshipRuleVersion b (incidentResponse m i)) [] :=
    List.foldlM_map
  have hcount : ((incidentsResponse m parameters result).count = (incidentsResponse m parameters result).items.length &&
      (incidentsResponse m parameters result).count ≤ (incidentsResponse m parameters result).totalIncidents) = true := by
    have hlength : result.incidents.length = (result.incidents.map (incidentResponse m)).length := (List.length_map _).symm
    exact Bool.and_eq_true_iff.mpr ⟨decide_eq_true hlength, decide_eq_true htotal⟩
  have hempty : ∀ b : List (String × EdgeBundle m), b.map Prod.fst = (result.incidents.flatMap (·.edges)).map (·.edgeId) →
      (b.isEmpty = true ↔ result.incidents = []) := by
    intro b hb
    rw [List.isEmpty_iff, ← List.map_eq_nil_iff (f := Prod.fst), hb, List.map_eq_nil_iff, List.flatMap_eq_nil_iff]
    constructor
    · intro hnone
      by_contra hne
      obtain ⟨i, hi⟩ := List.exists_mem_of_ne_nil _ hne
      exact (hbuilt i hi).inhabited (hnone i hi)
    · intro hnil i hi
      rw [hnil] at hi
      cases hi
  unfold validateResponse
  rw [hfold]
  simp only [bind_ok, check_eq_ok, exists_unit, hcount, true_and, decide_eq_true_eq]
  constructor
  · rintro ⟨bundles, hparameters, hversion, hrelationship, b, hb, hne, -⟩
    refine ⟨⟨hparameters, hversion.symm, hrelationship.symm⟩, fun hnil => ?_, hloop.1.mp ⟨b, hb⟩⟩
    rw [(hempty b (hloop.2 b hb)).mpr hnil] at hne
    cases hne
  · rintro ⟨⟨hparameters, hversion, hrelationship⟩, hne, hall⟩
    obtain ⟨b, hb⟩ := hloop.1.mpr hall
    refine ⟨_, hparameters, hversion.symm, hrelationship.symm, b, hb, ?_, rfl⟩
    rw [Bool.not_eq_true']
    exact Bool.eq_false_iff.mpr fun hemp => hne ((hempty b (hloop.2 b hb)).mp hemp)

/-- **The ledger of relationships.** The analysis of every built incident is a
sound ledger. The capture accepts the response exactly when it is the expected
one, shows an incident, and every shown signal is within the bounds of
`EventEvidence`. -/
theorem ledger_is_captured (hok : buildIncidentCandidates m.toSignalModel batch limit = .ok result) :
    (∀ i ∈ result.incidents, LedgerSound m i (analyzeIncident m i)) ∧
    (OneRevision batch.pairs → (∀ text, isPrefixedHash "" (m.sha256 text)) → (∀ i ∈ result.incidents, NoCollision m i) →
      ∀ parameters definition,
        (∃ bundles, validateResponse m (incidentsResponse m parameters result) definition = .ok bundles) ↔
          Expects definition parameters ∧ result.incidents ≠ [] ∧
            ∀ i ∈ result.incidents, ∀ node ∈ i.nodes, Reviewable m node.message.event) := by
  obtain ⟨-, hbuilt, -⟩ := result_incidents hok
  exact ⟨fun i hi => analyzeIncident_sound (hbuilt i hi).graph, fun hrev hsha hcollision =>
    validateResponse_ok hok hrev hsha hcollision⟩

end

namespace QuakeAndAlert

structure Signal where
  source : String
  eventId : String
  eventType : String
  occurredAt : Nat
  payload : List (String × String)
  deriving DecidableEq

def digests : List (String × String) :=
  [("spatiotemporal-v1\nnws:warning\nusgs:quake",
      "bebbc6f85d13d4534fe2b5aa0c64e663f9f5f2d2d7d5764d02bcc8725f9240f5"),
    ("structured-claims-v1\nusgs:quake\nhazard_domain\nseismic\nmeasured_edge_area\n\nevent_type\n" ++
        "seismic.earthquake",
      "315a8e0cea8da5d638dd6b02f61afbfbcdd44227cbb1777216e366faf48c9c47"),
    ("structured-claims-v1\nnws:warning\nhazard_domain\nseismic\nmeasured_edge_area\n\n" ++
        "payload.alert_type\nearthquake warning",
      "6434736d41b43ab2886d290309c82d975385b851802b22f3c16f71304f7cd7a4"),
    ("structured-claims-v1\nedge-bebbc6f85d13d4534fe2\ncorroborates\nclaim-6434736d41b43ab2886d\n" ++
        "claim-315a8e0cea8da5d638dd",
      "888f71f67d110a075fb615a9c2fbda68657cc4a9767f561250594b245062cbdf"),
    ("Source: usgs\nEvent type: seismic.earthquake\nEvent ID: quake\n" ++
        "Occurred at: 1970-01-01T00:01:00+00:00",
      "1f746f460ca579f61ce2905ca1561f8683a1cf908b59a291ab64cbf35ce187c2"),
    ("Source: nws\nEvent type: weather.alert\nEvent ID: warning\nOccurred at: 1970-01-01T00:03:00+00:00\n" ++
        "Alert type: earthquake warning",
      "e7a51eff4380fed940c3a8459e9f5f49a0b8ce4a1c32966dac2d994ffcf94316"),
    ("spatiotemporal-v1\ngdacs:notice\nusgs:quake",
      "24fc277ff1697ccf2823495bd98a839432ef1a53f745ef808d62ceca7b23ad76"),
    ("structured-claims-v1\nedge-24fc277ff1697ccf2823\ninsufficient_evidence",
      "15dacb2053c302077d189485fc8f4f0842d8f893e37bfad4a4e4191d9180382e")]

def digest (text : String) : String :=
  (digests.lookup text).getD "e3b0c44298fc1c149afbf4c8996fb92427ae41e4649b934ca495991b7852b855"

def signals : TextModel Signal Nat Rat where
  eventId := Signal.eventId
  source := Signal.source
  modelDump := fun _ => .null
  modelDumpJson := fun _ => ""
  modelValidateJson := fun _ => .error "not stored"
  sha256 := digest
  float := QuakeAndWarning.floats
  eventType := Signal.eventType
  occurredAt := Signal.occurredAt
  location := fun _ => none
  payload := fun event key => (event.payload.lookup key).map .str
  totalSeconds := fun a b => (b : Rat) - a
  isoformat := fun t => "1970-01-01T00:0" ++ toString (t / 60) ++ ":00+00:00"
  formatGeneral := fun _ => ""
  formatFixed := fun _ => ""
  casefold := id
  isWord := fun c => c.isAlphanum || c = '_'

def quake : StreamMessage Signal := ⟨"1-0", ⟨"usgs", "quake", "seismic.earthquake", 60, []⟩⟩

def warning : StreamMessage Signal :=
  ⟨"2-0", ⟨"nws", "warning", "weather.alert", 180, [("alert_type", "earthquake warning")]⟩⟩

def notice : StreamMessage Signal := ⟨"3-0", ⟨"gdacs", "notice", "air.notice", 180, []⟩⟩

def pair (right : StreamMessage Signal) (h : "usgs" ≠ right.event.source) : CorrelationPair signals.toSignalModel where
  left := quake
  right := right
  distanceKm := 4
  timeDeltaMinutes := 2
  leftGeometryBasis := .point
  rightGeometryBasis := .polygon
  crossSource := h
  measured := by decide +kernel

def batch : CorrelationBatch signals.toSignalModel := ⟨[pair warning (by decide)], false⟩

def parameters : CorrelationParameters Rat := ⟨50, 360, 24, 2000, 100, true, none⟩

def definition : RelationshipBenchmarkDefinition Rat := ⟨correlationRuleVersion, relationshipRuleVersion, parameters⟩

instance (event : Signal) : Decidable (Reviewable signals event) := inferInstanceAs (Decidable (_ ∧ (_ ∧ _) ∧ _ ∧ _))

def shown (batch : CorrelationBatch signals.toSignalModel) : CorrelationResult Signal Nat Rat :=
  match buildIncidentCandidates signals.toSignalModel batch 100 with
  | .ok result => result
  | .error _ => ⟨[], 0, false, false⟩

def isOk {α : Type} : Except String α → Bool
  | .ok _ => true
  | .error _ => false

theorem shown_ok {batch : CorrelationBatch signals.toSignalModel}
    (h : isOk (buildIncidentCandidates signals.toSignalModel batch 100) = true) :
    buildIncidentCandidates signals.toSignalModel batch 100 = .ok (shown batch) := by
  unfold shown
  split
  · rename_i heq
    exact heq
  · rename_i heq
    rw [heq] at h
    cases h

def failsWith {α : Type} (x : Except String α) (e : String) : Bool :=
  match x with
  | .ok _ => false
  | .error e' => e = e'

theorem error_of {α : Type} {x : Except String α} {e : String} (h : failsWith x e = true) : x = .error e := by
  cases x with
  | ok a => cases h
  | error e' => rw [show e = e' from of_decide_eq_true h]

theorem shown_facts : isOk (buildIncidentCandidates signals.toSignalModel batch 100) = true ∧
    (∀ i ∈ (shown batch).incidents,
      (((analyzeIncident signals i).claims.map EvidenceClaim.values).map (contentId digest relationshipRuleVersion "")).Nodup ∧
        (((analyzeIncident signals i).relationships.map EvidenceRelationship.values).map
          (contentId digest relationshipRuleVersion "")).Nodup) ∧
    (!(shown batch).incidents.isEmpty) = true ∧
    ∀ i ∈ (shown batch).incidents, ∀ node ∈ i.nodes, Reviewable signals node.message.event := by
  decide +kernel

theorem batch_ok : buildIncidentCandidates signals.toSignalModel batch 100 = .ok (shown batch) := shown_ok shown_facts.1

theorem distinguishes {values : List (List String)}
    (h : (values.map (contentId digest relationshipRuleVersion "")).Nodup) : Distinguishes signals values :=
  fun _ hv _ hv' heq => congrArg _ (List.inj_on_of_nodup_map h hv hv' heq)

theorem noCollision : ∀ i ∈ (shown batch).incidents, NoCollision signals i := fun i hi =>
  ⟨distinguishes (shown_facts.2.1 i hi).1, distinguishes (shown_facts.2.1 i hi).2⟩

theorem mem_batch {x : String × StreamMessage Signal} (h : x ∈ occurrences batch.pairs) :
    x = ("usgs:quake", quake) ∨ x = ("nws:warning", warning) := by
  obtain ⟨p, hp, hx⟩ := mem_occurrences.mp h
  rw [List.mem_singleton.mp hp] at hx
  exact hx

theorem oneRevision : OneRevision batch.pairs := by
  intro x hx y hy heq
  rcases mem_batch hx with rfl | rfl <;> rcases mem_batch hy with rfl | rfl
  · rfl
  · exact absurd heq (by decide)
  · exact absurd heq (by decide)
  · rfl

theorem isHash (text : String) : isPrefixedHash "" (signals.sha256 text) := by
  have hrows : ∀ row ∈ digests, isPrefixedHash "" row.2 := by decide
  have hempty : isPrefixedHash "" "e3b0c44298fc1c149afbf4c8996fb92427ae41e4649b934ca495991b7852b855" := by decide
  show isPrefixedHash "" (digest text)
  unfold digest
  cases h : digests.lookup text with
  | none => exact hempty
  | some d =>
    obtain ⟨l, l', hl, -⟩ := List.lookup_eq_some_iff.mp h
    exact hrows (text, d) (hl ▸ List.mem_append_right _ List.mem_cons_self)

end QuakeAndAlert

theorem ledger_is_captured_quake : ∃ result,
    buildIncidentCandidates QuakeAndAlert.signals.toSignalModel QuakeAndAlert.batch 100 = .ok result ∧
    (∀ i ∈ result.incidents, LedgerSound QuakeAndAlert.signals i (analyzeIncident QuakeAndAlert.signals i)) ∧
    ∃ bundles, validateResponse QuakeAndAlert.signals
      (incidentsResponse QuakeAndAlert.signals QuakeAndAlert.parameters result) QuakeAndAlert.definition = .ok bundles := by
  obtain ⟨hledger, hcapture⟩ := ledger_is_captured QuakeAndAlert.batch_ok
  have hiff := hcapture QuakeAndAlert.oneRevision QuakeAndAlert.isHash QuakeAndAlert.noCollision
    QuakeAndAlert.parameters QuakeAndAlert.definition
  obtain ⟨-, -, hshown, hreviewable⟩ := QuakeAndAlert.shown_facts
  refine ⟨_, QuakeAndAlert.batch_ok, hledger, hiff.mpr ⟨⟨rfl, rfl, rfl⟩, fun hnil => ?_, hreviewable⟩⟩
  rw [hnil] at hshown
  cases hshown

/-- The capture refuses the response of an empty batch, and one that shows a
signal of another source. -/
theorem unreviewable_responses_are_refused :
    (∃ result, buildIncidentCandidates QuakeAndAlert.signals.toSignalModel ⟨[], false⟩ 100 = .ok result ∧
      validateResponse QuakeAndAlert.signals
        (incidentsResponse QuakeAndAlert.signals QuakeAndAlert.parameters result) QuakeAndAlert.definition =
          .error "incident API returned no measured cross-source edges to review") ∧
    ∃ result, buildIncidentCandidates QuakeAndAlert.signals.toSignalModel
        ⟨[QuakeAndAlert.pair QuakeAndAlert.notice (by decide)], false⟩ 100 = .ok result ∧
      validateResponse QuakeAndAlert.signals
        (incidentsResponse QuakeAndAlert.signals QuakeAndAlert.parameters result) QuakeAndAlert.definition =
          .error "source" := by
  have hempty : QuakeAndAlert.isOk (buildIncidentCandidates QuakeAndAlert.signals.toSignalModel ⟨[], false⟩ 100) := by
    decide +kernel
  have hother : QuakeAndAlert.isOk (buildIncidentCandidates QuakeAndAlert.signals.toSignalModel
      ⟨[QuakeAndAlert.pair QuakeAndAlert.notice (by decide)], false⟩ 100) := by decide +kernel
  refine ⟨⟨_, QuakeAndAlert.shown_ok hempty, ?_⟩, _, QuakeAndAlert.shown_ok hother, ?_⟩
  · exact QuakeAndAlert.error_of (by decide +kernel)
  · exact QuakeAndAlert.error_of (by decide +kernel)

end AtlasPulse
