import AtlasPulse.Relationships

/-!
# Soundness of claim relationships

Every measured edge has a decisive relationship or exactly one that is
insufficient, and a decisive one cites the claims that it compares.
-/

namespace AtlasPulse

open PyText

/-! ## Texts of one line -/

def OneLine (s : String) : Prop := '\n' ∉ s.toList

instance (s : String) : Decidable (OneLine s) := inferInstanceAs (Decidable (_ ∉ _))

theorem oneLine_cleanExcerpt (value : String) : OneLine (cleanExcerpt value) := by
  intro h
  rw [cleanExcerpt, String.toList_ofList, strip, String.toList_ofList] at h
  have hmem := List.mem_of_mem_take h
  rw [List.mem_reverse] at hmem
  have hmem := (List.dropWhile_suffix _).subset hmem
  rw [List.mem_reverse] at hmem
  have hmem := (List.dropWhile_suffix _).subset hmem
  rw [collapseSpace, String.toList_ofList] at hmem
  rcases mem_subRuns hmem with heq | hspace
  · exact absurd heq (by decide)
  · exact hspace (by decide)

theorem oneLine_append {s t : String} (hs : OneLine s) (ht : OneLine t) : OneLine (s ++ t) := by
  unfold OneLine
  rw [String.toList_append, List.mem_append]
  exact not_or.mpr ⟨hs, ht⟩

/-- Values of one line each are read back from the joined text. -/
theorem intercalate_inj {s s' : String} {ls ls' : List String} (hls : ∀ l ∈ ls, OneLine l) (hls' : ∀ l ∈ ls', OneLine l)
    (hlen : ls.length = ls'.length) (h : "\n".intercalate (s :: ls) = "\n".intercalate (s' :: ls')) : s = s' ∧ ls = ls' := by
  induction ls using List.reverseRecOn generalizing ls' with
  | nil =>
    rw [List.length_nil] at hlen
    obtain rfl := List.length_eq_zero_iff.mp hlen.symm
    rw [String.intercalate_singleton, String.intercalate_singleton] at h
    exact ⟨h, rfl⟩
  | append_singleton ls l ih =>
    rcases List.eq_nil_or_concat ls' with rfl | ⟨ls', l', rfl⟩
    · simp at hlen
    rw [List.concat_eq_append] at *
    have hjoin : ∀ (s : String) (ls : List String) (l : String),
        ("\n".intercalate (s :: (ls ++ [l]))).toList = ("\n".intercalate (s :: ls)).toList ++ '\n' :: l.toList := by
      intro s ls l
      rw [← List.cons_append, String.intercalate_append_of_ne_nil (List.cons_ne_nil _ _) (List.cons_ne_nil _ _),
        String.intercalate_singleton, String.toList_append, String.toList_append, List.append_assoc]
      rfl
    have htext := congrArg String.toList h
    rw [hjoin, hjoin] at htext
    obtain ⟨hrest, hlast⟩ := append_lines_inj (hls l (by simp)) (hls' l' (by simp)) htext
    rw [List.length_append, List.length_append] at hlen
    obtain ⟨hs, hls⟩ := ih (fun x hx => hls x (by simp [hx])) (fun x hx => hls' x (by simp [hx]))
      (Nat.add_right_cancel hlen) (String.toList_inj.mp hrest)
    exact ⟨hs, by rw [hls, String.toList_inj.mp hlast]⟩

/-- Lines are read back from the joined text. -/
theorem lines_inj {ls ls' : List String} (hne : ls ≠ []) (hne' : ls' ≠ []) (hls : ∀ l ∈ ls, OneLine l)
    (hls' : ∀ l ∈ ls', OneLine l) (h : "\n".intercalate ls = "\n".intercalate ls') : ls = ls' := by
  have hsplit : ∀ ls : List String, ls ≠ [] → (∀ l ∈ ls, OneLine l) →
      ("\n".intercalate ls).toList.splitOn '\n' = ls.map String.toList := by
    intro ls hne hls
    rw [String.toList_intercalate]
    refine List.splitOn_intercalate '\n' ?_ (fun hnil => hne (List.map_eq_nil_iff.mp hnil))
    exact List.forall_mem_map.mpr hls
  have hmap := hsplit ls hne hls
  rw [h, hsplit ls' hne' hls'] at hmap
  exact (List.map_injective_iff.mpr fun _ _ => String.toList_inj.mp) hmap.symm

section
variable {E T F : Type} {m : TextModel E T F}

/-! ## Contents of claims -/

def hazardValues : List String :=
  ["seismic", "tsunami_related", "fire_related", "material_conflict"] ++ nwsTermDomains.map Prod.fst ++
    nwsCategoryDomains.map Prod.snd

def hazardFields : List String :=
  ["event_type", "payload.tsunami", "payload.category", "payload.alert_type"]

theorem nwsDomain_mem {alertType category : Option PyJson.Json} {found : String × String × String}
    (h : nwsDomain m alertType category = some found) : found.1 ∈ hazardValues ∧ found.2.1 ∈ hazardFields := by
  unfold nwsDomain at h
  dsimp only at h
  split at h
  · rename_i row hrow
    obtain rfl := Option.some.inj h
    refine ⟨?_, by simp [hazardFields]⟩
    have := List.mem_of_find?_eq_some hrow
    exact List.mem_append_left _ (List.mem_append_right _ (List.mem_map_of_mem this))
  · split at h
    · rename_i category
      obtain ⟨domain, hdomain, rfl⟩ := Option.map_eq_some_iff.mp h
      refine ⟨?_, by simp [hazardFields]⟩
      obtain ⟨l, l', hl, -⟩ := List.lookup_eq_some_iff.mp hdomain
      have hrow : (category, domain) ∈ nwsCategoryDomains := by
        rw [hl]
        exact List.mem_append_right _ List.mem_cons_self
      exact List.mem_append_right _ (List.mem_map_of_mem (f := Prod.snd) hrow)
    · cases h

theorem mem_hazardContents {event : E} {c : ClaimContent} (h : c ∈ hazardContents m event) :
    ∃ value ∈ hazardValues, ∃ field ∈ hazardFields, ∃ excerpt qualifier, c = hazardContent value field excerpt qualifier := by
  unfold hazardContents at h
  dsimp only at h
  split_ifs at h
  · rcases List.mem_cons.mp h with rfl | h
    · exact ⟨"seismic", by simp [hazardValues], "event_type", by simp [hazardFields], _, _, rfl⟩
    · split at h
      · exact ⟨"tsunami_related", by simp [hazardValues], "payload.tsunami", by simp [hazardFields], _, _, List.mem_singleton.mp h⟩
      · cases h
  · exact ⟨"fire_related", by simp [hazardValues], "event_type", by simp [hazardFields], _, _, List.mem_singleton.mp h⟩
  · exact ⟨"material_conflict", by simp [hazardValues], "event_type", by simp [hazardFields], _, _, List.mem_singleton.mp h⟩
  · exact ⟨"material_conflict", by simp [hazardValues], "payload.category", by simp [hazardFields], _, _, List.mem_singleton.mp h⟩
  · obtain ⟨found, hfound, rfl⟩ := Option.map_eq_some_iff.mp (Option.mem_toList.mp h)
    obtain ⟨hvalue, hfield⟩ := nwsDomain_mem hfound
    exact ⟨_, hvalue, _, hfield, _, _, rfl⟩
  · cases h

theorem hazardContents_nodup (event : E) : ((hazardContents m event).map (·.value)).Nodup := by
  unfold hazardContents
  dsimp only
  split_ifs
  · split
    · simp [hazardContent]
    · simp
  · simp
  · simp
  · simp
  · cases nwsDomain m (m.payload event "alert_type") (m.payload event "category") <;> simp
  · simp

def operationalValues : List String := operationalPatterns.map fun row => row.2.1

theorem mem_operationalMatches {event : E} {x : ClaimPredicate × String × String × String}
    (h : x ∈ operationalMatches m event) :
    x.1 ≠ .hazardDomain ∧ x.2.1 ∈ operationalValues ∧ x.2.2.1 ∈ relationshipTextFields.map ("payload." ++ ·) := by
  obtain ⟨field, hfield, hx⟩ := List.mem_flatMap.mp h
  split at hx
  · split at hx
    · cases hx
    · obtain ⟨row, hrow, hsome⟩ := List.mem_filterMap.mp hx
      split at hsome
      · obtain rfl := Option.some.inj hsome
        refine ⟨?_, List.mem_map_of_mem hrow, List.mem_map_of_mem hfield⟩
        have : ∀ row ∈ operationalPatterns, row.1 ≠ .hazardDomain := by simp [operationalPatterns]
        exact this row hrow
      · cases hsome
  · cases hx

theorem operationalContent_spec {matched : List (ClaimPredicate × String × String × String)} {normalized display : String}
    {predicate : ClaimPredicate} {c : ClaimContent} (h : operationalContent matched normalized display predicate = some c) :
    c.predicate = predicate ∧ (c.predicate, c.value, c.evidenceField, c.evidenceExcerpt) ∈ matched ∧
      c.scopeValue = some display := by
  unfold operationalContent at h
  dsimp only at h
  split at h
  · cases h
  · obtain ⟨found, hfound, rfl⟩ := Option.map_eq_some_iff.mp h
    refine ⟨rfl, ?_, rfl⟩
    obtain ⟨x, hx, rfl⟩ := List.mem_map.mp (List.mem_of_mem_head? hfound)
    obtain ⟨hmem, hpredicate⟩ := List.mem_filter.mp hx
    rw [← of_decide_eq_true hpredicate]
    exact hmem

theorem mem_operationalContents {event : E} {c : ClaimContent} (h : c ∈ operationalContents m event) :
    c.predicate ≠ .hazardDomain ∧ c.value ∈ operationalValues ∧
      c.evidenceField ∈ relationshipTextFields.map ("payload." ++ ·) ∧ ∃ place, c.scopeValue = some (cleanExcerpt place) := by
  unfold operationalContents at h
  split at h
  · rename_i place _
    split at h
    · cases h
    · rename_i normalized display hplace
      obtain ⟨predicate, -, hcontent⟩ := List.mem_filterMap.mp h
      obtain ⟨-, hmem, hscope⟩ := operationalContent_spec hcontent
      obtain ⟨hpredicate, hvalue, hfield⟩ := mem_operationalMatches hmem
      refine ⟨hpredicate, hvalue, hfield, place, ?_⟩
      unfold normalizedPlace at hplace
      dsimp only at hplace
      split at hplace
      · cases hplace
      · rw [hscope, ← (Prod.mk.inj (Option.some.inj hplace)).2]
  · cases h

theorem operationalContents_nodup (event : E) : ((operationalContents m event).map (·.predicate)).Nodup := by
  unfold operationalContents
  split
  · split
    · exact List.nodup_nil
    · rename_i normalized display _
      have hsub : ∀ (matched : List (ClaimPredicate × String × String × String)) (l : List ClaimPredicate),
          ((l.filterMap (operationalContent matched normalized display)).map (·.predicate)).Sublist l := by
        intro matched l
        induction l with
        | nil => exact .slnil
        | cons predicate l ih =>
          cases hc : operationalContent matched normalized display predicate with
          | none =>
            rw [List.filterMap_cons_none hc]
            exact ih.cons _
          | some c =>
            rw [List.filterMap_cons_some hc, List.map_cons, (operationalContent_spec hc).1]
            exact ih.cons_cons _
      exact (hsub _ _).nodup ((List.perm_insertionSort _ _).nodup_iff.mpr (List.nodup_dedup _))
  · exact List.nodup_nil

/-! ## Claims -/

/-- What the claims of a node say about it: each has its own predicate and
value, and outside hazards there is one for each predicate. -/
structure ClaimsOf (m : TextModel E T F) (nodeId : String) (claims : List EvidenceClaim) : Prop where
  keys : (claims.map fun c => (c.predicate, c.value)).Nodup
  node : ∀ c ∈ claims, c.nodeId = nodeId
  one : ∀ c ∈ claims, ∀ c' ∈ claims, c.predicate ≠ .hazardDomain → c.predicate = c'.predicate → c = c'
  claim : ∀ c ∈ claims, ∃ content : ClaimContent, OneLine content.value ∧ OneLine (content.scopeValue.getD "") ∧
    OneLine content.evidenceField ∧ c = makeClaim m nodeId content

theorem oneLine_content {event : E} {c : ClaimContent} (h : c ∈ hazardContents m event ++ operationalContents m event) :
    OneLine c.value ∧ OneLine (c.scopeValue.getD "") ∧ OneLine c.evidenceField := by
  rcases List.mem_append.mp h with h | h
  · obtain ⟨value, hvalue, field, hfield, excerpt, qualifier, rfl⟩ := mem_hazardContents h
    have hvalues : ∀ value ∈ hazardValues, OneLine value := by decide
    have hfields : ∀ field ∈ hazardFields, OneLine field := by decide
    have hscope : OneLine "" := by decide
    exact ⟨hvalues value hvalue, hscope, hfields field hfield⟩
  · obtain ⟨-, hvalue, hfield, place, hscope⟩ := mem_operationalContents h
    have hvalues : ∀ value ∈ operationalValues, OneLine value := by decide
    have hfields : ∀ field ∈ relationshipTextFields.map ("payload." ++ ·), OneLine field := by decide
    rw [hscope]
    exact ⟨hvalues _ hvalue, oneLine_cleanExcerpt place, hfields _ hfield⟩

theorem extractClaims_spec (node : EvidenceNode E) : ClaimsOf m node.nodeId (extractClaims m node) := by
  have hperm : (extractClaims m node).Perm
      ((hazardContents m node.message.event ++ operationalContents m node.message.event).map (makeClaim m node.nodeId)) :=
    List.perm_insertionSort _ _
  have hclaim : ∀ c ∈ extractClaims m node, ∃ content ∈ hazardContents m node.message.event ++
      operationalContents m node.message.event, makeClaim m node.nodeId content = c := fun c hc =>
    List.mem_map.mp (hperm.mem_iff.mp hc)
  have hhazard : ∀ c ∈ hazardContents m node.message.event, c.predicate = .hazardDomain := by
    intro c hc
    obtain ⟨_, -, _, -, _, _, rfl⟩ := mem_hazardContents hc
    rfl
  have hinj : ∀ c ∈ hazardContents m node.message.event ++ operationalContents m node.message.event,
      ∀ c' ∈ hazardContents m node.message.event ++ operationalContents m node.message.event,
      c.predicate ≠ .hazardDomain → c.predicate = c'.predicate → c = c' := by
    intro c hc c' hc' hne heq
    have hc := (List.mem_append.mp hc).resolve_left fun h => hne (hhazard c h)
    have hc' := (List.mem_append.mp hc').resolve_left fun h => hne (heq.trans (hhazard c' h))
    exact List.inj_on_of_nodup_map (operationalContents_nodup _) hc hc' heq
  constructor
  case keys =>
    refine ((hperm.map fun c => (c.predicate, c.value)).nodup_iff).mpr ?_
    rw [List.map_map, List.map_append]
    refine List.nodup_append.mpr ⟨?_, ?_, ?_⟩
    · refine List.Nodup.of_map Prod.snd ?_
      rw [List.map_map]
      exact hazardContents_nodup node.message.event
    · refine List.Nodup.of_map Prod.fst ?_
      rw [List.map_map]
      exact operationalContents_nodup node.message.event
    · intro a ha b hb heq
      obtain ⟨c, hc, rfl⟩ := List.mem_map.mp ha
      obtain ⟨c', hc', rfl⟩ := List.mem_map.mp hb
      have hpredicate : c.predicate = c'.predicate := congrArg Prod.fst heq
      exact (mem_operationalContents hc').1 (hpredicate ▸ hhazard c hc)
  case node =>
    intro c hc
    obtain ⟨_, -, rfl⟩ := hclaim c hc
    rfl
  case one =>
    intro c hc c' hc' hne heq
    obtain ⟨content, hcontent, rfl⟩ := hclaim c hc
    obtain ⟨content', hcontent', rfl⟩ := hclaim c' hc'
    rw [hinj content hcontent content' hcontent' hne heq]
  case claim =>
    intro c hc
    obtain ⟨content, hcontent, rfl⟩ := hclaim c hc
    obtain ⟨hvalue, hscope, hfield⟩ := oneLine_content hcontent
    exact ⟨content, hvalue, hscope, hfield, rfl⟩

/-! ## Comparisons -/

variable {edge : EvidenceEdge F} {left right : EvidenceClaim} {r : EvidenceRelationship}

/-- A decisive relationship of an edge, and the two claims that it cites. -/
structure Cites (m : TextModel E T F) (edge : EvidenceEdge F) (fromClaim toClaim : EvidenceClaim)
    (r : EvidenceRelationship) : Prop where
  id : r.relationshipId = contentId m.sha256 relationshipRuleVersion "relationship"
    [edge.edgeId, r.label.text, fromClaim.claimId, toClaim.claimId]
  ends : r.edgeId = edge.edgeId ∧ r.fromNodeId = edge.fromNodeId ∧ r.toNodeId = edge.toNodeId
  claims : r.fromClaimId = some fromClaim.claimId ∧ r.toClaimId = some toClaim.claimId
  predicate : r.predicate = some fromClaim.predicate ∧ toClaim.predicate = fromClaim.predicate
  scope : scopeKey m fromClaim = scopeKey m toClaim
  label : (r.label = .corroborates ∧ fromClaim.value = toClaim.value) ∨
    (r.label = .contradicts ∧ fromClaim.value ≠ toClaim.value ∧ fromClaim.predicate ≠ .hazardDomain)
  version : r.ruleVersion = relationshipRuleVersion

theorem related_spec (h : related m edge left right = some r) (hle : left.nodeId ≤ right.nodeId) : Cites m edge left right r := by
  have hsort : ∀ label basis value text, decisive m edge left right label basis value text =
      { relationshipId := contentId m.sha256 relationshipRuleVersion "relationship"
          [edge.edgeId, label.text, left.claimId, right.claimId]
        edgeId := edge.edgeId, fromNodeId := edge.fromNodeId, toNodeId := edge.toNodeId, label := label, basis := basis
        normalizedValue := value, rationale := text, predicate := some left.predicate
        fromClaimId := some left.claimId, toClaimId := some right.claimId
        ruleVersion := relationshipRuleVersion } := by
    intro label basis value text
    unfold decisive
    rw [if_neg (not_lt.mpr hle)]
  unfold related at h
  split at h
  · cases h
  · rename_i hscope
    have hscope := not_not.mp hscope
    have hpredicate : right.predicate = left.predicate := (congrArg Prod.fst hscope).symm
    split at h
    · rename_i hvalue
      obtain rfl := Option.some.inj h
      rw [hsort]
      exact ⟨rfl, ⟨rfl, rfl, rfl⟩, ⟨rfl, rfl⟩, ⟨rfl, hpredicate⟩, hscope, Or.inl ⟨rfl, hvalue⟩, rfl⟩
    · rename_i hvalue
      split at h
      · rename_i hopposite
        obtain rfl := Option.some.inj h
        rw [hsort]
        refine ⟨rfl, ⟨rfl, rfl, rfl⟩, ⟨rfl, rfl⟩, ⟨rfl, hpredicate⟩, hscope, Or.inr ⟨rfl, hvalue, fun hhazard => ?_⟩, rfl⟩
        rw [hhazard] at hopposite
        cases hopposite
      · cases h

variable {byNode : List (String × List EvidenceClaim)} {lefts rights : List EvidenceClaim}

/-- The relationships of an edge: decisive ones, or the one that is unresolved. -/
theorem edgeRelationships_spec (hlefts : PyDict.get byNode edge.fromNodeId = some lefts)
    (hrights : PyDict.get byNode edge.toNodeId = some rights) (hleft : ClaimsOf m edge.fromNodeId lefts)
    (hright : ClaimsOf m edge.toNodeId rights) (hle : edge.fromNodeId ≤ edge.toNodeId) :
    (edgeRelationships m byNode edge ≠ [] ∧ ((edgeRelationships m byNode edge).map (·.relationshipId)).Nodup ∧
      ∀ r ∈ edgeRelationships m byNode edge, ∃ left ∈ lefts, ∃ right ∈ rights, Cites m edge left right r) ∨
    edgeRelationships m byNode edge = [unresolved m edge] := by
  unfold edgeRelationships
  rw [hlefts, hrights]
  simp only [Option.getD_some]
  generalize hfound : PyDict.ofItems ((comparisons m edge lefts rights).map fun r => (r.relationshipId, r)) = found
  have hkeys : (found.map Prod.fst).Nodup := hfound ▸ PyDict.nodup_ofItems _
  have hitems : ∀ x ∈ found, x.1 = x.2.relationshipId ∧ x.2 ∈ comparisons m edge lefts rights := by
    intro x hx
    rw [← hfound] at hx
    obtain ⟨r, hr, rfl⟩ := List.mem_map.mp (PyDict.mem_of_mem_ofItems hx)
    exact ⟨rfl, hr⟩
  by_cases hempty : found.isEmpty = true
  · exact Or.inr (if_pos hempty)
  · left
    rw [if_neg hempty]
    refine ⟨?_, ?_, ?_⟩
    · rw [List.isEmpty_iff] at hempty
      exact fun hnil => hempty (List.map_eq_nil_iff.mp hnil)
    · have hids : found.map Prod.fst = (found.map Prod.snd).map (·.relationshipId) := by
        rw [List.map_map]
        exact List.map_congr_left fun x hx => (hitems x hx).1
      rw [← hids]
      exact hkeys
    · intro r hr
      obtain ⟨x, hx, rfl⟩ := List.mem_map.mp hr
      obtain ⟨left, hl, hx⟩ := List.mem_flatMap.mp (hitems x hx).2
      obtain ⟨right, hr, hsome⟩ := List.mem_filterMap.mp hx
      refine ⟨left, hl, right, hr, related_spec hsome ?_⟩
      rw [hleft.node left hl, hright.node right hr]
      exact hle

/-! ## Analyses -/

/-- An incident's nodes and edges have their own ids, and its edges join its
nodes in order. -/
structure MeasuredGraph (i : IncidentCandidate E T F) : Prop where
  nodes : (i.nodes.map (·.nodeId)).Nodup
  edges : (i.edges.map (·.edgeId)).Nodup
  ordered : ∀ e ∈ i.edges, e.fromNodeId ≤ e.toNodeId
  ends : ∀ e ∈ i.edges, e.fromNodeId ∈ i.nodes.map (·.nodeId) ∧ e.toNodeId ∈ i.nodes.map (·.nodeId)

def onEdge (relationships : List EvidenceRelationship) (edge : EvidenceEdge F) : List EvidenceRelationship :=
  relationships.filter (·.edgeId = edge.edgeId)

/-- What a ledger of relationships promises about its incident. -/
structure LedgerSound (m : TextModel E T F) (i : IncidentCandidate E T F) (a : RelationshipAnalysis) : Prop where
  covered : ∀ edge ∈ i.edges,
    ((∃ r ∈ onEdge a.relationships edge, r.label ≠ .insufficientEvidence) ∧
      countLabel (onEdge a.relationships edge) .insufficientEvidence = 0) ∨
    ((∀ r ∈ onEdge a.relationships edge, r.label = .insufficientEvidence) ∧
      countLabel (onEdge a.relationships edge) .insufficientEvidence = 1)
  cited : ∀ r ∈ a.relationships, r.label ≠ .insufficientEvidence → ∃ edge ∈ i.edges,
    ∃ fromClaim ∈ a.claims, ∃ toClaim ∈ a.claims,
      fromClaim.nodeId = edge.fromNodeId ∧ toClaim.nodeId = edge.toNodeId ∧ Cites m edge fromClaim toClaim r
  exclusive : ∀ r ∈ a.relationships, ∀ r' ∈ a.relationships, r.edgeId = r'.edgeId →
    r.label = .corroborates → r'.label = .contradicts → r.predicate ≠ r'.predicate
  counts : a.analyzedEdgeCount = i.edges.length ∧
    a.corroborationCount = countLabel a.relationships .corroborates ∧
    a.contradictionCount = countLabel a.relationships .contradicts ∧
    a.insufficientEvidenceCount = countLabel a.relationships .insufficientEvidence

variable {i : IncidentCandidate E T F}

theorem claimsByNode_eq (h : MeasuredGraph i) :
    claimsByNode m i.nodes = i.nodes.map fun node => (node.nodeId, extractClaims m node) := by
  refine PyDict.ofItems_of_nodup ?_
  rw [List.map_map]
  exact h.nodes

theorem get_claimsByNode (h : MeasuredGraph i) {id : String} (hid : id ∈ i.nodes.map (·.nodeId)) :
    ∃ node ∈ i.nodes, node.nodeId = id ∧ PyDict.get (claimsByNode m i.nodes) id = some (extractClaims m node) := by
  obtain ⟨node, hnode, rfl⟩ := List.mem_map.mp hid
  refine ⟨node, hnode, rfl, ?_⟩
  rw [claimsByNode_eq h]
  refine (PyDict.get_eq_some ?_).mpr (List.mem_map_of_mem (f := fun node => (node.nodeId, extractClaims m node)) hnode)
  rw [List.map_map]
  exact h.nodes

theorem claims_perm (h : MeasuredGraph i) : (analyzeIncident m i).claims.Perm (i.nodes.flatMap (extractClaims m)) := by
  unfold analyzeIncident
  dsimp only
  rw [claimsByNode_eq h, List.flatMap_map]
  exact List.perm_insertionSort _ _

theorem mem_claims (h : MeasuredGraph i) {c : EvidenceClaim} :
    c ∈ (analyzeIncident m i).claims ↔ ∃ node ∈ i.nodes, c ∈ extractClaims m node := by
  rw [(claims_perm h).mem_iff, List.mem_flatMap]

theorem mem_relationships {r : EvidenceRelationship} :
    r ∈ (analyzeIncident m i).relationships ↔ ∃ edge ∈ i.edges, r ∈ edgeRelationships m (claimsByNode m i.nodes) edge := by
  rw [analyzeIncident, List.mem_insertionSort, List.mem_flatMap]

/-- What `edgeRelationships` gives on an edge of an incident. -/
theorem edge_spec (h : MeasuredGraph i) (hedge : edge ∈ i.edges) :
    (edgeRelationships m (claimsByNode m i.nodes) edge ≠ [] ∧
      ((edgeRelationships m (claimsByNode m i.nodes) edge).map (·.relationshipId)).Nodup ∧
      ∃ lefts rights, ClaimsOf m edge.fromNodeId lefts ∧ ClaimsOf m edge.toNodeId rights ∧
        (∀ c, c ∈ lefts ∨ c ∈ rights → c ∈ (analyzeIncident m i).claims) ∧
        ∀ r ∈ edgeRelationships m (claimsByNode m i.nodes) edge,
          ∃ left ∈ lefts, ∃ right ∈ rights, Cites m edge left right r) ∨
    edgeRelationships m (claimsByNode m i.nodes) edge = [unresolved m edge] := by
  obtain ⟨hfrom, hto⟩ := h.ends edge hedge
  obtain ⟨node, hnode, hid, hget⟩ := get_claimsByNode (m := m) h hfrom
  obtain ⟨node', hnode', hid', hget'⟩ := get_claimsByNode (m := m) h hto
  have hleft : ClaimsOf m edge.fromNodeId (extractClaims m node) := hid ▸ extractClaims_spec node
  have hright : ClaimsOf m edge.toNodeId (extractClaims m node') := hid' ▸ extractClaims_spec node'
  refine (edgeRelationships_spec hget hget' hleft hright (h.ordered edge hedge)).imp ?_ id
  rintro ⟨hne, hnodup, hcites⟩
  refine ⟨hne, hnodup, _, _, hleft, hright, fun c hc => (mem_claims h).mpr ?_, hcites⟩
  rcases hc with hc | hc
  · exact ⟨node, hnode, hc⟩
  · exact ⟨node', hnode', hc⟩

theorem edgeId_eq (h : MeasuredGraph i) (hedge : edge ∈ i.edges) (hr : r ∈ edgeRelationships m (claimsByNode m i.nodes) edge) :
    r.edgeId = edge.edgeId := by
  rcases edge_spec h hedge with ⟨-, -, lefts, rights, -, -, -, hcites⟩ | hunresolved
  · obtain ⟨left, -, right, -, hcite⟩ := hcites r hr
    exact hcite.ends.1
  · rw [hunresolved] at hr
    rw [List.mem_singleton.mp hr]
    rfl

/-- The part of a key, of lists that are joined in the order of distinct keys. -/
theorem filter_flatMap_key {α β κ : Type} [DecidableEq κ] {key : α → κ} {key' : β → κ} {f : α → List β} {l : List α}
    (hf : ∀ a ∈ l, ∀ b ∈ f a, key' b = key a) (hl : (l.map key).Nodup) {a : α} (ha : a ∈ l) :
    (l.flatMap f).filter (fun b => key' b = key a) = f a := by
  induction l with
  | nil => cases ha
  | cons x l ih =>
    rw [List.map_cons, List.nodup_cons] at hl
    have hother : ∀ y ∈ l, key x ≠ key y := fun y hy heq => hl.1 (heq ▸ List.mem_map_of_mem hy)
    rw [List.flatMap_cons, List.filter_append]
    rcases List.mem_cons.mp ha with rfl | ha
    · have hself : (f a).filter (fun b => key' b = key a) = f a :=
        List.filter_eq_self.mpr fun b hb => decide_eq_true (hf a List.mem_cons_self b hb)
      have hrest : (l.flatMap f).filter (fun b => key' b = key a) = [] := by
        refine List.filter_eq_nil_iff.mpr fun b hb heq => ?_
        obtain ⟨y, hy, hb⟩ := List.mem_flatMap.mp hb
        exact hother y hy ((of_decide_eq_true heq).symm.trans (hf y (List.mem_cons_of_mem _ hy) b hb))
      rw [hself, hrest, List.append_nil]
    · have hnone : (f x).filter (fun b => key' b = key a) = [] :=
        List.filter_eq_nil_iff.mpr fun b hb heq =>
          hother a ha ((hf x List.mem_cons_self b hb).symm.trans (of_decide_eq_true heq))
      rw [hnone, List.nil_append]
      exact ih (fun y hy => hf y (List.mem_cons_of_mem _ hy)) hl.2 ha

theorem onEdge_perm (h : MeasuredGraph i) (hedge : edge ∈ i.edges) :
    (onEdge (analyzeIncident m i).relationships edge).Perm (edgeRelationships m (claimsByNode m i.nodes) edge) := by
  have hsort := (List.perm_insertionSort (fun a b : EvidenceRelationship => a.relationshipId ≤ b.relationshipId)
    (i.edges.flatMap (edgeRelationships m (claimsByNode m i.nodes)))).filter fun r => decide (r.edgeId = edge.edgeId)
  rw [@filter_flatMap_key _ _ _ _ EvidenceEdge.edgeId EvidenceRelationship.edgeId _ _
    (fun e he r hr => edgeId_eq h he hr) h.edges _ hedge] at hsort
  exact hsort

/-- **The ledger is sound.** -/
theorem analyzeIncident_sound (h : MeasuredGraph i) : LedgerSound m i (analyzeIncident m i) := by
  constructor
  case covered =>
    intro edge hedge
    have hperm := onEdge_perm (m := m) h hedge
    have hcount : countLabel (onEdge (analyzeIncident m i).relationships edge) .insufficientEvidence =
        countLabel (edgeRelationships m (claimsByNode m i.nodes) edge) .insufficientEvidence := hperm.countP_eq _
    rw [hcount]
    rcases edge_spec (m := m) h hedge with ⟨hne, -, lefts, rights, -, -, -, hcites⟩ | hunresolved
    · left
      have hlabel : ∀ r ∈ edgeRelationships m (claimsByNode m i.nodes) edge, r.label ≠ .insufficientEvidence := by
        intro r hr
        obtain ⟨left, -, right, -, hcite⟩ := hcites r hr
        rcases hcite.label with ⟨hlabel, -⟩ | ⟨hlabel, -⟩ <;> rw [hlabel] <;> simp
      obtain ⟨r, hr⟩ := List.exists_mem_of_ne_nil _ hne
      refine ⟨⟨r, hperm.mem_iff.mpr hr, hlabel r hr⟩, ?_⟩
      exact List.countP_eq_zero.mpr fun r hr => by simpa using hlabel r hr
    · right
      rw [hunresolved] at hperm ⊢
      refine ⟨fun r hr => ?_, rfl⟩
      rw [List.mem_singleton.mp (hperm.mem_iff.mp hr)]
      rfl
  case cited =>
    intro r hr hlabel
    obtain ⟨edge, hedge, hr⟩ := mem_relationships.mp hr
    rcases edge_spec (m := m) h hedge with ⟨-, -, lefts, rights, hlefts, hrights, hclaims, hcites⟩ | hunresolved
    · obtain ⟨left, hl, right, hrr, hcite⟩ := hcites r hr
      exact ⟨edge, hedge, left, hclaims left (Or.inl hl), right, hclaims right (Or.inr hrr),
        hlefts.node left hl, hrights.node right hrr, hcite⟩
    · rw [hunresolved] at hr
      rw [List.mem_singleton.mp hr] at hlabel
      exact absurd rfl hlabel
  case exclusive =>
    intro r hr r' hr' hid hcorroborates hcontradicts hpredicate
    obtain ⟨edge, hedge, hr⟩ := mem_relationships.mp hr
    obtain ⟨edge', hedge', hr'⟩ := mem_relationships.mp hr'
    obtain rfl : edge = edge' := by
      refine List.inj_on_of_nodup_map h.edges hedge hedge' ?_
      rw [← edgeId_eq h hedge hr, ← edgeId_eq h hedge' hr', hid]
    rcases edge_spec (m := m) h hedge with ⟨-, -, lefts, rights, hlefts, hrights, -, hcites⟩ | hunresolved
    · obtain ⟨left, hl, right, hrr, hcite⟩ := hcites r hr
      obtain ⟨left', hl', right', hrr', hcite'⟩ := hcites r' hr'
      obtain ⟨-, hvalue⟩ := hcite.label.resolve_right fun hor => by
        rw [hcorroborates] at hor
        cases hor.1
      obtain ⟨-, hvalue', hhazard⟩ := hcite'.label.resolve_left fun hor => by
        rw [hcontradicts] at hor
        cases hor.1
      -- outside hazards each end has one claim of the predicate
      have hsame : left'.predicate = left.predicate := by
        rw [hcite.predicate.1, hcite'.predicate.1] at hpredicate
        exact (Option.some.inj hpredicate).symm
      have hright : right'.predicate = right.predicate :=
        hcite'.predicate.2.trans (hsame.trans hcite.predicate.2.symm)
      obtain rfl := hlefts.one left' hl' left hl hhazard hsame
      obtain rfl := hrights.one right' hrr' right hrr (hcite'.predicate.2 ▸ hhazard) hright
      exact hvalue' hvalue
    · rw [hunresolved] at hr
      rw [List.mem_singleton.mp hr] at hcorroborates
      cases hcorroborates
  case counts =>
    exact ⟨rfl, rfl, rfl, rfl⟩

/-! ## Identities -/

/-- The values that a claim id covers. -/
def EvidenceClaim.values (c : EvidenceClaim) : List String :=
  [c.nodeId, c.predicate.text, c.value, c.scope.text, c.scopeValue.getD "", c.evidenceField, c.evidenceExcerpt]

/-- The values that a relationship id covers. -/
def EvidenceRelationship.values (r : EvidenceRelationship) : List String :=
  r.edgeId :: r.label.text :: (r.fromClaimId.toList ++ r.toClaimId.toList)

/-- The first 20 digits of the digest tell the texts of the values apart. -/
def Distinguishes (m : TextModel E T F) (values : List (List String)) : Prop :=
  ∀ v ∈ values, ∀ v' ∈ values, contentId m.sha256 relationshipRuleVersion "" v =
    contentId m.sha256 relationshipRuleVersion "" v' → "\n".intercalate v = "\n".intercalate v'

theorem contentId_kind (sha256 : String → String) (version kind : String) (v v' : List String) :
    contentId sha256 version kind v = contentId sha256 version kind v' ↔
      contentId sha256 version "" v = contentId sha256 version "" v' := by
  simp [contentId, String.append_assoc]

theorem ClaimsOf.values {nodeId : String} {claims : List EvidenceClaim} (h : ClaimsOf m nodeId claims) {c : EvidenceClaim}
    (hc : c ∈ claims) : c.claimId = contentId m.sha256 relationshipRuleVersion "claim" c.values ∧
      ∀ l ∈ c.values.tail, OneLine l := by
  obtain ⟨content, hvalue, hscope, hfield, rfl⟩ := h.claim c hc
  refine ⟨rfl, ?_⟩
  have hpredicate : OneLine content.predicate.text := by cases content.predicate <;> decide
  have hscope' : OneLine content.scope.text := by cases content.scope <;> decide
  intro l hl
  simp only [EvidenceClaim.values, List.tail_cons, List.mem_cons, List.not_mem_nil, or_false] at hl
  rcases hl with rfl | rfl | rfl | rfl | rfl | rfl
  · exact hpredicate
  · exact hvalue
  · exact hscope'
  · exact hscope
  · exact hfield
  · exact oneLine_cleanExcerpt _

theorem predicate_text_inj {p p' : ClaimPredicate} (h : p.text = p'.text) : p = p' := by
  revert h
  cases p <;> cases p' <;> decide

/-- **Claim ids.** The claims of an analysis have their own ids, unless their
digests collide. -/
theorem claimIds_nodup (h : MeasuredGraph i)
    (hsha : Distinguishes m ((analyzeIncident m i).claims.map EvidenceClaim.values)) :
    ((analyzeIncident m i).claims.map (·.claimId)).Nodup := by
  have hof : ∀ c ∈ (analyzeIncident m i).claims, ∃ node ∈ i.nodes, c ∈ extractClaims m node := fun c hc => (mem_claims h).mp hc
  have hkeys : ((analyzeIncident m i).claims.map fun c => (c.nodeId, c.predicate, c.value)).Nodup := by
    rw [((claims_perm h).map _).nodup_iff, List.map_flatMap, List.nodup_flatMap]
    refine ⟨fun node _ => ?_, ?_⟩
    · refine List.Nodup.of_map Prod.snd ?_
      rw [List.map_map]
      exact (extractClaims_spec node).keys
    · refine (List.pairwise_map.mp h.nodes).imp fun {a b} hne => ?_
      intro x hx hx'
      obtain ⟨c, hc, rfl⟩ := List.mem_map.mp hx
      obtain ⟨c', hc', heq⟩ := List.mem_map.mp hx'
      have hnode : c'.nodeId = c.nodeId := congrArg Prod.fst heq
      rw [(extractClaims_spec b).node c' hc', (extractClaims_spec a).node c hc] at hnode
      exact hne hnode.symm
  refine List.Nodup.map_on ?_ hkeys.of_map
  intro c hc c' hc' hid
  refine List.inj_on_of_nodup_map hkeys hc hc' ?_
  obtain ⟨node, -, hmem⟩ := hof c hc
  obtain ⟨node', -, hmem'⟩ := hof c' hc'
  obtain ⟨hcid, hlines⟩ := (extractClaims_spec node).values hmem
  obtain ⟨hcid', hlines'⟩ := (extractClaims_spec node').values hmem'
  rw [hcid, hcid', contentId_kind] at hid
  have htext := hsha _ (List.mem_map_of_mem hc) _ (List.mem_map_of_mem hc') hid
  obtain ⟨hnode, htail⟩ := intercalate_inj hlines hlines' rfl htext
  simp only [EvidenceClaim.values, List.tail_cons, List.cons.injEq] at htail
  rw [hnode, predicate_text_inj htail.1, htail.2.1]

theorem oneLine_contentId {sha256 : String → String} (hsha : ∀ text, ((sha256 text).toList.take 20).all isHex) {version kind : String}
    (hkind : OneLine kind) (values : List String) : OneLine (contentId sha256 version kind values) := by
  have hdash : OneLine "-" := by decide
  refine oneLine_append (oneLine_append hkind hdash) ?_
  rw [OneLine, String.toList_ofList]
  intro h
  exact absurd (List.all_eq_true.mp (hsha _) _ h) (by decide)

theorem edgeRelationship_values (h : MeasuredGraph i) (hedge : edge ∈ i.edges)
    (hr : r ∈ edgeRelationships m (claimsByNode m i.nodes) edge) :
    r.relationshipId = contentId m.sha256 relationshipRuleVersion "relationship" r.values := by
  rcases edge_spec h hedge with ⟨-, -, lefts, rights, -, -, -, hcites⟩ | hunresolved
  · obtain ⟨left, -, right, -, hcite⟩ := hcites r hr
    rw [hcite.id, EvidenceRelationship.values, hcite.ends.1, hcite.claims.1, hcite.claims.2]
    rfl
  · rw [hunresolved] at hr
    rw [List.mem_singleton.mp hr]
    rfl

theorem oneLine_values (h : MeasuredGraph i) (hsha : ∀ text, ((m.sha256 text).toList.take 20).all isHex)
    (hedge : edge ∈ i.edges) (hr : r ∈ edgeRelationships m (claimsByNode m i.nodes) edge) :
    ∀ l ∈ r.values.tail, OneLine l := by
  have hlabel : OneLine r.label.text := by cases r.label <;> decide
  have hclaim : OneLine "claim" := by decide
  intro l hl
  rw [EvidenceRelationship.values, List.tail_cons, List.mem_cons] at hl
  rcases hl with rfl | hl
  · exact hlabel
  rcases edge_spec h hedge with ⟨-, -, lefts, rights, hlefts, hrights, -, hcites⟩ | hunresolved
  · obtain ⟨left, hleft, right, hright, hcite⟩ := hcites r hr
    rw [hcite.claims.1, hcite.claims.2] at hl
    simp only [Option.toList_some, List.cons_append, List.nil_append, List.mem_cons, List.not_mem_nil, or_false] at hl
    rcases hl with rfl | rfl
    · rw [(hlefts.values hleft).1]
      exact oneLine_contentId hsha hclaim _
    · rw [(hrights.values hright).1]
      exact oneLine_contentId hsha hclaim _
  · rw [hunresolved] at hr
    rw [List.mem_singleton.mp hr] at hl
    cases hl

/-- **Relationship ids.** The relationships of an analysis have their own ids,
unless their digests collide. -/
theorem relationshipIds_nodup (h : MeasuredGraph i) (hline : ∀ e ∈ i.edges, OneLine e.edgeId)
    (hhex : ∀ text, ((m.sha256 text).toList.take 20).all isHex)
    (hsha : Distinguishes m ((analyzeIncident m i).relationships.map EvidenceRelationship.values)) :
    ((analyzeIncident m i).relationships.map (·.relationshipId)).Nodup := by
  have hperm : (analyzeIncident m i).relationships.Perm
      (i.edges.flatMap (edgeRelationships m (claimsByNode m i.nodes))) := List.perm_insertionSort _ _
  rw [(hperm.map _).nodup_iff, List.map_flatMap, List.nodup_flatMap]
  refine ⟨fun edge hedge => ?_, (List.Pairwise.and_mem.mp (List.pairwise_map.mp h.edges)).imp ?_⟩
  · rcases edge_spec (m := m) h hedge with ⟨-, hnodup, -⟩ | hunresolved
    · exact hnodup
    · rw [hunresolved]
      exact List.nodup_singleton _
  · rintro edge edge' ⟨hedge, hedge', hne⟩ id hid hid'
    obtain ⟨r, hr, rfl⟩ := List.mem_map.mp hid
    obtain ⟨r', hr', heq⟩ := List.mem_map.mp hid'
    have hlines : ∀ {e : EvidenceEdge F} {r : EvidenceRelationship}, e ∈ i.edges →
        r ∈ edgeRelationships m (claimsByNode m i.nodes) e → ∀ l ∈ r.values, OneLine l := by
      intro e r he hr l hl
      rw [EvidenceRelationship.values, List.mem_cons] at hl
      rcases hl with rfl | hl
      · rw [edgeId_eq h he hr]
        exact hline e he
      · exact oneLine_values h hhex he hr l hl
    rw [edgeRelationship_values h hedge hr, edgeRelationship_values h hedge' hr', contentId_kind] at heq
    have htext := hsha _ (List.mem_map_of_mem (mem_relationships.mpr ⟨edge', hedge', hr'⟩)) _
      (List.mem_map_of_mem (mem_relationships.mpr ⟨edge, hedge, hr⟩)) heq
    have hvalues := lines_inj (List.cons_ne_nil _ _) (List.cons_ne_nil _ _) (hlines hedge' hr') (hlines hedge hr) htext
    have hhead : r'.edgeId = r.edgeId := (List.cons.inj hvalues).1
    rw [edgeId_eq h hedge hr, edgeId_eq h hedge' hr'] at hhead
    exact hne hhead.symm

end

end AtlasPulse
