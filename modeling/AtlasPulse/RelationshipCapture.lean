import AtlasPulse.Relationships

/-!
# Relationship capture

The incident response of `api.py`, and its validation by
`relationship_evaluation/capture.py` before edges are sampled for review. Times
are timezone-aware datetimes.
-/

namespace AtlasPulse

open PyJson

/-! ## Responses -/

structure EvidenceNodeResponse (E : Type) where
  nodeId : String
  streamId : String
  event : E

structure EvidenceEdgeResponse (F : Type) where
  edgeId : String
  fromNodeId : String
  toNodeId : String
  relation : String
  spatialRelation : SpatialRelation
  distanceKm : F
  timeDeltaMinutes : F
  fromGeometryBasis : GeometryBasis
  toGeometryBasis : GeometryBasis
  ruleVersion : String

structure EvidenceClaimResponse where
  claimId : String
  nodeId : String
  predicate : ClaimPredicate
  value : String
  scope : ClaimScope
  scopeValue : Option String
  evidenceField : String
  evidenceExcerpt : String
  qualifier : Option String
  ruleVersion : String

structure EvidenceRelationshipResponse where
  relationshipId : String
  edgeId : String
  fromNodeId : String
  toNodeId : String
  label : RelationshipLabel
  predicate : Option ClaimPredicate
  normalizedValue : Option String
  fromClaimId : Option String
  toClaimId : Option String
  basis : RelationshipBasis
  rationale : String
  ruleVersion : String

structure RelationshipAnalysisResponse where
  claims : List EvidenceClaimResponse
  relationships : List EvidenceRelationshipResponse
  analyzedEdgeCount : Nat
  corroborationCount : Nat
  contradictionCount : Nat
  insufficientEvidenceCount : Nat
  ruleVersion : String
  caveat : String

structure IncidentCandidateResponse (E T F : Type) where
  incidentId : String
  title : String
  startedAt : T
  latestSignalAt : T
  center : Option (F × F)
  sources : List String
  nodeCount : Nat
  edgeCount : Nat
  maxDistanceKm : F
  timeSpanMinutes : F
  nodes : List (EvidenceNodeResponse E)
  edges : List (EvidenceEdgeResponse F)
  relationshipAnalysis : RelationshipAnalysisResponse
  ruleVersion : String
  caveat : String

structure CorrelationParameters (F : Type) where
  radiusKm : F
  timeWindowMinutes : Int
  lookbackHours : Int
  candidateEdgeLimit : Int
  incidentLimit : Int
  activeOnly : Bool
  bbox : Option (F × F × F × F)
  deriving DecidableEq

structure IncidentsResponse (E T F : Type) where
  count : Nat
  totalIncidents : Nat
  items : List (IncidentCandidateResponse E T F)
  incidentsTruncated : Bool
  candidateEdgesTruncated : Bool
  ruleVersion : String
  caveat : String
  relationshipRuleVersion : String
  relationshipCaveat : String
  parameters : CorrelationParameters F

/-! ## Mappers -/

def claimResponse (claim : EvidenceClaim) : EvidenceClaimResponse where
  claimId := claim.claimId
  nodeId := claim.nodeId
  predicate := claim.predicate
  value := claim.value
  scope := claim.scope
  scopeValue := claim.scopeValue
  evidenceField := claim.evidenceField
  evidenceExcerpt := claim.evidenceExcerpt
  qualifier := claim.qualifier
  ruleVersion := claim.ruleVersion

def relationshipResponse (relationship : EvidenceRelationship) : EvidenceRelationshipResponse where
  relationshipId := relationship.relationshipId
  edgeId := relationship.edgeId
  fromNodeId := relationship.fromNodeId
  toNodeId := relationship.toNodeId
  label := relationship.label
  predicate := relationship.predicate
  normalizedValue := relationship.normalizedValue
  fromClaimId := relationship.fromClaimId
  toClaimId := relationship.toClaimId
  basis := relationship.basis
  rationale := relationship.rationale
  ruleVersion := relationship.ruleVersion

def analysisResponse (analysis : RelationshipAnalysis) : RelationshipAnalysisResponse where
  claims := analysis.claims.map claimResponse
  relationships := analysis.relationships.map relationshipResponse
  analyzedEdgeCount := analysis.analyzedEdgeCount
  corroborationCount := analysis.corroborationCount
  contradictionCount := analysis.contradictionCount
  insufficientEvidenceCount := analysis.insufficientEvidenceCount
  ruleVersion := analysis.ruleVersion
  caveat := analysis.caveat

section
variable {E T F : Type} (m : TextModel E T F)

def nodeResponse (node : EvidenceNode E) : EvidenceNodeResponse E := ⟨node.nodeId, node.message.streamId, node.message.event⟩

def edgeResponse (edge : EvidenceEdge F) : EvidenceEdgeResponse F where
  edgeId := edge.edgeId
  fromNodeId := edge.fromNodeId
  toNodeId := edge.toNodeId
  relation := edge.relation
  spatialRelation := edge.spatialRelation
  distanceKm := edge.distanceKm
  timeDeltaMinutes := edge.timeDeltaMinutes
  fromGeometryBasis := edge.fromGeometryBasis
  toGeometryBasis := edge.toGeometryBasis
  ruleVersion := edge.ruleVersion

def incidentResponse (incident : IncidentCandidate E T F) : IncidentCandidateResponse E T F where
  incidentId := incident.incidentId
  title := incident.title
  startedAt := incident.startedAt
  latestSignalAt := incident.latestSignalAt
  center := do
    let latitude ← incident.centerLatitude
    let longitude ← incident.centerLongitude
    some (latitude, longitude)
  sources := incident.sources
  nodeCount := incident.nodes.length
  edgeCount := incident.edges.length
  maxDistanceKm := incident.maxDistanceKm
  timeSpanMinutes := incident.timeSpanMinutes
  nodes := incident.nodes.map nodeResponse
  edges := incident.edges.map edgeResponse
  relationshipAnalysis := analysisResponse (analyzeIncident m incident)
  ruleVersion := incident.ruleVersion
  caveat := incident.caveat

/-- The response of the `/v1/incidents` handler, for its parameters. -/
def incidentsResponse (parameters : CorrelationParameters F) (result : CorrelationResult E T F) : IncidentsResponse E T F where
  count := result.incidents.length
  totalIncidents := result.totalIncidents
  items := result.incidents.map (incidentResponse m)
  incidentsTruncated := result.incidentsTruncated
  candidateEdgesTruncated := result.candidateEdgesTruncated
  ruleVersion := correlationRuleVersion
  caveat := correlationCaveat
  relationshipRuleVersion := relationshipRuleVersion
  relationshipCaveat := relationshipCaveat
  parameters := parameters

/-! ## Evidence -/

def sourceNames : List String := ["usgs", "nws", "firms", "gdelt"]

structure EventEvidence (T : Type) where
  nodeId : String
  source : String
  eventId : String
  eventType : String
  occurredAt : T
  documentText : String
  documentHash : String
  deriving DecidableEq

/-- The field bounds of `EventEvidence`, and its validator. A field that is out
of its bounds is named. -/
def EventEvidence.validate (e : EventEvidence T) : Except String Unit := do
  check (3 ≤ e.nodeId.length && e.nodeId.length ≤ 1000) "node_id"
  check (e.source ∈ sourceNames) "source"
  check (1 ≤ e.eventId.length && e.eventId.length ≤ 900) "event_id"
  check (1 ≤ e.eventType.length && e.eventType.length ≤ 500) "event_type"
  check (1 ≤ e.documentText.length && e.documentText.length ≤ 8000) "document_text"
  check (isPrefixedHash "" e.documentHash) "document_hash"
  check (e.nodeId = e.source ++ ":" ++ e.eventId) "evidence node_id must equal source:event_id"
  check (e.documentHash = m.sha256 e.documentText) "document_hash must match the reviewer-visible document_text"

/-- `_event_evidence`. -/
def eventEvidence (node : EvidenceNodeResponse E) : Except String {e : EventEvidence T // e.validate m = .ok ()} :=
  let text := renderEventDocument m node.event
  construct (EventEvidence.validate m)
    { nodeId := node.nodeId
      source := m.source node.event
      eventId := m.eventId node.event
      eventType := m.eventType node.event
      occurredAt := m.occurredAt node.event
      documentText := text
      documentHash := documentHash m text }

/-! ## Validation of a response -/

/-- What the capture uses of a `RelationshipBenchmarkDefinition`. -/
structure RelationshipBenchmarkDefinition (F : Type) where
  expectedCorrelationRuleVersion : String
  expectedRelationshipRuleVersion : String
  parameters : CorrelationParameters F

structure EdgeBundle where
  edge : EvidenceEdgeResponse F
  left : {e : EventEvidence T // e.validate m = .ok ()}
  right : {e : EventEvidence T // e.validate m = .ok ()}
  claims : List EvidenceClaimResponse
  relationships : List EvidenceRelationshipResponse

/-- The body of the loop over `analysis.relationships`. -/
def checkRelationship (edgesById : List (String × EvidenceEdgeResponse F)) (claimsById : List (String × EvidenceClaimResponse))
    (r : EvidenceRelationshipResponse) : Except String Unit :=
  match PyDict.get edgesById r.edgeId with
  | none => .error "KeyError"
  | some edge => do
    check (r.fromNodeId = edge.fromNodeId && r.toNodeId = edge.toNodeId)
      "relationship endpoints do not match the measured parent edge"
    if r.label = .insufficientEvidence then
      check (r.predicate.isNone && r.fromClaimId.isNone && r.toClaimId.isNone)
        "abstaining relationship unexpectedly references claims"
    else
      match r.predicate, r.fromClaimId, r.toClaimId with
      | some predicate, some fromClaimId, some toClaimId =>
        match PyDict.get claimsById fromClaimId, PyDict.get claimsById toClaimId with
        | some fromClaim, some toClaim =>
          check (fromClaim.nodeId = edge.fromNodeId && toClaim.nodeId = edge.toNodeId &&
              fromClaim.predicate = predicate && toClaim.predicate = predicate)
            "relationship claim references do not match its edge and predicate"
        | _, _ => .error "relationship references an unknown claim"
      | _, _, _ => .error "decisive relationship is missing claim references"

/-- The body of the loop over `incident.edges`. -/
def addBundle (ruleVersion : String) (nodes : List (String × EvidenceNodeResponse E)) (analysis : RelationshipAnalysisResponse)
    (bundles : List (String × EdgeBundle m)) (edge : EvidenceEdgeResponse F) : Except String (List (String × EdgeBundle m)) := do
  check (edge.ruleVersion = ruleVersion) "evidence edge changed correlation rule within capture"
  check (edge.fromNodeId < edge.toNodeId) "evidence edge endpoints are not in canonical node order"
  match PyDict.get nodes edge.fromNodeId, PyDict.get nodes edge.toNodeId with
  | some leftNode, some rightNode => do
    check (edge.edgeId ∉ bundles.map Prod.fst) ("duplicate evidence edge across incidents: " ++ edge.edgeId)
    let left ← eventEvidence m leftNode
    let right ← eventEvidence m rightNode
    .ok (PyDict.setItem bundles edge.edgeId
      { edge, left, right, claims := analysis.claims, relationships := analysis.relationships })
  | _, _ => .error "evidence edge references an unknown node"

/-- The checks on an incident before its edges. -/
def checkIncident (relationshipRuleVersion : String) (incident : IncidentCandidateResponse E T F) : Except String Unit := do
  let analysis := incident.relationshipAnalysis
  check (incident.nodeCount = incident.nodes.length && incident.edgeCount = incident.edges.length)
    ("incident " ++ incident.incidentId ++ " returned inconsistent graph counts")
  check (analysis.analyzedEdgeCount = incident.edgeCount)
    ("incident " ++ incident.incidentId ++ " returned inconsistent relationship counts")
  check (analysis.ruleVersion = relationshipRuleVersion) "incident relationship analysis changed rule version within capture"
  check (!(analysis.claims.any (·.ruleVersion ≠ relationshipRuleVersion) ||
      analysis.relationships.any (·.ruleVersion ≠ relationshipRuleVersion)))
    "claim or relationship rule version changed within capture"
  let nodes := PyDict.ofItems (incident.nodes.map fun node => (node.nodeId, node))
  check (nodes.length = incident.nodes.length) ("incident " ++ incident.incidentId ++ " returned duplicate node IDs")
  let edgesById := PyDict.ofItems (incident.edges.map fun edge => (edge.edgeId, edge))
  check (edgesById.length = incident.edges.length) ("incident " ++ incident.incidentId ++ " returned duplicate edge IDs")
  let claimsById := PyDict.ofItems (analysis.claims.map fun claim => (claim.claimId, claim))
  check (claimsById.length = analysis.claims.length) "relationship analysis returned duplicate claim IDs"
  check ((analysis.relationships.map (·.relationshipId)).dedup.length = analysis.relationships.length)
    "relationship analysis returned duplicate relationship IDs"
  check (!(analysis.relationships.any fun r => r.edgeId ∉ edgesById.map Prod.fst))
    "relationship analysis references an edge outside its incident"
  check (!(analysis.claims.any fun c => c.nodeId ∉ nodes.map Prod.fst))
    "relationship analysis references a node outside its incident"
  analysis.relationships.forM (checkRelationship edgesById claimsById)

/-- The body of the loop over `response.items`. -/
def addIncident (ruleVersion relationshipRuleVersion : String) (bundles : List (String × EdgeBundle m))
    (incident : IncidentCandidateResponse E T F) : Except String (List (String × EdgeBundle m)) := do
  checkIncident relationshipRuleVersion incident
  let nodes := PyDict.ofItems (incident.nodes.map fun node => (node.nodeId, node))
  incident.edges.foldlM (addBundle m ruleVersion nodes incident.relationshipAnalysis) bundles

/-- `_validate_response`. -/
def validateResponse [DecidableEq F] (response : IncidentsResponse E T F) (definition : RelationshipBenchmarkDefinition F) :
    Except String (List (EdgeBundle m)) := do
  check (response.parameters = definition.parameters)
    "incident API did not echo the exact requested correlation parameters"
  check (response.ruleVersion = definition.expectedCorrelationRuleVersion)
    "incident API correlation rule does not match the benchmark definition"
  check (response.relationshipRuleVersion = definition.expectedRelationshipRuleVersion)
    "incident API relationship rule does not match the benchmark definition"
  check (response.count = response.items.length && response.count ≤ response.totalIncidents)
    "incident API returned inconsistent result counts"
  let bundles ← response.items.foldlM (addIncident m response.ruleVersion response.relationshipRuleVersion) []
  check (!bundles.isEmpty) "incident API returned no measured cross-source edges to review"
  .ok (bundles.map Prod.snd)

end

end AtlasPulse
