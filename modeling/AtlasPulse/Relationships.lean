import AtlasPulse.Document
import AtlasPulse.Lib.Dict

/-!
# Claim relationships

`relationships.py`: claims that the fields of a signal make, and the
comparison of the claims at the two ends of every measured edge.
-/

namespace AtlasPulse

open PyJson PyText

def relationshipRuleVersion : String := "structured-claims-v1"

def relationshipCaveat : String :=
  "Annotations compare normalized source claims attached to measured edges. Corroboration is " ++
  "agreement at the named predicate and scope, not proof of truth or a shared incident; " ++
  "contradiction is a review flag, not adjudication. Insufficient evidence is not disagreement."

inductive ClaimPredicate
  | hazardDomain
  | evacuationState
  | roadAccessState
  deriving DecidableEq

def ClaimPredicate.text : ClaimPredicate → String
  | hazardDomain => "hazard_domain"
  | evacuationState => "evacuation_state"
  | roadAccessState => "road_access_state"

inductive ClaimScope
  | measuredEdgeArea
  | namedPlace
  deriving DecidableEq

def ClaimScope.text : ClaimScope → String
  | measuredEdgeArea => "measured_edge_area"
  | namedPlace => "named_place"

/-- `scope.replace('_', ' ')`. -/
def ClaimScope.words : ClaimScope → String
  | measuredEdgeArea => "measured edge area"
  | namedPlace => "named place"

inductive RelationshipLabel
  | corroborates
  | contradicts
  | insufficientEvidence
  deriving DecidableEq

def RelationshipLabel.text : RelationshipLabel → String
  | corroborates => "corroborates"
  | contradicts => "contradicts"
  | insufficientEvidence => "insufficient_evidence"

inductive RelationshipBasis
  | exactNormalizedAgreement
  | mutuallyExclusiveStructuredValues
  | noDecisiveComparison
  deriving DecidableEq

/-- One deterministic claim with the field that it comes from. -/
structure EvidenceClaim where
  claimId : String
  nodeId : String
  predicate : ClaimPredicate
  value : String
  scope : ClaimScope
  scopeValue : Option String
  evidenceField : String
  evidenceExcerpt : String
  qualifier : Option String
  ruleVersion : String
  deriving DecidableEq

/-- One reviewable comparison on a measured edge. -/
structure EvidenceRelationship where
  relationshipId : String
  edgeId : String
  fromNodeId : String
  toNodeId : String
  label : RelationshipLabel
  predicate : Option ClaimPredicate
  normalizedValue : Option String
  fromClaimId : Option String
  toClaimId : Option String
  basis : RelationshipBasis
  rationale : String
  ruleVersion : String
  deriving DecidableEq

structure RelationshipAnalysis where
  claims : List EvidenceClaim
  relationships : List EvidenceRelationship
  analyzedEdgeCount : Nat
  corroborationCount : Nat
  contradictionCount : Nat
  insufficientEvidenceCount : Nat
  ruleVersion : String
  caveat : String

/-! ## Tables -/

def relationshipTextFields : List String := ["title", "headline", "description", "instruction"]

def nwsTermDomains : List (String × List String) :=
  [("tsunami_related", ["tsunami"]),
    ("seismic", ["earthquake", "seismic"]),
    ("volcanic", ["volcano", "volcanic", "ashfall"]),
    ("fire_related", ["wildfire", "fire weather", "red flag", "fire warning"]),
    ("hydrological", ["flash flood", "flood", "storm surge", "high water", "debris flow"]),
    ("meteorological",
      ["tornado", "hurricane", "typhoon", "tropical storm", "thunderstorm", "blizzard", "winter storm", "snow",
        "ice storm", "wind", "heat", "cold", "fog", "dust"])]

def nwsCategoryDomains : List (String × String) :=
  [("Met", "meteorological"), ("Geo", "geophysical"), ("Safety", "public_safety"), ("Security", "security"),
    ("Rescue", "rescue"), ("Fire", "fire_related"), ("Health", "health"), ("Env", "environmental"),
    ("Transport", "transport"), ("Infra", "infrastructure"), ("CBRNE", "hazardous_material")]

/-- `\b(?:…)\b`, of parts in a row. -/
def words (parts : List Pattern) : Pattern := .seq ([.boundary] ++ parts ++ [.boundary])

def roads : List Pattern := [.text "road", .opt (.text "way"), .opt (.text "s"), .text " "]

def operationalPatterns : List (ClaimPredicate × String × List Pattern) :=
  [(.evacuationState, "lifted",
      [words [.text "evacuation order", .opt (.text "s"), .text " ",
          .opt (.oneOf ["have been ", "has been ", "were "]), .oneOf ["lifted", "rescinded", "cancelled"]],
        words [.text "evacuation ", .opt (.oneOf ["is ", "are "]), .text "no longer ",
          .oneOf ["required", "necessary"]]]),
    (.evacuationState, "active",
      [words [.text "evacuation order", .opt (.text "s"), .text " ",
          .opt (.oneOf ["is ", "are ", "remain ", "remains "]), .oneOf ["in effect", "active", "issued"]],
        words [.text "ordered to evacuate"],
        words [.text "evacuate ", .oneOf ["now", "immediately"]]]),
    (.roadAccessState, "open",
      [words (roads ++ [.opt (.oneOf ["has ", "have "]), .oneOf ["reopened", "re-opened"]]),
        words (roads ++ [.opt (.oneOf ["is ", "are "]), .text "open again"])]),
    (.roadAccessState, "closed",
      [words (roads ++ [.opt (.oneOf ["is ", "are ", "remain ", "remains "]), .text "closed"]),
        words [.text "road closure"]])]

/-- `_OPPOSITES.get(predicate)`. -/
def opposites : ClaimPredicate → Option (String × String)
  | .evacuationState => some ("active", "lifted")
  | .roadAccessState => some ("closed", "open")
  | .hazardDomain => none

/-! ## Claims -/

/-- `_clean_excerpt`. -/
def cleanExcerpt (value : String) : String := String.ofList ((strip (collapseSpace value)).toList.take 280)

section
variable {E T F : Type} (m : TextModel E T F)

/-- `_normalized_place`: the normalized and the displayed place. -/
def normalizedPlace (value : String) : Option (String × String) :=
  let display := cleanExcerpt value
  let spaced := String.ofList (subRuns (fun c => !m.isWord c) false (m.casefold display).toList)
  let normalized := strip (collapseSpace spaced)
  if normalized = "" then none else some (normalized, display)

/-- A claim before it is attached to a node. -/
structure ClaimContent where
  predicate : ClaimPredicate
  value : String
  scope : ClaimScope
  scopeValue : Option String
  evidenceField : String
  evidenceExcerpt : String
  qualifier : Option String

/-- The values of a claim's `_content_id`. -/
def claimValues (nodeId : String) (c : ClaimContent) : List String :=
  [nodeId, c.predicate.text, c.value, c.scope.text, c.scopeValue.getD "", c.evidenceField, cleanExcerpt c.evidenceExcerpt]

def makeClaim (nodeId : String) (c : ClaimContent) : EvidenceClaim where
  claimId := contentId m.sha256 relationshipRuleVersion "claim" (claimValues nodeId c)
  nodeId := nodeId
  predicate := c.predicate
  value := c.value
  scope := c.scope
  scopeValue := c.scopeValue
  evidenceField := c.evidenceField
  evidenceExcerpt := cleanExcerpt c.evidenceExcerpt
  qualifier := c.qualifier
  ruleVersion := relationshipRuleVersion

/-- A claim about the area of the edge. -/
def hazardContent (value evidenceField evidenceExcerpt : String) (qualifier : Option String) : ClaimContent :=
  ⟨.hazardDomain, value, .measuredEdgeArea, none, evidenceField, evidenceExcerpt, qualifier⟩

/-- `term in text`. -/
def containsText (text term : String) : Bool := term.toList <:+: text.toList

/-- The domain of an alert with its field and excerpt. -/
def nwsDomain (alertType category : Option Json) : Option (String × String × String) :=
  let alertText := match alertType with
    | some (.str text) => strip text
    | _ => ""
  let normalizedAlert := m.casefold alertText
  match nwsTermDomains.find? fun row => row.2.any (containsText normalizedAlert) with
  | some row => some (row.1, "payload.alert_type", alertText)
  | none =>
    match category with
    | some (.str category) => (nwsCategoryDomains.lookup category).map fun domain => (domain, "payload.category", category)
    | _ => none

/-- The contents of `_hazard_claims`. -/
def hazardContents (event : E) : List ClaimContent :=
  let eventType := m.eventType event
  let payload := m.payload event
  if m.source event = "usgs" ∧ "seismic.".toList <+: eventType.toList then
    hazardContent "seismic" "event_type" eventType none ::
      match payload "tsunami" with
      | some (.bool true) =>
        [hazardContent "tsunami_related" "payload.tsunami" "true"
          (some "USGS tsunami flag indicates tsunami relevance, not observed impact.")]
      | _ => []
  else if m.source event = "firms" ∧ eventType = "fire.thermal_anomaly" then
    [hazardContent "fire_related" "event_type" eventType
      (some "A FIRMS thermal anomaly is not independently proof of wildfire.")]
  else if m.source event = "gdelt" ∧ eventType = "geopolitical.gdelt_event" then
    let excerpt := match payload "category" with
      | some (.str category) => if strip category = "" then eventType else category
      | _ => eventType
    [hazardContent "material_conflict" (if excerpt = eventType then "event_type" else "payload.category") excerpt
      (some "GDELT is a machine-coded media observation, not independent verification.")]
  else if m.source event = "nws" ∧ eventType = "weather.alert" then
    ((nwsDomain m (payload "alert_type") (payload "category")).map fun found =>
      hazardContent found.1 found.2.1 found.2.2 none).toList
  else []

/-- The matches of the text fields: predicate, value, field and text, in the
order in which they are appended. -/
def operationalMatches (event : E) : List (ClaimPredicate × String × String × String) :=
  relationshipTextFields.flatMap fun field =>
    match m.payload event field with
    | some (.str raw) =>
      if strip raw = "" then []
      else operationalPatterns.filterMap fun row =>
        if row.2.2.any fun pattern => pattern.search m.isWord (m.casefold (cleanExcerpt raw)) then
          some (row.1, row.2.1, "payload." ++ field, raw)
        else none
    | _ => []

/-- The one claim of a predicate, unless its values disagree. -/
def operationalContent (matched : List (ClaimPredicate × String × String × String)) (normalized display : String)
    (predicate : ClaimPredicate) : Option ClaimContent :=
  let evidence := (matched.filter fun x => x.1 = predicate).map Prod.snd
  if (evidence.map Prod.fst).dedup.length ≠ 1 then none
  else evidence.head?.map fun found =>
    { predicate
      value := found.1
      scope := .namedPlace
      scopeValue := some display
      evidenceField := found.2.1
      evidenceExcerpt := found.2.2
      qualifier := some ("Compared only with claims using exact normalized place '" ++ normalized ++ "'.") }

/-- The contents of `_operational_claims`. -/
def operationalContents (event : E) : List ClaimContent :=
  match m.payload event "place" with
  | some (.str place) =>
    match normalizedPlace m place with
    | none => []
    | some (normalized, display) =>
      let matched := operationalMatches m event
      let predicates := (matched.map Prod.fst).dedup.insertionSort fun a b => a.text ≤ b.text
      predicates.filterMap (operationalContent matched normalized display)
  | _ => []

def extractClaims (node : EvidenceNode E) : List EvidenceClaim :=
  let contents := hazardContents m node.message.event ++ operationalContents m node.message.event
  (contents.map (makeClaim m node.nodeId)).insertionSort fun a b => a.claimId ≤ b.claimId

/-! ## Relationships -/

def scopeKey (claim : EvidenceClaim) : ClaimPredicate × ClaimScope × String :=
  let normalizedScope := match claim.scopeValue with
    | none => ""
    | some value => match normalizedPlace m value with
      | some place => place.1
      | none => claim.claimId
  (claim.predicate, claim.scope, normalizedScope)

/-- `frozenset((left, right)) == opposites`. -/
def areOpposites (predicate : ClaimPredicate) (left right : String) : Bool :=
  (opposites predicate).any fun o => (left, right) = o ∨ (right, left) = o

def decisive (edge : EvidenceEdge F) (left right : EvidenceClaim) (label : RelationshipLabel)
    (basis : RelationshipBasis) (normalizedValue : Option String) (rationale : String) : EvidenceRelationship :=
  let (fromClaim, toClaim) := if right.nodeId < left.nodeId then (right, left) else (left, right)
  { relationshipId := contentId m.sha256 relationshipRuleVersion "relationship"
      [edge.edgeId, label.text, fromClaim.claimId, toClaim.claimId]
    edgeId := edge.edgeId
    fromNodeId := edge.fromNodeId
    toNodeId := edge.toNodeId
    label, basis, normalizedValue, rationale
    predicate := some left.predicate
    fromClaimId := some fromClaim.claimId
    toClaimId := some toClaim.claimId
    ruleVersion := relationshipRuleVersion }

/-- `_related`. -/
def related (edge : EvidenceEdge F) (left right : EvidenceClaim) : Option EvidenceRelationship :=
  if scopeKey m left ≠ scopeKey m right then none
  else if left.value = right.value then
    some (decisive m edge left right .corroborates .exactNormalizedAgreement (some left.value)
      ("Independent source claims agree on " ++ left.predicate.text ++ "=" ++ left.value ++ " at " ++
        left.scope.words ++ " scope."))
  else if areOpposites left.predicate left.value right.value then
    some (decisive m edge left right .contradicts .mutuallyExclusiveStructuredValues none
      ("Independent source claims make mutually exclusive " ++ left.predicate.text ++ " assertions at " ++
        left.scope.words ++ " scope: " ++ left.value ++ " versus " ++ right.value ++ "."))
  else none

/-- The relationship of an edge without a decisive comparison. -/
def unresolved (edge : EvidenceEdge F) : EvidenceRelationship where
  relationshipId := contentId m.sha256 relationshipRuleVersion "relationship" [edge.edgeId, "insufficient_evidence"]
  edgeId := edge.edgeId
  fromNodeId := edge.fromNodeId
  toNodeId := edge.toNodeId
  label := .insufficientEvidence
  predicate := none
  normalizedValue := none
  fromClaimId := none
  toClaimId := none
  basis := .noDecisiveComparison
  rationale :=
    "No exact normalized agreement or allowed mutually exclusive claim pair was found; measured co-occurrence " ++
    "alone cannot establish semantic agreement or conflict."
  ruleVersion := relationshipRuleVersion

/-- The comparisons of the claims at the two ends, of those that there are. -/
def comparisons (edge : EvidenceEdge F) (lefts rights : List EvidenceClaim) : List EvidenceRelationship :=
  lefts.flatMap fun left => rights.filterMap fun right => related m edge left right

/-- The values of `edge_relationships`. -/
def edgeRelationships (claimsByNode : List (String × List EvidenceClaim)) (edge : EvidenceEdge F) :
    List EvidenceRelationship :=
  let lefts := (PyDict.get claimsByNode edge.fromNodeId).getD []
  let rights := (PyDict.get claimsByNode edge.toNodeId).getD []
  let found := PyDict.ofItems ((comparisons m edge lefts rights).map fun r => (r.relationshipId, r))
  if found.isEmpty then [unresolved m edge] else found.map Prod.snd

def claimsByNode (nodes : List (EvidenceNode E)) : List (String × List EvidenceClaim) :=
  PyDict.ofItems (nodes.map fun node => (node.nodeId, extractClaims m node))

def countLabel (relationships : List EvidenceRelationship) (label : RelationshipLabel) : Nat :=
  relationships.countP (·.label = label)

def analyzeIncident (incident : IncidentCandidate E T F) : RelationshipAnalysis :=
  let byNode := claimsByNode m incident.nodes
  let relationships := (incident.edges.flatMap (edgeRelationships m byNode)).insertionSort
    fun a b => a.relationshipId ≤ b.relationshipId
  { claims := (byNode.flatMap Prod.snd).insertionSort fun a b => a.claimId ≤ b.claimId
    relationships
    analyzedEdgeCount := incident.edges.length
    corroborationCount := countLabel relationships .corroborates
    contradictionCount := countLabel relationships .contradicts
    insufficientEvidenceCount := countLabel relationships .insufficientEvidence
    ruleVersion := relationshipRuleVersion
    caveat := relationshipCaveat }

end

end AtlasPulse
