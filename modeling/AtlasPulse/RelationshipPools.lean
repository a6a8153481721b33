import AtlasPulse.RelationshipCapture
import AtlasPulse.RetrievalPools

/-!
# Relationship pools

The claim pairs of `relationship_evaluation/base.py` with the hidden
predictions and the human labels, and the protected columns of
`relationship_evaluation/judgments.py`. The times of events are aware, and the
parameters of a capture are as their model validates them.
-/

namespace AtlasPulse

open PyJson PyTime Binary64

/-! ## Cases -/

def GeometryBasis.text : GeometryBasis → String
  | .point => "point"
  | .polygon => "polygon"

def RelationshipBasis.text : RelationshipBasis → String
  | .exactNormalizedAgreement => "exact_normalized_agreement"
  | .mutuallyExclusiveStructuredValues => "mutually_exclusive_structured_values"
  | .noDecisiveComparison => "no_decisive_comparison"

structure CapturedClaim where
  claimId : String
  nodeId : String
  predicate : ClaimPredicate
  value : String
  scope : ClaimScope
  scopeValue : Option String
  evidenceField : String
  evidenceExcerpt : String
  qualifier : Option String
  deriving DecidableEq

structure SystemPrediction where
  label : RelationshipLabel
  relationshipIds : List String
  claims : List CapturedClaim
  bases : List String
  rationales : List String
  deriving DecidableEq

/-- `review_identity()`: what a reviewer sees of a case. -/
structure CaseEvidence where
  caseId : String
  edgeId : String
  predicate : ClaimPredicate
  sourcePair : String × String
  left : EventEvidence Datetime
  right : EventEvidence Datetime
  distanceKm : Float64
  timeDeltaMinutes : Float64
  leftGeometryBasis : GeometryBasis
  rightGeometryBasis : GeometryBasis
  deriving DecidableEq

structure RelationshipCase extends CaseEvidence where
  systemPrediction : SystemPrediction
  goldLabel : Option RelationshipLabel
  rationale : Option String
  deriving DecidableEq

/-- `"+".join(case.source_pair)` -/
def CaseEvidence.pairKey (e : CaseEvidence) : String := e.sourcePair.1 ++ "+" ++ e.sourcePair.2

/-! ## Pools -/

/-- What is captured of a pool, its cases apart. -/
structure RelationshipPoolHeader where
  poolId : String
  benchmarkId : String
  benchmarkSha256 : String
  capturedAt : Datetime
  endpoint : String
  captureLatencyMs : Float64
  parameters : CorrelationParameters Float64
  predicates : List ClaimPredicate
  maxEdgesPerSourcePair : Int
  correlationRuleVersion : String
  relationshipRuleVersion : String
  incidentCount : Int
  totalIncidents : Int
  availableEdgeCount : Int
  sampledEdgeCount : Int
  availableEdgesBySourcePair : List (String × Int)
  sampledEdgesBySourcePair : List (String × Int)
  incidentsTruncated : Bool
  candidateEdgesTruncated : Bool
  deriving DecidableEq

structure RelationshipPoolData extends RelationshipPoolHeader where
  schemaVersion : PoolSchemaVersion
  judgmentStatus : JudgmentStatus
  reviewer : Option String
  reviewedAt : Option Datetime
  adjudication : Option AdjudicationProvenance
  cases : List RelationshipCase
  deriving DecidableEq

/-- A pool without its judgments. -/
structure RelationshipPoolCapture extends RelationshipPoolHeader where
  cases : List (CaseEvidence × SystemPrediction)
  deriving DecidableEq

def RelationshipCase.capture (c : RelationshipCase) : CaseEvidence × SystemPrediction := (c.toCaseEvidence, c.systemPrediction)

def RelationshipPoolData.capture (p : RelationshipPoolData) : RelationshipPoolCapture :=
  ⟨p.toRelationshipPoolHeader, p.cases.map RelationshipCase.capture⟩

/-- A text model with the formats of floats and the dumps of pydantic that the
reviews depend on. -/
structure ReviewModel (E : Type) extends TextModel E Datetime Float64 where
  sha256_hex : ∀ text, (sha256 text).toList.length = 64 ∧ (sha256 text).toList.all isHex
  /-- `repr(value)` -/
  reprFloat : Float64 → FloatRepr
  /-- `format(value, ".12g")` -/
  formatSignificant : Float64 → String
  dumpPool : RelationshipPoolData → Json
  dumpCapture : RelationshipPoolCapture → Json

section
variable {E : Type} (m : ReviewModel E)

def ReviewModel.digest (text : String) : HexDigest := ⟨m.sha256 text, m.sha256_hex text⟩

/-! ## Validation -/

def caseIdPayload (e : CaseEvidence) : Json :=
  .obj [("edge_id", .str e.edgeId), ("predicate", .str e.predicate.text),
    ("left_document_hash", .str e.left.documentHash), ("right_document_hash", .str e.right.documentHash),
    ("distance_km", .float (m.reprFloat e.distanceKm)), ("time_delta_minutes", .float (m.reprFloat e.timeDeltaMinutes)),
    ("left_geometry_basis", .str e.leftGeometryBasis.text), ("right_geometry_basis", .str e.rightGeometryBasis.text)]

/-- `relationship_case_id`, of the evidence of a case. -/
def relationshipCaseId (e : CaseEvidence) : String := "pair-" ++ digestPrefix 20 (m.digest (dumps true (caseIdPayload m e))).val

def CapturedClaim.validate (c : CapturedClaim) : Except String Unit := do
  check (1 ≤ c.claimId.length && c.claimId.length ≤ 200) "claim_id"
  check (3 ≤ c.nodeId.length && c.nodeId.length ≤ 1000) "node_id"
  check (1 ≤ c.value.length && c.value.length ≤ 500) "value"
  check (c.scopeValue.all (·.length ≤ 1000)) "scope_value"
  check (1 ≤ c.evidenceField.length && c.evidenceField.length ≤ 500) "evidence_field"
  check (1 ≤ c.evidenceExcerpt.length && c.evidenceExcerpt.length ≤ 280) "evidence_excerpt"
  check (c.qualifier.all (·.length ≤ 1000)) "qualifier"

def SystemPrediction.validate (p : SystemPrediction) : Except String Unit := do
  p.claims.forM CapturedClaim.validate
  check (decide p.relationshipIds.Nodup && decide p.bases.Nodup && decide p.rationales.Nodup)
    "system prediction collections must be unique"
  check (p.claims.map (·.claimId)).Nodup "system prediction claims must be unique"
  check (p.label = .insufficientEvidence || !p.relationshipIds.isEmpty) "decisive system predictions require a relationship ID"

/-- `ge=0, allow_inf_nan=False` -/
def isMeasure (value : Float64) : Bool := (Float64.ofInt 0).le value && value.isFinite

/-- `tuple(sorted((first, second)))` -/
def sortedPair (first second : String) : String × String := if second < first then (second, first) else (first, second)

/-- `^pair-[0-9a-f]{20}$` -/
def matchesCaseId (id : String) : Bool :=
  "pair-".toList.isPrefixOf id.toList && (id.toList.drop 5).length = 20 && (id.toList.drop 5).all isHex

/-- The field bounds of a case and the part of `validate_pair` on its evidence,
which `CandidateCaseInput` makes too. -/
def CaseEvidence.validate (e : CaseEvidence) : Except String Unit := do
  check (matchesCaseId e.caseId) "String should match pattern '^pair-[0-9a-f]\x7b20\x7d$'"
  check (1 ≤ e.edgeId.length && e.edgeId.length ≤ 200) "edge_id"
  e.left.validate m.toTextModel
  e.right.validate m.toTextModel
  check (isMeasure e.distanceKm) "distance_km"
  check (isMeasure e.timeDeltaMinutes) "time_delta_minutes"
  check (e.left.nodeId < e.right.nodeId) "relationship evidence must use canonical node order"
  check (e.left.source ≠ e.right.source) "relationship evidence endpoints must use independent sources"
  check (e.sourcePair = sortedPair e.left.source e.right.source) "source_pair must be the sorted endpoint sources"
  check (e.caseId = relationshipCaseId m e) "case_id must match the exact reviewer-visible evidence pair"

def RelationshipCase.validate (c : RelationshipCase) : Except String Unit := do
  c.systemPrediction.validate
  check (c.rationale.all (·.length ≤ 1000)) "rationale"
  c.toCaseEvidence.validate m
  check (c.systemPrediction.claims.all fun claim => claim.predicate = c.predicate)
    "system prediction claims must match the case predicate"
  check (c.systemPrediction.claims.all fun claim => claim.nodeId ∈ [c.left.nodeId, c.right.nodeId])
    "system prediction claims must belong to the evidence endpoints"

/-- `pair.split("+")` -/
def splitPair (pair : String) : List String := (pair.toList.splitOn '+').map String.ofList

/-- `validate_source_pair_counts`. -/
def checkPairCounts (counts : List (String × Int)) : Except String Unit :=
  counts.forM fun item => do
    check (match splitPair item.1 with | [first, second] => first < second | _ => false)
      "source-pair count keys must contain two sorted sources"
    check ((splitPair item.1).all (· ∈ sourceNames)) "source-pair count keys contain an unknown source"
    check (0 ≤ item.2) "source-pair counts must be non-negative"

/-- `dict(sorted(Counter(keys).items()))` -/
def sortedCounts (keys : List String) : List (String × Int) :=
  (keys.dedup.insertionSort (· ≤ ·)).map fun key => (key, (keys.count key : Int))

/-- `first == second` of dicts. -/
def sameItems (first second : List (String × Int)) : Bool :=
  first.length = second.length && first.all fun item => PyDict.get second item.1 = some item.2

/-- The distinct edges of the cases, by source pair. -/
def sampledCounts (cases : List RelationshipCase) : List (String × Int) :=
  ((cases.map fun c => c.pairKey).dedup.insertionSort (· ≤ ·)).map fun pair =>
    (pair, ((((cases.filter fun c => c.pairKey = pair).map fun c => c.edgeId).dedup.length : Nat) : Int))

namespace RelationshipPoolData

def normalize (p : RelationshipPoolData) : RelationshipPoolData :=
  { p with
    reviewer := p.reviewer.map normalizeText
    adjudication := p.adjudication.map AdjudicationProvenance.normalize }

/-- The part of `validate_pool` on the sample. -/
def checkSample (p : RelationshipPoolData) : Except String Unit := do
  check (p.incidentCount ≤ p.totalIncidents) "total_incidents cannot be smaller than incident_count"
  check ((p.availableEdgesBySourcePair.map Prod.snd).sum = p.availableEdgeCount)
    "available source-pair counts must sum to available_edge_count"
  check ((p.sampledEdgesBySourcePair.map Prod.snd).sum = p.sampledEdgeCount)
    "sampled source-pair counts must sum to sampled_edge_count"
  p.sampledEdgesBySourcePair.forM fun item => do
    check (item.2 ≤ (PyDict.get p.availableEdgesBySourcePair item.1).getD 0)
      "sampled source-pair counts cannot exceed available counts"
    check (item.2 ≤ p.maxEdgesPerSourcePair) "sampled source-pair count exceeds the configured cap"
  check (p.cases.map fun c => c.caseId).Nodup "relationship case IDs must be unique"
  check (p.cases.map fun c => (c.edgeId, c.predicate)).Nodup "each sampled edge may appear once per predicate"
  check (((p.cases.map fun c => c.edgeId).dedup.length : Int) = p.sampledEdgeCount)
    "sampled_edge_count must match distinct case edges"
  check (sameItems (sampledCounts p.cases) p.sampledEdgesBySourcePair)
    "sampled source-pair counts must match captured cases"
  check (p.cases.all fun c => sameSet ((p.cases.filter fun other => other.edgeId = c.edgeId).map fun other => other.predicate) p.predicates)
    "every sampled edge must contain every benchmark predicate"

/-- The part of `validate_pool` on the judgments. -/
def checkReview (p : RelationshipPoolData) : Except String Unit := do
  match p.judgmentStatus with
  | .reviewed => do
    check (p.reviewer.any (· ≠ "") && p.reviewedAt.isSome) "reviewed pools require reviewer and reviewed_at"
    check (p.cases.all (·.goldLabel.isSome)) "reviewed pools require a gold label for every case"
  | .unjudged => do
    check (p.reviewer.isNone && p.reviewedAt.isNone) "unjudged pools must not claim reviewer metadata"
    check (p.cases.all fun c => c.goldLabel.isNone && c.rationale.isNone) "unjudged pools must not contain partial judgments"

def checkAdjudication (p : RelationshipPoolData) : Except String Unit :=
  match p.adjudication with
  | some adjudication => do
    adjudication.validate m.casefold
    check (p.schemaVersion = .adjudicated) "adjudicated pools require relationship artifact schema 1.1.0"
    check (p.judgmentStatus = .reviewed) "only reviewed pools may contain adjudication provenance"
    check (p.reviewer = some adjudication.adjudicator) "pool reviewer must equal the adjudication finalizer"
    check (p.reviewedAt.any (sameTime · adjudication.adjudicatedAt)) "pool reviewed_at must equal adjudicated_at"
  | none => check (p.schemaVersion = .firstPass) "relationship artifact schema 1.1.0 requires adjudication provenance"

/-- The field bounds, on normalized values. -/
def checkFields (p : RelationshipPoolData) : Except String Unit := do
  check (matchesSlug ['.', '_', '-'] 2 159 p.poolId) "String should match pattern '^[a-z0-9][a-z0-9._-]\x7b2,159\x7d$'"
  check (matchesSlug ['.', '_', '-'] 2 119 p.benchmarkId) "String should match pattern '^[a-z0-9][a-z0-9._-]\x7b2,119\x7d$'"
  check (matchesSha256 p.benchmarkSha256) "String should match pattern '^[0-9a-f]\x7b64\x7d$'"
  check (1 ≤ p.endpoint.length && p.endpoint.length ≤ 2000) "endpoint"
  check (isMeasure p.captureLatencyMs) "capture_latency_ms"
  check (1 ≤ p.predicates.length && p.predicates.length ≤ 3) "predicates"
  check (1 ≤ p.maxEdgesPerSourcePair && p.maxEdgesPerSourcePair ≤ 100) "max_edges_per_source_pair"
  check (1 ≤ p.correlationRuleVersion.length && p.correlationRuleVersion.length ≤ 200) "correlation_rule_version"
  check (1 ≤ p.relationshipRuleVersion.length && p.relationshipRuleVersion.length ≤ 200) "relationship_rule_version"
  check (0 ≤ p.incidentCount && 0 ≤ p.totalIncidents) "Input should be greater than or equal to 0"
  check (1 ≤ p.availableEdgeCount && 1 ≤ p.sampledEdgeCount) "Input should be greater than or equal to 1"
  check (p.reviewer.all (·.length ≤ 200)) "reviewer"
  check (!p.cases.isEmpty) "cases"
  check p.predicates.Nodup "pool predicates must be unique"
  checkPairCounts p.availableEdgesBySourcePair
  checkPairCounts p.sampledEdgesBySourcePair
  check (p.reviewer.all (· ≠ "")) "reviewer must not be blank"

/-- The validators of a pool, on normalized values. -/
def validate (p : RelationshipPoolData) : Except String Unit := do
  p.checkFields
  p.cases.forM (RelationshipCase.validate m)
  check p.capturedAt.utcoffset.isSome "captured_at must be timezone-aware"
  check (p.reviewedAt.all (·.utcoffset.isSome)) "reviewed_at must be timezone-aware"
  p.checkSample
  p.checkReview
  p.checkAdjudication m

theorem normalize_idem (p : RelationshipPoolData) : p.normalize.normalize = p.normalize := by
  have hreviewer : (p.reviewer.map normalizeText).map normalizeText = p.reviewer.map normalizeText := by
    rw [Option.map_map]
    exact Option.map_congr fun reviewer _ => normalizeText_idem reviewer
  have hadjudication : (p.adjudication.map AdjudicationProvenance.normalize).map AdjudicationProvenance.normalize =
      p.adjudication.map AdjudicationProvenance.normalize := by
    rw [Option.map_map]
    exact Option.map_congr fun adjudication _ => adjudication.normalize_idem
  simp only [normalize, hreviewer, hadjudication]

end RelationshipPoolData

/-- A validated pool, which holds normalized values. -/
structure RelationshipPool extends RelationshipPoolData where
  normalized : toRelationshipPoolData.normalize = toRelationshipPoolData
  valid : toRelationshipPoolData.validate m = .ok ()

variable {m}

/-- `RelationshipPool.model_validate(data)`. -/
def RelationshipPoolData.modelValidate (data : RelationshipPoolData) : Except String (RelationshipPool m) :=
  match valid : data.normalize.validate m with
  | .ok () => .ok ⟨data.normalize, data.normalize_idem, valid⟩
  | .error e => .error e

theorem RelationshipPoolData.modelValidate_ok {data : RelationshipPoolData} {pool : RelationshipPool m}
    (h : data.modelValidate = .ok pool) : pool.toRelationshipPoolData = data.normalize := by
  unfold modelValidate at h
  split at h
  · rw [← Except.ok.inj h]
  · cases h

theorem RelationshipPoolData.modelValidate_of_valid {data : RelationshipPoolData} (h : data.normalize.validate m = .ok ()) :
    ∃ pool : RelationshipPool m, data.modelValidate = .ok pool := by
  unfold modelValidate
  split
  · exact ⟨_, rfl⟩
  · rename_i e he
    rw [h] at he
    cases he

end

end AtlasPulse
