import AtlasPulse.RelationshipPools

/-!
# Relationship sampling

`relationship_evaluation/capture.py`: the edges of an accepted response are
sampled by source pair in the order of a hash, and each becomes one case for
every predicate of the benchmark.
-/

namespace AtlasPulse

open PyJson PyTime Binary64

/-! ## Definitions -/

/-- What the capture uses of a `RelationshipBenchmarkDefinition`. -/
structure BenchmarkDefinitionData extends RelationshipBenchmarkDefinition Float64 where
  benchmarkId : String
  predicates : List ClaimPredicate
  maxEdgesPerSourcePair : Nat

def BenchmarkDefinitionData.validate (d : BenchmarkDefinitionData) : Except String Unit := do
  check (matchesSlug ['.', '_', '-'] 2 119 d.benchmarkId) "String should match pattern '^[a-z0-9][a-z0-9._-]\x7b2,119\x7d$'"
  check (1 ≤ d.expectedCorrelationRuleVersion.length && d.expectedCorrelationRuleVersion.length ≤ 200)
    "expected_correlation_rule_version"
  check (1 ≤ d.expectedRelationshipRuleVersion.length && d.expectedRelationshipRuleVersion.length ≤ 200)
    "expected_relationship_rule_version"
  check (1 ≤ d.predicates.length && d.predicates.length ≤ 3) "predicates"
  check (1 ≤ d.maxEdgesPerSourcePair && d.maxEdgesPerSourcePair ≤ 100) "max_edges_per_source_pair"
  check d.predicates.Nodup "benchmark predicates must be unique"

abbrev BenchmarkDefinition := {d : BenchmarkDefinitionData // d.validate = .ok ()}

/-- One capture: the hash of its definition, the checked endpoint, the clock and
the measured latency. -/
structure CaptureRun where
  definitionHash : HexDigest
  endpoint : String
  endpoint_length : 1 ≤ endpoint.length ∧ endpoint.length ≤ 2000
  capturedAt : UtcDatetime
  latencyMs : Float64
  latency_measured : isMeasure latencyMs = true

/-- `captured_at.strftime("%Y%m%dt%H%M%Sz")` -/
def compactTimestamp (time : UtcDatetime) : String :=
  let us := time.val.micros
  String.ofList (Digits.pad 4 (year us) ++ Digits.pad 2 (month us) ++ Digits.pad 2 (day us) ++ 't' :: (Digits.pad 2 (hour us) ++
    Digits.pad 2 (minute us) ++ Digits.pad 2 (second us) ++ ['z']))

section
variable {E : Type} (m : ReviewModel E)

/-! ## Sampling -/

/-- `source_pair_key` -/
def EdgeBundle.sourcePairKey {m : ReviewModel E} (b : EdgeBundle m.toTextModel) : String :=
  let pair := sortedPair b.left.val.source b.right.val.source
  pair.1 ++ "+" ++ pair.2

/-- What `_edge_sample_key` hashes. -/
def sampleText {m : ReviewModel E} (definitionHash sourcePair : String) (b : EdgeBundle m.toTextModel) : String :=
  definitionHash ++ ":" ++ sourcePair ++ ":" ++ b.edge.edgeId ++ ":" ++ b.left.val.documentHash ++ ":" ++ b.right.val.documentHash

def edgeSampleKey (definitionHash sourcePair : String) (b : EdgeBundle m.toTextModel) : String :=
  m.sha256 (sampleText definitionHash sourcePair b)

/-- `sorted(candidates, key=…)`. -/
def rankedEdges (definitionHash : String) (bundles : List (EdgeBundle m.toTextModel)) (pair : String) :
    List (EdgeBundle m.toTextModel) :=
  (bundles.filter fun b => b.sourcePairKey = pair).insertionSort fun a b =>
    edgeSampleKey m definitionHash pair a ≤ edgeSampleKey m definitionHash pair b

/-- `sorted(grouped)` -/
def sourcePairs {m : ReviewModel E} (bundles : List (EdgeBundle m.toTextModel)) : List String :=
  (bundles.map (·.sourcePairKey)).dedup.insertionSort (· ≤ ·)

/-- `_sample_edges`. -/
def sampleEdges (definitionHash : String) (perSourcePair : Nat) (bundles : List (EdgeBundle m.toTextModel)) :
    List (EdgeBundle m.toTextModel) :=
  (sourcePairs bundles).flatMap fun pair => (rankedEdges m definitionHash bundles pair).take perSourcePair

/-! ## Cases -/

def capturedClaim (claim : EvidenceClaimResponse) : CapturedClaim where
  claimId := claim.claimId
  nodeId := claim.nodeId
  predicate := claim.predicate
  value := claim.value
  scope := claim.scope
  scopeValue := claim.scopeValue
  evidenceField := claim.evidenceField
  evidenceExcerpt := claim.evidenceExcerpt
  qualifier := claim.qualifier

/-- `tuple(sorted(set(values)))` -/
def sortedDistinct (values : List String) : List String := values.dedup.insertionSort (· ≤ ·)

/-- The relationships that decide the prediction, with their label. -/
def supporting (edgeId : String) (predicate : ClaimPredicate) (relationships : List EvidenceRelationshipResponse) :
    Except String (RelationshipLabel × List EvidenceRelationshipResponse) :=
  let decisive := relationships.filter fun r =>
    r.edgeId = edgeId && r.predicate = some predicate && r.label ≠ .insufficientEvidence
  match (decisive.map (·.label)).dedup with
  | [] => .ok (.insufficientEvidence, relationships.filter fun r => r.edgeId = edgeId && r.label = .insufficientEvidence)
  | [label] => .ok (label, decisive)
  | _ => .error ("edge " ++ edgeId ++ " emitted conflicting decisions for " ++ predicate.text)

/-- `_prediction`. -/
def prediction {m : ReviewModel E} (b : EdgeBundle m.toTextModel) (predicate : ClaimPredicate) : Except String SystemPrediction := do
  let claims := (b.claims.filter fun claim =>
    claim.predicate = predicate && claim.nodeId ∈ [b.left.val.nodeId, b.right.val.nodeId]).map capturedClaim
  claims.forM CapturedClaim.validate
  let found ← supporting b.edge.edgeId predicate b.relationships
  let p : SystemPrediction :=
    { label := found.1
      relationshipIds := sortedDistinct (found.2.map (·.relationshipId))
      claims := claims.insertionSort fun x y => x.claimId ≤ y.claimId
      bases := sortedDistinct (found.2.map (·.basis.text))
      rationales := sortedDistinct (found.2.map (·.rationale)) }
  p.validate
  .ok p

/-- What a case shows of an edge, before it has its identity. -/
def caseContent {m : ReviewModel E} (b : EdgeBundle m.toTextModel) (predicate : ClaimPredicate) : CaseEvidence where
  caseId := ""
  edgeId := b.edge.edgeId
  predicate := predicate
  sourcePair := sortedPair b.left.val.source b.right.val.source
  left := b.left.val
  right := b.right.val
  distanceKm := b.edge.distanceKm
  timeDeltaMinutes := b.edge.timeDeltaMinutes
  leftGeometryBasis := b.edge.fromGeometryBasis
  rightGeometryBasis := b.edge.toGeometryBasis

def caseEvidence (b : EdgeBundle m.toTextModel) (predicate : ClaimPredicate) : CaseEvidence :=
  { caseContent b predicate with caseId := relationshipCaseId m (caseContent b predicate) }

/-- `_relationship_case`. -/
def relationshipCase (b : EdgeBundle m.toTextModel) (predicate : ClaimPredicate) : Except String RelationshipCase := do
  let systemPrediction ← prediction b predicate
  let case : RelationshipCase := { caseEvidence m b predicate with systemPrediction, goldLabel := none, rationale := none }
  case.validate m
  .ok case

/-- `blind_key` -/
def blindText (definitionHash : String) (c : RelationshipCase) : String := definitionHash ++ ":" ++ c.caseId

def blindKey (definitionHash : String) (c : RelationshipCase) : String := m.sha256 (blindText definitionHash c)

/-! ## The capture -/

/-- The pool of a sample, as `capture_relationship_pool` fills it in. -/
def poolOf (definition : BenchmarkDefinition) (run : CaptureRun) (response : IncidentsResponse E Datetime Float64)
    (bundles selected : List (EdgeBundle m.toTextModel)) (cases : List RelationshipCase) : RelationshipPoolData where
  poolId := definition.val.benchmarkId ++ "-" ++ compactTimestamp run.capturedAt
  benchmarkId := definition.val.benchmarkId
  benchmarkSha256 := run.definitionHash.val
  capturedAt := run.capturedAt.val
  endpoint := run.endpoint
  captureLatencyMs := run.latencyMs
  parameters := definition.val.parameters
  predicates := definition.val.predicates
  maxEdgesPerSourcePair := definition.val.maxEdgesPerSourcePair
  correlationRuleVersion := response.ruleVersion
  relationshipRuleVersion := response.relationshipRuleVersion
  incidentCount := response.count
  totalIncidents := response.totalIncidents
  availableEdgeCount := bundles.length
  sampledEdgeCount := selected.length
  availableEdgesBySourcePair := sortedCounts (bundles.map (·.sourcePairKey))
  sampledEdgesBySourcePair := sortedCounts (selected.map (·.sourcePairKey))
  incidentsTruncated := response.incidentsTruncated
  candidateEdgesTruncated := response.candidateEdgesTruncated
  schemaVersion := .firstPass
  judgmentStatus := .unjudged
  reviewer := none
  reviewedAt := none
  adjudication := none
  cases := cases.insertionSort fun a b => blindKey m run.definitionHash.val a ≤ blindKey m run.definitionHash.val b

/-- `capture_relationship_pool`, from the parsed response on. -/
def captureRelationshipPool (definition : BenchmarkDefinition) (run : CaptureRun) (response : IncidentsResponse E Datetime Float64) :
    Except String (RelationshipPool m) := do
  let bundles ← validateResponse m.toTextModel response definition.val.toRelationshipBenchmarkDefinition
  let selected := sampleEdges m run.definitionHash.val definition.val.maxEdgesPerSourcePair bundles
  let cases ← (selected.flatMap fun b => definition.val.predicates.map (b, ·)).mapM fun x => relationshipCase m x.1 x.2
  (poolOf m definition run response bundles selected cases).modelValidate

end

end AtlasPulse
