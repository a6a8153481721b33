import AtlasPulse.ExactAgreement
import AtlasPulse.Percentiles

/-!
# Candidate comparison

The scores of `relationship_evaluation/metrics.py` and the comparison of a
candidate with the deployed rule of `relationship_evaluation/candidates.py`,
over rational numbers. The fixed blockers and caveats of a report are left out.
-/

namespace AtlasPulse.CandidateComparison

open PyJson PyTime Kappa ExactAgreement RelationshipSheets

/-! ## Scores -/

/-- `Field(default=None, ge=0, le=1)` -/
def isRate (value : Option ℚ) : Bool := value.all (between 0)

/-- `count / total if total else None` -/
def ratio (count total : ℕ) : Option ℚ := if total = 0 then none else some (count / total)

structure LabelMetrics where
  support : ℕ
  predictedCount : ℕ
  truePositive : ℕ
  falsePositive : ℤ
  falseNegative : ℤ
  precision : Option ℚ
  «recall» : Option ℚ
  f1 : Option ℚ
  deriving DecidableEq

def LabelMetrics.validate (m : LabelMetrics) : Except String Unit := do
  check (0 ≤ m.falsePositive && 0 ≤ m.falseNegative) "Input should be greater than or equal to 0"
  check (isRate m.precision && isRate m.recall && isRate m.f1) "Input should be less than or equal to 1"

/-- `f1` of `_label_metrics` -/
def f1Score (support predicted truePositive : ℕ) (precision «recall» : Option ℚ) : Except String (Option ℚ) :=
  if truePositive ≠ 0 then
    match precision, «recall» with
    | some p, some r => .ok (some (2 * p * r / (p + r)))
    | _, _ => .error "AssertionError"
  else if support ≠ 0 || predicted ≠ 0 then .ok (some 0)
  else .ok none

/-- `_label_metrics`, of the gold labels and the predicted labels of cases. -/
def labelMetrics (pairs : List (RelationshipLabel × RelationshipLabel)) (label : RelationshipLabel) : Except String LabelMetrics := do
  let support := firsts pairs label
  let predicted := seconds pairs label
  let truePositive := cell pairs label label
  let precision := ratio truePositive predicted
  let «recall» := ratio truePositive support
  let f1 ← f1Score support predicted truePositive precision «recall»
  let metrics : LabelMetrics := ⟨support, predicted, truePositive, predicted - truePositive, support - truePositive, precision, «recall», f1⟩
  metrics.validate
  .ok metrics

structure RelationshipSliceMetrics where
  caseCount : ℕ
  accuracy : ℚ
  macroF1 : Option ℚ
  decisiveCoverage : ℚ
  abstentionRate : ℚ
  selectiveAccuracy : Option ℚ
  labels : List (RelationshipLabel × LabelMetrics)
  deriving DecidableEq

def RelationshipSliceMetrics.validate (s : RelationshipSliceMetrics) : Except String Unit := do
  check (1 ≤ s.caseCount) "Input should be greater than or equal to 1"
  check (between 0 s.accuracy && between 0 s.decisiveCoverage && between 0 s.abstentionRate) "Input should be less than or equal to 1"
  check (isRate s.macroF1 && isRate s.selectiveAccuracy) "Input should be less than or equal to 1"

/-- `_slice_metrics`, of the gold labels and the predicted labels of its cases. -/
def sliceMetrics (pairs : List (RelationshipLabel × RelationshipLabel)) : Except String RelationshipSliceMetrics := do
  check (!pairs.isEmpty) "cannot score an empty relationship slice"
  let decisive := pairs.filter fun pair => pair.2 ≠ .insufficientEvidence
  let labels ← relationshipLabels.mapM fun label => (labelMetrics pairs label).map (label, ·)
  let f1Values := labels.filterMap (·.2.f1)
  let metrics : RelationshipSliceMetrics :=
    { caseCount := pairs.length
      accuracy := agreements pairs / pairs.length
      macroF1 := if f1Values.isEmpty then none else some (f1Values.sum / f1Values.length)
      decisiveCoverage := decisive.length / pairs.length
      abstentionRate := (pairs.length - decisive.length) / pairs.length
      selectiveAccuracy := ratio (agreements decisive) decisive.length
      labels }
  metrics.validate
  .ok metrics

/-- A case with its gold label and the label predicted of it. -/
structure ScoredCase where
  case : RelationshipCase
  goldLabel : RelationshipLabel
  predictedLabel : RelationshipLabel

def ScoredCase.labels (c : ScoredCase) : RelationshipLabel × RelationshipLabel := (c.goldLabel, c.predictedLabel)

/-- `case.gold_label` and `predictions[case.case_id]` -/
def scoredCase (predictions : List (String × RelationshipLabel)) (c : RelationshipCase) : Except String ScoredCase :=
  match c.goldLabel, PyDict.get predictions c.caseId with
  | some gold, some predicted => .ok ⟨c, gold, predicted⟩
  | none, _ => .error "AssertionError"
  | some _, none => .error "KeyError"

structure RelationshipCaseOutcome where
  caseId : String
  edgeId : String
  predicate : ClaimPredicate
  sourcePair : String × String
  predictedLabel : RelationshipLabel
  goldLabel : RelationshipLabel
  correct : Bool
  deriving DecidableEq

def ScoredCase.outcome (c : ScoredCase) : RelationshipCaseOutcome :=
  ⟨c.case.caseId, c.case.edgeId, c.case.predicate, c.case.sourcePair, c.predictedLabel, c.goldLabel, c.predictedLabel = c.goldLabel⟩

structure RelationshipScoreSet where
  overall : RelationshipSliceMetrics
  predicates : List (ClaimPredicate × RelationshipSliceMetrics)
  sourcePairs : List (String × RelationshipSliceMetrics)
  confusionMatrix : List (RelationshipLabel × List (RelationshipLabel × ℕ))
  outcomes : List RelationshipCaseOutcome
  deriving DecidableEq

/-- The message about a prediction map whose cases are not the scored ones. -/
def predictionMapError (missing unexpected : ℕ) : String :=
  let details := (if missing = 0 then [] else ["missing " ++ toString missing ++ " case(s)"]) ++
    (if unexpected = 0 then [] else ["contains " ++ toString unexpected ++ " unknown case(s)"])
  "prediction map " ++ " and ".intercalate details

def calculateRelationshipScores (cases : List RelationshipCase) (predictions : List (String × RelationshipLabel)) :
    Except String RelationshipScoreSet := do
  check (!cases.isEmpty) "cannot score an empty relationship case set"
  let caseIds := (cases.map fun c => c.caseId).dedup
  let predictionIds := predictions.map Prod.fst
  let missing := caseIds.filter (· ∉ predictionIds)
  let unexpected := predictionIds.filter (· ∉ caseIds)
  check (missing.isEmpty && unexpected.isEmpty) (predictionMapError missing.length unexpected.length)
  check (cases.all (·.goldLabel.isSome)) "relationship metrics require a gold label for every case"
  let scored ← cases.mapM (scoredCase predictions)
  let pairs := scored.map ScoredCase.labels
  .ok
    { overall := ← sliceMetrics pairs
      predicates := ← sortedGroups (fun a b => a.text ≤ b.text) sliceMetrics (scored.map fun c => (c.case.predicate, c.labels))
      sourcePairs := ← sortedGroups (· ≤ ·) sliceMetrics (scored.map fun c => (c.case.pairKey, c.labels))
      confusionMatrix := agreementConfusion relationshipLabels pairs
      outcomes := scored.map ScoredCase.outcome }

/-! ## Paired slices -/

structure RelationshipMetricDelta where
  accuracy : ℚ
  macroF1 : Option ℚ
  decisiveCoverage : ℚ
  abstentionRate : ℚ
  selectiveAccuracy : Option ℚ
  deriving DecidableEq

def RelationshipMetricDelta.validate (d : RelationshipMetricDelta) : Except String Unit := do
  check (between (-1) d.accuracy && between (-1) d.decisiveCoverage && between (-1) d.abstentionRate)
    "Input should be greater than or equal to -1"
  check (d.macroF1.all (between (-1)) && d.selectiveAccuracy.all (between (-1))) "Input should be greater than or equal to -1"

def difference : Option ℚ → Option ℚ → Option ℚ
  | some left, some right => some (right - left)
  | _, _ => none

/-- `_delta` -/
def delta (baseline candidate : RelationshipSliceMetrics) : Except String RelationshipMetricDelta := do
  let delta : RelationshipMetricDelta :=
    { accuracy := candidate.accuracy - baseline.accuracy
      macroF1 := difference baseline.macroF1 candidate.macroF1
      decisiveCoverage := candidate.decisiveCoverage - baseline.decisiveCoverage
      abstentionRate := candidate.abstentionRate - baseline.abstentionRate
      selectiveAccuracy := difference baseline.selectiveAccuracy candidate.selectiveAccuracy }
  delta.validate
  .ok delta

structure RelationshipSliceComparison where
  baseline : RelationshipSliceMetrics
  candidate : RelationshipSliceMetrics
  delta : RelationshipMetricDelta
  deriving DecidableEq

/-- One pass of the loop of `validate_delta`. -/
def checkDelta (name : String) (baseline candidate actual : Option ℚ) : Except String Unit :=
  match difference baseline candidate with
  | none => check actual.isNone (name ++ " delta must be undefined when either metric is undefined")
  | some expected => check (actual.any (near · expected)) (name ++ " delta must equal candidate minus baseline")

/-- `validate_delta` -/
def RelationshipSliceComparison.validate (c : RelationshipSliceComparison) : Except String Unit := do
  check (c.baseline.caseCount = c.candidate.caseCount) "paired relationship slices must contain the same cases"
  checkDelta "accuracy" (some c.baseline.accuracy) (some c.candidate.accuracy) (some c.delta.accuracy)
  checkDelta "macro_f1" c.baseline.macroF1 c.candidate.macroF1 c.delta.macroF1
  checkDelta "decisive_coverage" (some c.baseline.decisiveCoverage) (some c.candidate.decisiveCoverage) (some c.delta.decisiveCoverage)
  checkDelta "abstention_rate" (some c.baseline.abstentionRate) (some c.candidate.abstentionRate) (some c.delta.abstentionRate)
  checkDelta "selective_accuracy" c.baseline.selectiveAccuracy c.candidate.selectiveAccuracy c.delta.selectiveAccuracy

/-- `_comparison` -/
def comparison (baseline candidate : RelationshipSliceMetrics) : Except String RelationshipSliceComparison := do
  let comparison : RelationshipSliceComparison := ⟨baseline, candidate, ← delta baseline candidate⟩
  comparison.validate
  .ok comparison

/-- `{name: _comparison(baseline[name], value) for name, value in candidate.items()}` -/
def comparisons {K : Type} [DecidableEq K] (baseline candidate : List (K × RelationshipSliceMetrics)) :
    Except String (List (K × RelationshipSliceComparison)) :=
  candidate.mapM fun slice =>
    match PyDict.get baseline slice.1 with
    | some metrics => (comparison metrics slice.2).map (slice.1, ·)
    | none => .error "KeyError"

/-! ## Latencies -/

structure CandidatePrediction where
  caseId : String
  predictedLabel : RelationshipLabel
  latencyMs : ℚ
  deriving DecidableEq

structure CandidateLatencyMetrics where
  caseCount : ℕ
  totalMs : ℚ
  meanMs : ℚ
  p50Ms : ℚ
  p95Ms : ℚ
  maxMs : ℚ
  deriving DecidableEq

/-- `math.isclose(a, b, rel_tol=1e-12, abs_tol=1e-9)` -/
def isClose (a b : ℚ) : Bool := |a - b| ≤ max (1 / 10 ^ 12 * max |a| |b|) (1 / 10 ^ 9)

/-- The bounds of the fields, then `validate_latency`. -/
def CandidateLatencyMetrics.validate (l : CandidateLatencyMetrics) : Except String Unit := do
  check (1 ≤ l.caseCount) "Input should be greater than or equal to 1"
  check (0 ≤ l.totalMs && 0 ≤ l.meanMs && 0 ≤ l.p50Ms && 0 ≤ l.p95Ms && 0 ≤ l.maxMs) "Input should be greater than or equal to 0"
  check (isClose (l.meanMs * l.caseCount) l.totalMs) "candidate mean latency must match total and case count"
  check (l.p50Ms ≤ l.p95Ms && l.p95Ms ≤ l.maxMs) "candidate latency percentiles must be monotonic"

/-- `_latency` -/
def latency (predictions : List CandidatePrediction) : Except String CandidateLatencyMetrics := do
  let values := predictions.map fun prediction => prediction.latencyMs
  check (!values.isEmpty) "ZeroDivisionError"
  let latency : CandidateLatencyMetrics :=
    { caseCount := values.length
      totalMs := values.sum
      meanMs := values.sum / values.length
      p50Ms := ← Candidates.percentile values (1 / 2)
      p95Ms := ← Candidates.percentile values (19 / 20)
      maxMs := values.max?.getD 0 }
  latency.validate
  .ok latency

/-! ## Paired outcomes -/

inductive CandidateOutcomeKind
  | unchangedCorrect
  | unchangedIncorrect
  | improvement
  | regression
  | changedIncorrect
  deriving DecidableEq

/-- `_outcome_kind` -/
def outcomeKind (baseline candidate gold : RelationshipLabel) : CandidateOutcomeKind :=
  if baseline = candidate then
    if baseline = gold then .unchangedCorrect else .unchangedIncorrect
  else if baseline ≠ gold ∧ candidate = gold then .improvement
  else if baseline = gold ∧ candidate ≠ gold then .regression
  else .changedIncorrect

structure CandidateCaseOutcome where
  caseId : String
  edgeId : String
  predicate : ClaimPredicate
  sourcePair : String × String
  baselineLabel : RelationshipLabel
  candidateLabel : RelationshipLabel
  goldLabel : RelationshipLabel
  baselineCorrect : Bool
  candidateCorrect : Bool
  outcome : CandidateOutcomeKind
  deriving DecidableEq

/-- `validate_outcome` -/
def CandidateCaseOutcome.validate (o : CandidateCaseOutcome) : Except String Unit := do
  check (matchesCaseId o.caseId) "String should match pattern '^pair-[0-9a-f]\x7b20\x7d$'"
  check (o.baselineCorrect = decide (o.baselineLabel = o.goldLabel)) "baseline correctness must match baseline and gold labels"
  check (o.candidateCorrect = decide (o.candidateLabel = o.goldLabel)) "candidate correctness must match candidate and gold labels"
  check (o.outcome = outcomeKind o.baselineLabel o.candidateLabel o.goldLabel) "candidate outcome category must match paired labels"

structure PairedOutcomeSummary where
  caseCount : ℕ
  unchangedCorrect : ℕ
  unchangedIncorrect : ℕ
  improvements : ℕ
  regressions : ℕ
  changedIncorrect : ℕ
  labelDisagreements : ℕ
  deriving DecidableEq

/-- `validate_counts` -/
def PairedOutcomeSummary.validate (p : PairedOutcomeSummary) : Except String Unit := do
  check (1 ≤ p.caseCount) "Input should be greater than or equal to 1"
  check (p.unchangedCorrect + p.unchangedIncorrect + p.improvements + p.regressions + p.changedIncorrect = p.caseCount)
    "paired outcome counts must cover every case"
  check (p.labelDisagreements ≤ p.caseCount) "label disagreements cannot exceed case count"

/-- `counts[kind]` -/
def kindCount (outcomes : List CandidateCaseOutcome) (kind : CandidateOutcomeKind) : ℕ := outcomes.countP fun o => o.outcome = kind

def pairedSummary (outcomes : List CandidateCaseOutcome) : PairedOutcomeSummary :=
  { caseCount := outcomes.length
    unchangedCorrect := kindCount outcomes .unchangedCorrect
    unchangedIncorrect := kindCount outcomes .unchangedIncorrect
    improvements := kindCount outcomes .improvement
    regressions := kindCount outcomes .regression
    changedIncorrect := kindCount outcomes .changedIncorrect
    labelDisagreements := outcomes.countP fun o => o.baselineLabel ≠ o.candidateLabel }

/-- `_transition_matrix` -/
def transitionMatrix (outcomes : List CandidateCaseOutcome) : List (RelationshipLabel × List (RelationshipLabel × ℕ)) :=
  agreementConfusion relationshipLabels (outcomes.map fun o => (o.baselineLabel, o.candidateLabel))

structure CandidateMeasurements where
  baseline : RelationshipScoreSet
  candidate : RelationshipScoreSet
  outcomes : List CandidateCaseOutcome
  paired : PairedOutcomeSummary
  deriving DecidableEq

/-- One pass of the loop over the case IDs. -/
def caseOutcome (cases : List (String × RelationshipCase)) (baseline candidate : List (String × RelationshipLabel)) (caseId : String) :
    Except String CandidateCaseOutcome :=
  match PyDict.get cases caseId with
  | none => .error "KeyError"
  | some case =>
    match case.goldLabel with
    | none => .error "reviewed pool contains an unlabeled case"
    | some gold =>
      match PyDict.get baseline caseId, PyDict.get candidate caseId with
      | some baselineLabel, some candidateLabel => do
        let outcome : CandidateCaseOutcome :=
          { caseId
            edgeId := case.edgeId
            predicate := case.predicate
            sourcePair := case.sourcePair
            baselineLabel
            candidateLabel
            goldLabel := gold
            baselineCorrect := baselineLabel = gold
            candidateCorrect := candidateLabel = gold
            outcome := outcomeKind baselineLabel candidateLabel gold }
        outcome.validate
        .ok outcome
      | _, _ => .error "KeyError"

/-- `_measure_candidate` -/
def measureCandidate (cases : List RelationshipCase) (predictions : List CandidatePrediction) : Except String CandidateMeasurements := do
  let baselinePredictions := PyDict.ofItems (cases.map fun c => (c.caseId, c.systemPrediction.label))
  let candidatePredictions := PyDict.ofItems (predictions.map fun p => (p.caseId, p.predictedLabel))
  let baseline ← calculateRelationshipScores cases baselinePredictions
  let candidate ← calculateRelationshipScores cases candidatePredictions
  let caseById := PyDict.ofItems (cases.map fun c => (c.caseId, c))
  let outcomes ← ((caseById.map Prod.fst).insertionSort (· ≤ ·)).mapM (caseOutcome caseById baselinePredictions candidatePredictions)
  let paired := pairedSummary outcomes
  paired.validate
  .ok ⟨baseline, candidate, outcomes, paired⟩

/-! ## Tasks and batches -/

structure CandidateTaskPayload where
  sourceCaptureSha256 : String
  benchmarkId : String
  predicates : List ClaimPredicate
  caseCount : ℕ
  cases : List CaseEvidence
  deriving DecidableEq

structure CandidateEvaluationTask extends CandidateTaskPayload where
  taskId : String
  taskSha256 : String
  deriving DecidableEq

structure CandidateBatchPayload (S : Type) where
  taskId : String
  taskSha256 : String
  generatedAt : Datetime
  system : S
  predictions : List CandidatePrediction
  deriving DecidableEq

structure CandidatePredictionBatchData (S : Type) extends CandidateBatchPayload S where
  batchId : String
  batchSha256 : String
  deriving DecidableEq

/-- A review model with the dumps that a task and a batch are hashed as. -/
structure CandidateModel (E S : Type) extends ReviewModel E where
  dumpTask : CandidateTaskPayload → Json
  dumpBatch : CandidateBatchPayload S → Json

/-- `^kind-[0-9a-f]{20}$` -/
def matchesArtifactId (kind id : String) : Bool :=
  (kind ++ "-").toList.isPrefixOf id.toList && (id.toList.drop (kind.length + 1)).length = 20 &&
    (id.toList.drop (kind.length + 1)).all isHex

section
variable {E S : Type} (m : CandidateModel E S)

def checkDigest (digest : String) : Except String Unit := check (matchesSha256 digest) "String should match pattern '^[0-9a-f]\x7b64\x7d$'"

/-- `candidate_task_sha256` -/
def candidateTaskSha256 (task : CandidateTaskPayload) : String := canonicalSha256 m.digest (m.dumpTask task)

/-- The bounds of the fields, then `validate_task`. -/
def CandidateEvaluationTask.validate (t : CandidateEvaluationTask) : Except String Unit := do
  check (matchesArtifactId "candidate-task" t.taskId) "String should match pattern '^candidate-task-[0-9a-f]\x7b20\x7d$'"
  checkDigest t.taskSha256
  checkDigest t.sourceCaptureSha256
  check (matchesSlug ['.', '_', '-'] 2 119 t.benchmarkId) "String should match pattern '^[a-z0-9][a-z0-9._-]\x7b2,119\x7d$'"
  check (1 ≤ t.predicates.length && t.predicates.length ≤ 3) "predicates"
  check (1 ≤ t.caseCount && !t.cases.isEmpty) "cases"
  t.cases.forM (CaseEvidence.validate m.toReviewModel)
  check (t.caseCount = t.cases.length) "candidate task case_count must match cases"
  let caseIds := t.cases.map fun c => c.caseId
  check caseIds.Nodup "candidate task case IDs must be unique"
  check (caseIds = caseIds.insertionSort (· ≤ ·)) "candidate task cases must use canonical case ID order"
  check t.predicates.Nodup "candidate task predicates must be unique"
  check (sameSet (t.cases.map fun c => c.predicate) t.predicates) "candidate task predicates must match its cases"
  check (t.cases.all fun c => sameSet ((t.cases.filter fun other => other.edgeId = c.edgeId).map fun other => other.predicate) t.predicates)
    "every candidate task edge must contain every predicate"
  let expected := candidateTaskSha256 m t.toCandidateTaskPayload
  check (t.taskSha256 = expected) "candidate task_sha256 must match its exact evidence payload"
  check (t.taskId = "candidate-task-" ++ digestPrefix 20 expected) "candidate task_id must match task_sha256"

/-- `_build_candidate_evaluation_task`, behind the check of its caller. -/
def buildCandidateEvaluationTask (pool : RelationshipPool m.toReviewModel) : Except String CandidateEvaluationTask := do
  check pool.adjudication.isSome "candidate evaluation requires a finalized independently adjudicated pool"
  let payload : CandidateTaskPayload :=
    { sourceCaptureSha256 := Relationship.relationshipCaptureSha256 pool
      benchmarkId := pool.benchmarkId
      predicates := pool.predicates
      caseCount := pool.cases.length
      cases := (pool.cases.map RelationshipCase.toCaseEvidence).insertionSort fun a b => a.caseId ≤ b.caseId }
  let digest := candidateTaskSha256 m payload
  let task : CandidateEvaluationTask := ⟨payload, "candidate-task-" ++ digestPrefix 20 digest, digest⟩
  task.validate m
  .ok task

/-- `candidate_prediction_batch_sha256` -/
def candidatePredictionBatchSha256 (batch : CandidateBatchPayload S) : String := canonicalSha256 m.digest (m.dumpBatch batch)

/-- The bounds of the fields, then `validate_batch`. -/
def CandidatePredictionBatchData.validate (b : CandidatePredictionBatchData S) : Except String Unit := do
  check (matchesArtifactId "candidate-batch" b.batchId) "String should match pattern '^candidate-batch-[0-9a-f]\x7b20\x7d$'"
  checkDigest b.batchSha256
  check (matchesArtifactId "candidate-task" b.taskId) "String should match pattern '^candidate-task-[0-9a-f]\x7b20\x7d$'"
  checkDigest b.taskSha256
  check (!b.predictions.isEmpty) "predictions"
  check (b.predictions.all fun p => matchesCaseId p.caseId) "String should match pattern '^pair-[0-9a-f]\x7b20\x7d$'"
  check (b.predictions.all fun p => 0 ≤ p.latencyMs) "Input should be greater than or equal to 0"
  check b.generatedAt.utcoffset.isSome "candidate prediction generated_at must be timezone-aware"
  let caseIds := b.predictions.map fun p => p.caseId
  check caseIds.Nodup "candidate prediction case IDs must be unique"
  check (caseIds = caseIds.insertionSort (· ≤ ·)) "candidate predictions must use canonical case ID order"
  let expected := candidatePredictionBatchSha256 m b.toCandidateBatchPayload
  check (b.batchSha256 = expected) "candidate batch_sha256 must match its exact prediction payload"
  check (b.batchId = "candidate-batch-" ++ digestPrefix 20 expected) "candidate batch_id must match batch_sha256"

structure CandidatePredictionBatch extends CandidatePredictionBatchData S where
  valid : toCandidatePredictionBatchData.validate m = .ok ()

/-! ## The report -/

structure RelationshipCandidateComparisonReport (S : Type) where
  reportId : String
  generatedAt : Datetime
  goldPoolId : String
  goldPoolSha256 : String
  sourceCaptureSha256 : String
  taskId : String
  taskSha256 : String
  predictionBatchId : String
  predictionBatchSha256 : String
  baselineRelationshipRuleVersion : String
  candidateSystem : S
  adjudication : AdjudicationProvenance
  caseCount : ℕ
  overall : RelationshipSliceComparison
  predicates : List (ClaimPredicate × RelationshipSliceComparison)
  sourcePairs : List (String × RelationshipSliceComparison)
  baselineConfusionMatrix : List (RelationshipLabel × List (RelationshipLabel × ℕ))
  candidateConfusionMatrix : List (RelationshipLabel × List (RelationshipLabel × ℕ))
  predictionTransitionMatrix : List (RelationshipLabel × List (RelationshipLabel × ℕ))
  pairedOutcomes : PairedOutcomeSummary
  candidateLatency : CandidateLatencyMetrics
  outcomes : List CandidateCaseOutcome

/-- `sum(sum(row.values()) for row in matrix.values())` -/
def totalCount (matrix : List (RelationshipLabel × List (RelationshipLabel × ℕ))) : ℕ :=
  (matrix.map fun row => (row.2.map Prod.snd).sum).sum

/-- One pass of the loop of `validate_report` over the matrices. -/
def checkLabelMatrix (name : String) (matrix : List (RelationshipLabel × List (RelationshipLabel × ℕ))) (caseCount : ℕ) :
    Except String Unit := do
  check (isComplete relationshipLabels matrix) (name ++ " must contain every relationship label")
  check (totalCount matrix = caseCount) (name ++ " must cover every case")

/-- The hash of the identity of a report. -/
def reportIdentity (goldPoolSha256 predictionBatchSha256 : String) : String :=
  canonicalSha256 m.digest (.obj [("gold_pool_sha256", .str goldPoolSha256), ("prediction_batch_sha256", .str predictionBatchSha256)])

/-- The bounds of the fields, then `validate_report`. -/
def RelationshipCandidateComparisonReport.validate (r : RelationshipCandidateComparisonReport S) : Except String Unit := do
  check (1 ≤ r.reportId.length && r.reportId.length ≤ 240) "report_id"
  checkDigest r.goldPoolSha256
  checkDigest r.sourceCaptureSha256
  check (matchesArtifactId "candidate-task" r.taskId) "String should match pattern '^candidate-task-[0-9a-f]\x7b20\x7d$'"
  checkDigest r.taskSha256
  check (matchesArtifactId "candidate-batch" r.predictionBatchId) "String should match pattern '^candidate-batch-[0-9a-f]\x7b20\x7d$'"
  checkDigest r.predictionBatchSha256
  check (1 ≤ r.caseCount) "Input should be greater than or equal to 1"
  check r.generatedAt.utcoffset.isSome "candidate comparison generated_at must be timezone-aware"
  check (r.overall.baseline.caseCount = r.caseCount) "candidate report case_count must match overall metrics"
  check (r.pairedOutcomes.caseCount = r.caseCount) "candidate report case_count must match paired outcomes"
  check (r.candidateLatency.caseCount = r.caseCount) "candidate report case_count must match latency metrics"
  check (r.outcomes.length = r.caseCount) "candidate report must retain every case outcome"
  check (r.outcomes.map (·.caseId)).Nodup "candidate report outcome IDs must be unique"
  checkLabelMatrix "baseline_confusion_matrix" r.baselineConfusionMatrix r.caseCount
  checkLabelMatrix "candidate_confusion_matrix" r.candidateConfusionMatrix r.caseCount
  checkLabelMatrix "prediction_transition_matrix" r.predictionTransitionMatrix r.caseCount
  check (r.reportId = r.goldPoolId ++ "-candidate-" ++ digestPrefix 12 (reportIdentity m r.goldPoolSha256 r.predictionBatchSha256))
    "candidate report_id must match its gold pool and prediction batch"

variable {m}

/-- `score_relationship_candidate`; the time is the one given, or the current one. -/
def scoreRelationshipCandidate (pool : RelationshipPool m.toReviewModel) (task : CandidateEvaluationTask)
    (batch : CandidatePredictionBatch m) (completedAt : Datetime) : Except String (RelationshipCandidateComparisonReport S) :=
  match pool.adjudication with
  | none => .error "candidate scoring requires a finalized independently adjudicated pool"
  | some adjudication => do
    let expectedTask ← buildCandidateEvaluationTask m pool
    check (task = expectedTask) "candidate task does not match the exact adjudicated pool capture"
    check (batch.taskId = task.taskId && batch.taskSha256 = task.taskSha256) "candidate prediction batch does not match the evaluation task"
    let measurements ← measureCandidate pool.cases batch.predictions
    let goldPoolHash := canonicalSha256 m.digest (m.dumpPool pool.toRelationshipPoolData)
    let report : RelationshipCandidateComparisonReport S :=
      { reportId := pool.poolId ++ "-candidate-" ++ digestPrefix 12 (reportIdentity m goldPoolHash batch.batchSha256)
        generatedAt := completedAt
        goldPoolId := pool.poolId
        goldPoolSha256 := goldPoolHash
        sourceCaptureSha256 := task.sourceCaptureSha256
        taskId := task.taskId
        taskSha256 := task.taskSha256
        predictionBatchId := batch.batchId
        predictionBatchSha256 := batch.batchSha256
        baselineRelationshipRuleVersion := pool.relationshipRuleVersion
        candidateSystem := batch.system
        adjudication
        caseCount := pool.cases.length
        overall := ← comparison measurements.baseline.overall measurements.candidate.overall
        predicates := ← comparisons measurements.baseline.predicates measurements.candidate.predicates
        sourcePairs := ← comparisons measurements.baseline.sourcePairs measurements.candidate.sourcePairs
        baselineConfusionMatrix := measurements.baseline.confusionMatrix
        candidateConfusionMatrix := measurements.candidate.confusionMatrix
        predictionTransitionMatrix := transitionMatrix measurements.outcomes
        pairedOutcomes := measurements.paired
        candidateLatency := ← latency batch.predictions
        outcomes := measurements.outcomes }
    report.validate m
    .ok report

end

end AtlasPulse.CandidateComparison
