import AtlasPulse.Lib.Kappa
import AtlasPulse.RelationshipSheets
import AtlasPulse.RetrievalAdjudication

/-!
# Agreement of reviews in exact arithmetic

The metrics and the agreement reports of `evaluation/adjudication.py` and
`relationship_evaluation/adjudication.py` over rational numbers. Of a report
the model has what the reviews are measured in: its counts, rates, groups,
matrices, disagreements and the names of the reviewers.
-/

namespace AtlasPulse.ExactAgreement

open PyTime Kappa

/-! ## Metrics -/

structure AgreementMetrics where
  judgmentCount : ℕ
  agreementCount : ℕ
  disagreementCount : ℕ
  observedAgreement : ℚ
  expectedAgreement : ℚ
  cohenKappa : Option ℚ
  deriving DecidableEq

/-- `not abs(value - expected) > 1e-12` -/
def near (value expected : ℚ) : Bool := |value - expected| ≤ 1 / 10 ^ 12

/-- `Field(ge=low, le=1)` -/
def between (low : ℚ) (value : ℚ) : Bool := low ≤ value && value ≤ 1

/-- The check of `cohen_kappa`, with its two messages. -/
def checkKappa (undefined mismatch : String) (cohenKappa expected : Option ℚ) : Except String Unit :=
  match expected with
  | none => check cohenKappa.isNone undefined
  | some value => check (cohenKappa.any (near · value)) mismatch

/-- `validate_counts_and_rates`; the message of the counts differs. -/
def AgreementMetrics.validate (uncovered : String) (m : AgreementMetrics) : Except String Unit := do
  check (1 ≤ m.judgmentCount) "Input should be greater than or equal to 1"
  check (between 0 m.observedAgreement) "Input should be less than or equal to 1"
  check (between 0 m.expectedAgreement) "Input should be less than or equal to 1"
  check (m.cohenKappa.all (between (-1))) "Input should be greater than or equal to -1"
  check (m.agreementCount + m.disagreementCount = m.judgmentCount) uncovered
  check (near m.observedAgreement (m.agreementCount / m.judgmentCount)) "observed_agreement must match the agreement count"
  checkKappa "cohen_kappa must be undefined when expected agreement is one"
    "cohen_kappa must match observed and expected agreement" m.cohenKappa (kappa m.observedAgreement m.expectedAgreement)

section
variable {L : Type} [DecidableEq L]

/-- `_agreement_metrics` of the pairs of grades or labels on a scale. -/
def agreementMetrics (empty uncovered : String) (scale : List L) (pairs : List (L × L)) : Except String AgreementMetrics := do
  check (!pairs.isEmpty) empty
  let metrics : AgreementMetrics :=
    { judgmentCount := pairs.length
      agreementCount := agreements pairs
      disagreementCount := pairs.length - agreements pairs
      observedAgreement := observed pairs
      expectedAgreement := expected scale pairs
      cohenKappa := kappa (observed pairs) (expected scale pairs) }
  metrics.validate uncovered
  .ok metrics

/-! ## Matrices -/

/-- `{label: sum(matrix[label].values()) for label in scale}` -/
def rowSum (scale : List L) (matrix : List (L × List (L × ℕ))) (first : L) : ℕ := (scale.map (confusionCell matrix first)).sum

def columnSum (scale : List L) (matrix : List (L × List (L × ℕ))) (second : L) : ℕ :=
  (scale.map fun first => confusionCell matrix first second).sum

def matrixCount (scale : List L) (matrix : List (L × List (L × ℕ))) : ℕ := (scale.map (rowSum scale matrix)).sum

def diagonalSum (scale : List L) (matrix : List (L × List (L × ℕ))) : ℕ := (scale.map fun label => confusionCell matrix label label).sum

def isComplete (scale : List L) (matrix : List (L × List (L × ℕ))) : Bool :=
  sameSet (matrix.map Prod.fst) scale && matrix.all fun row => sameSet (row.2.map Prod.fst) scale

/-- The expected agreement of the margins of a matrix. -/
def marginalAgreement (scale : List L) (matrix : List (L × List (L × ℕ))) : ℚ :=
  (scale.map fun label => (rowSum scale matrix label / matrixCount scale matrix : ℚ) *
    (columnSum scale matrix label / matrixCount scale matrix)).sum

/-- The checks of a report on its confusion matrix; three messages differ. -/
def checkMatrix (incomplete uncovered diagonal : String) (scale : List L) (matrix : List (L × List (L × ℕ)))
    (overall : AgreementMetrics) : Except String Unit := do
  check (isComplete scale matrix) incomplete
  check (matrixCount scale matrix = overall.judgmentCount) uncovered
  check (diagonalSum scale matrix = overall.agreementCount) diagonal
  check (near (marginalAgreement scale matrix) overall.expectedAgreement) "expected agreement must match confusion-matrix marginals"

/-- The off-diagonal cells count the disagreements. -/
def checkOffDiagonal (scale : List L) (matrix : List (L × List (L × ℕ))) (disagreements : List (L × L)) : Except String Unit :=
  check (scale.all fun first => scale.all fun second => first = second ||
      confusionCell matrix first second = disagreements.countP fun pair => pair.1 = first && pair.2 = second)
    "disagreements must match confusion-matrix off-diagonal cells"

end

/-- The checks of a report on the names of the two reviewers. -/
def checkReviewers (casefold : String → String) (reviewers : String × String) : Except String Unit := do
  check (casefold reviewers.1 ≠ casefold reviewers.2) "agreement requires two different reviewers"
  check (!namedBefore casefold reviewers.2 reviewers.1) "agreement reviews must use canonical reviewer order"

/-- The counts of a dict of metrics, added up. -/
def groupCount {K : Type} (groups : List (K × AgreementMetrics)) : ℕ := (groups.map (·.2.judgmentCount)).sum

/-! ## Retrieval reviews -/

namespace Retrieval

open RetrievalAdjudication

/-- The bounds of the fields, then `validate_disagreement`. -/
def validateDisagreement (d : Disagreement) : Except String Unit := do
  check (d.firstRelevance ≤ 3 && d.secondRelevance ≤ 3) "Input should be less than or equal to 3"
  check (d.firstRationale.all (·.length ≤ 1000) && d.secondRationale.all (·.length ≤ 1000)) "String should have at most 1000 characters"
  check (d.firstRelevance ≠ d.secondRelevance) "a disagreement must contain different relevance grades"

structure AgreementReport where
  reviewers : String × String
  overall : AgreementMetrics
  queries : List (String × AgreementMetrics)
  slices : List (String × AgreementMetrics)
  sources : List (SourceName × AgreementMetrics)
  confusionMatrix : List (ℕ × List (ℕ × ℕ))
  disagreements : List Disagreement
  deriving DecidableEq

/-- `validate_report`, on the agreement. -/
def AgreementReport.validate (casefold : String → String) (r : AgreementReport) : Except String Unit := do
  checkReviewers casefold r.reviewers
  checkMatrix "agreement confusion matrix must contain every relevance grade" "agreement confusion matrix must cover every judgment"
    "agreement confusion-matrix diagonal must match agreement_count" relevanceGrades r.confusionMatrix r.overall
  let keys := r.disagreements.map Disagreement.key
  check (keys = keys.insertionSort (fun a b => keyLe a b) && decide keys.Nodup)
    "agreement disagreements must be unique and canonically ordered"
  check (r.disagreements.length = r.overall.disagreementCount) "agreement report must retain every disagreement"
  checkOffDiagonal relevanceGrades r.confusionMatrix (r.disagreements.map fun d => (d.firstRelevance, d.secondRelevance))
  check (groupCount r.queries = r.overall.judgmentCount) "query agreement groups must partition the reviewed judgments"
  check (groupCount r.sources = r.overall.judgmentCount) "source agreement groups must partition the reviewed judgments"
  check (r.slices.all fun slice => slice.2.judgmentCount ≤ r.overall.judgmentCount)
    "slice agreement count cannot exceed the overall judgment count"

def agreementMetrics : List (ℕ × ℕ) → Except String AgreementMetrics :=
  ExactAgreement.agreementMetrics "cannot measure agreement over an empty group"
    "agreement and disagreement counts must cover every judgment" relevanceGrades

variable {F : Type} {m : PoolModel F} [DecidableEq F]

def compareIndependentRetrievalReviews (first second : CandidatePool m) : Except String AgreementReport := do
  let ((first, second), _) ← canonicalReviews first second
  let rows ← candidateRows first.pool second.pool
  let grades := rows.map ReviewRow.grades
  let disagreements := rows.filterMap disagreementOf
  disagreements.forM validateDisagreement
  let report : AgreementReport :=
    { reviewers := (first.reviewer, second.reviewer)
      overall := ← agreementMetrics grades
      queries := ← sortedGroups (· ≤ ·) agreementMetrics (rows.map fun r => (r.query.queryId, r.grades))
      slices := ← sortedGroups (· ≤ ·) agreementMetrics (rows.flatMap fun r => r.query.slices.map (·, r.grades))
      sources := ← sortedGroups (fun a b => a.text ≤ b.text) agreementMetrics (rows.map fun r => (r.first.source, r.grades))
      confusionMatrix := agreementConfusion relevanceGrades grades
      disagreements := disagreements.insertionSort fun a b => keyLe a.key b.key }
  report.validate m.casefold
  .ok report

end Retrieval

/-! ## Relationship reviews -/

namespace Relationship

open RelationshipSheets

variable {E : Type} {m : ReviewModel E}

/-- A case as both reviewers labelled it. -/
structure ReviewedCase where
  left : RelationshipCase
  right : RelationshipCase
  leftLabel : RelationshipLabel
  rightLabel : RelationshipLabel

def ReviewedCase.labels (r : ReviewedCase) : RelationshipLabel × RelationshipLabel := (r.leftLabel, r.rightLabel)

structure ReviewDisagreement where
  caseId : String
  edgeId : String
  predicate : ClaimPredicate
  sourcePair : String × String
  firstLabel : RelationshipLabel
  firstRationale : Option String
  secondLabel : RelationshipLabel
  secondRationale : Option String
  deriving DecidableEq

/-- The bounds of the fields, then `validate_disagreement`. -/
def ReviewDisagreement.validate (d : ReviewDisagreement) : Except String Unit := do
  check (matchesCaseId d.caseId) "String should match pattern '^pair-[0-9a-f]\x7b20\x7d$'"
  check (d.firstRationale.all (·.length ≤ 1000)) "String should have at most 1000 characters"
  check (d.secondRationale.all (·.length ≤ 1000)) "String should have at most 1000 characters"
  check (d.firstLabel ≠ d.secondLabel) "a disagreement must contain different reviewer labels"

structure AgreementReport where
  reviewers : String × String
  overall : AgreementMetrics
  predicates : List (ClaimPredicate × AgreementMetrics)
  sourcePairs : List (String × AgreementMetrics)
  confusionMatrix : List (RelationshipLabel × List (RelationshipLabel × ℕ))
  disagreements : List ReviewDisagreement
  deriving DecidableEq

/-- `validate_report`, on the agreement. -/
def AgreementReport.validate (casefold : String → String) (r : AgreementReport) : Except String Unit := do
  checkReviewers casefold r.reviewers
  checkMatrix "agreement confusion matrix must contain every label" "agreement confusion matrix must cover every case"
    "agreement confusion matrix diagonal must match agreement_count" relationshipLabels r.confusionMatrix r.overall
  check (r.disagreements.map (·.caseId)).Nodup "agreement disagreement case IDs must be unique"
  check (r.disagreements.length = r.overall.disagreementCount) "agreement report must retain every disagreement"
  checkOffDiagonal relationshipLabels r.confusionMatrix (r.disagreements.map fun d => (d.firstLabel, d.secondLabel))
  check (groupCount r.predicates = r.overall.judgmentCount) "predicate agreement slices must partition the reviewed cases"
  check (groupCount r.sourcePairs = r.overall.judgmentCount) "source-pair agreement slices must partition the reviewed cases"

def agreementMetrics : List (RelationshipLabel × RelationshipLabel) → Except String AgreementMetrics :=
  ExactAgreement.agreementMetrics "cannot measure agreement over an empty slice"
    "agreement and disagreement counts must sum to case_count" relationshipLabels

/-- `_require_single_review`, with the name of the reviewer. -/
def requireSingleReview (pool : RelationshipPool m) (label : String) : Except String String :=
  match pool.judgmentStatus, pool.reviewer, pool.reviewedAt with
  | .reviewed, some reviewer, some _ => do
    check pool.adjudication.isNone (label ++ " pool must be an independent first-pass review")
    .ok reviewer
  | _, _, _ => .error (label ++ " pool must be fully reviewed")

/-- `relationship_capture_sha256` -/
def relationshipCaptureSha256 (pool : RelationshipPool m) : String := canonicalSha256 m.digest (m.dumpCapture pool.capture)

/-- `_canonical_reviews` -/
def canonicalReviews (first second : RelationshipPool m) : Except String (RelationshipPool m × RelationshipPool m) := do
  let one ← requireSingleReview first "first"
  let other ← requireSingleReview second "second"
  check (m.casefold one ≠ m.casefold other) "independent review requires two different reviewer identities"
  check (relationshipCaptureSha256 first = relationshipCaptureSha256 second)
    "independent reviews must describe the exact same captured pool"
  .ok (canonicalPair m.casefold (fun pool : RelationshipPool m => pool.reviewer.getD "") first second)

/-- `_review_rows` -/
def reviewRows (first second : RelationshipPool m) : Except String (List ReviewedCase) := do
  let secondCases := PyDict.ofItems (second.cases.map fun case => (case.caseId, case))
  check (sameSet (second.cases.map (·.caseId)) (first.cases.map (·.caseId))) "independent reviews must contain identical case IDs"
  let rows ← first.cases.mapM fun case =>
    match PyDict.get secondCases case.caseId with
    | some other => .ok (case, other)
    | none => .error "KeyError"
  check (rows.all fun row => row.1.toCaseEvidence = row.2.toCaseEvidence)
    "reviewer-visible evidence changed between independent reviews"
  rows.mapM fun row =>
    match row.1.goldLabel, row.2.goldLabel with
    | some leftLabel, some rightLabel => .ok ⟨row.1, row.2, leftLabel, rightLabel⟩
    | _, _ => .error "independent reviews must label every case"

def disagreementOf (r : ReviewedCase) : Option ReviewDisagreement :=
  if r.leftLabel = r.rightLabel then none
  else some ⟨r.left.caseId, r.left.edgeId, r.left.predicate, r.left.sourcePair, r.leftLabel, r.left.rationale, r.rightLabel,
    r.right.rationale⟩

def compareIndependentReviews (first second : RelationshipPool m) : Except String AgreementReport := do
  let (first, second) ← canonicalReviews first second
  let rows ← reviewRows first second
  let labels := rows.map ReviewedCase.labels
  let disagreements := rows.filterMap disagreementOf
  disagreements.forM ReviewDisagreement.validate
  let report : AgreementReport :=
    { reviewers := (first.reviewer.getD "", second.reviewer.getD "")
      overall := ← agreementMetrics labels
      predicates := ← sortedGroups (fun a b => a.text ≤ b.text) agreementMetrics (rows.map fun r => (r.left.predicate, r.labels))
      sourcePairs := ← sortedGroups (· ≤ ·) agreementMetrics (rows.map fun r => (r.left.pairKey, r.labels))
      confusionMatrix := agreementConfusion relationshipLabels labels
      disagreements := disagreements.insertionSort fun a b => a.caseId ≤ b.caseId }
  report.validate m.casefold
  .ok report

end Relationship

end AtlasPulse.ExactAgreement
