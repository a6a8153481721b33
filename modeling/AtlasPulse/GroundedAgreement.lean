import AtlasPulse.ExactAgreement

/-!
# Agreement of grounded-answer reviews

The independent reviews of `grounded_answer_evaluation/base.py` and their
agreement in `grounded_answer_evaluation/adjudication.py`, in exact arithmetic.
The hashes of a review are fields that the comparison does not recompute.
-/

namespace AtlasPulse.GroundedAgreement

open PyTime Kappa ExactAgreement

/-! ## Judgments -/

inductive Dimension
  | supportGrade
  | citationQuality
  | answerRelevance
  | abstentionAppropriate
  deriving DecidableEq

/-- `GROUNDING_REVIEW_DIMENSIONS` -/
def reviewDimensions : List Dimension := [.supportGrade, .citationQuality, .answerRelevance, .abstentionAppropriate]

/-- `_DIMENSION_SCALES` -/
def Dimension.scale : Dimension → List String
  | .supportGrade => ["0", "1", "2", "3"]
  | .citationQuality => ["0", "1", "2"]
  | .answerRelevance => ["0", "1", "2"]
  | .abstentionAppropriate => ["no", "yes"]

structure Judgment where
  caseId : String
  claimId : Option String
  supportGrade : Option ℕ
  citationQuality : Option ℕ
  answerRelevance : Option ℕ
  abstentionAppropriate : Option Bool
  rationale : String
  deriving DecidableEq

def isDigits (count : ℕ) (ok : Char → Bool) (cs : List Char) : Bool := cs.length = count && cs.all ok

/-- `lead` and a number of further characters. -/
def matchesId (lead : String) (count : ℕ) (ok : Char → Bool) (id : String) : Bool :=
  lead.toList.isPrefixOf id.toList && isDigits count ok (id.toList.drop lead.length)

/-- The bounds of the fields, then `validate_judgment`; the rationale is stored
normalized. -/
def Judgment.validate (j : Judgment) : Except String Unit := do
  check (matchesId "answer-case-" 20 isHex j.caseId) "String should match pattern '^answer-case-[0-9a-f]\x7b20\x7d$'"
  check (j.claimId.all (matchesId "claim-" 2 Char.isDigit)) "String should match pattern '^claim-[0-9]\x7b2\x7d$'"
  check (j.supportGrade.all (· ≤ 3)) "Input should be less than or equal to 3"
  check (j.citationQuality.all (· ≤ 2)) "Input should be less than or equal to 2"
  check (j.answerRelevance.all (· ≤ 2)) "Input should be less than or equal to 2"
  check (10 ≤ j.rationale.length && j.rationale.length ≤ 1000) "grounded-answer review rationales require at least ten characters"
  match j.claimId with
  | none =>
    check (j.supportGrade.isNone && j.citationQuality.isNone && j.answerRelevance.isNone && j.abstentionAppropriate.isSome)
      "abstention rows require only abstention_appropriate"
  | some claimId =>
    check (j.supportGrade.isSome && j.citationQuality.isSome) "claim rows require support and citation grades"
    if claimId = "claim-01" then check j.answerRelevance.isSome "the first claim row requires answer relevance"
    else check j.answerRelevance.isNone "only the first claim row may contain answer relevance"
    check j.abstentionAppropriate.isNone "claim rows must not contain abstention appropriateness"

/-- `_judgment_values(judgment).get(dimension)` -/
def Judgment.value (j : Judgment) : Dimension → Option String
  | .supportGrade => j.supportGrade.map toString
  | .citationQuality => j.citationQuality.map toString
  | .answerRelevance => j.answerRelevance.map toString
  | .abstentionAppropriate => j.abstentionAppropriate.map fun value => if value then "yes" else "no"

/-- `(item.case_id, item.claim_id or "")` -/
def Judgment.identity (j : Judgment) : String × String := (j.caseId, j.claimId.getD "")

def identityLe (a b : String × String) : Bool := a.1 < b.1 || (a.1 = b.1 && a.2 ≤ b.2)

/-- `_disputed_fields` -/
def disputedFields (first second : Judgment) : Except String (List Dimension) := do
  check (reviewDimensions.all fun d => (first.value d).isSome = (second.value d).isSome)
    "independent reviews must grade identical rubric fields"
  .ok (reviewDimensions.filter fun d => (first.value d).isSome && first.value d ≠ second.value d)

/-! ## Reviews -/

inductive ReviewStatus
  | firstPassComplete
  | independentAdjudicationComplete
  deriving DecidableEq

/-- What the comparison reads of a `ReviewedGroundedAnswerBatch`. -/
structure ReviewData where
  taskId : String
  taskSha256 : String
  batchId : String
  batchSha256 : String
  rubricVersion : String
  reviewer : String
  judgments : List Judgment
  reviewStatus : ReviewStatus
  adjudicated : Bool
  deriving DecidableEq

/-- `validate_review`, on these fields. -/
def ReviewData.validate (r : ReviewData) : Except String Unit := do
  check (!r.judgments.isEmpty) "Tuple should have at least 1 item after validation"
  r.judgments.forM Judgment.validate
  let identities := r.judgments.map Judgment.identity
  check (decide identities.Nodup && identities = identities.insertionSort (fun a b => identityLe a b))
    "grounded-answer judgments must be unique and canonically ordered"
  check (r.adjudicated = (r.reviewStatus = .independentAdjudicationComplete))
    "unadjudicated grounded-answer reviews must remain first-pass"

/-- A validated review. -/
structure ReviewedBatch extends ReviewData where
  valid : toReviewData.validate = .ok ()

/-- `_require_first_pass` -/
def requireFirstPass (review : ReviewedBatch) (label : String) : Except String Unit :=
  check (review.reviewStatus = .firstPassComplete && !review.adjudicated)
    (label ++ " grounded-answer review must be an independent first pass")

/-- `_canonical_reviews` -/
def canonicalReviews (casefold : String → String) (first second : ReviewedBatch) : Except String (ReviewedBatch × ReviewedBatch) := do
  requireFirstPass first "first"
  requireFirstPass second "second"
  check (casefold first.reviewer ≠ casefold second.reviewer) "independent review requires two different reviewer identities"
  check (first.taskId = second.taskId && first.taskSha256 = second.taskSha256 && first.batchId = second.batchId &&
      first.batchSha256 = second.batchSha256 && first.rubricVersion = second.rubricVersion)
    "independent reviews must cover the exact same task and candidate batch"
  .ok (canonicalPair casefold (fun review : ReviewedBatch => review.reviewer) first second)

/-- `_review_pairs` -/
def reviewPairs (first second : ReviewedBatch) : Except String (List (Judgment × Judgment)) := do
  let secondRows := PyDict.ofItems (second.judgments.map fun item => (item.identity, item))
  check (sameSet (second.judgments.map Judgment.identity) (first.judgments.map Judgment.identity))
    "independent reviews must contain identical judgment rows"
  let rows ← first.judgments.mapM fun item =>
    match PyDict.get secondRows item.identity with
    | some other => .ok (item, other)
    | none => .error "KeyError"
  rows.forM fun row => do
    let _ ← disputedFields row.1 row.2
  .ok rows

/-! ## Agreement -/

structure DimensionAgreement where
  dimension : Dimension
  scale : List String
  ratingCount : ℕ
  agreementCount : ℕ
  disagreementCount : ℕ
  observedAgreement : ℚ
  expectedAgreement : ℚ
  cohenKappa : Option ℚ
  confusionMatrix : List (String × List (String × ℕ))
  deriving DecidableEq

/-- `validate_metrics`, after the bounds of the fields. -/
def DimensionAgreement.validate (a : DimensionAgreement) : Except String Unit := do
  check (2 ≤ a.scale.length) "Tuple should have at least 2 items after validation"
  check (1 ≤ a.ratingCount) "Input should be greater than or equal to 1"
  check (between 0 a.observedAgreement) "Input should be less than or equal to 1"
  check (between 0 a.expectedAgreement) "Input should be less than or equal to 1"
  check (a.cohenKappa.all (between (-1))) "Input should be greater than or equal to -1"
  check (a.scale = a.dimension.scale) "agreement scale must match the rubric dimension"
  check (a.agreementCount + a.disagreementCount = a.ratingCount) "agreement and disagreement counts must cover every rating"
  check (isComplete a.scale a.confusionMatrix) "confusion matrix must contain the complete dimension scale"
  let total := matrixCount a.scale a.confusionMatrix
  let agreed := diagonalSum a.scale a.confusionMatrix
  check (total = a.ratingCount && agreed = a.agreementCount) "confusion matrix counts must match agreement metrics"
  let observed : ℚ := agreed / total
  check (near a.observedAgreement observed) "observed agreement must match the confusion matrix"
  let expected := marginalAgreement a.scale a.confusionMatrix
  check (near a.expectedAgreement expected) "expected agreement must match confusion-matrix marginals"
  checkKappa "Cohen kappa must be undefined when expected agreement is one"
    "Cohen kappa must match observed and expected agreement" a.cohenKappa (kappa observed expected)

/-- `_dimension_agreement` -/
def dimensionAgreement (dimension : Dimension) (values : List (String × String)) : Except String DimensionAgreement := do
  check (!values.isEmpty) "cannot measure agreement over an empty dimension"
  let agreement : DimensionAgreement :=
    { dimension
      scale := dimension.scale
      ratingCount := values.length
      agreementCount := agreements values
      disagreementCount := values.length - agreements values
      observedAgreement := observed values
      expectedAgreement := expected dimension.scale values
      cohenKappa := kappa (observed values) (expected dimension.scale values)
      confusionMatrix := agreementConfusion dimension.scale values }
  agreement.validate
  .ok agreement

structure JudgmentAgreement where
  judgmentCount : ℕ
  completeAgreementCount : ℕ
  disagreementCount : ℕ
  disputedFieldCount : ℕ
  exactJudgmentAgreement : ℚ
  deriving DecidableEq

/-- `validate_summary`, after the bounds of the fields. -/
def JudgmentAgreement.validate (a : JudgmentAgreement) : Except String Unit := do
  check (1 ≤ a.judgmentCount) "Input should be greater than or equal to 1"
  check (between 0 a.exactJudgmentAgreement) "Input should be less than or equal to 1"
  check (a.completeAgreementCount + a.disagreementCount = a.judgmentCount) "judgment agreement counts must cover every judgment"
  check (decide (a.disagreementCount = 0) = decide (a.disputedFieldCount = 0)) "disagreement rows and fields must be zero together"
  check (a.disagreementCount ≤ a.disputedFieldCount) "every disagreement row must contain a disputed field"
  check (near a.exactJudgmentAgreement (a.completeAgreementCount / a.judgmentCount)) "exact judgment agreement must match the row counts"

structure ReviewDisagreement where
  caseId : String
  claimId : Option String
  disputedFields : List Dimension
  firstJudgment : Judgment
  secondJudgment : Judgment
  deriving DecidableEq

/-- `validate_disagreement`, after the bounds of the fields. -/
def ReviewDisagreement.validate (d : ReviewDisagreement) : Except String Unit := do
  check (matchesId "answer-case-" 20 isHex d.caseId) "String should match pattern '^answer-case-[0-9a-f]\x7b20\x7d$'"
  check (d.claimId.all (matchesId "claim-" 2 Char.isDigit)) "String should match pattern '^claim-[0-9]\x7b2\x7d$'"
  check (!d.disputedFields.isEmpty) "Tuple should have at least 1 item after validation"
  check (d.firstJudgment.caseId = d.caseId && d.firstJudgment.claimId = d.claimId && d.secondJudgment.caseId = d.caseId &&
      d.secondJudgment.claimId = d.claimId) "disagreement judgments must match the row identity"
  let expected ← GroundedAgreement.disputedFields d.firstJudgment d.secondJudgment
  check (d.disputedFields = expected) "disputed fields must exactly match the two reviews"

/-- `(item.case_id, item.claim_id or "")` -/
def ReviewDisagreement.identity (d : ReviewDisagreement) : String × String := (d.caseId, d.claimId.getD "")

structure AgreementReport where
  reviewers : String × String
  judgments : JudgmentAgreement
  dimensions : List (Dimension × DimensionAgreement)
  disagreements : List ReviewDisagreement
  deriving DecidableEq

/-- `validate_report`, on the agreement. -/
def AgreementReport.validate (casefold : String → String) (r : AgreementReport) : Except String Unit := do
  checkReviewers casefold r.reviewers
  check (!r.dimensions.isEmpty) "Dictionary should have at least 1 item after validation"
  check (r.dimensions.all fun item => item.2.dimension = item.1) "dimension agreement keys must match their payloads"
  let ids := r.disagreements.map ReviewDisagreement.identity
  check (ids = ids.insertionSort (fun a b => identityLe a b) && decide ids.Nodup)
    "agreement disagreements must be unique and canonically ordered"
  check (r.disagreements.length = r.judgments.disagreementCount) "agreement report must retain every disputed judgment"
  let disputed := (r.disagreements.map (·.disputedFields.length)).sum
  check (disputed = r.judgments.disputedFieldCount && disputed = (r.dimensions.map (·.2.disagreementCount)).sum)
    "agreement report must retain every disputed rubric field"

/-- The pairs of values that are appended for a dimension, in the order of the rows. -/
def dimensionValues (rows : List (Judgment × Judgment)) (dimension : Dimension) : List (String × String) :=
  rows.filterMap fun row =>
    match row.1.value dimension, row.2.value dimension with
    | some first, some second => some (first, second)
    | _, _ => none

/-- The disagreement of a row, if any of its fields is disputed. -/
def disagreementOf (row : Judgment × Judgment) : Except String (Option ReviewDisagreement) := do
  let disputed ← disputedFields row.1 row.2
  if disputed = [] then .ok none
  else do
    let disagreement : ReviewDisagreement := ⟨row.1.caseId, row.1.claimId, disputed, row.1, row.2⟩
    disagreement.validate
    .ok (some disagreement)

/-- `compare_grounded_answer_reviews` -/
def compareGroundedAnswerReviews (casefold : String → String) (first second : ReviewedBatch) : Except String AgreementReport := do
  let (first, second) ← canonicalReviews casefold first second
  let rows ← reviewPairs first second
  let disagreements := (← rows.mapM disagreementOf).reduceOption
  let judgments : JudgmentAgreement :=
    { judgmentCount := rows.length
      completeAgreementCount := rows.length - disagreements.length
      disagreementCount := disagreements.length
      disputedFieldCount := (disagreements.map (·.disputedFields.length)).sum
      exactJudgmentAgreement := ((rows.length - disagreements.length : ℕ) : ℚ) / rows.length }
  judgments.validate
  let dimensions ← (reviewDimensions.filter fun d => dimensionValues rows d ≠ []).mapM fun d =>
    (dimensionAgreement d (dimensionValues rows d)).map (d, ·)
  let report : AgreementReport :=
    { reviewers := (first.reviewer, second.reviewer)
      judgments, dimensions
      disagreements := disagreements.insertionSort fun a b => identityLe a.identity b.identity }
  report.validate casefold
  .ok report

end AtlasPulse.GroundedAgreement
