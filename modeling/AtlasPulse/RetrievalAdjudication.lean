import AtlasPulse.RetrievalPools

/-!
# Retrieval adjudication

`evaluation/adjudication.py`: two independent reviews of a pool are compared,
and the rows of a sheet decide the candidates on which they differ. The sheet
that is exported for this is not modelled; the import reads one against the
disagreements and the candidates.
-/

namespace AtlasPulse.RetrievalAdjudication

open PyJson PyTime Binary64

def relevanceGrades : List Nat := [0, 1, 2, 3]

def adjudicationColumns : List String :=
  judgmentColumns.take 10 ++
    ["agreement_report_id", "review_a_relevance_0_to_3", "review_a_rationale", "review_b_relevance_0_to_3",
      "review_b_rationale", "adjudicated_relevance_0_to_3", "adjudication_rationale"]

abbrev JudgmentKey := String × String

instance : LawfulBEq JudgmentKey := inferInstance

/-- The order of keys as tuples. -/
def keyLe (a b : JudgmentKey) : Bool := a.1 < b.1 || (a.1 = b.1 && a.2 ≤ b.2)

/-! ## Agreement -/

structure Disagreement where
  queryId : String
  documentId : String
  source : SourceName
  firstRelevance : Nat
  firstRationale : Option String
  secondRelevance : Nat
  secondRationale : Option String
  deriving DecidableEq

def Disagreement.key (d : Disagreement) : JudgmentKey := (d.queryId, d.documentId)

structure AgreementReport where
  reportId : String
  poolId : String
  captureSha256 : String
  generatedAt : Datetime
  firstReview : ReviewIdentity
  secondReview : ReviewIdentity
  overall : AgreementMetrics
  queries : List (String × AgreementMetrics)
  slices : List (String × AgreementMetrics)
  sources : List (SourceName × AgreementMetrics)
  confusionMatrix : List (Nat × List (Nat × Nat))
  disagreements : List Disagreement
  deriving DecidableEq

section
variable (casefold : String → String)

/-- The part of `validate_report` on the confusion matrix. -/
def AgreementReport.checkMatrix (r : AgreementReport) : Except String Unit := do
  let cell := confusionCell r.confusionMatrix
  let count := (relevanceGrades.map fun first => (relevanceGrades.map (cell first)).sum).sum
  check (sameSet (r.confusionMatrix.map Prod.fst) relevanceGrades &&
      r.confusionMatrix.all fun row => sameSet (row.2.map Prod.fst) relevanceGrades)
    "agreement confusion matrix must contain every relevance grade"
  check (count = r.overall.judgmentCount) "agreement confusion matrix must cover every judgment"
  check ((relevanceGrades.map fun grade => cell grade grade).sum = r.overall.agreementCount)
    "agreement confusion-matrix diagonal must match agreement_count"
  let expected ← expectedAgreement relevanceGrades (fun first => (relevanceGrades.map (cell first)).sum)
    (fun second => (relevanceGrades.map fun first => cell first second).sum) count
  check (nearTo expected r.overall.expectedAgreement) "expected agreement must match confusion-matrix marginals"
  check (relevanceGrades.all fun first => relevanceGrades.all fun second => first = second ||
      cell first second = r.disagreements.countP fun d => d.firstRelevance = first && d.secondRelevance = second)
    "disagreements must match confusion-matrix off-diagonal cells"

/-- The field bounds, then `validate_report`. -/
def AgreementReport.validate (r : AgreementReport) : Except String Unit := do
  check (1 ≤ r.reportId.length && r.reportId.length ≤ 240) "String should have at most 240 characters"
  check (matchesSha256 r.captureSha256) "String should match pattern '^[0-9a-f]\x7b64\x7d$'"
  r.firstReview.validate
  r.secondReview.validate
  check r.generatedAt.utcoffset.isSome "generated_at must be timezone-aware"
  check (casefold r.firstReview.reviewer ≠ casefold r.secondReview.reviewer) "agreement requires two different reviewers"
  check (!namedBefore casefold r.secondReview.reviewer r.firstReview.reviewer)
    "agreement reviews must use canonical reviewer order"
  r.checkMatrix
  let keys := r.disagreements.map Disagreement.key
  check (keys = keys.insertionSort (fun a b => keyLe a b) && decide keys.Nodup)
    "agreement disagreements must be unique and canonically ordered"
  check (r.disagreements.length = r.overall.disagreementCount) "agreement report must retain every disagreement"
  check ((r.queries.map (·.2.judgmentCount)).sum = r.overall.judgmentCount)
    "query agreement groups must partition the reviewed judgments"
  check ((r.sources.map (·.2.judgmentCount)).sum = r.overall.judgmentCount)
    "source agreement groups must partition the reviewed judgments"
  check (r.slices.all fun slice => slice.2.judgmentCount ≤ r.overall.judgmentCount)
    "slice agreement count cannot exceed the overall judgment count"

end

def agreementMetrics : List (Nat × Nat) → Except String AgreementMetrics :=
  AtlasPulse.agreementMetrics "cannot measure agreement over an empty group"
    "agreement and disagreement counts must cover every judgment" relevanceGrades

section
variable {F : Type} {m : PoolModel F}

/-! ## Reviews -/

/-- A complete first-pass review, with the fields that it must have. -/
structure FirstPass (m : PoolModel F) where
  pool : CandidatePool m
  reviewer : String
  reviewedAt : Datetime

/-- `retrieval_capture_sha256`. -/
def retrievalCaptureSha256 (pool : CandidatePool m) : String := canonicalSha256 m.sha256 (m.dumpCapture pool.capture)

/-- `_require_first_pass`. -/
def requireFirstPass (pool : CandidatePool m) (label : String) : Except String (FirstPass m) :=
  match pool.judgmentStatus, pool.reviewer, pool.reviewedAt with
  | .reviewed, some reviewer, some reviewedAt => do
    check pool.adjudication.isNone (label ++ " pool must be an independent first-pass review")
    .ok ⟨pool, reviewer, reviewedAt⟩
  | _, _, _ => .error (label ++ " pool must be fully reviewed")

/-- `_canonical_reviews`. -/
def canonicalReviews (first second : CandidatePool m) : Except String ((FirstPass m × FirstPass m) × String) := do
  let one ← requireFirstPass first "first"
  let other ← requireFirstPass second "second"
  check (m.casefold one.reviewer ≠ m.casefold other.reviewer) "independent review requires two different reviewer identities"
  check (retrievalCaptureSha256 first = retrievalCaptureSha256 second)
    "independent reviews must describe the exact same captured pool"
  .ok (canonicalPair m.casefold FirstPass.reviewer one other, retrievalCaptureSha256 first)

/-- A candidate as both reviewers graded it. -/
structure ReviewRow (F : Type) where
  query : EvaluationQuery F
  first : PooledCandidate
  second : PooledCandidate
  firstGrade : Nat
  secondGrade : Nat

def ReviewRow.grades (r : ReviewRow F) : Nat × Nat := (r.firstGrade, r.secondGrade)

section
variable [DecidableEq F]

def candidateRow (query : EvaluationQuery F) (second : List (String × PooledCandidate)) (candidate : PooledCandidate) :
    Except String (ReviewRow F) :=
  match PyDict.get second candidate.documentId with
  | none => .error "KeyError"
  | some other =>
    if candidate.toCandidateEvidence ≠ other.toCandidateEvidence then
      .error "reviewer-visible evidence changed between independent reviews"
    else match candidate.relevance, other.relevance with
      | some firstGrade, some secondGrade => .ok ⟨query, candidate, other, firstGrade, secondGrade⟩
      | _, _ => .error "independent reviews must grade every candidate"

def queryRows (second : List (String × PooledQuery F)) (q : PooledQuery F) : Except String (List (ReviewRow F)) :=
  match PyDict.get second q.query.queryId with
  | none => .error "KeyError"
  | some other => do
    check (q.query = other.query) "reviewer-visible query definitions changed between reviews"
    check (sameSet (other.candidates.map (·.documentId)) (q.candidates.map (·.documentId)))
      "independent reviews must contain identical candidate IDs"
    q.candidates.mapM (candidateRow q.query (PyDict.ofItems (other.candidates.map fun c => (c.documentId, c))))

/-- `_candidate_rows`. -/
def candidateRows (first second : CandidatePool m) : Except String (List (ReviewRow F)) := do
  check (sameSet (second.queries.map (·.query.queryId)) (first.queries.map (·.query.queryId)))
    "independent reviews must contain identical query IDs"
  let rows ← first.queries.mapM (queryRows (PyDict.ofItems (second.queries.map fun q => (q.query.queryId, q))))
  check (!rows.flatten.isEmpty) "cannot compare independent reviews without candidate judgments"
  .ok rows.flatten

def disagreementOf (r : ReviewRow F) : Option Disagreement :=
  if r.firstGrade = r.secondGrade then none
  else some ⟨r.query.queryId, r.first.documentId, r.first.source, r.firstGrade, r.first.rationale, r.secondGrade,
    r.second.rationale⟩

/-- The digest that names the agreement of two reviews. -/
def agreementDigest (capture first second : String) : String :=
  canonicalSha256 m.sha256 (.obj [("contract", .str "independent-retrieval-review-v1"), ("capture_sha256", .str capture),
    ("review_pool_sha256s", .arr [.str first, .str second])])

def FirstPass.identity (r : FirstPass m) : ReviewIdentity := ⟨r.reviewer, r.reviewedAt, r.pool.sha256⟩

def compareIndependentRetrievalReviews (generatedAt : Datetime) (first second : CandidatePool m) :
    Except String AgreementReport := do
  let ((first, second), capture) ← canonicalReviews first second
  let rows ← candidateRows first.pool second.pool
  let grades := rows.map ReviewRow.grades
  let digest := agreementDigest (m := m) capture first.pool.sha256 second.pool.sha256
  let overall ← agreementMetrics grades
  let queries ← sortedGroups (· ≤ ·) agreementMetrics (rows.map fun r => (r.query.queryId, r.grades))
  let slices ← sortedGroups (· ≤ ·) agreementMetrics (rows.flatMap fun r => r.query.slices.map (·, r.grades))
  let sources ← sortedGroups (fun a b => a.text ≤ b.text) agreementMetrics (rows.map fun r => (r.first.source, r.grades))
  let disagreements := rows.filterMap disagreementOf
  let report ← construct (AgreementReport.validate m.casefold)
    { reportId := first.pool.poolId ++ "-agreement-" ++ digestPrefix 12 digest
      poolId := first.pool.poolId
      captureSha256 := capture
      generatedAt
      firstReview := first.identity
      secondReview := second.identity
      overall, queries, slices, sources
      confusionMatrix := agreementConfusion relevanceGrades grades
      disagreements := disagreements.insertionSort fun a b => keyLe a.key b.key }
  .ok report.val

/-! ## Sheets -/

/-- `_review_values`: the reviews as A and B, in an order that the digest of the
judgment decides. -/
def reviewValues (report : AgreementReport) (d : Disagreement) : List (String × String) :=
  let grade (n : Nat) : String := String.ofList (Digits.decimal n)
  let one := (grade d.firstRelevance, d.firstRationale.getD "")
  let other := (grade d.secondRelevance, d.secondRationale.getD "")
  let swapped := oddDigest (m.sha256 (report.reportId ++ ":" ++ d.queryId ++ ":" ++ d.documentId))
  let reviews := if swapped then (other, one) else (one, other)
  [("agreement_report_id", report.reportId), ("review_a_relevance_0_to_3", reviews.1.1),
    ("review_a_rationale", spreadsheetSafeText reviews.1.2), ("review_b_relevance_0_to_3", reviews.2.1),
    ("review_b_rationale", spreadsheetSafeText reviews.2.2)]

/-- `_first_candidate_lookup`. -/
def firstCandidateLookup (pool : CandidatePool m) : List (JudgmentKey × EvaluationQuery F × PooledCandidate) :=
  PyDict.ofItems (pool.queries.flatMap fun q => q.candidates.map fun c => ((q.query.queryId, c.documentId), q.query, c))

def protectedAdjudicationFields (report : AgreementReport) (d : Disagreement) (query : EvaluationQuery F)
    (candidate : PooledCandidate) : List (String × String) :=
  judgmentMetadata query.queryId query.text candidate.toCandidateEvidence ++ reviewValues (m := m) report d

abbrev ParsedDecision := Option Nat × Option String

/-- The grade of a row, which may be blank unless the sheet must be complete. -/
def parseRelevance (complete : Bool) (line : String) (raw : String) : Except String (Option Nat) :=
  if strip raw = "" ∧ !complete then .ok none
  else match parseInt? raw with
    | none => .error ("adjudication row " ++ line ++ " requires an integer relevance grade")
    | some grade =>
      if 0 ≤ grade ∧ grade ≤ 3 then .ok (some grade.toNat)
      else .error ("adjudication row " ++ line ++ " relevance must be within [0, 3]")

def parseRationale (line : String) (relevance : Option Nat) (raw : String) : Except String (Option String) := do
  let text := normalizeText raw
  let rationale := if text = "" then none else some text
  check (relevance.isSome || rationale.isNone) ("adjudication row " ++ line ++ " cannot contain a rationale without a grade")
  check (relevance.isNone || rationale.any (10 ≤ ·.length))
    ("adjudication row " ++ line ++ " requires a rationale of at least 10 characters")
  check (rationale.all (·.length ≤ 1000)) ("adjudication row " ++ line ++ " rationale exceeds 1000 characters")
  .ok rationale

/-- The cells of a row under the columns of the sheet. -/
def cellOf (row : List String) (name : String) : String := (Csv.cell adjudicationColumns row name).getD ""

def rowKey (row : List String) : JudgmentKey := (cellOf row "query_id", cellOf row "document_id")

/-- One turn of the loop over the rows. -/
def readAdjudicationRow (report : AgreementReport) (candidates : List (JudgmentKey × EvaluationQuery F × PooledCandidate))
    (complete : Bool) (lineNumber : Nat) (decisions : List (JudgmentKey × ParsedDecision)) (row : List String) :
    Except String (List (JudgmentKey × ParsedDecision)) := do
  let line := String.ofList (Digits.decimal lineNumber)
  check (row.length = adjudicationColumns.length) ("adjudication row " ++ line ++ " contains unexpected or missing columns")
  let key := rowKey row
  match PyDict.get (PyDict.ofItems (report.disagreements.map fun d => (d.key, d))) key, PyDict.get candidates key with
  | none, _ => .error ("adjudication row " ++ line ++ " is not a known disagreement")
  | some _, none => .error "KeyError"
  | some disagreement, some (query, candidate) => do
    check (key ∉ decisions.map Prod.fst) ("adjudication row " ++ line ++ " duplicates " ++ key.1 ++ " / " ++ key.2)
    let changed := (protectedAdjudicationFields (m := m) report disagreement query candidate).filter fun field =>
      cellOf row field.1 ≠ field.2
    check changed.isEmpty
      ("adjudication row " ++ line ++ " changed protected fields: " ++ ", ".intercalate (changed.map Prod.fst))
    let relevance ← parseRelevance complete line (cellOf row "adjudicated_relevance_0_to_3")
    let rationale ← parseRationale line relevance (cellOf row "adjudication_rationale")
    .ok (decisions ++ [(key, relevance, rationale)])

/-- `_parse_adjudication_rows`; `now` is the clock of the report that its sheet
makes. -/
def parseAdjudicationRows (now : Datetime) (first second : CandidatePool m) (csvText : String) (complete : Bool) :
    Except String (List (List String) × List (JudgmentKey × ParsedDecision)) := do
  let ((first, second), _) ← canonicalReviews first second
  let report ← compareIndependentRetrievalReviews now first.pool second.pool
  let sheet ← Csv.dictReader csvText
  check (sheet.fieldnames = adjudicationColumns)
    ("adjudication columns must exactly equal (" ++ ", ".intercalate (adjudicationColumns.map fun c => "'" ++ c ++ "'") ++ ")")
  let decisions ← Keyed.readRows (readAdjudicationRow (m := m) report (firstCandidateLookup first.pool) complete) 2 [] sheet.rows
  let missing := report.disagreements.filter fun d => d.key ∉ decisions.map Prod.fst
  check missing.isEmpty
    ("adjudication sheet is missing " ++ String.ofList (Digits.decimal missing.length) ++ " disagreement(s)")
  .ok (sheet.rows, decisions)

def validatePartialRetrievalAdjudication (now : Datetime) (first second : CandidatePool m) (csvText : String) :
    Except String (List (List String)) :=
  (parseAdjudicationRows now first second csvText false).map Prod.fst

/-! ## Final pools -/

structure Decision where
  queryId : String
  documentId : String
  source : SourceName
  firstRelevance : Nat
  secondRelevance : Nat
  adjudicatedRelevance : Nat
  rationale : String
  deriving DecidableEq

def Decision.key (d : Decision) : JudgmentKey := (d.queryId, d.documentId)

def Decision.validate (d : Decision) : Except String Unit := do
  check (d.firstRelevance ≤ 3 && d.secondRelevance ≤ 3 && d.adjudicatedRelevance ≤ 3) "Input should be less than or equal to 3"
  check (10 ≤ d.rationale.length && d.rationale.length ≤ 1000) "String should have at most 1000 characters"
  check (d.firstRelevance ≠ d.secondRelevance) "adjudication decisions must originate from a disagreement"

structure AdjudicationReport where
  reportId : String
  agreementReportId : String
  poolId : String
  captureSha256 : String
  generatedAt : Datetime
  firstReview : ReviewIdentity
  secondReview : ReviewIdentity
  adjudicator : String
  judgmentCount : Nat
  inheritedAgreementCount : Nat
  adjudicationDecisionCount : Nat
  finalPoolSha256 : String
  decisions : List Decision
  deriving DecidableEq

/-- The field bounds, then `validate_report`. -/
def AdjudicationReport.validate (casefold : String → String) (r : AdjudicationReport) : Except String Unit := do
  check (1 ≤ r.reportId.length && r.reportId.length ≤ 240) "String should have at most 240 characters"
  check (1 ≤ r.agreementReportId.length && r.agreementReportId.length ≤ 240) "String should have at most 240 characters"
  check (matchesSha256 r.captureSha256 && matchesSha256 r.finalPoolSha256) "String should match pattern '^[0-9a-f]\x7b64\x7d$'"
  r.firstReview.validate
  r.secondReview.validate
  check (1 ≤ r.adjudicator.length && r.adjudicator.length ≤ 200) "String should have at most 200 characters"
  check (normalizeText r.adjudicator ≠ "") "adjudicator must not be blank"
  check (1 ≤ r.judgmentCount) "Input should be greater than or equal to 1"
  check r.generatedAt.utcoffset.isSome "generated_at must be timezone-aware"
  check (casefold r.adjudicator ∉ [casefold r.firstReview.reviewer, casefold r.secondReview.reviewer])
    "adjudicator must be independent from both reviewers"
  check (!namedBefore casefold r.secondReview.reviewer r.firstReview.reviewer)
    "adjudication reviews must use canonical reviewer order"
  check (r.inheritedAgreementCount + r.adjudicationDecisionCount = r.judgmentCount)
    "consensus and adjudication counts must cover every judgment"
  check (r.decisions.length = r.adjudicationDecisionCount) "adjudication report must retain every decision"
  let keys := r.decisions.map Decision.key
  check (keys = keys.insertionSort (fun a b => keyLe a b) && decide keys.Nodup)
    "adjudication decisions must be unique and canonically ordered"

/-- One turn of the loop over the candidates: the candidate with its final
judgment, and the decision if the reviewers differed. -/
def finalizeCandidate (first second : List (JudgmentKey × EvaluationQuery F × PooledCandidate))
    (decisions : List (JudgmentKey × ParsedDecision)) (queryId : String) (candidate : PooledCandidate) :
    Except String (PooledCandidate × Option Decision) :=
  let key := (queryId, candidate.documentId)
  match PyDict.get first key, PyDict.get second key with
  | some (_, one), some (_, other) =>
    if one.relevance = other.relevance then
      .ok ({ candidate with relevance := one.relevance, rationale := some "Independent reviewers agreed." }, none)
    else match PyDict.get decisions key, one.relevance, other.relevance with
      | some (some final, some rationale), some firstGrade, some secondGrade => do
        let decision ← construct Decision.validate
          ⟨queryId, one.documentId, one.source, firstGrade, secondGrade, final, rationale⟩
        .ok ({ candidate with relevance := some final, rationale := some rationale }, some decision.val)
      | none, _, _ => .error "KeyError"
      | _, _, _ => .error "AssertionError: complete adjudication returned a blank decision"
  | _, _ => .error "KeyError"

def finalizeQuery (first second : List (JudgmentKey × EvaluationQuery F × PooledCandidate))
    (decisions : List (JudgmentKey × ParsedDecision)) (q : PooledQuery F) : Except String (PooledQuery F × List Decision) := do
  let finals ← q.candidates.mapM (finalizeCandidate first second decisions q.query.queryId)
  .ok ({ q with candidates := finals.map Prod.fst }, finals.filterMap Prod.snd)

def provenanceOf (agreement : AgreementReport) (adjudicator : String) (finalizedAt : Datetime) (records : List Decision) :
    AdjudicationProvenance where
  independentReviewers := (agreement.firstReview.reviewer, agreement.secondReview.reviewer)
  reviewPoolSha256s := (agreement.firstReview.poolSha256, agreement.secondReview.poolSha256)
  agreementReportId := agreement.reportId
  observedAgreement := agreement.overall.observedAgreement
  cohenKappa := agreement.overall.cohenKappa
  adjudicator
  adjudicatedAt := finalizedAt
  adjudicationDecisionCount := records.length

/-- The data of the first review, with the final judgments and their
provenance. -/
def finalData (first : CandidatePool m) (queries : List (PooledQuery F)) (adjudicator : String) (finalizedAt : Datetime)
    (provenance : AdjudicationProvenance) : CandidatePoolData F :=
  { first.toCandidatePoolData with
    queries
    schemaVersion := .adjudicated
    reviewer := some adjudicator
    reviewedAt := some finalizedAt
    adjudication := some provenance }

def reportOf (agreement : AgreementReport) (finalPool : CandidatePool m) (adjudicator : String) (finalizedAt : Datetime)
    (records : List Decision) : AdjudicationReport where
  reportId := finalPool.poolId ++ "-adjudication-" ++ digestPrefix 12 finalPool.sha256
  agreementReportId := agreement.reportId
  poolId := finalPool.poolId
  captureSha256 := agreement.captureSha256
  generatedAt := finalizedAt
  firstReview := agreement.firstReview
  secondReview := agreement.secondReview
  adjudicator
  judgmentCount := agreement.overall.judgmentCount
  inheritedAgreementCount := agreement.overall.agreementCount
  adjudicationDecisionCount := records.length
  finalPoolSha256 := finalPool.sha256
  decisions := records.insertionSort fun a b => keyLe a.key b.key

def applyRetrievalAdjudication (now : Datetime) (first second : CandidatePool m) (csvText adjudicator : String)
    (adjudicatedAt : Option Datetime) : Except String (CandidatePool m × AdjudicationReport) := do
  let ((first, second), _) ← canonicalReviews first second
  let agreement ← compareIndependentRetrievalReviews now first.pool second.pool
  let normalizedAdjudicator := normalizeText adjudicator
  check (normalizedAdjudicator ≠ "") "adjudicator must not be empty"
  check (m.casefold normalizedAdjudicator ∉
      [m.casefold agreement.firstReview.reviewer, m.casefold agreement.secondReview.reviewer])
    "adjudicator must be independent from both reviewers"
  let (_, decisions) ← parseAdjudicationRows now first.pool second.pool csvText true
  let finals ← first.pool.queries.mapM
    (finalizeQuery (firstCandidateLookup first.pool) (firstCandidateLookup second.pool) decisions)
  let records := finals.flatMap Prod.snd
  let finalizedAt := adjudicatedAt.getD now
  let provenance ← construct (AdjudicationProvenance.validate m.casefold)
    (provenanceOf agreement normalizedAdjudicator finalizedAt records).normalize
  let finalPool ← CandidatePoolData.modelValidate
    (finalData first.pool (finals.map Prod.fst) normalizedAdjudicator finalizedAt provenance.val)
  let report ← construct (AdjudicationReport.validate m.casefold)
    (reportOf agreement finalPool normalizedAdjudicator finalizedAt records)
  .ok (finalPool, report.val)

end

end

end AtlasPulse.RetrievalAdjudication
