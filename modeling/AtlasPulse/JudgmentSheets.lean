import AtlasPulse.RetrievalAdjudication

/-!
# Judgment sheets

`evaluation/judgments.py`: the rank-blind sheet of a pool, which reuses the
judgments of a reviewed pool for identical evidence, and its import.
-/

namespace AtlasPulse.JudgmentSheets

open PyJson PyTime Binary64 RetrievalAdjudication

abbrev ParsedGrade := Option Nat × Option String

/-- The cells of a row under the columns of the sheet. -/
def judgmentCell (row : List String) (name : String) : String := (Csv.cell judgmentColumns row name).getD ""

def judgmentKey (row : List String) : JudgmentKey := (judgmentCell row "query_id", judgmentCell row "document_id")

/-- `render_judgment_rows` -/
def renderJudgmentRows (rows : List (List String)) : String := Csv.write (judgmentColumns :: rows)

section
variable {F : Type} {m : PoolModel F}

/-! ## Export -/

structure JudgmentSheet where
  content : String
  reusedCount : Nat
  pendingCount : Nat

/-- `first == second` of dicts by query id. -/
def sameQueries [DecidableEq F] (first second : List (String × EvaluationQuery F)) : Bool :=
  first.length = second.length && first.all fun item => PyDict.get second item.1 = some item.2

def queriesById (pool : CandidatePool m) : List (String × EvaluationQuery F) :=
  PyDict.ofItems (pool.queries.map fun q => (q.query.queryId, q.query))

def checkSeed [DecidableEq F] (pool seed : CandidatePool m) : Except String Unit := do
  check (seed.judgmentStatus = .reviewed) "a judgment seed pool must be fully reviewed"
  check (seed.querySetId = pool.querySetId && seed.querySetSha256 = pool.querySetSha256)
    "judgment reuse requires the same query-set ID and SHA-256"
  check (sameQueries (queriesById pool) (queriesById seed)) "judgment reuse requires identical captured query definitions"

/-- The candidates of a seed by query and document. -/
def reusable [DecidableEq F] (pool : CandidatePool m) : Option (CandidatePool m) → Except String (List (JudgmentKey × PooledCandidate))
  | none => .ok []
  | some seed => do
    checkSeed pool seed
    .ok (PyDict.ofItems (seed.queries.flatMap fun q => q.candidates.map fun c => ((q.query.queryId, c.documentId), c)))

/-- The earlier candidate with identical evidence. -/
def prior (reusable : List (JudgmentKey × PooledCandidate)) (queryId : String) (candidate : PooledCandidate) : Option PooledCandidate :=
  (PyDict.get reusable (queryId, candidate.documentId)).filter fun prior =>
    prior.toCandidateEvidence = candidate.toCandidateEvidence

def gradeText (grade : Nat) : String := String.ofList (Digits.decimal grade)

def judgmentRow (query : EvaluationQuery F) (candidate : CandidateEvidence) (relevance : Option Nat) (rationale : Option String) :
    List String :=
  (judgmentMetadata query.queryId query.text candidate).map Prod.snd ++
    [(relevance.map gradeText).getD "", spreadsheetSafeText (rationale.getD "")]

def sheetRow (reusable : List (JudgmentKey × PooledCandidate)) (query : EvaluationQuery F) (candidate : PooledCandidate) : List String :=
  let judged := (prior reusable query.queryId candidate).getD candidate
  judgmentRow query candidate.toCandidateEvidence judged.relevance judged.rationale

/-- The candidates of a pool with their queries. -/
def pooled (pool : CandidatePool m) : List (EvaluationQuery F × PooledCandidate) :=
  pool.queries.flatMap fun q => q.candidates.map fun c => (q.query, c)

def buildJudgmentSheet [DecidableEq F] (pool : CandidatePool m) (seedPool : Option (CandidatePool m)) : Except String JudgmentSheet := do
  let reusable ← reusable pool seedPool
  .ok
    { content := renderJudgmentRows ((pooled pool).map fun item => sheetRow reusable item.1 item.2)
      reusedCount := (pooled pool).countP fun item => (prior reusable item.1.queryId item.2).isSome
      pendingCount := (pooled pool).countP fun item =>
        (prior reusable item.1.queryId item.2).isNone && item.2.relevance.isNone }

def exportJudgments [DecidableEq F] (pool : CandidatePool m) : Except String String :=
  (buildJudgmentSheet pool none).map JudgmentSheet.content

/-! ## Import -/

/-- The grade of a row, which may be blank unless the sheet must be complete. -/
def parseGrade (complete : Bool) (line raw : String) : Except String (Option Nat) :=
  if strip raw = "" ∧ !complete then .ok none
  else match parseInt? raw with
    | none => .error ("judgment row " ++ line ++ " requires an integer relevance grade")
    | some grade =>
      if 0 ≤ grade ∧ grade ≤ 3 then .ok (some grade.toNat)
      else .error ("judgment row " ++ line ++ " relevance must be within [0, 3]")

/-- `" ".join(raw.split()) or None` -/
def rationaleOf (raw : String) : Option String := if normalizeText raw = "" then none else some (normalizeText raw)

def expectedCandidates (pool : CandidatePool m) : List (JudgmentKey × String × PooledCandidate) :=
  PyDict.ofItems ((pooled pool).map fun item => ((item.1.queryId, item.2.documentId), item.1.text, item.2))

/-- One turn of the loop over the rows. -/
def readJudgmentRow (expected : List (JudgmentKey × String × PooledCandidate)) (complete : Bool) (lineNumber : Nat)
    (grades : List (JudgmentKey × ParsedGrade)) (row : List String) : Except String (List (JudgmentKey × ParsedGrade)) := do
  let line := String.ofList (Digits.decimal lineNumber)
  check (row.length = judgmentColumns.length) ("judgment row " ++ line ++ " contains unexpected or missing columns")
  let key := judgmentKey row
  match PyDict.get expected key with
  | none => .error ("judgment row " ++ line ++ " references an unknown candidate")
  | some (queryText, candidate) => do
    check (key ∉ grades.map Prod.fst) ("judgment row " ++ line ++ " duplicates " ++ key.1 ++ " / " ++ key.2)
    let changed := (judgmentMetadata key.1 queryText candidate.toCandidateEvidence).filter fun field =>
      judgmentCell row field.1 ≠ field.2
    check changed.isEmpty ("judgment row " ++ line ++ " changed protected fields: " ++ ", ".intercalate (changed.map Prod.fst))
    let relevance ← parseGrade complete line (judgmentCell row "relevance_0_to_3")
    let rationale := rationaleOf (judgmentCell row "rationale")
    check (rationale.all (·.length ≤ 1000)) ("judgment row " ++ line ++ " rationale exceeds 1000 characters")
    .ok (grades ++ [(key, relevance, rationale)])

/-- `_parse_judgment_rows` -/
def parseJudgmentRows (pool : CandidatePool m) (csvText : String) (complete : Bool) :
    Except String (List (List String) × List (JudgmentKey × ParsedGrade)) := do
  let sheet ← Csv.dictReader csvText
  check (sheet.fieldnames = judgmentColumns)
    ("judgment sheet columns must exactly equal (" ++ ", ".intercalate (judgmentColumns.map fun c => "'" ++ c ++ "'") ++ ")")
  let grades ← Keyed.readRows (readJudgmentRow (expectedCandidates pool) complete) 2 [] sheet.rows
  let missing := ((expectedCandidates pool).map Prod.fst).filter fun key => key ∉ grades.map Prod.fst
  check missing.isEmpty ("judgment sheet is missing " ++ String.ofList (Digits.decimal missing.length) ++ " candidate(s)")
  .ok (sheet.rows, grades)

def validatePartialJudgments (pool : CandidatePool m) (csvText : String) : Except String (List (List String)) := do
  check (pool.judgmentStatus = .unjudged) "only an unjudged pool can accept a partial judgment sheet"
  (parseJudgmentRows pool csvText false).map Prod.fst

def judgeCandidate (grades : List (JudgmentKey × ParsedGrade)) (queryId : String) (candidate : PooledCandidate) :
    Except String PooledCandidate :=
  match PyDict.get grades (queryId, candidate.documentId) with
  | none => .error "KeyError"
  | some (none, _) => .error "complete judgment parsing returned a blank relevance grade"
  | some (some relevance, rationale) => .ok { candidate with relevance := some relevance, rationale }

def judgeQuery (grades : List (JudgmentKey × ParsedGrade)) (q : PooledQuery F) : Except String (PooledQuery F) := do
  let candidates ← q.candidates.mapM (judgeCandidate grades q.query.queryId)
  .ok { q with candidates }

/-- `apply_judgments`; `now` is the clock of a review without a time. -/
def applyJudgments (now : Datetime) (pool : CandidatePool m) (csvText reviewer : String) (reviewedAt : Option Datetime) :
    Except String (CandidatePool m) := do
  check (pool.judgmentStatus = .unjudged) "only an unjudged pool can accept a judgment sheet"
  let normalizedReviewer := normalizeText reviewer
  check (normalizedReviewer ≠ "") "reviewer must not be empty"
  let (_, grades) ← parseJudgmentRows pool csvText true
  let queries ← pool.queries.mapM (judgeQuery grades)
  CandidatePoolData.modelValidate
    { pool.toCandidatePoolData with
      queries
      judgmentStatus := .reviewed
      reviewer := some normalizedReviewer
      reviewedAt := some (reviewedAt.getD now) }

end

end AtlasPulse.JudgmentSheets
