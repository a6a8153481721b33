import AtlasPulse.ProtectedSheets
import AtlasPulse.RelationshipPools

/-!
# Relationship judgment sheets

`relationship_evaluation/judgments.py`: the prediction-blind sheet of a pool,
which reuses the labels of a reviewed pool for identical evidence, and how it
is imported.
-/

namespace AtlasPulse.RelationshipSheets

open PyJson PyTime Binary64

def relationshipLabels : List RelationshipLabel := [.corroborates, .contradicts, .insufficientEvidence]

def relationshipJudgmentColumns : List String :=
  ["case_id", "predicate", "source_pair", "edge_id", "distance_km", "time_delta_minutes", "left_geometry_basis",
    "right_geometry_basis", "left_node_id", "left_source", "left_event_id", "left_event_type", "left_occurred_at",
    "left_document_hash", "left_document_text", "right_node_id", "right_source", "right_event_id", "right_event_type",
    "right_occurred_at", "right_document_hash", "right_document_text", "gold_label", "rationale"]

/-- The label that a text is, without the spaces around it. -/
def labelOf? (text : String) : Option RelationshipLabel := relationshipLabels.find? fun label => label.text = strip text

/-- `requires one of {sorted(allowed)}` -/
def requiresLabel : Rejection := .valueError " requires one of ['contradicts', 'corroborates', 'insufficient_evidence']"

def readLabel (cell : Option String) : Except Rejection RelationshipLabel := do
  let text ← textOf cell
  match labelOf? text with
  | some label => .ok label
  | none => .error requiresLabel

section
variable {E : Type} (m : ReviewModel E)

/-- The protected cells of one endpoint, in `relationship_review_metadata`. -/
def endpointMetadata (side : String) (e : EventEvidence Datetime) : List (String × String) :=
  [(side ++ "_node_id", spreadsheetSafeText e.nodeId), (side ++ "_source", e.source),
    (side ++ "_event_id", spreadsheetSafeText e.eventId), (side ++ "_event_type", spreadsheetSafeText e.eventType),
    (side ++ "_occurred_at", e.occurredAt.isoformat), (side ++ "_document_hash", e.documentHash),
    (side ++ "_document_text", spreadsheetSafeText e.documentText)]

def relationshipReviewMetadata (c : CaseEvidence) : List (String × String) :=
  [("case_id", c.caseId), ("predicate", c.predicate.text), ("source_pair", c.pairKey),
    ("edge_id", spreadsheetSafeText c.edgeId), ("distance_km", m.formatSignificant c.distanceKm),
    ("time_delta_minutes", m.formatSignificant c.timeDeltaMinutes), ("left_geometry_basis", c.leftGeometryBasis.text),
    ("right_geometry_basis", c.rightGeometryBasis.text)] ++ endpointMetadata "left" c.left ++ endpointMetadata "right" c.right

variable {m}

/-! ## Export -/

structure RelationshipJudgmentSheet where
  content : String
  reusedCount : Nat
  pendingCount : Nat

/-- The rubric has one version. -/
def checkSeed (pool seed : RelationshipPool m) : Except String Unit := do
  check (seed.judgmentStatus = .reviewed) "a relationship judgment seed must be fully reviewed"
  check (seed.benchmarkId = pool.benchmarkId && seed.benchmarkSha256 = pool.benchmarkSha256 && seed.predicates = pool.predicates)
    "relationship judgment reuse requires the same benchmark and rubric"

/-- The cases of a seed by id. -/
def reusable (pool : RelationshipPool m) : Option (RelationshipPool m) → Except String (List (String × RelationshipCase))
  | none => .ok []
  | some seed => do
    checkSeed pool seed
    .ok (PyDict.ofItems (seed.cases.map fun c => (c.caseId, c)))

/-- The earlier case with identical evidence. -/
def prior (reusable : List (String × RelationshipCase)) (c : RelationshipCase) : Option RelationshipCase :=
  (PyDict.get reusable c.caseId).filter fun prior => prior.toCaseEvidence = c.toCaseEvidence

def judgmentRow (m : ReviewModel E) (c : CaseEvidence) (label : Option RelationshipLabel) (rationale : Option String) : List String :=
  (relationshipReviewMetadata m c).map Prod.snd ++
    [(label.map RelationshipLabel.text).getD "", spreadsheetSafeText (rationale.getD "")]

def sheetRow (m : ReviewModel E) (reusable : List (String × RelationshipCase)) (c : RelationshipCase) : List String :=
  let judged := (prior reusable c).getD c
  judgmentRow m c.toCaseEvidence judged.goldLabel judged.rationale

def buildRelationshipJudgmentSheet (pool : RelationshipPool m) (seedPool : Option (RelationshipPool m)) :
    Except String RelationshipJudgmentSheet := do
  let reusable ← reusable pool seedPool
  .ok
    { content := Csv.write (relationshipJudgmentColumns :: pool.cases.map (sheetRow m reusable))
      reusedCount := pool.cases.countP fun c => (prior reusable c).isSome
      pendingCount := pool.cases.countP fun c => (prior reusable c).isNone && c.goldLabel.isNone }

/-! ## Import -/

abbrev ParsedLabel := RelationshipLabel × Option String

/-- The label and the rationale of a row. -/
def readJudgment (cells : String → Option String) : Except Rejection ParsedLabel := do
  let label ← readLabel (cells "gold_label")
  let text ← textOf (cells "rationale")
  let rationale := if normalizeText text = "" then none else some (normalizeText text)
  require (rationale.all (·.length ≤ 1000)) " rationale exceeds 1000 characters"
  .ok (label, rationale)

def expectedCases (pool : RelationshipPool m) : List (String × RelationshipCase) := PyDict.ofItems (pool.cases.map fun c => (c.caseId, c))

def judgmentFormat (pool : RelationshipPool m) : SheetFormat ParsedLabel where
  columns := relationshipJudgmentColumns
  rowName := "relationship judgment row "
  unknown := " has an unknown case"
  protectedOf caseId := (PyDict.get (expectedCases pool) caseId).map fun c => relationshipReviewMetadata m c.toCaseEvidence
  edited := readJudgment

def judgeCase (judgments : List (String × ParsedLabel)) (c : RelationshipCase) : Except Rejection RelationshipCase :=
  match PyDict.get judgments c.caseId with
  | none => .error .keyError
  | some (label, rationale) => .ok { c with goldLabel := some label, rationale }

/-- `apply_relationship_judgments`; `now` is the clock of a review without a time. -/
def applyRelationshipJudgments (now : Datetime) (pool : RelationshipPool m) (csvText reviewer : String) (reviewedAt : Option Datetime) :
    Except Rejection (RelationshipPool m) := do
  require (pool.judgmentStatus = .unjudged) "only an unjudged relationship pool can accept a review sheet"
  let normalizedReviewer := normalizeText reviewer
  require (normalizedReviewer ≠ "") "reviewer must not be empty"
  let judgments ← (judgmentFormat pool).readSheet "relationship judgment" csvText
  let missing := ((expectedCases pool).map Prod.fst).filter fun id => id ∉ judgments.map Prod.fst
  require missing.isEmpty ("relationship judgment sheet is missing " ++ String.ofList (Digits.decimal missing.length) ++ " case(s)")
  let cases ← pool.cases.mapM (judgeCase judgments)
  raising (RelationshipPoolData.modelValidate
    { pool.toRelationshipPoolData with
      cases
      judgmentStatus := .reviewed
      reviewer := some normalizedReviewer
      reviewedAt := some (reviewedAt.getD now) })

end

end AtlasPulse.RelationshipSheets
