import AtlasPulse.RetrievalPools
import AtlasPulse.Lib.Dict

/-!
# Retrieval metrics

`metrics_at_k` of `evaluation/metrics.py` over an ordered field, with the
logarithm of the discount as a parameter, and the bounds of `CutoffMetrics` of
`evaluation/base.py`.
-/

namespace AtlasPulse.RetrievalMetrics

variable {K : Type} [Field K] [LinearOrder K]

/-! ## Values -/

/-- The fields of `CutoffMetrics`. -/
structure CutoffValues (K : Type) where
  precision : K
  pooledRecall : K
  reciprocalRank : K
  ndcg : K
  hitRate : K
  judgedRate : K
  citationTraceability : K
  deriving DecidableEq

def CutoffValues.fields (v : CutoffValues K) : List (String × K) :=
  [("precision", v.precision), ("pooled_recall", v.pooledRecall), ("reciprocal_rank", v.reciprocalRank), ("ndcg", v.ndcg),
    ("hit_rate", v.hitRate), ("judged_rate", v.judgedRate), ("citation_traceability", v.citationTraceability)]

/-- A value from 0 to 1. -/
def IsRate (x : K) : Prop := 0 ≤ x ∧ x ≤ 1

instance (x : K) : Decidable (IsRate x) := inferInstanceAs (Decidable (_ ∧ _))

structure CutoffMetrics (K : Type) [Field K] [LinearOrder K] extends CutoffValues K where
  bounded : ∀ field ∈ toCutoffValues.fields, IsRate field.2

/-- `CutoffMetrics(...)`, with the error of the first field out of bounds. -/
def CutoffValues.validate (v : CutoffValues K) : Except String (CutoffMetrics K) :=
  if bounded : ∀ field ∈ v.fields, IsRate field.2 then .ok { v with bounded }
  else
    match v.fields.find? fun field => ¬ IsRate field.2 with
    | some (name, value) =>
      if value < 0 then .error (name ++ ": Input should be greater than or equal to 0")
      else .error (name ++ ": Input should be less than or equal to 1")
    | none => .error "CutoffMetrics"

theorem validate_eq {v : CutoffValues K} (h : ∀ field ∈ v.fields, IsRate field.2) : v.validate = .ok { v with bounded := h } :=
  dif_pos h

/-! ## Scores -/

/-- The gain `2**grade - 1` of a grade. -/
def gain (grade : ℕ) : K := 2 ^ grade - 1

/-- `_dcg`. The discount of a rank is `log2(rank + 1)`. -/
def dcg (log2 : ℕ → K) (grades : List ℕ) : K :=
  ((grades.zipIdx 1).map fun (grade, rank) => gain grade / log2 (rank + 1)).sum

/-- The grade of a retrieved document, which is 0 without a judgment. -/
def gradeOf (candidates : List (String × PooledCandidate)) (documentId : String) : ℕ :=
  match PyDict.get candidates documentId with
  | some candidate => candidate.relevance.getD 0
  | none => 0

/-- The grades of the pool, `sorted` with `reverse=True`. -/
def idealGrades (candidates : List (String × PooledCandidate)) : List ℕ :=
  (candidates.map fun item => item.2.relevance.getD 0).insertionSort (· ≥ ·)

/-- What `metrics_at_k` measures at a positive cutoff. -/
def valuesAtK (log2 : ℕ → K) (documentIds : List String) (candidates : List (String × PooledCandidate)) (cutoff : ℕ) :
    CutoffValues K :=
  let retrieved := documentIds.take cutoff
  let grades := retrieved.map (gradeOf candidates)
  let relevantTotal := candidates.countP fun item => item.2.relevance.any (0 < ·)
  let relevantRetrieved := grades.countP (0 < ·)
  let firstRelevant : Option ℕ := (grades.findIdx? (0 < ·)).map (· + 1)
  let idealDcg := dcg log2 ((idealGrades candidates).take cutoff)
  let judged := retrieved.map (PyDict.get candidates)
  let traceable := judged.countP fun candidate => candidate.any (·.citationStatus = .traceable)
  { precision := relevantRetrieved / cutoff
    pooledRecall := if relevantTotal ≠ 0 then relevantRetrieved / relevantTotal else 0
    reciprocalRank := match firstRelevant with
      | some rank => 1 / rank
      | none => 0
    ndcg := if idealDcg ≠ 0 then dcg log2 grades / idealDcg else 0
    hitRate := if firstRelevant.isSome then 1 else 0
    judgedRate := (judged.countP fun candidate => candidate.any (·.relevance.isSome)) / cutoff
    citationTraceability := traceable / cutoff }

/-- `metrics_at_k`. -/
def metricsAtK (log2 : ℕ → K) (documentIds : List String) (candidates : List (String × PooledCandidate)) (cutoff : ℕ) :
    Except String (CutoffMetrics K) :=
  if cutoff = 0 then .error "division by zero" else (valuesAtK log2 documentIds candidates cutoff).validate

end AtlasPulse.RetrievalMetrics
