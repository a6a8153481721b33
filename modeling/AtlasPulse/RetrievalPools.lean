import AtlasPulse.ReviewAgreement

/-!
# Retrieval pools

The pooled candidates of `evaluation/base.py` with the captured runs and the
human judgments, and the judgment columns of `evaluation/judgments.py`. The
filters of a query, the dumps of pydantic and SHA-256 are parameters.
-/

namespace AtlasPulse

open PyJson PyTime Binary64

/-! ## Captures -/

/-- A query as its model validates it, with normalized text and slices. Pools
carry it unchanged. -/
structure EvaluationQuery (F : Type) where
  queryId : String
  text : String
  slices : List String
  filters : F
  deriving DecidableEq

/-- `evidence_identity()`: a candidate without its judgment. -/
structure CandidateEvidence where
  documentId : String
  source : SourceName
  eventId : String
  title : String
  occurredAt : Datetime
  documentText : String
  documentHash : String
  citationStatus : CitationStatus
  citationUrl : Option String
  deriving DecidableEq

structure PooledCandidate extends CandidateEvidence where
  relevance : Option Nat
  rationale : Option String
  deriving DecidableEq

structure CapturedRun where
  mode : RankingMode
  rankingRule : String
  embeddingModel : String
  latencyMs : Float64
  documentIds : List String
  deriving DecidableEq

structure PooledQuery (F : Type) where
  query : EvaluationQuery F
  candidates : List PooledCandidate
  runs : List CapturedRun
  deriving DecidableEq

inductive PoolSchemaVersion
  | firstPass
  | adjudicated
  deriving DecidableEq

inductive JudgmentStatus
  | unjudged
  | reviewed
  deriving DecidableEq

/-- What is captured of a pool, its queries apart. -/
structure PoolHeader where
  poolId : String
  querySetId : String
  querySetSha256 : String
  capturedAt : Datetime
  endpoint : String
  deriving DecidableEq

structure CandidatePoolData (F : Type) extends PoolHeader where
  schemaVersion : PoolSchemaVersion
  judgmentStatus : JudgmentStatus
  reviewer : Option String
  reviewedAt : Option Datetime
  adjudication : Option AdjudicationProvenance
  queries : List (PooledQuery F)
  deriving DecidableEq

/-- A query of a pool without its judgments. -/
structure CapturedQuery (F : Type) where
  query : EvaluationQuery F
  candidates : List CandidateEvidence
  runs : List CapturedRun

structure PoolCapture (F : Type) extends PoolHeader where
  queries : List (CapturedQuery F)

def PooledQuery.capture {F : Type} (q : PooledQuery F) : CapturedQuery F :=
  ⟨q.query, q.candidates.map (·.toCandidateEvidence), q.runs⟩

def CandidatePoolData.capture {F : Type} (p : CandidatePoolData F) : PoolCapture F :=
  ⟨p.toPoolHeader, p.queries.map PooledQuery.capture⟩

/-! ## Validation -/

/-- The functions outside the models: SHA-256 of encoded text, `str.casefold`
and the dumps of a pool with and without its judgments. -/
structure PoolModel (F : Type) where
  sha256 : String → HexDigest
  casefold : String → String
  dumpPool : CandidatePoolData F → Json
  dumpCapture : PoolCapture F → Json

section
variable {F : Type} (m : PoolModel F)

/-- `^[a-z0-9_-]+:.+$` -/
def matchesDocumentId (id : String) : Bool :=
  let (source, rest) := id.toList.span fun c => c.isDigit || c.isLower || c = '_' || c = '-'
  source ≠ [] && match rest with
    | ':' :: event => event ≠ [] && !event.contains '\n'
    | _ => false

def CandidateEvidence.validate (c : CandidateEvidence) : Except String Unit := do
  check (matchesDocumentId c.documentId) "String should match pattern '^[a-z0-9_-]+:.+$'"
  check (c.eventId ≠ "") "String should have at least 1 character"
  check (1 ≤ c.title.length && c.title.length ≤ 1000) "String should have at most 1000 characters"
  check (1 ≤ c.documentText.length && c.documentText.length ≤ 8000) "String should have at most 8000 characters"
  check (matchesSha256 c.documentHash) "String should match pattern '^[0-9a-f]\x7b64\x7d$'"
  check (c.documentId = c.source.text ++ ":" ++ c.eventId) "document_id must equal source:event_id"
  check (c.documentHash = (m.sha256 c.documentText).val) "document_hash must match document_text"
  check (!(c.citationStatus = .traceable && c.citationUrl.isNone)) "traceable candidates require citation_url"
  check (!(c.citationStatus ≠ .traceable && c.citationUrl.isSome)) "untraceable candidates must not expose citation_url"

def PooledCandidate.validate (c : PooledCandidate) : Except String Unit := do
  check (c.relevance.all (· ≤ 3)) "Input should be less than or equal to 3"
  check (c.rationale.all fun text => text.length ≤ 1000) "String should have at most 1000 characters"
  c.toCandidateEvidence.validate m

def CapturedRun.validate (r : CapturedRun) : Except String Unit := do
  check (r.rankingRule ≠ "" && r.embeddingModel ≠ "") "String should have at least 1 character"
  check ((Float64.ofInt 0).le r.latencyMs && r.latencyMs.isFinite) "Input should be greater than or equal to 0"
  check (r.documentIds.length ≤ 50) "Tuple should have at most 50 items after validation"
  check r.documentIds.Nodup "a captured run must not contain duplicate document IDs"

/-- `validate_pool`, after the fields. -/
def PooledQuery.validate (q : PooledQuery F) : Except String Unit := do
  q.candidates.forM (PooledCandidate.validate m)
  q.runs.forM CapturedRun.validate
  check (!q.runs.isEmpty) "Tuple should have at least 1 item after validation"
  check (q.candidates.map (·.documentId)).Nodup "pooled candidates must be unique"
  check (q.runs.map (·.mode)).Nodup "a pooled query must contain at most one run per mode"
  check (q.runs.all fun run => run.documentIds.all (· ∈ q.candidates.map (·.documentId)))
    "runs reference documents outside the pool"

namespace CandidatePoolData

def normalize (p : CandidatePoolData F) : CandidatePoolData F :=
  { p with
    reviewer := p.reviewer.map normalizeText
    adjudication := p.adjudication.map AdjudicationProvenance.normalize }

theorem normalize_idem (p : CandidatePoolData F) : p.normalize.normalize = p.normalize := by
  have hreviewer : (p.reviewer.map normalizeText).map normalizeText = p.reviewer.map normalizeText := by
    rw [Option.map_map]
    exact Option.map_congr fun reviewer _ => normalizeText_idem reviewer
  have hadjudication : (p.adjudication.map AdjudicationProvenance.normalize).map AdjudicationProvenance.normalize =
      p.adjudication.map AdjudicationProvenance.normalize := by
    rw [Option.map_map]
    exact Option.map_congr fun adjudication _ => adjudication.normalize_idem
  simp only [normalize, hreviewer, hadjudication]

def runs (p : CandidatePoolData F) : List CapturedRun := p.queries.flatMap (·.runs)

def candidates (p : CandidatePoolData F) : List PooledCandidate := p.queries.flatMap (·.candidates)

/-- The part of `validate_review_state` on the captured runs. -/
def checkRuns (p : CandidatePoolData F) : Except String Unit := do
  check (p.queries.map (·.query.queryId)).Nodup "pooled query IDs must be unique"
  let modes (q : PooledQuery F) := q.runs.map (·.mode)
  check (p.queries.all fun q => p.queries.head?.all fun first => sameSet (modes q) (modes first))
    "every pooled query must contain the same retrieval modes"
  check ((p.runs.map (·.embeddingModel)).dedup.length = 1) "a candidate pool must contain exactly one embedding model"
  check (p.runs.all fun run => p.runs.all fun other => run.mode ≠ other.mode || run.rankingRule = other.rankingRule)
    "a ranking mode must use one rule throughout a candidate pool"

/-- The part of `validate_review_state` on the judgments. -/
def checkReview (p : CandidatePoolData F) : Except String Unit := do
  match p.judgmentStatus with
  | .reviewed => do
    check (p.reviewer.any (· ≠ "") && p.reviewedAt.isSome) "reviewed pools require reviewer and reviewed_at"
    check (p.candidates.all (·.relevance.isSome)) "reviewed pools require a relevance grade for every candidate"
  | .unjudged => do
    check (p.reviewer.isNone && p.reviewedAt.isNone) "unjudged pools must not claim reviewer metadata"
    check (p.candidates.all fun c => c.relevance.isNone && c.rationale.isNone) "unjudged pools must not contain partial judgments"

def checkAdjudication (p : CandidatePoolData F) : Except String Unit :=
  match p.adjudication with
  | some adjudication => do
    adjudication.validate m.casefold
    check (p.schemaVersion = .adjudicated) "adjudicated pools require candidate-pool schema 1.1.0"
    check (p.judgmentStatus = .reviewed) "only reviewed pools may contain adjudication provenance"
    check (p.reviewer = some adjudication.adjudicator) "pool reviewer must equal the adjudication finalizer"
    check (p.reviewedAt.any (sameTime · adjudication.adjudicatedAt)) "pool reviewed_at must equal adjudicated_at"
  | none => check (p.schemaVersion = .firstPass) "candidate-pool schema 1.1.0 requires adjudication provenance"

/-- The validators of a pool, on normalized values. -/
def validate (p : CandidatePoolData F) : Except String Unit := do
  check (matchesSlug ['.', '_', '-'] 2 119 p.poolId) "String should match pattern '^[a-z0-9][a-z0-9._-]\x7b2,119\x7d$'"
  check (matchesSlug ['.', '-'] 2 79 p.querySetId) "String should match pattern '^[a-z0-9][a-z0-9.-]\x7b2,79\x7d$'"
  check (matchesSha256 p.querySetSha256) "String should match pattern '^[0-9a-f]\x7b64\x7d$'"
  check (1 ≤ p.endpoint.length && p.endpoint.length ≤ 2000) "String should have at most 2000 characters"
  check (p.reviewer.all (·.length ≤ 200)) "String should have at most 200 characters"
  check (p.reviewer.all (· ≠ "")) "reviewer must not be blank"
  check (!p.queries.isEmpty) "Tuple should have at least 1 item after validation"
  p.queries.forM (PooledQuery.validate m)
  p.checkRuns
  p.checkReview
  p.checkAdjudication m

end CandidatePoolData

/-- A validated pool, which holds normalized values. -/
structure CandidatePool extends CandidatePoolData F where
  normalized : toCandidatePoolData.normalize = toCandidatePoolData
  valid : toCandidatePoolData.validate m = .ok ()

variable {m}

/-- `CandidatePool.model_validate(data)`. -/
def CandidatePoolData.modelValidate (data : CandidatePoolData F) : Except String (CandidatePool m) :=
  match valid : data.normalize.validate m with
  | .ok () => .ok ⟨data.normalize, data.normalize_idem, valid⟩
  | .error e => .error e

theorem CandidatePoolData.modelValidate_ok {data : CandidatePoolData F} {pool : CandidatePool m} (h : data.modelValidate = .ok pool) :
    pool.toCandidatePoolData = data.normalize := by
  unfold modelValidate at h
  split at h
  · rw [← Except.ok.inj h]
  · cases h

theorem CandidatePoolData.modelValidate_of_valid {data : CandidatePoolData F} (h : data.normalize.validate m = .ok ()) :
    ∃ pool : CandidatePool m, data.modelValidate = .ok pool := by
  unfold modelValidate
  split
  · exact ⟨_, rfl⟩
  · rename_i e he
    rw [h] at he
    cases he

theorem PooledQuery.validate_ok {q : PooledQuery F} : q.validate m = .ok () ↔
    (∀ c ∈ q.candidates, c.validate m = .ok ()) ∧ (∀ r ∈ q.runs, r.validate = .ok ()) ∧ q.runs.isEmpty = false ∧
      (q.candidates.map (·.documentId)).Nodup ∧ (q.runs.map (·.mode)).Nodup ∧
      q.runs.all (fun run => run.documentIds.all (· ∈ q.candidates.map (·.documentId))) = true := by
  unfold validate
  simp only [bind_ok, exists_unit, check_eq_ok, listForM_ok, Bool.not_eq_true', decide_eq_true_eq]

/-- A query whose candidates are judged anew stays valid. -/
theorem PooledQuery.validate_rejudged {q q' : PooledQuery F} (h : q.validate m = .ok ()) (hcapture : q'.capture = q.capture)
    (hjudged : ∀ c ∈ q'.candidates, c.relevance.all (· ≤ 3) = true ∧ c.rationale.all (fun text => text.length ≤ 1000) = true) :
    q'.validate m = .ok () := by
  obtain ⟨hcandidates, hruns, hsome, hids, hmodes, hrefs⟩ := validate_ok.mp h
  have hevidence : q'.candidates.map (·.toCandidateEvidence) = q.candidates.map (·.toCandidateEvidence) :=
    congrArg CapturedQuery.candidates hcapture
  have hsame : q'.runs = q.runs := congrArg CapturedQuery.runs hcapture
  have hsameIds : q'.candidates.map (·.documentId) = q.candidates.map (·.documentId) := by
    have hmap := congrArg (List.map CandidateEvidence.documentId) hevidence
    rwa [List.map_map, List.map_map] at hmap
  rw [validate_ok, hsame, hsameIds]
  refine ⟨fun c hc => ?_, hruns, hsome, hids, hmodes, hrefs⟩
  have hmem : c.toCandidateEvidence ∈ q.candidates.map (·.toCandidateEvidence) := hevidence ▸ List.mem_map_of_mem hc
  obtain ⟨c', hc', heq⟩ := List.mem_map.mp hmem
  have hvalid := hcandidates c' hc'
  unfold PooledCandidate.validate at hvalid ⊢
  simp only [bind_ok, exists_unit, check_eq_ok] at hvalid ⊢
  rw [heq] at hvalid
  exact ⟨(hjudged c hc).1, (hjudged c hc).2, hvalid.2.2⟩

namespace CandidatePoolData

theorem checkRuns_congr {p p' : CandidatePoolData F} (h : p'.queries.map PooledQuery.capture = p.queries.map PooledQuery.capture) :
    p'.checkRuns = p.checkRuns := by
  have hids (p : CandidatePoolData F) :
      p.queries.map (·.query.queryId) = (p.queries.map PooledQuery.capture).map (·.query.queryId) := by
    rw [List.map_map]
    rfl
  have hruns (p : CandidatePoolData F) : p.runs = (p.queries.map PooledQuery.capture).flatMap (·.runs) := by
    rw [List.flatMap_map]
    rfl
  have hmodes (p : CandidatePoolData F) :
      (p.queries.all fun q => p.queries.head?.all fun first => sameSet (q.runs.map (·.mode)) (first.runs.map (·.mode))) =
        (p.queries.map PooledQuery.capture).all fun q => (p.queries.map PooledQuery.capture).head?.all fun first =>
          sameSet (q.runs.map (·.mode)) (first.runs.map (·.mode)) := by
    rw [List.all_map, List.head?_map]
    simp only [Option.all_map]
    rfl
  unfold checkRuns
  dsimp only
  rw [hids p, hids p', hruns p, hruns p', hmodes p, hmodes p', h]

/-- What holds of a pool that passes its validators. -/
theorem validate_ok {p : CandidatePoolData F} (h : p.validate m = .ok ()) :
    (∀ q ∈ p.queries, q.validate m = .ok ()) ∧ (p.queries.map (·.query.queryId)).Nodup ∧
      matchesSlug ['.', '_', '-'] 2 119 p.poolId = true ∧ p.reviewer.all (fun name => name.length ≤ 200) = true ∧ 
      p.reviewer.all (· ≠ "") = true ∧ p.checkReview = .ok () := by
  unfold validate at h
  simp only [bind_ok, exists_unit, check_eq_ok, listForM_ok] at h
  obtain ⟨hslug, -, -, -, hshort, hnamed, -, hqueries, hruns, hreview, -⟩ := h
  unfold checkRuns at hruns
  simp only [bind_ok, exists_unit, check_eq_ok, decide_eq_true_eq] at hruns
  exact ⟨hqueries, hruns.1, hslug, hshort, hnamed, hreview⟩

/-- The queries of a pool judged anew, under a new reviewer. -/
theorem validate_rejudged {p p' : CandidatePoolData F} (h : p.validate m = .ok ()) (hheader : p'.toPoolHeader = p.toPoolHeader)
    (hcapture : p'.queries.map PooledQuery.capture = p.queries.map PooledQuery.capture)
    (hreviewer : p'.reviewer.all (fun name => name.length ≤ 200) = true ∧ p'.reviewer.all (· ≠ "") = true)
    (hjudged : ∀ c ∈ p'.candidates, c.relevance.all (· ≤ 3) = true ∧ c.rationale.all (fun text => text.length ≤ 1000) = true)
    (hreview : p'.checkReview = .ok ()) (hadjudication : p'.checkAdjudication m = .ok ()) : p'.validate m = .ok () := by
  unfold validate at h ⊢
  simp only [bind_ok, exists_unit, check_eq_ok, listForM_ok] at h ⊢
  obtain ⟨hslug, hset, hhash, hendpoint, -, -, hsome, hqueries, hruns, -, -⟩ := h
  have hlength : p'.queries.length = p.queries.length := by
    have hmap := congrArg List.length hcapture
    rwa [List.length_map, List.length_map] at hmap
  rw [hheader, checkRuns_congr hcapture]
  refine ⟨hslug, hset, hhash, hendpoint, hreviewer.1, hreviewer.2, ?_, fun q' hq' => ?_, hruns, hreview, hadjudication⟩
  · rw [Bool.not_eq_true', ← Bool.not_eq_true, List.isEmpty_iff_length_eq_zero] at hsome ⊢
    rwa [hlength]
  · have hmem : q'.capture ∈ p.queries.map PooledQuery.capture := hcapture ▸ List.mem_map_of_mem hq'
    obtain ⟨q, hq, heq⟩ := List.mem_map.mp hmem
    exact PooledQuery.validate_rejudged (hqueries q hq) heq.symm fun c hc => hjudged c (List.mem_flatMap.mpr ⟨q', hq', hc⟩)

end CandidatePoolData

/-- `canonical_sha256(pool)`. -/
def CandidatePool.sha256 (p : CandidatePool m) : String := canonicalSha256 m.sha256 (m.dumpPool p.toCandidatePoolData)

end

/-! ## Judgment columns -/

def judgmentColumns : List String :=
  ["query_id", "query_text", "document_id", "document_hash", "source", "title", "occurred_at", "document_text",
    "citation_status", "citation_url", "relevance_0_to_3", "rationale"]

/-- `judgment_metadata`: the protected columns of a candidate. -/
def judgmentMetadata (queryId queryText : String) (candidate : CandidateEvidence) : List (String × String) :=
  [("query_id", queryId), ("query_text", spreadsheetSafeText queryText), ("document_id", candidate.documentId),
    ("document_hash", candidate.documentHash), ("source", candidate.source.text),
    ("title", spreadsheetSafeText candidate.title), ("occurred_at", candidate.occurredAt.isoformat),
    ("document_text", spreadsheetSafeText candidate.documentText), ("citation_status", candidate.citationStatus.text),
    ("citation_url", spreadsheetSafeText (candidate.citationUrl.getD ""))]

end AtlasPulse
