import AtlasPulse.Document
import AtlasPulse.Lib.Binary64
import AtlasPulse.Lib.Datetime
import AtlasPulse.Lib.Dict
import AtlasPulse.SourcePolling

/-!
# Search and ranking

The query contract of `retrieval/base.py`, the citation checks of
`retrieval/document.py`, `retrieval/ranking.py` and the search of
`retrieval/service.py`. What the store returns for a query is an argument.
-/

namespace AtlasPulse

open PyJson PyTime Binary64

/-! ## Queries -/

structure GeoBounds where
  west : Float64
  south : Float64
  east : Float64
  north : Float64
  deriving DecidableEq

/-- `low <= value <= high` of whole bounds. -/
def within (low : Int) (value : Float64) (high : Int) : Bool := (Float64.ofInt low).le value && value.le (Float64.ofInt high)

def GeoBounds.validate (b : GeoBounds) : Except String Unit := do
  check ([b.west, b.south, b.east, b.north].all Float64.isFinite) "viewport coordinates must be finite"
  check (within (-180) b.west 180 && within (-180) b.east 180) "longitude must be within [-180, 180]"
  check (within (-90) b.south 90 && within (-90) b.north 90) "latitude must be within [-90, 90]"
  check (!b.east.le b.west) "west must be smaller than east"
  check (!b.north.le b.south) "south must be smaller than north"

structure GeoRadius where
  longitude : Float64
  latitude : Float64
  radiusKm : Float64
  deriving DecidableEq

def GeoRadius.validate (r : GeoRadius) : Except String Unit := do
  check ([r.longitude, r.latitude, r.radiusKm].all Float64.isFinite) "near coordinates and radius must be finite"
  check (within (-180) r.longitude 180) "near longitude must be within [-180, 180]"
  check (within (-90) r.latitude 90) "near latitude must be within [-90, 90]"
  check ((Float64.ofInt 0).lt r.radiusKm && r.radiusKm.le (Float64.ofInt 2000)) "radius_km must be within (0, 2000]"

inductive RankingMode
  | lexical
  | dense
  | rrf
  | hybrid
  deriving DecidableEq

def RankingMode.text : RankingMode → String
  | .lexical => "lexical"
  | .dense => "dense"
  | .rrf => "rrf"
  | .hybrid => "hybrid"

inductive ObservationPeriod
  | day
  | night
  deriving DecidableEq

def ObservationPeriod.text : ObservationPeriod → String
  | .day => "day"
  | .night => "night"

/-- A number of a query, `int | float`. -/
inductive Number
  | int (n : Int)
  | float (x : Float64)
  deriving DecidableEq

def Number.toFloat : Number → Float64
  | .int n => Float64.ofInt n
  | .float x => x

structure SearchQuery where
  text : String
  limit : Int
  candidateLimit : Int
  source : Option SourceName
  occurredAfter : Option Datetime
  occurredBefore : Option Datetime
  bounds : Option {b : GeoBounds // b.validate = .ok ()}
  near : Option {r : GeoRadius // r.validate = .ok ()}
  activeOnly : Bool
  minMagnitude : Option Number
  maxDepthKm : Option Number
  tsunami : Option Bool
  alertType : Option String
  minConfidenceRank : Option Int
  observationPeriod : Option ObservationPeriod
  rankingMode : RankingMode

/-- `text.split()`. -/
def splitText (text : String) : List String :=
  ((text.toList.splitOnP isSpace).filter (· ≠ [])).map String.ofList

/-- `" ".join(text.split())`. -/
def normalizeText (text : String) : String := " ".intercalate (splitText text)

/-- `__post_init__` of a search query. -/
def SearchQuery.postInit (q : SearchQuery) : Except String SearchQuery := do
  let normalized := normalizeText q.text
  check (2 ≤ normalized.length && normalized.length ≤ 500) "query text must contain between 2 and 500 characters"
  check (1 ≤ q.limit && q.limit ≤ 50) "limit must be between 1 and 50"
  check (q.limit ≤ q.candidateLimit && q.candidateLimit ≤ 200) "candidate_limit must be between limit and 200"
  check (!q.occurredAfter.any (·.utcoffset.isNone) && !q.occurredBefore.any (·.utcoffset.isNone))
    "time filters must include a UTC offset"
  check (!q.occurredAfter.any fun after => q.occurredBefore.any fun before => before.instant < after.instant)
    "occurred_after must not be later than occurred_before"
  check (q.minMagnitude.all (·.toFloat.isFinite)) "min_magnitude must be a finite number"
  check (q.maxDepthKm.all (·.toFloat.isFinite)) "max_depth_km must be a finite number"
  check (!q.maxDepthKm.any (·.toFloat.lt (Float64.ofInt 0))) "max_depth_km must be non-negative"
  check (q.minConfidenceRank.all fun rank => 1 ≤ rank && rank ≤ 3) "min_confidence_rank must be between 1 and 3"
  let alertType := q.alertType.map normalizeText
  check (alertType.all fun alert => 1 ≤ alert.length && alert.length ≤ 200)
    "alert_type must contain between 1 and 200 characters"
  return { q with text := normalized, alertType }

/-! ## Citations -/

/-- What `urlsplit` and the properties of its result say of a URL. -/
structure SplitUrl where
  scheme : String
  username : Option String
  password : Option String
  hostname : Option String
  port : Option Int
  query : String

/-- An event model with the rest of the event contract and of the standard library. -/
structure RetrievalModel (E : Type) extends TextModel E Datetime Float64 where
  ingestedAt : E → Datetime
  schemaVersion : E → String
  /-- `urlsplit(value)` and its port; `none` for a `ValueError` -/
  urlsplit : String → Option SplitUrl
  /-- `ip_address(value).is_global`; `none` for a `ValueError` -/
  isGlobalAddress : String → Option Bool
  /-- `parse_qsl(query, keep_blank_values=True)` -/
  parseQsl : String → List (String × String)
  /-- `repr` of a float -/
  floatRepr : Float64 → FloatRepr

inductive CitationStatus
  | traceable
  | missing
  | rejected
  deriving DecidableEq

def CitationStatus.text : CitationStatus → String
  | .traceable => "traceable"
  | .missing => "missing"
  | .rejected => "rejected"

structure CitationValidation where
  status : CitationStatus
  url : Option String
  sourceField : Option String
  reasons : List String
  deriving DecidableEq

def sensitiveQueryKeys : List String :=
  ["access_token", "api-key", "api_key", "apikey", "key", "map_key", "password", "secret", "signature", "token"]

def evidenceFields : List String := ["source_url", "detail_url", "source_report_url", "dataset_url"]

/-- `value.rstrip(".")`. -/
def stripDots (value : String) : String := String.ofList (value.toList.reverse.dropWhile (· = '.')).reverse

section
variable {E : Type} (m : RetrievalModel E)

/-- The host is local, or an address that is not public. -/
def hostReason (hostname : String) : Option String :=
  let host := m.casefold (stripDots hostname)
  if host = "localhost" || ".localhost".toList.isSuffixOf host.toList then some "non_public_hostname"
  else match m.isGlobalAddress host with
    | none => if '.' ∈ host.toList then none else some "non_public_hostname"
    | some isGlobal => if isGlobal then none else some "non_public_address"

/-- `_public_http_url`: whether the URL is public, and why. -/
def publicHttpUrl (value : String) : Bool × List String :=
  match m.urlsplit value with
  | none => (false, ["malformed_url"])
  | some parsed =>
    if parsed.scheme ∉ ["http", "https"] then (false, ["unsupported_scheme"])
    else if parsed.username.isSome || parsed.password.isSome then (false, ["embedded_credentials"])
    else match parsed.hostname.filter (· ≠ "") with
      | none => (false, ["missing_hostname"])
      | some hostname =>
        if parsed.port.any fun port => !(1 ≤ port && port ≤ 65535) then (false, ["invalid_port"])
        else match hostReason m hostname with
          | some reason => (false, [reason])
          | none =>
            if (m.parseQsl parsed.query).any fun item => m.casefold item.1 ∈ sensitiveQueryKeys then
              (false, ["credential_like_query_parameter"])
            else (true, ["public_http_url", "source_event_identity_attached"])

/-- The stripped text of a payload field, if it has any. -/
def evidenceUrl (event : E) (field : String) : Option String :=
  match m.payload event field with
  | some (.str value) => orNone (strip value)
  | _ => none

/-- The loop of `validate_event_citation`, with the reasons so far. -/
def citeFields (event : E) (rejected : List String) : List String → CitationValidation
  | [] =>
    if rejected = [] then ⟨.missing, none, none, ["no_source_evidence_url"]⟩
    else ⟨.rejected, none, none, rejected.eraseDups⟩
  | field :: fields =>
    match evidenceUrl m event field with
    | none => citeFields event rejected fields
    | some candidate =>
      let (valid, reasons) := publicHttpUrl m candidate
      if valid then ⟨.traceable, some candidate, some field, reasons⟩
      else citeFields event (rejected ++ reasons.map fun reason => field ++ ":" ++ reason) fields

def validateEventCitation (event : E) : CitationValidation := citeFields m event [] evidenceFields

end

/-! ## Candidates and hits -/

/-- One result from either the lexical or dense retrieval channel. -/
structure ChannelCandidate (E : Type) where
  message : StreamMessage E
  documentText : String
  rank : Nat
  score : Float64
  distanceKm : Option Float64

structure CandidateBatch (E : Type) where
  lexical : List (ChannelCandidate E)
  dense : List (ChannelCandidate E)

structure RankingExplanation where
  lexicalRank : Option Nat
  lexicalScore : Option Float64
  denseRank : Option Nat
  denseSimilarity : Option Float64
  rrfScore : Float64
  exactPhraseMatch : Bool
  tokenCoverage : Float64
  rerankScore : Float64
  deriving DecidableEq

structure SearchHit (E : Type) where
  message : StreamMessage E
  documentText : String
  distanceKm : Option Float64
  ranking : RankingExplanation
  citation : CitationValidation

structure SearchResult (E : Type) where
  hits : List (SearchHit E)
  candidatesConsidered : Nat
  embeddingModel : String
  rankingMode : RankingMode
  rankingRule : String
  caveat : String

/-- `RANKING_RULES`. -/
def rankingRules : RankingMode → String
  | .lexical => "postgres-english-fts-any-v2"
  | .dense => "bge-cosine-hnsw-v1"
  | .rrf => "rrf60-v1"
  | .hybrid => "rrf60-evidence-tiebreak-v2"

def rrfK : Nat := 60

def retrievalCaveat : String :=
  "Results are ranked source events, not a generated answer. A traceable citation validates " ++
    "URL structure and event identity only; it does not independently verify the source claim."

structure MergedCandidate (E : Type) where
  candidate : ChannelCandidate E
  lexicalRank : Option Nat
  lexicalScore : Option Float64
  denseRank : Option Nat
  denseSimilarity : Option Float64

section
variable {E : Type} (m : RetrievalModel E)

/-- `_tokens`. -/
def tokens (value : String) : List String :=
  (((value.toList.splitOnP fun c => !(m.isWord c || c = '\'' || c = '-')).filter fun token => 1 < token.length).map
    fun token => m.casefold (String.ofList token)).dedup

/-- The key that candidates are merged under. -/
def candidateKey (candidate : ChannelCandidate E) : String × String :=
  (m.source candidate.message.event, m.eventId candidate.message.event)

/-- One candidate of a channel is merged; the first one with a distance is kept. -/
def mergeCandidate (isLexical : Bool) (merged : List ((String × String) × MergedCandidate E))
    (candidate : ChannelCandidate E) : List ((String × String) × MergedCandidate E) :=
  let current := (PyDict.get merged (candidateKey m candidate)).getD ⟨candidate, none, none, none, none⟩
  let current :=
    if isLexical then { current with lexicalRank := some candidate.rank, lexicalScore := some candidate.score }
    else { current with denseRank := some candidate.rank, denseSimilarity := some candidate.score }
  let current :=
    if current.candidate.distanceKm.isNone && candidate.distanceKm.isSome then { current with candidate } else current
  PyDict.setItem merged (candidateKey m candidate) current

/-- `_merge`. -/
def mergeBatch (batch : CandidateBatch E) : List ((String × String) × MergedCandidate E) :=
  batch.dense.foldl (mergeCandidate m false) (batch.lexical.foldl (mergeCandidate m true) [])

/-- The reciprocal rank score of a merged candidate. -/
def rrfScore (merged : MergedCandidate E) : Except String Float64 := do
  let terms ← (merged.lexicalRank.toList ++ merged.denseRank.toList).mapM fun rank => intDiv 1 (rrfK + rank : Nat)
  let top ← intDiv 2 (rrfK + 1 : Nat)
  (Float64.sum terms).div top

/-- The share of the query's tokens that the document has. -/
def tokenCoverage (queryTokens documentTokens : List String) : Except String Float64 :=
  if queryTokens = [] then .ok (Float64.ofInt 0)
  else intDiv (queryTokens.filter (· ∈ documentTokens)).length queryTokens.length

def rankedHit (queryText : String) (merged : MergedCandidate E) : Except String (SearchHit E) := do
  let score ← rrfScore merged
  let documentText := merged.candidate.documentText
  let exactPhrase := decide ((normalizeText (m.casefold queryText)).toList <:+:
    (normalizeText (m.casefold documentText)).toList)
  let coverage ← tokenCoverage (tokens m queryText) (tokens m documentText)
  .ok
    { message := merged.candidate.message
      documentText
      distanceKm := merged.candidate.distanceKm
      ranking :=
        { lexicalRank := merged.lexicalRank
          lexicalScore := merged.lexicalScore
          denseRank := merged.denseRank
          denseSimilarity := merged.denseSimilarity
          rrfScore := score.round 8
          exactPhraseMatch := exactPhrase
          tokenCoverage := coverage.round 8
          rerankScore := score.round 8 }
      citation := validateEventCitation m merged.candidate.message.event }

def hitKey (hit : SearchHit E) : String × String := (m.source hit.message.event, m.eventId hit.message.event)

/-- `a` is ranked no later than `b`: the sort keys of a mode in turn. -/
def ranksBefore (mode : RankingMode) (a b : SearchHit E) : Bool :=
  let byKey := decide ((m.source a.message.event) < (m.source b.message.event) ∨
    m.source a.message.event = m.source b.message.event ∧ m.eventId a.message.event ≤ m.eventId b.message.event)
  let byRank := fun x y : Nat => decide (x < y) || (x = y && byKey)
  -- larger scores first, as the sort keys are negated
  let byScore := fun (x y : Float64) (rest : Bool) => y.lt x || (x.beq y && rest)
  match mode with
  | .lexical => byRank (a.ranking.lexicalRank.getD 0) (b.ranking.lexicalRank.getD 0)
  | .dense => byRank (a.ranking.denseRank.getD 0) (b.ranking.denseRank.getD 0)
  | .rrf => byScore a.ranking.rrfScore b.ranking.rrfScore byKey
  | .hybrid =>
    byScore a.ranking.rrfScore b.ranking.rrfScore
      ((a.ranking.exactPhraseMatch && !b.ranking.exactPhraseMatch) ||
        (a.ranking.exactPhraseMatch == b.ranking.exactPhraseMatch &&
          byScore a.ranking.tokenCoverage b.ranking.tokenCoverage byKey))

/-- The hits that a mode ranks. -/
def rankedBy (mode : RankingMode) (hit : SearchHit E) : Bool :=
  match mode with
  | .lexical => hit.ranking.lexicalRank.isSome
  | .dense => hit.ranking.denseRank.isSome
  | _ => true

def rankCandidates (batch : CandidateBatch E) (queryText : String) (limit : Nat) (mode : RankingMode) :
    Except String (List (SearchHit E)) := do
  let hits ← (mergeBatch m batch).mapM fun item => rankedHit m queryText item.2
  .ok (((hits.filter (rankedBy mode)).insertionSort fun a b => ranksBefore m mode a b = true).take limit)

/-- `HybridSearchService.search`, on the candidates that the store returned. -/
def search (modelName : String) (query : SearchQuery) (candidates : CandidateBatch E) :
    Except String (SearchResult E) := do
  let hits ← rankCandidates m candidates query.text query.limit.toNat query.rankingMode
  .ok
    { hits
      candidatesConsidered := ((candidates.lexical ++ candidates.dense).map (candidateKey m)).dedup.length
      embeddingModel := modelName
      rankingMode := query.rankingMode
      rankingRule := rankingRules query.rankingMode
      caveat := retrievalCaveat }

end

end AtlasPulse
