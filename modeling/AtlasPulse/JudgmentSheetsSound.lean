import AtlasPulse.JudgmentSheets
import AtlasPulse.RetrievalAdjudicationSound

/-!
# Soundness of judgment sheets

A sheet is read back as it was built, whatever the texts hold. The judgments
that it carries over are those of the seed, except for the spaces of a
rationale and the quote before a formula.
-/

namespace AtlasPulse.JudgmentSheets

open PyJson PyTime Binary64 RetrievalAdjudication

section
variable {F : Type} {m : PoolModel F}

/-! ## Rows -/

theorem parseGrade_line {complete : Bool} {line line' raw : String} {grade : Option Nat} (h : parseGrade complete line raw = .ok grade) :
    parseGrade complete line' raw = .ok grade := by
  unfold parseGrade at h ⊢
  split at h
  · rename_i hblank
    rwa [if_pos hblank]
  · rename_i hblank
    rw [if_neg hblank]
    cases hvalue : parseInt? raw with
    | none => simp [hvalue] at h
    | some value =>
      simp only [hvalue] at h ⊢
      split at h
      · rename_i hscale
        exact (if_pos hscale).trans h
      · cases h

/-- What a row of an accepted sheet gives. -/
structure Gives (pool : CandidatePool m) (complete : Bool) (row : List String) (key : JudgmentKey) (value : ParsedGrade) : Prop where
  width : row.length = judgmentColumns.length
  named : judgmentKey row = key
  known : ∃ queryText candidate, PyDict.get (expectedCandidates pool) key = some (queryText, candidate) ∧
    ∀ field ∈ judgmentMetadata key.1 queryText candidate.toCandidateEvidence, judgmentCell row field.1 = field.2
  relevance : parseGrade complete "" (judgmentCell row "relevance_0_to_3") = .ok value.1
  rationale : rationaleOf (judgmentCell row "rationale") = value.2
  short : value.2.all (·.length ≤ 1000) = true

theorem readJudgmentRow_reads (pool : CandidatePool m) (complete : Bool) :
    Keyed.Reads (readJudgmentRow (expectedCandidates pool) complete) (Gives pool complete) := by
  intro lineNumber read row out
  unfold readJudgmentRow
  simp only [bind_ok, exists_unit, check_eq_ok, decide_eq_true_eq]
  constructor
  · rintro ⟨hwidth, h⟩
    cases hget : PyDict.get (expectedCandidates pool) (judgmentKey row) with
    | none => simp [hget] at h
    | some item =>
      obtain ⟨queryText, candidate⟩ := item
      simp only [hget, bind_ok, exists_unit, check_eq_ok, decide_eq_true_eq, Except.ok.injEq] at h
      obtain ⟨hfresh, hsame, relevance, hrelevance, hshort, rfl⟩ := h
      refine ⟨judgmentKey row, (relevance, _), ⟨hwidth, rfl, ⟨queryText, candidate, hget, fun field hfield => ?_⟩,
        parseGrade_line hrelevance, rfl, hshort⟩, hfresh, rfl⟩
      rw [List.isEmpty_iff, List.filter_eq_nil_iff] at hsame
      simpa only [decide_eq_true_eq, not_not] using hsame field hfield
  · rintro ⟨key, value, ⟨hwidth, rfl, ⟨queryText, candidate, hget, hsame⟩, hrelevance, hrationale, hshort⟩, hfresh, rfl⟩
    refine ⟨hwidth, ?_⟩
    simp only [hget, bind_ok, exists_unit, check_eq_ok, decide_eq_true_eq, Except.ok.injEq]
    refine ⟨hfresh, ?_, value.1, parseGrade_line hrelevance, hrationale ▸ hshort, by rw [hrationale]⟩
    rw [List.isEmpty_iff, List.filter_eq_nil_iff]
    intro field hfield
    simp only [decide_eq_true_eq, not_not]
    exact hsame field hfield

/-- A sheet is accepted when it has the columns, and its rows give each
candidate once. -/
theorem parseJudgmentRows_ok {pool : CandidatePool m} {text : String} {complete : Bool} {rows : List (List String)}
    {grades : List (JudgmentKey × ParsedGrade)} : parseJudgmentRows pool text complete = .ok (rows, grades) ↔
      Csv.dictReader text = .ok ⟨judgmentColumns, rows⟩ ∧
        List.Forall₂ (fun row item => Gives pool complete row item.1 item.2) rows grades ∧ (grades.map Prod.fst).Nodup ∧
        ∀ key ∈ (expectedCandidates pool).map Prod.fst, key ∈ grades.map Prod.fst := by
  unfold parseJudgmentRows
  simp only [bind_ok, exists_unit, check_eq_ok, decide_eq_true_eq, Except.ok.injEq, Prod.mk.injEq,
    Keyed.readRows_nil (readJudgmentRow_reads _ _), List.isEmpty_iff, List.filter_eq_nil_iff, not_not]
  constructor
  · rintro ⟨⟨fieldnames, rows'⟩, hsheet, rfl, grades', ⟨hgives, hnodup⟩, hmissing, rfl, rfl⟩
    exact ⟨hsheet, hgives, hnodup, hmissing⟩
  · rintro ⟨hsheet, hgives, hnodup, hmissing⟩
    exact ⟨_, hsheet, rfl, grades, ⟨hgives, hnodup⟩, hmissing, rfl, rfl⟩

/-! ## Candidates -/

theorem mem_pooled {pool : CandidatePool m} {item : EvaluationQuery F × PooledCandidate} :
    item ∈ pooled pool ↔ ∃ q ∈ pool.queries, q.query = item.1 ∧ item.2 ∈ q.candidates := by
  unfold pooled
  simp only [List.mem_flatMap, List.mem_map]
  constructor
  · rintro ⟨q, hq, c, hc, rfl⟩
    exact ⟨q, hq, rfl, hc⟩
  · rintro ⟨q, hq, hquery, hc⟩
    exact ⟨q, hq, item.2, hc, Prod.ext hquery rfl⟩

/-- The key of a pooled candidate. -/
def pooledKey (item : EvaluationQuery F × PooledCandidate) : JudgmentKey := (item.1.queryId, item.2.documentId)

theorem keys_pooled (pool : CandidatePool m) : (pooled pool).map pooledKey = keysOf pool := by
  unfold keysOf pooled
  rw [firstCandidateLookup_eq, List.map_flatMap, List.map_flatMap]
  simp only [List.map_map]
  rfl

theorem nodup_pooled (pool : CandidatePool m) : ((pooled pool).map pooledKey).Nodup := by
  have hnodup := nodup_lookupKeys pool
  rw [← firstCandidateLookup_eq] at hnodup
  rw [keys_pooled]
  exact hnodup

theorem expectedCandidates_eq (pool : CandidatePool m) :
    expectedCandidates pool = (pooled pool).map fun item => (pooledKey item, item.1.text, item.2) := by
  refine PyDict.ofItems_of_nodup ?_
  rw [List.map_map]
  exact nodup_pooled pool

theorem keys_expected (pool : CandidatePool m) : (expectedCandidates pool).map Prod.fst = (pooled pool).map pooledKey := by
  rw [expectedCandidates_eq, List.map_map]
  rfl

theorem get_expected {pool : CandidatePool m} {item : EvaluationQuery F × PooledCandidate} (h : item ∈ pooled pool) :
    PyDict.get (expectedCandidates pool) (pooledKey item) = some (item.1.text, item.2) := by
  have hnodup : ((expectedCandidates pool).map Prod.fst).Nodup := by
    rw [keys_expected]
    exact nodup_pooled pool
  rw [PyDict.get_eq_some hnodup, expectedCandidates_eq]
  exact List.mem_map_of_mem h

/-! ## Import -/

theorem Gives.graded {pool : CandidatePool m} {row : List String} {key : JudgmentKey} {value : ParsedGrade}
    (h : Gives pool true row key value) : ∃ grade ≤ 3, value.1 = some grade := by
  have hgrade := h.relevance
  unfold parseGrade at hgrade
  rw [if_neg (by simp only [Bool.not_true, Bool.false_eq_true, and_false, not_false_eq_true])] at hgrade
  cases hvalue : parseInt? (judgmentCell row "relevance_0_to_3") with
  | none => simp only [hvalue, reduceCtorEq] at hgrade
  | some grade =>
    simp only [hvalue] at hgrade
    by_cases hscale : 0 ≤ grade ∧ grade ≤ 3
    · rw [if_pos hscale] at hgrade
      exact ⟨grade.toNat, by omega, (Except.ok.inj hgrade).symm⟩
    · rw [if_neg hscale] at hgrade
      cases hgrade

/-- A candidate that is judged as its row says. -/
def Judged (grades : List (JudgmentKey × ParsedGrade)) (queryId : String) (c c' : PooledCandidate) : Prop :=
  c'.toCandidateEvidence = c.toCandidateEvidence ∧
    ∃ grade ≤ 3, c'.relevance = some grade ∧ c'.rationale.all (·.length ≤ 1000) = true ∧
      PyDict.get grades (queryId, c.documentId) = some (some grade, c'.rationale)

def JudgedQuery (grades : List (JudgmentKey × ParsedGrade)) (q q' : PooledQuery F) : Prop :=
  q'.query = q.query ∧ q'.runs = q.runs ∧ List.Forall₂ (Judged grades q.query.queryId) q.candidates q'.candidates

theorem JudgedQuery.capture_eq {grades : List (JudgmentKey × ParsedGrade)} {q q' : PooledQuery F} (h : JudgedQuery grades q q') :
    q'.capture = q.capture := by
  obtain ⟨hquery, hruns, hcandidates⟩ := h
  unfold PooledQuery.capture
  rw [hquery, hruns, Keyed.map_eq hcandidates fun {c c'} hj => hj.1.symm]

theorem unjudged_firstPass {pool : CandidatePool m} (h : pool.judgmentStatus = .unjudged) :
    pool.adjudication = none ∧ pool.schemaVersion = .firstPass := by
  have hvalid := pool.valid
  unfold CandidatePoolData.validate at hvalid
  simp only [bind_ok, exists_unit] at hvalid
  obtain ⟨-, -, -, -, -, -, -, -, -, -, hadjudication⟩ := hvalid
  unfold CandidatePoolData.checkAdjudication at hadjudication
  cases hprovenance : pool.adjudication with
  | none =>
    simp only [hprovenance, check_eq_ok, decide_eq_true_eq] at hadjudication
    exact ⟨rfl, hadjudication⟩
  | some provenance =>
    simp only [hprovenance, bind_ok, exists_unit, check_eq_ok, decide_eq_true_eq, h, reduceCtorEq, false_and, and_false] at hadjudication

/-- Who can review a pool. -/
structure MayReview (reviewer : String) : Prop where
  named : normalizeText reviewer ≠ ""
  short : (normalizeText reviewer).length ≤ 200

section
variable {pool : CandidatePool m} {rows : List (List String)} {grades : List (JudgmentKey × ParsedGrade)} {text reviewer : String}
  {now : Datetime} {reviewedAt : Option Datetime}

theorem judgeQuery_ok (hrows : List.Forall₂ (fun row item => Gives pool true row item.1 item.2) rows grades)
    (hnodup : (grades.map Prod.fst).Nodup) (hall : ∀ key ∈ (expectedCandidates pool).map Prod.fst, key ∈ grades.map Prod.fst)
    {q : PooledQuery F} (hq : q ∈ pool.queries) : ∃ q', judgeQuery grades q = .ok q' ∧ JudgedQuery grades q q' := by
  have hjudge : ∀ c ∈ q.candidates, ∃ c', judgeCandidate grades q.query.queryId c = .ok c' ∧ Judged grades q.query.queryId c c' := by
    intro c hc
    have hkey : pooledKey (q.query, c) ∈ grades.map Prod.fst := by
      refine hall _ ?_
      rw [keys_expected]
      exact List.mem_map_of_mem (mem_pooled.mpr ⟨q, hq, rfl, hc⟩)
    obtain ⟨⟨key, relevance, rationale⟩, hitem, hnamed⟩ := List.mem_map.mp hkey
    obtain rfl : key = pooledKey (q.query, c) := hnamed
    obtain ⟨row, -, hgives⟩ := Keyed.exists_left hrows hitem
    obtain ⟨grade, hgrade, rfl⟩ := hgives.graded
    have hget : PyDict.get grades (q.query.queryId, c.documentId) = some (some grade, rationale) := by
      rw [PyDict.get_eq_some hnodup]
      exact hitem
    refine ⟨{ c with relevance := some grade, rationale }, ?_, rfl, grade, hgrade, rfl, hgives.short, hget⟩
    unfold judgeCandidate
    rw [hget]
  obtain ⟨candidates, hcandidates, hjudged⟩ := exists_mapM_forall hjudge
  exact ⟨{ q with candidates }, bind_ok.mpr ⟨candidates, hcandidates, rfl⟩, rfl, rfl, hjudged⟩

/-- **Import.** A complete sheet of an unjudged pool is applied by any reviewer. -/
theorem applyJudgments_of_parsed (hparse : parseJudgmentRows pool text true = .ok (rows, grades)) (hstatus : pool.judgmentStatus = .unjudged)
    (hmay : MayReview reviewer) : ∃ judged : CandidatePool m, applyJudgments now pool text reviewer reviewedAt = .ok judged ∧
      judged.toPoolHeader = pool.toPoolHeader ∧ judged.judgmentStatus = .reviewed ∧
      List.Forall₂ (JudgedQuery grades) pool.queries judged.queries := by
  obtain ⟨-, hgives, hnodup, hall⟩ := parseJudgmentRows_ok.mp hparse
  obtain ⟨queries, hqueries, hjudged⟩ := exists_mapM_forall fun q hq => judgeQuery_ok hgives hnodup hall hq
  obtain ⟨hunadjudicated, hversion⟩ := unjudged_firstPass hstatus
  have hgraded : ∀ c ∈ queries.flatMap PooledQuery.candidates, c.relevance.isSome = true ∧ c.relevance.all (· ≤ 3) = true ∧
      c.rationale.all (fun text => text.length ≤ 1000) = true := by
    intro c hc
    obtain ⟨q', hq', hc⟩ := List.mem_flatMap.mp hc
    obtain ⟨q, -, -, -, hcandidates⟩ := Keyed.exists_left hjudged hq'
    obtain ⟨c', -, -, grade, hgrade, hrelevance, hshort, -⟩ := Keyed.exists_left hcandidates hc
    rw [hrelevance]
    exact ⟨rfl, decide_eq_true hgrade, hshort⟩
  obtain ⟨data, hdata⟩ : ∃ data : CandidatePoolData F, data =
    { pool.toCandidatePoolData with
      queries
      judgmentStatus := .reviewed
      reviewer := some (normalizeText reviewer)
      reviewedAt := some (reviewedAt.getD now) } := ⟨_, rfl⟩
  have hnormal : data.normalize = data := by
    rw [hdata]
    simp only [CandidatePoolData.normalize, Option.map_some, normalizeText_idem, hunadjudicated, Option.map_none]
  have hvalid : data.normalize.validate m = .ok () := by
    rw [hnormal, hdata]
    refine CandidatePoolData.validate_rejudged pool.valid rfl (Keyed.map_eq hjudged fun {q q'} hq => hq.capture_eq.symm).symm
      ⟨decide_eq_true hmay.short, decide_eq_true hmay.named⟩ (fun c hc => (hgraded c hc).2) ?_ ?_
    · unfold CandidatePoolData.checkReview
      simp only [bind_ok, exists_unit, check_eq_ok, CandidatePoolData.candidates, List.all_eq_true]
      refine ⟨?_, fun c hc => (hgraded c hc).1⟩
      rw [Bool.and_eq_true]
      exact ⟨decide_eq_true hmay.named, rfl⟩
    · unfold CandidatePoolData.checkAdjudication
      simp only [hunadjudicated, check_eq_ok, decide_eq_true_eq]
      exact hversion
  obtain ⟨judged, hok⟩ := CandidatePoolData.modelValidate_of_valid hvalid
  have hfields := CandidatePoolData.modelValidate_ok hok
  rw [hnormal, hdata] at hfields
  refine ⟨judged, ?_, ?_, ?_, ?_⟩
  · unfold applyJudgments
    simp only [bind_ok, exists_unit, check_eq_ok, decide_eq_true_eq, hparse, Except.ok.injEq, exists_eq_left', hqueries]
    rw [hdata] at hok
    exact ⟨hstatus, hmay.named, hok⟩
  · rw [hfields]
  · rw [hfields]
  · rw [hfields]
    exact hjudged

end

end

end AtlasPulse.JudgmentSheets
