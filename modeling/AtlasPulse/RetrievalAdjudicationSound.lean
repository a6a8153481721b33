import AtlasPulse.RetrievalAdjudication

/-!
# Retrieval adjudication keeps the evidence

The rows of two reviews are matched by query and document. A sheet that is
accepted decides each disagreement once, and the final pool is the captured one
with the shared grades and those of the sheet.
-/

namespace AtlasPulse.RetrievalAdjudication

open PyJson PyTime Binary64

section
variable {F : Type} {m : PoolModel F}

def ReviewRow.key (r : ReviewRow F) : JudgmentKey := (r.query.queryId, r.first.documentId)

/-! ## Reviews -/

/-- What `_canonical_reviews` establishes of the reviews that it returns. -/
structure Independent (first second : FirstPass m) (capture : String) : Prop where
  firstNamed : first.pool.reviewer = some first.reviewer
  firstReviewed : first.pool.judgmentStatus = .reviewed
  secondNamed : second.pool.reviewer = some second.reviewer
  distinct : m.casefold first.reviewer ≠ m.casefold second.reviewer
  ordered : namedBefore m.casefold second.reviewer first.reviewer = false
  firstCapture : retrievalCaptureSha256 first.pool = capture
  secondCapture : retrievalCaptureSha256 second.pool = capture

theorem requireFirstPass_ok {pool : CandidatePool m} {label : String} {r : FirstPass m} :
    requireFirstPass pool label = .ok r ↔ r.pool = pool ∧ pool.judgmentStatus = .reviewed ∧
      pool.reviewer = some r.reviewer ∧ pool.reviewedAt = some r.reviewedAt ∧ pool.adjudication = none := by
  unfold requireFirstPass
  split
  · rename_i reviewer reviewedAt hstatus hreviewer hat
    simp only [bind_ok, exists_unit, check_eq_ok, Except.ok.injEq, hstatus, hreviewer, hat, Option.isNone_iff_eq_none,
      Option.some.injEq]
    constructor
    · rintro ⟨hnone, rfl⟩
      exact ⟨rfl, trivial, rfl, rfl, hnone⟩
    · rintro ⟨rfl, -, rfl, rfl, hnone⟩
      exact ⟨hnone, rfl⟩
  · rename_i hcases
    constructor
    · intro h
      cases h
    · rintro ⟨-, hstatus, hreviewer, hat, -⟩
      exact absurd hat (hcases _ _ hstatus hreviewer)

theorem requireFirstPass_label {pool : CandidatePool m} {label label' : String} {r : FirstPass m}
    (h : requireFirstPass pool label = .ok r) : requireFirstPass pool label' = .ok r :=
  requireFirstPass_ok.mpr (requireFirstPass_ok.mp h)

theorem canonicalReviews_ok {first second : CandidatePool m} {pair : FirstPass m × FirstPass m} {capture : String} :
    canonicalReviews first second = .ok (pair, capture) ↔ ∃ one other, requireFirstPass first "first" = .ok one ∧
      requireFirstPass second "second" = .ok other ∧ m.casefold one.reviewer ≠ m.casefold other.reviewer ∧
      retrievalCaptureSha256 first = retrievalCaptureSha256 second ∧
      canonicalPair m.casefold FirstPass.reviewer one other = pair ∧ retrievalCaptureSha256 first = capture := by
  unfold canonicalReviews
  simp only [bind_ok, exists_unit, check_eq_ok, decide_eq_true_eq, Except.ok.injEq, Prod.mk.injEq]
  constructor
  · rintro ⟨one, hone, other, hother, hne, hcap, hpair, hcapture⟩
    exact ⟨one, other, hone, hother, hne, hcap, hpair, hcapture⟩
  · rintro ⟨one, other, hone, hother, hne, hcap, hpair, hcapture⟩
    exact ⟨one, hone, other, hother, hne, hcap, hpair, hcapture⟩

theorem canonicalReviews_swap {first second : CandidatePool m} {result : (FirstPass m × FirstPass m) × String}
    (h : canonicalReviews first second = .ok result) : canonicalReviews second first = .ok result := by
  obtain ⟨pair, capture⟩ := result
  obtain ⟨one, other, hone, hother, hne, hcap, hpair, hcapture⟩ := canonicalReviews_ok.mp h
  refine canonicalReviews_ok.mpr ⟨other, one, requireFirstPass_label hother, requireFirstPass_label hone, hne.symm, hcap.symm,
    ?_, hcap.symm.trans hcapture⟩
  rw [canonicalPair_swap hne, hpair]

/-- The reviews in canonical order are the ones given, in one order or the
other. -/
theorem canonicalReviews_pools {first second : CandidatePool m} {pair : FirstPass m × FirstPass m} {capture : String}
    (h : canonicalReviews first second = .ok (pair, capture)) :
    pair.1.pool = first ∧ pair.2.pool = second ∨ pair.1.pool = second ∧ pair.2.pool = first := by
  obtain ⟨one, other, hone, hother, hne, hcap, hpair, hcapture⟩ := canonicalReviews_ok.mp h
  have hfirst := (requireFirstPass_ok.mp hone).1
  have hsecond := (requireFirstPass_ok.mp hother).1
  rcases canonicalPair_cases m.casefold FirstPass.reviewer one other with
    horder | horder
  · obtain rfl : (one, other) = pair := horder.symm.trans hpair
    exact .inl ⟨hfirst, hsecond⟩
  · obtain rfl : (other, one) = pair := horder.symm.trans hpair
    exact .inr ⟨hsecond, hfirst⟩

theorem canonicalReviews_again {first second : CandidatePool m} {pair : FirstPass m × FirstPass m} {capture : String}
    (h : canonicalReviews first second = .ok (pair, capture)) :
    canonicalReviews pair.1.pool pair.2.pool = .ok (pair, capture) := by
  rcases canonicalReviews_pools h with ⟨hfirst, hsecond⟩ | ⟨hfirst, hsecond⟩
  · rw [hfirst, hsecond, h]
  · rw [hfirst, hsecond, canonicalReviews_swap h]

theorem independent_of_canonicalReviews {first second : CandidatePool m} {pair : FirstPass m × FirstPass m} {capture : String}
    (h : canonicalReviews first second = .ok (pair, capture)) : Independent pair.1 pair.2 capture := by
  obtain ⟨one, other, hone, hother, hne, hcap, hpair, hcapture⟩ := canonicalReviews_ok.mp h
  obtain ⟨rfl, hstatus, hreviewer, -, -⟩ := requireFirstPass_ok.mp hone
  obtain ⟨rfl, hstatus', hreviewer', -, -⟩ := requireFirstPass_ok.mp hother
  have hordered := namedBefore_canonicalPair hpair hne
  rcases canonicalPair_cases m.casefold FirstPass.reviewer one other with
    horder | horder
  · obtain rfl : (one, other) = pair := horder.symm.trans hpair
    exact ⟨hreviewer, hstatus, hreviewer', hne, hordered, hcapture, hcap.symm.trans hcapture⟩
  · obtain rfl : (other, one) = pair := horder.symm.trans hpair
    exact ⟨hreviewer', hstatus', hreviewer, hne.symm, hordered, hcap.symm.trans hcapture, hcapture⟩

/-! ## Rows -/

theorem nodup_lookupKeys (pool : CandidatePool m) :
    ((pool.queries.flatMap fun q => q.candidates.map fun c => ((q.query.queryId, c.documentId), q.query, c)).map Prod.fst).Nodup := by
  obtain ⟨hqueries, hids, -⟩ := CandidatePoolData.validate_ok pool.valid
  rw [List.map_flatMap, List.nodup_flatMap]
  constructor
  · intro q hq
    obtain ⟨-, -, -, hdocuments, -⟩ := PooledQuery.validate_ok.mp (hqueries q hq)
    rw [List.map_map]
    have hinj : Function.Injective (fun id : String => (q.query.queryId, id)) := fun a b hab => congrArg Prod.snd hab
    have hkeys := hdocuments.map hinj
    rwa [List.map_map] at hkeys
  · refine (List.pairwise_map.mp hids).imp fun {q q'} hne => ?_
    rw [Function.onFun, List.disjoint_left]
    intro key hkey hkey'
    simp only [List.map_map, List.mem_map, Function.comp_apply] at hkey hkey'
    obtain ⟨c, -, rfl⟩ := hkey
    obtain ⟨c', -, heq⟩ := hkey'
    exact hne (congrArg Prod.fst heq).symm

theorem firstCandidateLookup_eq (pool : CandidatePool m) : firstCandidateLookup pool =
    pool.queries.flatMap fun q => q.candidates.map fun c => ((q.query.queryId, c.documentId), q.query, c) :=
  PyDict.ofItems_of_nodup (nodup_lookupKeys pool)

theorem get_firstCandidateLookup {pool : CandidatePool m} {key : JudgmentKey} {query : EvaluationQuery F} {c : PooledCandidate} :
    PyDict.get (firstCandidateLookup pool) key = some (query, c) ↔
      ∃ q ∈ pool.queries, c ∈ q.candidates ∧ q.query = query ∧ (q.query.queryId, c.documentId) = key := by
  rw [firstCandidateLookup_eq, PyDict.get_eq_some (nodup_lookupKeys pool), List.mem_flatMap]
  constructor
  · rintro ⟨q, hq, hmem⟩
    obtain ⟨c', hc', heq⟩ := List.mem_map.mp hmem
    obtain ⟨hkey, hvalue⟩ := Prod.mk.inj heq
    obtain ⟨hquery, rfl⟩ := Prod.mk.inj hvalue
    exact ⟨q, hq, hc', hquery, hkey⟩
  · rintro ⟨q, hq, hc, rfl, rfl⟩
    exact ⟨q, hq, List.mem_map_of_mem hc⟩

/-- The judgments of a pool, each under its query and document. -/
def keysOf (pool : CandidatePool m) : List JudgmentKey := (firstCandidateLookup pool).map Prod.fst

theorem mem_keysOf {pool : CandidatePool m} {key : JudgmentKey} :
    key ∈ keysOf pool ↔ ∃ q ∈ pool.queries, ∃ c ∈ q.candidates, (q.query.queryId, c.documentId) = key := by
  unfold keysOf
  rw [firstCandidateLookup_eq, List.map_flatMap, List.mem_flatMap]
  simp only [List.map_map, List.mem_map, Function.comp_apply]

/-- A row of two reviews: one candidate, as each of them has it. -/
structure Matches (first second : CandidatePool m) (r : ReviewRow F) : Prop where
  inFirst : PyDict.get (firstCandidateLookup first) r.key = some (r.query, r.first)
  inSecond : PyDict.get (firstCandidateLookup second) r.key = some (r.query, r.second)
  evidence : r.first.toCandidateEvidence = r.second.toCandidateEvidence
  firstGraded : r.first.relevance = some r.firstGrade
  secondGraded : r.second.relevance = some r.secondGrade

theorem candidateRow_ok {query : EvaluationQuery F} {second : List (String × PooledCandidate)} {candidate : PooledCandidate}
    {row : ReviewRow F} (h : candidateRow query second candidate = .ok row) : row.query = query ∧ row.first = candidate ∧
      PyDict.get second candidate.documentId = some row.second ∧ candidate.toCandidateEvidence = row.second.toCandidateEvidence ∧
      candidate.relevance = some row.firstGrade ∧ row.second.relevance = some row.secondGrade := by
  unfold candidateRow at h
  split at h
  · cases h
  · rename_i other hother
    split at h
    · cases h
    · rename_i hsame
      split at h
      · rename_i firstGrade secondGrade hfirst hsecond
        obtain rfl := Except.ok.inj h
        exact ⟨rfl, rfl, hother, not_not.mp hsame, hfirst, hsecond⟩
      · cases h

theorem mem_of_get_ofItems {K V W : Type} [DecidableEq K] {key : W → K} {value : W → V} {l : List W} {k : K} {v : V}
    (h : PyDict.get (PyDict.ofItems (l.map fun a => (key a, value a))) k = some v) : ∃ a ∈ l, key a = k ∧ value a = v := by
  have hmem := PyDict.mem_of_mem_ofItems ((PyDict.get_eq_some (PyDict.nodup_ofItems _)).mp h)
  obtain ⟨a, ha, heq⟩ := List.mem_map.mp hmem
  exact ⟨a, ha, Prod.mk.inj heq⟩

theorem construct_val {α : Type} {validate : α → Except String Unit} {a : α} {x : {a // validate a = .ok ()}}
    (h : construct validate a = .ok x) : x.val = a := by
  have hvalid := construct_ok.mp ⟨x, h⟩
  rw [construct_of_valid hvalid] at h
  rw [← Except.ok.inj h]

/-! ## Sheets -/

theorem parseRelevance_line {complete : Bool} {line line' raw : String} {grade : Option Nat}
    (h : parseRelevance complete line raw = .ok grade) : parseRelevance complete line' raw = .ok grade := by
  unfold parseRelevance at h ⊢
  split at h
  · rename_i hblank
    rwa [if_pos hblank]
  · rename_i hblank
    rw [if_neg hblank]
    split at h
    · cases h
    · rename_i value hvalue
      split at h
      · rename_i hscale
        exact (if_pos hscale).trans h
      · cases h

theorem parseRationale_ok {line raw : String} {relevance : Option Nat} {rationale : Option String} :
    parseRationale line relevance raw = .ok rationale ↔
      (if normalizeText raw = "" then none else some (normalizeText raw)) = rationale ∧
        (relevance.isSome || rationale.isNone) = true ∧ (relevance.isNone || rationale.any (10 ≤ ·.length)) = true ∧
        rationale.all (·.length ≤ 1000) = true := by
  unfold parseRationale
  simp only [bind_ok, exists_unit, check_eq_ok, Except.ok.injEq]
  constructor
  · rintro ⟨hblank, hshort, hlong, rfl⟩
    exact ⟨rfl, hblank, hshort, hlong⟩
  · rintro ⟨rfl, hblank, hshort, hlong⟩
    exact ⟨hblank, hshort, hlong, rfl⟩

/-- What a row of an accepted sheet gives: a decision on a disagreement, beside
the protected fields as they were. -/
structure Gives (report : AgreementReport) (candidates : List (JudgmentKey × EvaluationQuery F × PooledCandidate)) (complete : Bool)
    (row : List String) (key : JudgmentKey) (value : ParsedDecision) : Prop where
  width : row.length = adjudicationColumns.length
  named : rowKey row = key
  known : ∃ d query candidate, PyDict.get (PyDict.ofItems (report.disagreements.map fun d => (d.key, d))) key = some d ∧
    PyDict.get candidates key = some (query, candidate) ∧
    ∀ field ∈ protectedAdjudicationFields (m := m) report d query candidate, cellOf row field.1 = field.2
  relevance : parseRelevance complete "" (cellOf row "adjudicated_relevance_0_to_3") = .ok value.1
  rationale : parseRationale "" value.1 (cellOf row "adjudication_rationale") = .ok value.2

theorem readAdjudicationRow_reads (report : AgreementReport)
    (candidates : List (JudgmentKey × EvaluationQuery F × PooledCandidate)) (complete : Bool) :
    Keyed.Reads (readAdjudicationRow (m := m) report candidates complete) (Gives (m := m) report candidates complete) := by
  intro lineNumber read row out
  unfold readAdjudicationRow
  simp only [bind_ok, exists_unit, check_eq_ok, decide_eq_true_eq]
  constructor
  · rintro ⟨hwidth, h⟩
    split at h
    · cases h
    · cases h
    · rename_i d query candidate hd hc
      simp only [bind_ok, exists_unit, check_eq_ok, decide_eq_true_eq, Except.ok.injEq] at h
      obtain ⟨hfresh, hsame, relevance, hrelevance, rationale, hrationale, rfl⟩ := h
      refine ⟨rowKey row, (relevance, rationale), ⟨hwidth, rfl, ⟨d, query, candidate, hd, hc, fun field hfield => ?_⟩,
        parseRelevance_line hrelevance, parseRationale_ok.mpr (parseRationale_ok.mp hrationale)⟩, hfresh, rfl⟩
      rw [List.isEmpty_iff, List.filter_eq_nil_iff] at hsame
      simpa only [decide_eq_true_eq, not_not] using hsame field hfield
  · rintro ⟨key, value, ⟨hwidth, rfl, ⟨d, query, candidate, hd, hc, hsame⟩, hrelevance, hrationale⟩, hfresh, rfl⟩
    refine ⟨hwidth, ?_⟩
    rw [hd, hc]
    simp only [bind_ok, exists_unit, check_eq_ok, decide_eq_true_eq, Except.ok.injEq]
    refine ⟨hfresh, ?_, value.1, parseRelevance_line hrelevance, value.2,
      parseRationale_ok.mpr (parseRationale_ok.mp hrationale), rfl⟩
    rw [List.isEmpty_iff, List.filter_eq_nil_iff]
    intro field hfield
    simp only [decide_eq_true_eq, not_not]
    exact hsame field hfield

/-! ## Final judgments -/

/-- The decision of a complete sheet's row. -/
theorem Gives.decided {report : AgreementReport} {candidates : List (JudgmentKey × EvaluationQuery F × PooledCandidate)}
    {row : List String} {key : JudgmentKey} {value : ParsedDecision} (h : Gives (m := m) report candidates true row key value) :
    ∃ grade rationale, value = (some grade, some rationale) ∧ grade ≤ 3 ∧ (10 ≤ rationale.length ∧ rationale.length ≤ 1000) ∧
      parseInt? (cellOf row "adjudicated_relevance_0_to_3") = some (grade : Int) := by
  obtain ⟨relevance, rationale⟩ := value
  have hgrade := h.relevance
  unfold parseRelevance at hgrade
  rw [if_neg (by simp only [Bool.not_true, Bool.false_eq_true, and_false, not_false_eq_true])] at hgrade
  split at hgrade
  · cases hgrade
  · rename_i value hvalue
    split at hgrade
    · rename_i hscale
      obtain rfl : some value.toNat = relevance := Except.ok.inj hgrade
      obtain ⟨-, -, hshort, hlong⟩ := parseRationale_ok.mp h.rationale
      cases rationale with
      | none => cases hshort
      | some text =>
        refine ⟨value.toNat, text, rfl, by omega, ⟨of_decide_eq_true hshort, of_decide_eq_true hlong⟩, ?_⟩
        rw [hvalue, Int.toNat_of_nonneg hscale.1]
    · cases hgrade

def sharedRationale : String := "Independent reviewers agreed."

/-- The final judgment of a row, and its decision if there is one. -/
structure Settles (decisions : List (JudgmentKey × ParsedDecision)) (r : ReviewRow F) (c : PooledCandidate) (d : Option Decision) :
    Prop where
  evidence : c.toCandidateEvidence = r.first.toCandidateEvidence
  agreed : r.firstGrade = r.secondGrade → c.relevance = some r.firstGrade ∧ c.rationale = some sharedRationale ∧ d = none
  disputed : r.firstGrade ≠ r.secondGrade → ∃ grade rationale, PyDict.get decisions r.key = some (some grade, some rationale) ∧
    c.relevance = some grade ∧ c.rationale = some rationale ∧
    d = some ⟨r.query.queryId, r.first.documentId, r.first.source, r.firstGrade, r.secondGrade, grade, rationale⟩

theorem finalizeCandidate_ok {first second : CandidatePool m} {decisions : List (JudgmentKey × ParsedDecision)} {r : ReviewRow F}
    {out : PooledCandidate × Option Decision} (hr : Matches first second r)
    (h : finalizeCandidate (firstCandidateLookup first) (firstCandidateLookup second) decisions r.query.queryId r.first = .ok out) :
    Settles decisions r out.1 out.2 := by
  have hfirst := hr.inFirst
  have hsecond := hr.inSecond
  unfold ReviewRow.key at hfirst hsecond
  unfold finalizeCandidate at h
  simp only [hfirst, hsecond, hr.firstGraded, hr.secondGraded, Option.some.injEq] at h
  by_cases hagree : r.firstGrade = r.secondGrade
  · rw [if_pos hagree] at h
    obtain rfl := Except.ok.inj h
    exact ⟨rfl, fun _ => ⟨rfl, rfl, rfl⟩, fun hne => absurd hagree hne⟩
  · rw [if_neg hagree] at h
    split at h
    · rename_i final rationale firstGrade secondGrade hdecision hone hother
      obtain rfl := Option.some.inj hone
      obtain rfl := Option.some.inj hother
      obtain ⟨decision, hd, hout⟩ := bind_ok.mp h
      obtain rfl := Except.ok.inj hout
      exact ⟨rfl, fun hsame => absurd hsame hagree, fun _ =>
        ⟨final, rationale, hdecision, rfl, rfl, congrArg some (construct_val hd)⟩⟩
    · cases h
    · cases h

theorem grade_le {pool : CandidatePool m} {key : JudgmentKey} {query : EvaluationQuery F} {c : PooledCandidate} {grade : Nat}
    (h : PyDict.get (firstCandidateLookup pool) key = some (query, c)) (hgrade : c.relevance = some grade) : grade ≤ 3 := by
  obtain ⟨q, hq, hc, -⟩ := get_firstCandidateLookup.mp h
  obtain ⟨hqueries, -⟩ := CandidatePoolData.validate_ok pool.valid
  obtain ⟨hcandidates, -⟩ := PooledQuery.validate_ok.mp (hqueries q hq)
  have hvalid := hcandidates c hc
  unfold PooledCandidate.validate at hvalid
  simp only [bind_ok, exists_unit, check_eq_ok, hgrade, Option.all_some, decide_eq_true_eq] at hvalid
  exact hvalid.1

/-- The decisions that a complete sheet has for the disputed rows. -/
def Complete (decisions : List (JudgmentKey × ParsedDecision)) (r : ReviewRow F) : Prop :=
  r.firstGrade ≠ r.secondGrade → ∃ grade rationale, PyDict.get decisions r.key = some (some grade, some rationale) ∧ grade ≤ 3 ∧
    10 ≤ rationale.length ∧ rationale.length ≤ 1000

theorem finalizeCandidate_of_complete {first second : CandidatePool m} {decisions : List (JudgmentKey × ParsedDecision)}
    {r : ReviewRow F} (hr : Matches first second r) (hc : Complete decisions r) :
    ∃ out, finalizeCandidate (firstCandidateLookup first) (firstCandidateLookup second) decisions r.query.queryId r.first = .ok out := by
  have hfirst := hr.inFirst
  have hsecond := hr.inSecond
  unfold ReviewRow.key at hfirst hsecond
  unfold finalizeCandidate
  simp only [hfirst, hsecond, hr.firstGraded, hr.secondGraded, Option.some.injEq]
  by_cases hagree : r.firstGrade = r.secondGrade
  · rw [if_pos hagree]
    exact ⟨_, rfl⟩
  · obtain ⟨grade, rationale, hdecision, hgrade, hshort, hlong⟩ := hc hagree
    unfold ReviewRow.key at hdecision
    rw [if_neg hagree, hdecision]
    have hvalid : Decision.validate ⟨r.query.queryId, r.first.documentId, r.first.source, r.firstGrade, r.secondGrade, grade,
        rationale⟩ = .ok () := by
      unfold Decision.validate
      simp only [bind_ok, exists_unit, check_eq_ok, Bool.and_eq_true, decide_eq_true_eq]
      exact ⟨⟨⟨grade_le hr.inFirst hr.firstGraded, grade_le hr.inSecond hr.secondGraded⟩, hgrade⟩, ⟨hshort, hlong⟩, hagree⟩
    exact ⟨_, bind_ok.mpr ⟨_, construct_of_valid hvalid, rfl⟩⟩

/-- A final judgment is in bounds. -/
theorem Settles.bounded {first second : CandidatePool m} {decisions : List (JudgmentKey × ParsedDecision)} {r : ReviewRow F}
    {c : PooledCandidate} {d : Option Decision} (h : Settles decisions r c d) (hr : Matches first second r)
    (hc : Complete decisions r) : c.relevance.isSome = true ∧ c.relevance.all (· ≤ 3) = true ∧
      c.rationale.all (fun text => text.length ≤ 1000) = true := by
  by_cases hagree : r.firstGrade = r.secondGrade
  · obtain ⟨hrelevance, hrationale, -⟩ := h.agreed hagree
    rw [hrelevance, hrationale]
    exact ⟨rfl, decide_eq_true (grade_le hr.inFirst hr.firstGraded), by decide⟩
  · obtain ⟨grade, rationale, hget, hrelevance, hrationale, -⟩ := h.disputed hagree
    obtain ⟨grade', rationale', hget', hle, -, hlong⟩ := hc hagree
    rw [hget] at hget'
    obtain ⟨rfl, rfl⟩ : grade = grade' ∧ rationale = rationale' := by
      simpa only [Option.some.injEq, Prod.mk.injEq] using hget'
    rw [hrelevance, hrationale]
    exact ⟨rfl, decide_eq_true hle, decide_eq_true hlong⟩

/-- The rows of a query of both reviews. -/
abbrev QueryRows (first second : CandidatePool m) (q : PooledQuery F) (rs : List (ReviewRow F)) : Prop :=
  rs.map ReviewRow.first = q.candidates ∧ ∀ r ∈ rs, r.query = q.query ∧ Matches first second r

/-- A query as it is settled, candidate by candidate. -/
def SettlesQuery (decisions : List (JudgmentKey × ParsedDecision)) (rs : List (ReviewRow F)) (final : PooledQuery F × List Decision) :
    Prop :=
  ∃ outs : List (PooledCandidate × Option Decision), List.Forall₂ (fun r out => Settles decisions r out.1 out.2) rs outs ∧
    final.1.candidates = outs.map Prod.fst ∧ final.2 = outs.filterMap Prod.snd

theorem finalizeQuery_ok {first second : CandidatePool m} {decisions : List (JudgmentKey × ParsedDecision)} {q : PooledQuery F}
    {rs : List (ReviewRow F)} (hrows : QueryRows first second q rs) :
    ((∀ r ∈ rs, Complete decisions r) →
      ∃ final, finalizeQuery (firstCandidateLookup first) (firstCandidateLookup second) decisions q = .ok final) ∧
    ∀ final, finalizeQuery (firstCandidateLookup first) (firstCandidateLookup second) decisions q = .ok final →
      SettlesQuery decisions rs final ∧ final.1.capture = q.capture := by
  obtain ⟨hcandidates, hmatches⟩ := hrows
  unfold finalizeQuery
  constructor
  · intro hcomplete
    obtain ⟨finals, hfinals⟩ := exists_mapM (l := q.candidates)
        (f := finalizeCandidate (firstCandidateLookup first) (firstCandidateLookup second) decisions q.query.queryId) fun c hc => by
      rw [← hcandidates] at hc
      obtain ⟨r, hr, rfl⟩ := List.mem_map.mp hc
      rw [← (hmatches r hr).1]
      exact finalizeCandidate_of_complete (hmatches r hr).2 (hcomplete r hr)
    exact ⟨_, bind_ok.mpr ⟨finals, hfinals, rfl⟩⟩
  · intro final h
    obtain ⟨finals, hfinals, hout⟩ := bind_ok.mp h
    obtain rfl := Except.ok.inj hout
    have hall := mapM_ok.mp hfinals
    rw [← hcandidates, List.forall₂_map_left_iff] at hall
    have hsettles : List.Forall₂ (fun r out => Settles decisions r out.1 out.2) rs finals := by
      refine List.forall₂_iff_get.mpr ⟨hall.length_eq, fun i hi hi' => ?_⟩
      obtain ⟨hquery, hmatch⟩ := hmatches _ (List.get_mem rs ⟨i, hi⟩)
      have hfinal := (List.forall₂_iff_get.mp hall).2 i hi hi'
      rw [← hquery] at hfinal
      exact finalizeCandidate_ok hmatch hfinal
    refine ⟨⟨finals, hsettles, rfl, rfl⟩, ?_⟩
    have hevidence : rs.map (fun r => r.first.toCandidateEvidence) = finals.map (fun out => out.1.toCandidateEvidence) :=
      Keyed.map_eq hsettles fun h => h.evidence.symm
    unfold PooledQuery.capture
    rw [← hcandidates, List.map_map, List.map_map]
    exact congrArg (fun candidates => CapturedQuery.mk q.query candidates q.runs) hevidence.symm

theorem disagreementOf_some {r : ReviewRow F} {d : Disagreement} (h : disagreementOf r = some d) :
    r.firstGrade ≠ r.secondGrade ∧ d.key = r.key := by
  unfold disagreementOf at h
  split at h
  · cases h
  · rename_i hdiffer
    rw [← Option.some.inj h]
    exact ⟨hdiffer, rfl⟩

theorem Settles.key_eq {decisions : List (JudgmentKey × ParsedDecision)} {r : ReviewRow F} {c : PooledCandidate} {d : Option Decision}
    (h : Settles decisions r c d) : (disagreementOf r).map Disagreement.key = d.map Decision.key := by
  unfold disagreementOf
  by_cases hagree : r.firstGrade = r.secondGrade
  · rw [if_pos hagree, (h.agreed hagree).2.2]
    rfl
  · obtain ⟨grade, rationale, -, -, -, hd⟩ := h.disputed hagree
    rw [if_neg hagree, hd]
    rfl

/-- The queries of a pool, settled row by row. -/
theorem finals_settled {first second : CandidatePool m} {decisions : List (JudgmentKey × ParsedDecision)}
    {perQuery : List (List (ReviewRow F))} {finals : List (PooledQuery F × List Decision)}
    (hrows : List.Forall₂ (QueryRows first second) first.queries perQuery)
    (h : first.queries.mapM (finalizeQuery (firstCandidateLookup first) (firstCandidateLookup second) decisions) = .ok finals) :
    List.Forall₂ (fun rs final => SettlesQuery decisions rs final ∧ ∀ r ∈ rs, final.1.query = r.query) perQuery finals ∧
      (finals.map Prod.fst).map PooledQuery.capture = first.queries.map PooledQuery.capture := by
  have hboth := Keyed.forall₂_of_both hrows (mapM_ok.mp h)
  constructor
  · refine hboth.imp fun rs final hrs => ?_
    obtain ⟨q, -, hq, hfinal⟩ := hrs
    obtain ⟨hsettles, hcapture⟩ := (finalizeQuery_ok hq).2 final hfinal
    refine ⟨hsettles, fun r hr => ?_⟩
    rw [(hq.2 r hr).1]
    exact congrArg CapturedQuery.query hcapture
  · rw [List.map_map]
    refine map_of_mapM h fun q hq final hfinal => ?_
    obtain ⟨rs, -, hqrs⟩ := Keyed.exists_right hrows hq
    exact ((finalizeQuery_ok hqrs).2 final hfinal).2

theorem records_keys {decisions : List (JudgmentKey × ParsedDecision)} {perQuery : List (List (ReviewRow F))}
    {finals : List (PooledQuery F × List Decision)} {P : List (ReviewRow F) → PooledQuery F × List Decision → Prop}
    (h : List.Forall₂ (fun rs final => SettlesQuery decisions rs final ∧ P rs final) perQuery finals) :
    (finals.flatMap Prod.snd).map Decision.key = (perQuery.flatten.filterMap disagreementOf).map Disagreement.key := by
  rw [List.map_flatMap, List.filterMap_flatten, List.map_flatten, List.map_map, ← List.flatMap_def]
  refine (Keyed.flatMap_eq h fun {rs final} hrs => ?_).symm
  obtain ⟨⟨outs, houts, -, hrecords⟩, -⟩ := hrs
  rw [hrecords, Function.comp_apply, List.map_filterMap, List.map_filterMap]
  exact Keyed.filterMap_eq houts fun hsettles => hsettles.key_eq

/-! ## Reports -/

/-- What is in an accepted agreement report. -/
structure Reports (first second : FirstPass m) (capture : String) (rows : List (ReviewRow F)) (r : AgreementReport) : Prop where
  firstReview : r.firstReview = first.identity
  secondReview : r.secondReview = second.identity
  capture : r.captureSha256 = capture
  poolId : r.poolId = first.pool.poolId
  judgments : r.overall.judgmentCount = rows.length
  agreements : r.overall.agreementCount = rows.countP (fun row => row.firstGrade = row.secondGrade)
  disagreements : r.disagreements = (rows.filterMap disagreementOf).insertionSort fun a b => keyLe a.key b.key
  observed : betweenInts 0 r.overall.observedAgreement 1 = true
  kappa : r.overall.cohenKappa.all (fun kappa => betweenInts (-1) kappa 1) = true
  valid : r.validate m.casefold = .ok ()

theorem complete_of_sheet {first second : FirstPass m} {capture : String} {rows : List (ReviewRow F)} {report : AgreementReport}
    {candidates : List (JudgmentKey × EvaluationQuery F × PooledCandidate)} {sheetRows : List (List String)}
    {decisions : List (JudgmentKey × ParsedDecision)} (hreport : Reports first second capture rows report)
    (hgives : List.Forall₂ (fun row item => Gives (m := m) report candidates true row item.1 item.2) sheetRows decisions)
    (hnodup : (decisions.map Prod.fst).Nodup) (hall : ∀ d ∈ report.disagreements, d.key ∈ decisions.map Prod.fst) :
    ∀ r ∈ rows, Complete decisions r := by
  intro r hr hdiffer
  have hd : disagreementOf r = some ⟨r.query.queryId, r.first.documentId, r.first.source, r.firstGrade, r.first.rationale,
      r.secondGrade, r.second.rationale⟩ := if_neg hdiffer
  have hmem := hall _ (by
    rw [hreport.disagreements, List.mem_insertionSort]
    exact List.mem_filterMap.mpr ⟨r, hr, hd⟩)
  rw [(disagreementOf_some hd).2] at hmem
  obtain ⟨⟨key, value⟩, hitem, rfl⟩ := List.mem_map.mp hmem
  obtain ⟨row, -, hrow⟩ := Keyed.exists_left hgives hitem
  obtain ⟨grade, rationale, hvalue, hgrade, ⟨hshort, hlong⟩, -⟩ := hrow.decided
  refine ⟨grade, rationale, ?_, hgrade, hshort, hlong⟩
  rw [PyDict.get_eq_some hnodup, ← hvalue]
  exact hitem

/-! ## The final pool -/

theorem reviewer_normal {pool : CandidatePool m} {name : String} (h : pool.reviewer = some name) :
    normalizeText name = name ∧ name.length ≤ 200 ∧ name ≠ "" := by
  obtain ⟨-, -, -, hshort, hnamed, -⟩ := CandidatePoolData.validate_ok pool.valid
  have hnormal := congrArg CandidatePoolData.reviewer pool.normalized
  have hmap : pool.reviewer.map normalizeText = pool.reviewer := hnormal
  rw [h] at hmap hshort hnamed
  exact ⟨Option.some.inj hmap, of_decide_eq_true hshort, of_decide_eq_true hnamed⟩

/-- Who can adjudicate two reviews. -/
structure MayAdjudicate (first second : CandidatePool m) (adjudicator : String) (finalizedAt : Datetime) : Prop where
  named : normalizeText adjudicator ≠ ""
  short : (normalizeText adjudicator).length ≤ 200
  independent : ∀ reviewer, first.reviewer = some reviewer ∨ second.reviewer = some reviewer →
    m.casefold (normalizeText adjudicator) ≠ m.casefold reviewer
  aware : finalizedAt.utcoffset.isSome = true

theorem Reports.fields {first second : FirstPass m} {capture : String} {rows : List (ReviewRow F)} {r : AgreementReport}
    (h : Reports first second capture rows r) : (1 ≤ r.reportId.length && decide (r.reportId.length ≤ 240)) = true ∧
      matchesSha256 r.captureSha256 = true ∧ r.firstReview.validate = .ok () ∧ r.secondReview.validate = .ok () ∧
      (r.disagreements.map Disagreement.key = (r.disagreements.map Disagreement.key).insertionSort (fun a b => keyLe a b) ∧
        (r.disagreements.map Disagreement.key).Nodup) := by
  have hvalid := h.valid
  unfold AgreementReport.validate at hvalid
  simp only [bind_ok, exists_unit, check_eq_ok, Bool.and_eq_true, decide_eq_true_eq] at hvalid
  obtain ⟨⟨hid, hid'⟩, hhash, hfirst, hsecond, -, -, -, -, hkeys, -⟩ := hvalid
  refine ⟨?_, hhash, hfirst, hsecond, hkeys⟩
  rw [Bool.and_eq_true, decide_eq_true_eq, decide_eq_true_eq]
  exact ⟨hid, hid'⟩

theorem provenance_valid {first second : FirstPass m} {capture : String} {rows : List (ReviewRow F)} {agreement : AgreementReport}
    {adjudicator : String} {finalizedAt : Datetime} (hi : Independent first second capture)
    (hreport : Reports first second capture rows agreement) (hmay : MayAdjudicate first.pool second.pool adjudicator finalizedAt)
    (records : List Decision) :
    (provenanceOf agreement (normalizeText adjudicator) finalizedAt records).normalize =
        provenanceOf agreement (normalizeText adjudicator) finalizedAt records ∧
      (provenanceOf agreement (normalizeText adjudicator) finalizedAt records).validate m.casefold = .ok () := by
  obtain ⟨hnormal, hshort, hnamed⟩ := reviewer_normal hi.firstNamed
  obtain ⟨hnormal', hshort', hnamed'⟩ := reviewer_normal hi.secondNamed
  constructor
  · unfold provenanceOf AdjudicationProvenance.normalize
    simp only [hreport.firstReview, hreport.secondReview, FirstPass.identity, hnormal, hnormal', normalizeText_idem]
  · unfold AdjudicationProvenance.validate provenanceOf
    simp only [bind_ok, exists_unit, check_eq_ok, hreport.firstReview, hreport.secondReview, FirstPass.identity, hreport.observed,
      hreport.kappa, hreport.fields.1, hi.ordered, Bool.and_eq_true, decide_eq_true_eq, Bool.not_false, true_and,
      List.mem_cons, List.not_mem_nil, or_false, not_or]
    refine ⟨⟨?_, hmay.short⟩, ⟨hnamed, hnamed'⟩, ⟨hshort, hshort'⟩, hi.distinct, ⟨matchesSha256_val _, matchesSha256_val _⟩, hmay.named,
      ⟨hmay.independent _ (.inl hi.firstNamed), hmay.independent _ (.inr hi.secondNamed)⟩, hmay.aware⟩
    exact Nat.one_le_iff_ne_zero.mpr fun hzero => hmay.named (String.length_eq_zero_iff.mp hzero)

/-- What the final judgments of a pool say. -/
theorem finals_judged {first second : FirstPass m} {decisions : List (JudgmentKey × ParsedDecision)}
    {perQuery : List (List (ReviewRow F))} {finals : List (PooledQuery F × List Decision)}
    (hrows : List.Forall₂ (QueryRows first.pool second.pool) first.pool.queries perQuery)
    (hcomplete : ∀ r ∈ perQuery.flatten, Complete decisions r)
    (h : first.pool.queries.mapM (finalizeQuery (firstCandidateLookup first.pool) (firstCandidateLookup second.pool) decisions) =
      .ok finals) :
    ∀ c ∈ (finals.map Prod.fst).flatMap PooledQuery.candidates, c.relevance.isSome = true ∧ c.relevance.all (· ≤ 3) = true ∧
      c.rationale.all (fun text => text.length ≤ 1000) = true := by
  intro c hc
  obtain ⟨hsettled, -⟩ := finals_settled hrows h
  obtain ⟨q, hq, hcq⟩ := List.mem_flatMap.mp hc
  obtain ⟨final, hfinal, rfl⟩ := List.mem_map.mp hq
  obtain ⟨rs, hrs, ⟨outs, houts, hcandidates, -⟩, -⟩ := Keyed.exists_left hsettled hfinal
  rw [hcandidates] at hcq
  obtain ⟨out, hout, rfl⟩ := List.mem_map.mp hcq
  obtain ⟨r, hr, hsettles⟩ := Keyed.exists_left houts hout
  obtain ⟨q', -, hqrs⟩ := Keyed.exists_left hrows hrs
  exact hsettles.bounded (hqrs.2 r hr).2 (hcomplete r (List.mem_flatten_of_mem hrs hr))

theorem finalData_valid {first second : FirstPass m} {capture : String} {rows : List (ReviewRow F)} {agreement : AgreementReport}
    {adjudicator : String} {finalizedAt : Datetime} {queries : List (PooledQuery F)} (hi : Independent first second capture)
    (hreport : Reports first second capture rows agreement) (hmay : MayAdjudicate first.pool second.pool adjudicator finalizedAt)
    (hcapture : queries.map PooledQuery.capture = first.pool.queries.map PooledQuery.capture)
    (hjudged : ∀ c ∈ queries.flatMap PooledQuery.candidates, c.relevance.isSome = true ∧ c.relevance.all (· ≤ 3) = true ∧
      c.rationale.all (fun text => text.length ≤ 1000) = true) (records : List Decision) :
    (finalData first.pool queries (normalizeText adjudicator) finalizedAt
        (provenanceOf agreement (normalizeText adjudicator) finalizedAt records)).normalize =
      finalData first.pool queries (normalizeText adjudicator) finalizedAt
        (provenanceOf agreement (normalizeText adjudicator) finalizedAt records) ∧
    (finalData first.pool queries (normalizeText adjudicator) finalizedAt
        (provenanceOf agreement (normalizeText adjudicator) finalizedAt records)).validate m = .ok () := by
  obtain ⟨hnormal, hvalid⟩ := provenance_valid hi hreport hmay records
  constructor
  · unfold finalData CandidatePoolData.normalize
    simp only [Option.map_some, normalizeText_idem, hnormal]
  · refine CandidatePoolData.validate_rejudged first.pool.valid rfl hcapture ⟨?_, ?_⟩ (fun c hc => (hjudged c hc).2) ?_ ?_
    · exact decide_eq_true hmay.short
    · exact decide_eq_true hmay.named
    · unfold CandidatePoolData.checkReview finalData
      simp only [hi.firstReviewed, bind_ok, exists_unit, check_eq_ok, Option.any_some, decide_eq_true_eq, Bool.and_eq_true,
        Option.isSome_some, and_true]
      exact ⟨hmay.named, List.all_eq_true.mpr fun c hc => (hjudged c hc).1⟩
    · unfold CandidatePoolData.checkAdjudication finalData
      simp only [hi.firstReviewed, bind_ok, exists_unit, check_eq_ok]
      refine ⟨hvalid, rfl, rfl, decide_eq_true rfl, ?_⟩
      unfold provenanceOf sameTime
      simp only [Option.any_some, decide_true, Bool.and_self]

theorem length_disputed (rows : List (ReviewRow F)) :
    rows.countP (fun row => row.firstGrade = row.secondGrade) + (rows.filterMap disagreementOf).length = rows.length := by
  induction rows with
  | nil => rfl
  | cons r rows ih =>
    rw [List.countP_cons, List.filterMap_cons, List.length_cons]
    unfold disagreementOf at ih ⊢
    by_cases hagree : r.firstGrade = r.secondGrade
    · simp only [hagree, decide_true, if_true]
      omega
    · simp only [hagree, decide_false, Bool.false_eq_true, if_false, List.length_cons]
      omega

theorem reportOf_valid {first second : FirstPass m} {capture : String} {rows : List (ReviewRow F)} {agreement : AgreementReport}
    {adjudicator : String} {finalizedAt : Datetime} {pool : CandidatePool m} {records : List Decision} (hi : Independent first second capture)
    (hreport : Reports first second capture rows agreement) (hmay : MayAdjudicate first.pool second.pool adjudicator finalizedAt)
    (hne : rows ≠ []) (hrecords : records.map Decision.key = (rows.filterMap disagreementOf).map Disagreement.key) :
    (reportOf agreement pool (normalizeText adjudicator) finalizedAt records).validate m.casefold = .ok () := by
  obtain ⟨hid, hhash, hfirst, hsecond, hsorted, hnodup⟩ := hreport.fields
  rw [hreport.firstReview, FirstPass.identity] at hfirst
  rw [hreport.secondReview, FirstPass.identity] at hsecond
  obtain ⟨-, -, hslug, -⟩ := CandidatePoolData.validate_ok pool.valid
  have hslug' := length_of_matchesSlug hslug
  have hdigest := length_digestPrefix_le 12 pool.sha256
  have hlead : "-adjudication-".length = 14 := by decide
  have hadjudicator : 1 ≤ (normalizeText adjudicator).length :=
    Nat.one_le_iff_ne_zero.mpr fun hzero => hmay.named (String.length_eq_zero_iff.mp hzero)
  have hrows : 1 ≤ rows.length := Nat.one_le_iff_ne_zero.mpr fun hzero => hne (List.length_eq_zero_iff.mp hzero)
  have hcount : records.length = (rows.filterMap disagreementOf).length := by
    have hlength := congrArg List.length hrecords
    rwa [List.length_map, List.length_map] at hlength
  have htotal := length_disputed rows
  have hkeys : (records.insertionSort fun a b => keyLe a.key b.key).map Decision.key = agreement.disagreements.map Disagreement.key := by
    rw [hreport.disagreements, List.map_insertionSort _ (fun a b => keyLe a b) _ _ fun _ _ _ _ => Iff.rfl, hrecords,
      List.map_insertionSort _ (fun a b => keyLe a b) _ _ fun _ _ _ _ => Iff.rfl]
  unfold AdjudicationReport.validate reportOf
  simp only [bind_ok, exists_unit, check_eq_ok, hkeys, hid, hhash, hfirst, hsecond, hreport.judgments, hreport.agreements,
    hreport.firstReview, hreport.secondReview, FirstPass.identity, hi.ordered, normalizeText_idem, Bool.and_eq_true,
    decide_eq_true_eq, Bool.not_false, true_and, List.length_insertionSort, List.mem_cons, List.not_mem_nil, or_false, not_or,
    String.length_append]
  exact ⟨⟨by omega, by omega⟩, matchesSha256_val _, ⟨hadjudicator, hmay.short⟩, hmay.named, hrows, hmay.aware,
    ⟨hmay.independent _ (.inl hi.firstNamed), hmay.independent _ (.inr hi.secondNamed)⟩, by omega, hsorted, hnodup⟩

/-! ## Adjudication -/

/-- The grade of a judgment in a pool. -/
def gradeOf (pool : CandidatePool m) (key : JudgmentKey) : Option Nat :=
  (PyDict.get (firstCandidateLookup pool) key).bind fun item => item.2.relevance

/-- The final pool beside the two reviews: the captured evidence, the shared
grades, and the grades of the sheet on the disagreements. -/
structure Preserves (first second pool : CandidatePool m) (agreement : AgreementReport) (report : AdjudicationReport)
    (sheetRows : List (List String)) : Prop where
  sameCapture : pool.capture = first.capture ∨ pool.capture = second.capture
  firstCapture : retrievalCaptureSha256 pool = retrievalCaptureSha256 first
  secondCapture : retrievalCaptureSha256 pool = retrievalCaptureSha256 second
  firstKeys : ∀ key, key ∈ keysOf pool ↔ key ∈ keysOf first
  secondKeys : ∀ key, key ∈ keysOf pool ↔ key ∈ keysOf second
  graded : ∀ key ∈ keysOf pool, (gradeOf first key).isSome ∧ (gradeOf second key).isSome ∧ (gradeOf pool key).isSome
  agreed : ∀ key ∈ keysOf pool, gradeOf first key = gradeOf second key → gradeOf pool key = gradeOf first key
  disputed : ∀ key ∈ keysOf pool, gradeOf first key ≠ gradeOf second key → ∃ row ∈ sheetRows, rowKey row = key ∧
    parseInt? (cellOf row "adjudicated_relevance_0_to_3") = (gradeOf pool key).map Int.ofNat
  disagreements : ∀ key, key ∈ agreement.disagreements.map Disagreement.key ↔
    key ∈ keysOf pool ∧ gradeOf first key ≠ gradeOf second key
  decidedOnce : (sheetRows.map rowKey).Perm (agreement.disagreements.map Disagreement.key) ∧ (sheetRows.map rowKey).Nodup
  recorded : report.decisions.map Decision.key = agreement.disagreements.map Disagreement.key
  records : ∀ d ∈ report.decisions, gradeOf pool d.key = some d.adjudicatedRelevance

theorem Preserves.swap {first second pool : CandidatePool m} {agreement : AgreementReport} {report : AdjudicationReport}
    {sheetRows : List (List String)} (h : Preserves first second pool agreement report sheetRows) :
    Preserves second first pool agreement report sheetRows where
  sameCapture := h.sameCapture.symm
  firstCapture := h.secondCapture
  secondCapture := h.firstCapture
  firstKeys := h.secondKeys
  secondKeys := h.firstKeys
  graded := fun key hkey => ⟨(h.graded key hkey).2.1, (h.graded key hkey).1, (h.graded key hkey).2.2⟩
  agreed := fun key hkey hsame => (h.agreed key hkey hsame.symm).trans hsame.symm
  disputed := fun key hkey hdiffer => h.disputed key hkey hdiffer.symm
  disagreements := fun key => by rw [h.disagreements key, ne_comm]
  decidedOnce := h.decidedOnce
  recorded := h.recorded
  records := h.records

theorem gradeOf_eq {pool : CandidatePool m} {key : JudgmentKey} {query : EvaluationQuery F} {c : PooledCandidate}
    (h : PyDict.get (firstCandidateLookup pool) key = some (query, c)) : gradeOf pool key = c.relevance := by
  unfold gradeOf
  rw [h, Option.bind_some]

theorem mem_keysOf_of_get {pool : CandidatePool m} {key : JudgmentKey} {query : EvaluationQuery F} {c : PooledCandidate}
    (h : PyDict.get (firstCandidateLookup pool) key = some (query, c)) : key ∈ keysOf pool := by
  obtain ⟨q, hq, hc, -, hkey⟩ := get_firstCandidateLookup.mp h
  exact mem_keysOf.mpr ⟨q, hq, c, hc, hkey⟩

/-- The judgments of a pool are those of what was captured. -/
theorem mem_keysOf_capture {pool pool' : CandidatePool m}
    (h : pool.queries.map PooledQuery.capture = pool'.queries.map PooledQuery.capture) {key : JudgmentKey} (hkey : key ∈ keysOf pool) :
    key ∈ keysOf pool' := by
  obtain ⟨q, hq, c, hc, rfl⟩ := mem_keysOf.mp hkey
  have hmem : q.capture ∈ pool'.queries.map PooledQuery.capture := h ▸ List.mem_map_of_mem hq
  obtain ⟨q', hq', hsame⟩ := List.mem_map.mp hmem
  have hcandidates : q'.candidates.map (·.toCandidateEvidence) = q.candidates.map (·.toCandidateEvidence) :=
    congrArg CapturedQuery.candidates hsame
  have hquery : q'.query = q.query := congrArg CapturedQuery.query hsame
  have hevidence : c.toCandidateEvidence ∈ q'.candidates.map (·.toCandidateEvidence) := by
    rw [hcandidates]
    exact List.mem_map_of_mem hc
  obtain ⟨c', hc', heq⟩ := List.mem_map.mp hevidence
  refine mem_keysOf.mpr ⟨q', hq', c', hc', ?_⟩
  rw [hquery, heq]

theorem mem_keysOf_rows {first second : CandidatePool m} {perQuery : List (List (ReviewRow F))}
    (hrows : List.Forall₂ (QueryRows first second) first.queries perQuery) {key : JudgmentKey} (hkey : key ∈ keysOf first) :
    ∃ r ∈ perQuery.flatten, r.key = key := by
  obtain ⟨q, hq, c, hc, rfl⟩ := mem_keysOf.mp hkey
  obtain ⟨rs, hrs, hcandidates, hmatches⟩ := Keyed.exists_right hrows hq
  rw [← hcandidates] at hc
  obtain ⟨r, hr, rfl⟩ := List.mem_map.mp hc
  refine ⟨r, List.mem_flatten_of_mem hrs hr, ?_⟩
  rw [ReviewRow.key, (hmatches r hr).1]

theorem matches_of_mem {first second : CandidatePool m} {perQuery : List (List (ReviewRow F))}
    (hrows : List.Forall₂ (QueryRows first second) first.queries perQuery) {r : ReviewRow F} (hr : r ∈ perQuery.flatten) :
    Matches first second r := by
  obtain ⟨rs, hrs, hmem⟩ := List.mem_flatten.mp hr
  obtain ⟨q, -, hq⟩ := Keyed.exists_left hrows hrs
  exact (hq.2 r hmem).2

section
variable {first second : CandidatePool m} {decisions : List (JudgmentKey × ParsedDecision)} {perQuery : List (List (ReviewRow F))}
  {finals : List (PooledQuery F × List Decision)} {pool : CandidatePool m}

theorem get_settled {r : ReviewRow F} {final : PooledQuery F × List Decision} {c : PooledCandidate} {d : Option Decision}
    (hpool : pool.queries = finals.map Prod.fst) (hfinal : final ∈ finals) (hquery : final.1.query = r.query)
    (hc : c ∈ final.1.candidates) (h : Settles decisions r c d) :
    PyDict.get (firstCandidateLookup pool) r.key = some (r.query, c) := by
  refine get_firstCandidateLookup.mpr ⟨final.1, hpool ▸ List.mem_map_of_mem hfinal, hc, hquery, ?_⟩
  rw [ReviewRow.key, hquery]
  exact congrArg (Prod.mk _) (congrArg CandidateEvidence.documentId h.evidence)

theorem settled_row (hpool : pool.queries = finals.map Prod.fst)
    (h : List.Forall₂ (fun rs final => SettlesQuery decisions rs final ∧ ∀ r ∈ rs, final.1.query = r.query) perQuery finals)
    {r : ReviewRow F} (hr : r ∈ perQuery.flatten) :
    ∃ c d, Settles decisions r c d ∧ PyDict.get (firstCandidateLookup pool) r.key = some (r.query, c) := by
  obtain ⟨rs, hrs, hmem⟩ := List.mem_flatten.mp hr
  obtain ⟨final, hfinal, ⟨outs, houts, hcandidates, -⟩, hquery⟩ := Keyed.exists_right h hrs
  obtain ⟨out, hout, hsettles⟩ := Keyed.exists_right houts hmem
  exact ⟨out.1, out.2, hsettles,
    get_settled hpool hfinal (hquery r hmem) (hcandidates ▸ List.mem_map_of_mem hout) hsettles⟩

theorem settled_record (hpool : pool.queries = finals.map Prod.fst)
    (h : List.Forall₂ (fun rs final => SettlesQuery decisions rs final ∧ ∀ r ∈ rs, final.1.query = r.query) perQuery finals)
    {d : Decision} (hd : d ∈ finals.flatMap Prod.snd) : ∃ r ∈ perQuery.flatten, ∃ c, Settles decisions r c (some d) ∧
      PyDict.get (firstCandidateLookup pool) r.key = some (r.query, c) := by
  obtain ⟨final, hfinal, hdf⟩ := List.mem_flatMap.mp hd
  obtain ⟨rs, hrs, ⟨outs, houts, hcandidates, hrecords⟩, hquery⟩ := Keyed.exists_left h hfinal
  rw [hrecords] at hdf
  obtain ⟨out, hout, hsome⟩ := List.mem_filterMap.mp hdf
  obtain ⟨r, hr, hsettles⟩ := Keyed.exists_left houts hout
  rw [hsome] at hsettles
  exact ⟨r, List.mem_flatten_of_mem hrs hr, out.1, hsettles,
    get_settled hpool hfinal (hquery r hr) (hcandidates ▸ List.mem_map_of_mem hout) hsettles⟩

end

theorem mem_disagreements {first second : FirstPass m} {capture : String} {rows : List (ReviewRow F)} {agreement : AgreementReport}
    (h : Reports first second capture rows agreement) {key : JudgmentKey} :
    key ∈ agreement.disagreements.map Disagreement.key ↔ ∃ r ∈ rows, r.key = key ∧ r.firstGrade ≠ r.secondGrade := by
  rw [h.disagreements, ((List.perm_insertionSort _ _).map Disagreement.key).mem_iff, List.mem_map]
  constructor
  · rintro ⟨d, hd, rfl⟩
    obtain ⟨r, hr, hsome⟩ := List.mem_filterMap.mp hd
    obtain ⟨hdiffer, hkey⟩ := disagreementOf_some hsome
    exact ⟨r, hr, hkey.symm, hdiffer⟩
  · rintro ⟨r, hr, rfl, hdiffer⟩
    exact ⟨_, List.mem_filterMap.mpr ⟨r, hr, if_neg hdiffer⟩, rfl⟩

/-- The rows of a sheet decide the disagreements, each of them once. -/
theorem sheet_decides {report : AgreementReport} {candidates : List (JudgmentKey × EvaluationQuery F × PooledCandidate)}
    {sheetRows : List (List String)} {decisions : List (JudgmentKey × ParsedDecision)}
    (hdisputes : (report.disagreements.map Disagreement.key).Nodup)
    (hgives : List.Forall₂ (fun row item => Gives (m := m) report candidates true row item.1 item.2) sheetRows decisions)
    (hnodup : (decisions.map Prod.fst).Nodup) (hall : ∀ d ∈ report.disagreements, d.key ∈ decisions.map Prod.fst) :
    (sheetRows.map rowKey).Perm (report.disagreements.map Disagreement.key) ∧ (sheetRows.map rowKey).Nodup := by
  have hkeys : sheetRows.map rowKey = decisions.map Prod.fst := Keyed.map_eq hgives fun h => h.named
  rw [hkeys]
  refine ⟨(List.perm_ext_iff_of_nodup hnodup hdisputes).mpr fun key => ⟨fun hkey => ?_, fun hkey => ?_⟩, hnodup⟩
  · obtain ⟨item, hitem, rfl⟩ := List.mem_map.mp hkey
    obtain ⟨row, -, hrow⟩ := Keyed.exists_left hgives hitem
    obtain ⟨d, -, -, hd, -⟩ := hrow.known
    obtain ⟨d', hd', hkey', -⟩ := mem_of_get_ofItems hd
    exact List.mem_map.mpr ⟨d', hd', hkey'⟩
  · obtain ⟨d, hd, rfl⟩ := List.mem_map.mp hkey
    exact hall d hd

theorem mayAdjudicate_swap {first second : CandidatePool m} {adjudicator : String} {finalizedAt : Datetime}
    (h : MayAdjudicate first second adjudicator finalizedAt) : MayAdjudicate second first adjudicator finalizedAt :=
  ⟨h.named, h.short, fun reviewer hr => h.independent reviewer hr.symm, h.aware⟩

theorem finalizeQuery_perm {first second : List (JudgmentKey × EvaluationQuery F × PooledCandidate)}
    {decisions decisions' : List (JudgmentKey × ParsedDecision)} (hnodup : (decisions.map Prod.fst).Nodup)
    (hperm : decisions'.Perm decisions) : finalizeQuery first second decisions' = finalizeQuery first second decisions := by
  have hget : PyDict.get decisions' = PyDict.get decisions := funext fun key => PyDict.get_perm hnodup hperm key
  unfold finalizeQuery finalizeCandidate
  rw [hget]

section
variable [DecidableEq F]

/-! ## Reports and sheets -/

theorem queryRows_ok {first second : CandidatePool m} {q : PooledQuery F} {rs : List (ReviewRow F)} (hq : q ∈ first.queries)
    (h : queryRows (PyDict.ofItems (second.queries.map fun q => (q.query.queryId, q))) q = .ok rs) :
    QueryRows first second q rs ∧ ∃ other ∈ second.queries, other.query.queryId = q.query.queryId ∧
      ∀ c ∈ other.candidates, ∃ r ∈ rs, r.key = (other.query.queryId, c.documentId) := by
  unfold queryRows at h
  split at h
  · cases h
  · rename_i other hother
    obtain ⟨other', hmem, hid, rfl⟩ := mem_of_get_ofItems hother
    simp only [bind_ok, exists_unit, check_eq_ok, decide_eq_true_eq] at h
    obtain ⟨hquery, hset, hrows⟩ := h
    have hfirst : rs.map ReviewRow.first = q.candidates.map id := map_of_mapM hrows fun c _ r hr => (candidateRow_ok hr).2.1
    rw [List.map_id] at hfirst
    have hmatches : ∀ r ∈ rs, r.query = q.query ∧ Matches first second r := by
      intro r hr
      obtain ⟨c, hc, hrow⟩ := (mem_mapM hrows).1 r hr
      obtain ⟨hrq, hrc, hget, hevidence, hgrade, hgrade'⟩ := candidateRow_ok hrow
      obtain ⟨c', hc', hdocument, rfl⟩ := mem_of_get_ofItems hget
      rw [← hrc] at hevidence hgrade hc hdocument
      refine ⟨hrq, get_firstCandidateLookup.mpr ⟨q, hq, hc, hrq.symm, ?_⟩,
        get_firstCandidateLookup.mpr ⟨other', hmem, hc', hquery.symm.trans hrq.symm, ?_⟩, hevidence, hgrade, hgrade'⟩
      · rw [ReviewRow.key, hrq]
      · rw [ReviewRow.key, hrq, hdocument, hquery]
    refine ⟨⟨hfirst, hmatches⟩, other', hmem, hid, fun c hc => ?_⟩
    have hdocument := (sameSet_iff.mp hset c.documentId).mp (List.mem_map_of_mem hc)
    rw [← hfirst, List.map_map] at hdocument
    obtain ⟨r, hr, hrc⟩ := List.mem_map.mp hdocument
    refine ⟨r, hr, ?_⟩
    rw [ReviewRow.key, (hmatches r hr).1, hid]
    exact congrArg (Prod.mk _) hrc

/-- The rows of two reviews: all the judgments of the one and of the other. -/
theorem candidateRows_ok {first second : CandidatePool m} {rows : List (ReviewRow F)} (h : candidateRows first second = .ok rows) :
    (∃ perQuery : List (List (ReviewRow F)), rows = perQuery.flatten ∧
      List.Forall₂ (QueryRows first second) first.queries perQuery) ∧
    ∀ key, key ∈ keysOf second → ∃ r ∈ rows, r.key = key := by
  unfold candidateRows at h
  simp only [bind_ok, exists_unit, check_eq_ok, Except.ok.injEq] at h
  obtain ⟨hset, perQuery, hrows, -, rfl⟩ := h
  constructor
  · have hall := mapM_ok.mp hrows
    refine ⟨perQuery, rfl, List.forall₂_iff_get.mpr ⟨hall.length_eq, fun i hi hi' => ?_⟩⟩
    exact (queryRows_ok (List.get_mem _ _) ((List.forall₂_iff_get.mp hall).2 i hi hi')).1
  · intro key hkey
    obtain ⟨q', hq', c', hc', rfl⟩ := mem_keysOf.mp hkey
    have hid := (sameSet_iff.mp hset q'.query.queryId).mp (List.mem_map_of_mem hq')
    obtain ⟨q, hq, hsame⟩ := List.mem_map.mp hid
    obtain ⟨rs, hrs, hqueryRows⟩ := (mem_mapM hrows).2 q hq
    obtain ⟨-, other, hother, hotherId, hcovers⟩ := queryRows_ok hq hqueryRows
    obtain ⟨-, hids, -⟩ := CandidatePoolData.validate_ok second.valid
    obtain rfl : other = q' := List.inj_on_of_nodup_map hids hother hq' (hotherId.trans hsame)
    obtain ⟨r, hr, hrkey⟩ := hcovers c' hc'
    exact ⟨r, List.mem_flatten_of_mem hrs hr, hrkey⟩

theorem compare_ok {now : Datetime} {first second : CandidatePool m} {pair : FirstPass m × FirstPass m} {capture : String}
    {r : AgreementReport} (hpair : canonicalReviews first second = .ok (pair, capture))
    (h : compareIndependentRetrievalReviews now first second = .ok r) :
    ∃ rows, candidateRows pair.1.pool pair.2.pool = .ok rows ∧ Reports pair.1 pair.2 capture rows r := by
  unfold compareIndependentRetrievalReviews at h
  simp only [bind_ok, hpair, Except.ok.injEq, Prod.exists, Prod.mk.injEq] at h
  obtain ⟨first', second', capture', ⟨rfl, rfl⟩, rows, hrows, overall, hoverall, queries, hqueries, slices, hslices,
    sources, hsources, report, hreport, rfl⟩ := h
  obtain ⟨hcount, hagree, -, hmetrics⟩ := agreementMetrics_ok hoverall
  obtain ⟨hobserved, hkappa⟩ := AgreementMetrics.bounds_of_valid hmetrics
  refine ⟨rows, hrows, ?_⟩
  have hvalid := report.2
  rw [construct_val hreport] at hvalid ⊢
  refine ⟨rfl, rfl, rfl, rfl, ?_, ?_, rfl, hobserved, hkappa, hvalid⟩
  · rw [hcount, List.length_map]
  · rw [hagree, List.countP_map]
    rfl

theorem compare_swap {now : Datetime} {first second : CandidatePool m} {pair : (FirstPass m × FirstPass m) × String}
    (h : canonicalReviews first second = .ok pair) :
    compareIndependentRetrievalReviews now second first = compareIndependentRetrievalReviews now first second := by
  unfold compareIndependentRetrievalReviews
  rw [h, canonicalReviews_swap h]

theorem parseAdjudicationRows_ok {now : Datetime} {first second : CandidatePool m} {pair : FirstPass m × FirstPass m} {capture : String}
    {text : String} {complete : Bool} {rows : List (List String)} {decisions : List (JudgmentKey × ParsedDecision)}
    (hpair : canonicalReviews first second = .ok (pair, capture)) :
    parseAdjudicationRows now first second text complete = .ok (rows, decisions) ↔
      ∃ report, compareIndependentRetrievalReviews now first second = .ok report ∧
        Csv.dictReader text = .ok ⟨adjudicationColumns, rows⟩ ∧
        List.Forall₂ (fun row item => Gives (m := m) report (firstCandidateLookup pair.1.pool) complete row item.1 item.2) rows decisions ∧
        (decisions.map Prod.fst).Nodup ∧ ∀ d ∈ report.disagreements, d.key ∈ decisions.map Prod.fst := by
  have hcompare : compareIndependentRetrievalReviews now pair.1.pool pair.2.pool = compareIndependentRetrievalReviews now first second := by
    unfold compareIndependentRetrievalReviews
    rw [hpair, canonicalReviews_again hpair]
  unfold parseAdjudicationRows
  simp only [bind_ok, hpair, Except.ok.injEq, exists_eq_left', hcompare, exists_unit, check_eq_ok, decide_eq_true_eq, Prod.mk.injEq,
    Keyed.readRows_nil (readAdjudicationRow_reads _ _ _)]
  constructor
  · rintro ⟨report, hreport, ⟨fieldnames, rows'⟩, hsheet, rfl, decisions', ⟨hgives, hnodup⟩, hmissing, rfl, rfl⟩
    refine ⟨report, hreport, hsheet, hgives, hnodup, fun d hd => ?_⟩
    rw [List.isEmpty_iff, List.filter_eq_nil_iff] at hmissing
    simpa only [decide_eq_true_eq, not_not] using hmissing d hd
  · rintro ⟨report, hreport, hsheet, hgives, hnodup, hmissing⟩
    refine ⟨report, hreport, _, hsheet, rfl, decisions, ⟨hgives, hnodup⟩, ?_, rfl, rfl⟩
    rw [List.isEmpty_iff, List.filter_eq_nil_iff]
    intro d hd
    simp only [decide_eq_true_eq, not_not]
    exact hmissing d hd

/-! ## Main theorem -/

theorem preserves_of_settled {first second : FirstPass m} {capture : String} {rows : List (ReviewRow F)}
    {agreement : AgreementReport} {sheetRows : List (List String)} {decisions : List (JudgmentKey × ParsedDecision)}
    {finals : List (PooledQuery F × List Decision)} {pool : CandidatePool m} {report : AdjudicationReport}
    (hi : Independent first second capture) (hrows : candidateRows first.pool second.pool = .ok rows)
    (hreport : Reports first second capture rows agreement)
    (hgives : List.Forall₂ (fun row item => Gives (m := m) agreement (firstCandidateLookup first.pool) true row item.1 item.2)
      sheetRows decisions)
    (hnodup : (decisions.map Prod.fst).Nodup) (hall : ∀ d ∈ agreement.disagreements, d.key ∈ decisions.map Prod.fst)
    (hfinals : first.pool.queries.mapM (finalizeQuery (firstCandidateLookup first.pool) (firstCandidateLookup second.pool) decisions) =
      .ok finals)
    (hheader : pool.toPoolHeader = first.pool.toPoolHeader) (hqueries : pool.queries = finals.map Prod.fst)
    (hdecisions : report.decisions = (finals.flatMap Prod.snd).insertionSort fun a b => keyLe a.key b.key) :
    Preserves first.pool second.pool pool agreement report sheetRows := by
  obtain ⟨⟨perQuery, rfl, hquery⟩, hcovers⟩ := candidateRows_ok hrows
  obtain ⟨hsettled, hcaptured⟩ := finals_settled hquery hfinals
  rw [← hqueries] at hcaptured
  have hcapture : pool.capture = first.pool.capture := by
    unfold CandidatePoolData.capture
    rw [hheader, hcaptured]
  have hhash : retrievalCaptureSha256 pool = retrievalCaptureSha256 first.pool := by
    unfold retrievalCaptureSha256
    rw [hcapture]
  have hrow : ∀ key ∈ keysOf pool, ∃ r ∈ perQuery.flatten, r.key = key := fun key hkey =>
    mem_keysOf_rows hquery (mem_keysOf_capture hcaptured hkey)
  have hgrades : ∀ r ∈ perQuery.flatten, gradeOf first.pool r.key = some r.firstGrade ∧
      gradeOf second.pool r.key = some r.secondGrade := fun r hr =>
    have hmatch := matches_of_mem hquery hr
    ⟨(gradeOf_eq hmatch.inFirst).trans hmatch.firstGraded, (gradeOf_eq hmatch.inSecond).trans hmatch.secondGraded⟩
  have hkeys : ∀ key, key ∈ keysOf pool ↔ key ∈ keysOf first.pool := fun key =>
    ⟨mem_keysOf_capture hcaptured, mem_keysOf_capture hcaptured.symm⟩
  have hcomplete := complete_of_sheet hreport hgives hnodup hall
  refine ⟨.inl hcapture, hhash, hhash.trans (hi.firstCapture.trans hi.secondCapture.symm), hkeys, fun key => ⟨fun hkey => ?_, fun hkey => ?_⟩,
    fun key hkey => ?_, fun key hkey hsame => ?_, fun key hkey hdiffer => ?_, fun key => ?_,
    sheet_decides hreport.fields.2.2.2.2.2 hgives hnodup hall, ?_, fun d hd => ?_⟩
  · obtain ⟨r, hr, rfl⟩ := hrow key hkey
    exact mem_keysOf_of_get (matches_of_mem hquery hr).inSecond
  · obtain ⟨r, hr, rfl⟩ := hcovers key hkey
    exact (hkeys _).mpr (mem_keysOf_of_get (matches_of_mem hquery hr).inFirst)
  · obtain ⟨r, hr, rfl⟩ := hrow key hkey
    obtain ⟨hfirst, hsecond⟩ := hgrades r hr
    obtain ⟨c, d, hsettles, hget⟩ := settled_row hqueries hsettled hr
    rw [hfirst, hsecond, gradeOf_eq hget]
    exact ⟨rfl, rfl, (hsettles.bounded (matches_of_mem hquery hr) (hcomplete r hr)).1⟩
  · obtain ⟨r, hr, rfl⟩ := hrow key hkey
    obtain ⟨hfirst, hsecond⟩ := hgrades r hr
    obtain ⟨c, d, hsettles, hget⟩ := settled_row hqueries hsettled hr
    rw [hfirst, hsecond] at hsame
    rw [gradeOf_eq hget, hfirst, (hsettles.agreed (Option.some.inj hsame)).1]
  · obtain ⟨r, hr, rfl⟩ := hrow key hkey
    obtain ⟨hfirst, hsecond⟩ := hgrades r hr
    obtain ⟨c, d, hsettles, hget⟩ := settled_row hqueries hsettled hr
    rw [hfirst, hsecond] at hdiffer
    obtain ⟨grade, rationale, hdecision, hrelevance, -⟩ := hsettles.disputed fun hsame => hdiffer (congrArg some hsame)
    obtain ⟨row, hrowMem, hrow⟩ := Keyed.exists_left hgives ((PyDict.get_eq_some hnodup).mp hdecision)
    obtain ⟨grade', rationale', hvalue, -, -, hparse⟩ := hrow.decided
    obtain ⟨hsame, -⟩ := Prod.mk.inj hvalue
    refine ⟨row, hrowMem, hrow.named, ?_⟩
    rw [hparse, gradeOf_eq hget, hrelevance, hsame, Option.map_some]
    rfl
  · rw [mem_disagreements hreport]
    constructor
    · rintro ⟨r, hr, rfl, hdiffer⟩
      obtain ⟨hfirst, hsecond⟩ := hgrades r hr
      refine ⟨(hkeys _).mpr (mem_keysOf_of_get (matches_of_mem hquery hr).inFirst), ?_⟩
      rw [hfirst, hsecond]
      exact fun hsame => hdiffer (Option.some.inj hsame)
    · rintro ⟨hkey, hdiffer⟩
      obtain ⟨r, hr, rfl⟩ := hrow key hkey
      obtain ⟨hfirst, hsecond⟩ := hgrades r hr
      rw [hfirst, hsecond] at hdiffer
      exact ⟨r, hr, rfl, fun hsame => hdiffer (congrArg some hsame)⟩
  · rw [hdecisions, hreport.disagreements, List.map_insertionSort _ (fun a b => keyLe a b) _ _ fun _ _ _ _ => Iff.rfl,
      List.map_insertionSort _ (fun a b => keyLe a b) _ _ fun _ _ _ _ => Iff.rfl, records_keys hsettled]
  · rw [hdecisions, List.mem_insertionSort] at hd
    obtain ⟨r, hr, c, hsettles, hget⟩ := settled_record hqueries hsettled hd
    have hdiffer : r.firstGrade ≠ r.secondGrade := fun hsame => by
      have hnone := (hsettles.agreed hsame).2.2
      cases hnone
    obtain ⟨grade, rationale, -, hrelevance, -, hrecord⟩ := hsettles.disputed hdiffer
    rw [Option.some.inj hrecord]
    exact (gradeOf_eq hget).trans hrelevance

theorem parse_pools {now : Datetime} {first second : CandidatePool m} {pair : FirstPass m × FirstPass m} {capture text : String}
    {complete : Bool} (hpair : canonicalReviews first second = .ok (pair, capture)) :
    parseAdjudicationRows now pair.1.pool pair.2.pool text complete = parseAdjudicationRows now first second text complete := by
  unfold parseAdjudicationRows compareIndependentRetrievalReviews
  rw [hpair, canonicalReviews_again hpair]

theorem compare_pools {now : Datetime} {first second : CandidatePool m} {pair : FirstPass m × FirstPass m} {capture : String}
    (hpair : canonicalReviews first second = .ok (pair, capture)) :
    compareIndependentRetrievalReviews now pair.1.pool pair.2.pool = compareIndependentRetrievalReviews now first second := by
  unfold compareIndependentRetrievalReviews
  rw [hpair, canonicalReviews_again hpair]

/-- An accepted sheet is applied by anybody who may adjudicate. -/
theorem apply_of_accepted {now : Datetime} {first second : CandidatePool m} {text adjudicator : String} {adjudicatedAt : Option Datetime}
    {parsed : List (List String) × List (JudgmentKey × ParsedDecision)}
    (hparse : parseAdjudicationRows now first second text true = .ok parsed)
    (hmay : MayAdjudicate first second adjudicator (adjudicatedAt.getD now)) :
    ∃ result, applyRetrievalAdjudication now first second text adjudicator adjudicatedAt = .ok result := by
  obtain ⟨sheetRows, decisions⟩ := parsed
  have hcanonical : ∃ result, canonicalReviews first second = .ok result := by
    unfold parseAdjudicationRows at hparse
    obtain ⟨result, hresult, -⟩ := bind_ok.mp hparse
    exact ⟨result, hresult⟩
  obtain ⟨⟨pair, capture⟩, hpair⟩ := hcanonical
  obtain ⟨agreement, hcompare, hsheet, hgives, hnodup, hall⟩ := (parseAdjudicationRows_ok hpair).mp hparse
  obtain ⟨rows, hrows, hreport⟩ := compare_ok hpair hcompare
  obtain ⟨⟨perQuery, rfl, hquery⟩, -⟩ := candidateRows_ok hrows
  have hi := independent_of_canonicalReviews hpair
  have hcomplete := complete_of_sheet hreport hgives hnodup hall
  have hmay' : MayAdjudicate pair.1.pool pair.2.pool adjudicator (adjudicatedAt.getD now) := by
    rcases canonicalReviews_pools hpair with ⟨hfirst, hsecond⟩ | ⟨hfirst, hsecond⟩
    · rw [hfirst, hsecond]
      exact hmay
    · rw [hfirst, hsecond]
      exact mayAdjudicate_swap hmay
  obtain ⟨finals, hfinals⟩ := exists_mapM (l := pair.1.pool.queries)
      (f := finalizeQuery (firstCandidateLookup pair.1.pool) (firstCandidateLookup pair.2.pool) decisions) fun q hq => by
    obtain ⟨rs, hrs, hqrs⟩ := Keyed.exists_right hquery hq
    exact (finalizeQuery_ok hqrs).1 fun r hr => hcomplete r (List.mem_flatten_of_mem hrs hr)
  obtain ⟨hsettled, hcaptured⟩ := finals_settled hquery hfinals
  obtain ⟨hnormal, hvalid⟩ := provenance_valid hi hreport hmay' (finals.flatMap Prod.snd)
  obtain ⟨hdata, hdataValid⟩ := finalData_valid hi hreport hmay' hcaptured (finals_judged hquery hcomplete hfinals)
    (finals.flatMap Prod.snd)
  rw [← hdata] at hdataValid
  obtain ⟨pool, hpool⟩ := CandidatePoolData.modelValidate_of_valid hdataValid
  have hne : perQuery.flatten ≠ [] := by
    unfold candidateRows at hrows
    simp only [bind_ok, exists_unit, check_eq_ok, Except.ok.injEq] at hrows
    obtain ⟨-, perQuery', -, hne, heq⟩ := hrows
    rw [← heq]
    rintro hnil
    rw [hnil] at hne
    cases hne
  have hfinal := @reportOf_valid F m _ _ _ _ _ _ _ pool _ hi hreport hmay' hne (records_keys hsettled)
  refine ⟨(pool, reportOf agreement pool (normalizeText adjudicator) (adjudicatedAt.getD now) (finals.flatMap Prod.snd)), ?_⟩
  unfold applyRetrievalAdjudication
  rw [hpair]
  refine bind_ok.mpr ⟨_, rfl, ?_⟩
  simp only [compare_pools hpair, hcompare, parse_pools hpair, hparse, bind_ok, exists_unit, check_eq_ok, decide_eq_true_eq,
    Except.ok.injEq, exists_eq_left', hfinals]
  have hprovenance : AdjudicationProvenance.validate m.casefold
      (provenanceOf agreement (normalizeText adjudicator) (adjudicatedAt.getD now) (finals.flatMap Prod.snd)).normalize = .ok () := by
    rw [hnormal]
    exact hvalid
  rw [← hnormal] at hpool
  refine ⟨hmay.named, ?_, _, construct_of_valid hprovenance, pool, hpool, _, construct_of_valid hfinal, rfl⟩
  rw [hreport.firstReview, hreport.secondReview]
  simp only [FirstPass.identity, List.mem_cons, List.not_mem_nil, or_false, not_or]
  exact ⟨hmay'.independent _ (.inl hi.firstNamed), hmay'.independent _ (.inr hi.secondNamed)⟩

/-- What was read and settled for a final pool. -/
theorem apply_ok {now : Datetime} {first second : CandidatePool m} {text adjudicator : String} {adjudicatedAt : Option Datetime}
    {pool : CandidatePool m} {report : AdjudicationReport} (hpair : ∃ result, canonicalReviews first second = .ok result)
    (h : applyRetrievalAdjudication now first second text adjudicator adjudicatedAt = .ok (pool, report)) :
    ∃ agreement sheetRows decisions, compareIndependentRetrievalReviews now first second = .ok agreement ∧
      parseAdjudicationRows now first second text true = .ok (sheetRows, decisions) ∧
      Preserves first second pool agreement report sheetRows := by
  obtain ⟨⟨pair, capture⟩, hpair⟩ := hpair
  unfold applyRetrievalAdjudication at h
  rw [hpair] at h
  simp only [bind_ok, exists_unit, check_eq_ok, decide_eq_true_eq, Except.ok.injEq, exists_eq_left', compare_pools hpair,
    parse_pools hpair, Prod.exists, Prod.mk.injEq] at h
  obtain ⟨agreement, hcompare, -, -, sheetRows, decisions, hparse, finals, hfinals, provenance, -, pool', hpool, report', hreport', rfl, rfl⟩ := h
  refine ⟨agreement, sheetRows, decisions, hcompare, hparse, ?_⟩
  obtain ⟨agreement', hcompare', -, hgives, hnodup, hall⟩ := (parseAdjudicationRows_ok hpair).mp hparse
  rw [hcompare] at hcompare'
  obtain rfl := Except.ok.inj hcompare'
  obtain ⟨rows, hrows, hreport⟩ := compare_ok hpair hcompare
  have hdata := CandidatePoolData.modelValidate_ok hpool
  have hheader : pool'.toPoolHeader = pair.1.pool.toPoolHeader := by
    rw [hdata]
    rfl
  have hqueries : pool'.queries = finals.map Prod.fst := by
    rw [hdata]
    rfl
  have hpreserves := preserves_of_settled (independent_of_canonicalReviews hpair) hrows hreport hgives hnodup hall hfinals hheader
    hqueries (congrArg AdjudicationReport.decisions (construct_val hreport'))
  rcases canonicalReviews_pools hpair with ⟨hfirst, hsecond⟩ | ⟨hfirst, hsecond⟩
  · rwa [hfirst, hsecond] at hpreserves
  · rw [hfirst, hsecond] at hpreserves
    exact hpreserves.swap

theorem canonical_of_apply {now : Datetime} {first second : CandidatePool m} {text adjudicator : String}
    {adjudicatedAt : Option Datetime} {result : CandidatePool m × AdjudicationReport}
    (h : applyRetrievalAdjudication now first second text adjudicator adjudicatedAt = .ok result) :
    ∃ result, canonicalReviews first second = .ok result := by
  unfold applyRetrievalAdjudication at h
  obtain ⟨pair, hpair, -⟩ := bind_ok.mp h
  exact ⟨pair, hpair⟩

theorem apply_swap {now : Datetime} {first second : CandidatePool m} {text adjudicator : String}
    {adjudicatedAt : Option Datetime} (h : ∃ result, canonicalReviews first second = .ok result) :
    applyRetrievalAdjudication now second first text adjudicator adjudicatedAt =
      applyRetrievalAdjudication now first second text adjudicator adjudicatedAt := by
  obtain ⟨pair, hpair⟩ := h
  unfold applyRetrievalAdjudication
  rw [hpair, canonicalReviews_swap hpair]

/-- The rows of a sheet in another order are applied to the same effect. -/
theorem apply_perm {now : Datetime} {first second : CandidatePool m} {text text' adjudicator : String}
    {adjudicatedAt : Option Datetime} {result : CandidatePool m × AdjudicationReport} {fieldnames : List String}
    {rows rows' : List (List String)} (hsheet : Csv.dictReader text = .ok ⟨fieldnames, rows⟩)
    (hsheet' : Csv.dictReader text' = .ok ⟨fieldnames, rows'⟩) (hperm : rows'.Perm rows)
    (h : applyRetrievalAdjudication now first second text adjudicator adjudicatedAt = .ok result) :
    applyRetrievalAdjudication now first second text' adjudicator adjudicatedAt = .ok result := by
  obtain ⟨⟨pair, capture⟩, hpair⟩ := canonical_of_apply h
  obtain ⟨agreement, sheetRows, decisions, hcompare, hparse, -⟩ := apply_ok ⟨_, hpair⟩ h
  obtain ⟨report, hreport, hread, hgives, hnodup, hall⟩ := (parseAdjudicationRows_ok hpair).mp hparse
  rw [hsheet] at hread
  obtain ⟨rfl, rfl⟩ := Csv.Sheet.mk.inj (Except.ok.inj hread)
  obtain ⟨decisions', hgives', hdecisions⟩ := List.perm_comp_forall₂ hperm hgives
  have hkeys := hdecisions.map Prod.fst
  have hparse' : parseAdjudicationRows now first second text' true = .ok (rows', decisions') :=
    (parseAdjudicationRows_ok hpair).mpr ⟨report, hreport, hsheet', hgives', hkeys.nodup_iff.mpr hnodup,
      fun d hd => hkeys.mem_iff.mpr (hall d hd)⟩
  unfold applyRetrievalAdjudication at h ⊢
  rw [hpair] at h ⊢
  simp only [bind_ok, exists_unit, check_eq_ok, decide_eq_true_eq, Except.ok.injEq, exists_eq_left', compare_pools hpair,
    parse_pools hpair, hparse, hparse', finalizeQuery_perm hnodup hdecisions] at h ⊢
  exact h

/-- **Retrieval adjudication.** A sheet that is accepted for two independent
reviews is applied; the final pool holds what was captured, the shared grades,
and on the disagreements those of the sheet. Neither the order of the rows nor
that of the reviews counts. -/
theorem retrieval_adjudication_sound (now : Datetime) (first second : CandidatePool m) (text adjudicator : String)
    (adjudicatedAt : Option Datetime) :
    ((∃ parsed, parseAdjudicationRows now first second text true = .ok parsed) →
      MayAdjudicate first second adjudicator (adjudicatedAt.getD now) →
      ∃ result, applyRetrievalAdjudication now first second text adjudicator adjudicatedAt = .ok result) ∧
    ∀ pool report, applyRetrievalAdjudication now first second text adjudicator adjudicatedAt = .ok (pool, report) →
      (∃ agreement sheetRows decisions, compareIndependentRetrievalReviews now first second = .ok agreement ∧
        parseAdjudicationRows now first second text true = .ok (sheetRows, decisions) ∧
        Preserves first second pool agreement report sheetRows) ∧
      (∀ text' fieldnames rows rows', Csv.dictReader text = .ok ⟨fieldnames, rows⟩ →
        Csv.dictReader text' = .ok ⟨fieldnames, rows'⟩ → rows'.Perm rows →
        applyRetrievalAdjudication now first second text' adjudicator adjudicatedAt = .ok (pool, report)) ∧
      applyRetrievalAdjudication now second first text adjudicator adjudicatedAt = .ok (pool, report) ∧
      compareIndependentRetrievalReviews now second first = compareIndependentRetrievalReviews now first second := by
  refine ⟨fun ⟨parsed, hparse⟩ hmay => apply_of_accepted hparse hmay, fun pool report h => ?_⟩
  obtain ⟨pair, hpair⟩ := canonical_of_apply h
  refine ⟨apply_ok ⟨pair, hpair⟩ h, fun text' fieldnames rows rows' hsheet hsheet' hperm => apply_perm hsheet hsheet' hperm h, ?_,
    compare_swap hpair⟩
  rw [apply_swap ⟨pair, hpair⟩]
  exact h

end

end

/-! ## A disputed quake -/

namespace Izmir

/-- SHA-256 of the texts that are hashed here. -/
def digest (text : String) : HexDigest :=
  if text = "Quake near Izmir" then ⟨"becee64d5c76bf55ea71a5fc5417423612bbd28fbef5503d7d4141852346e63f", by decide +kernel⟩
  else if text = "\x7b\"pool_id\":\"pool\"\x7d" then
    ⟨"02d3bab9ee38f34597315d4361723e472d4f16d2d68cf432b1da15a9934ff496", by decide +kernel⟩
  else if text = "\x7b\"reviewer\":\"Ana\"\x7d" then
    ⟨"e344e0213d9e922447f6e0a9df0e09df2cafc7e5bf162047294d4e2b0ec09713", by decide +kernel⟩
  else if text = "\x7b\"reviewer\":\"Ben\"\x7d" then
    ⟨"a3b527ba71063153e31534784b8c28c7db869cfd15a076e5195151436ba23ce5", by decide +kernel⟩
  else if text = "\x7b\"reviewer\":\"Eve\"\x7d" then
    ⟨"737b93a45d3f321c6a9243a13ed08c506c7423ab1140d3456fde203b20e6898b", by decide +kernel⟩
  else if text = "pool-agreement-6e5744fde5e4:quakes:usgs:izmir" then
    ⟨"b0c5a4686162679b7ecde6341f658ca51cbea1319250f005500abd6aaba7984c", by decide +kernel⟩
  else ⟨"6e5744fde5e40cb3e0f758280c302c872c2198a3e2241190156b0b5156ab2304", by decide +kernel⟩

/-- The members of the dumps that tell them apart. -/
def model : PoolModel Unit where
  sha256 := digest
  casefold text := text
  dumpPool pool := .obj [("reviewer", .str (pool.reviewer.getD ""))]
  dumpCapture capture := .obj [("pool_id", .str capture.poolId)]

def moment : Datetime := ⟨1000000, some 0, by decide, offsetBound_zero⟩

def evidence : CandidateEvidence where
  documentId := "usgs:izmir"
  source := .usgs
  eventId := "izmir"
  title := "=Quake"
  occurredAt := moment
  documentText := "Quake near Izmir"
  documentHash := "becee64d5c76bf55ea71a5fc5417423612bbd28fbef5503d7d4141852346e63f"
  citationStatus := .missing
  citationUrl := none

def data (reviewer : String) (grade : Nat) : CandidatePoolData Unit where
  poolId := "pool"
  querySetId := "set"
  querySetSha256 := "6e5744fde5e40cb3e0f758280c302c872c2198a3e2241190156b0b5156ab2304"
  capturedAt := moment
  endpoint := "http://atlas"
  schemaVersion := .firstPass
  judgmentStatus := .reviewed
  reviewer := some reviewer
  reviewedAt := some moment
  adjudication := none
  queries := [⟨⟨"quakes", "quakes", [], ()⟩, [⟨evidence, some grade, none⟩],
    [⟨.lexical, "rule", "none", Float64.ofInt 1, ["usgs:izmir"]⟩]⟩]

def firstReview : CandidatePool model := ⟨data "Ana" 2, by decide +kernel, by decide +kernel⟩

def secondReview : CandidatePool model := ⟨data "Ben" 3, by decide +kernel, by decide +kernel⟩

def row : List String :=
  ["quakes", "quakes", "usgs:izmir", evidence.documentHash, "usgs", "'=Quake", "0001-01-01T00:00:01+00:00", "Quake near Izmir",
    "missing", "", "pool-agreement-6e5744fde5e4", "2", "", "3", "", "1", "Another quake is meant"]

def sheet : String := ",".intercalate adjudicationColumns ++ "\n" ++ ",".intercalate row ++ "\n"

theorem sheet_read : Csv.dictReader sheet = .ok ⟨adjudicationColumns, [row]⟩ := by
  unfold Csv.dictReader Csv.records sheet
  rw [String.toList_append, String.toList_append, String.toList_append, String.toList_intercalate, String.toList_intercalate]
  decide +kernel

/-- The grade of each row. -/
def grades (rows : List (List String)) : List (JudgmentKey × Option Int) :=
  rows.map fun row => (rowKey row, parseInt? (cellOf row "adjudicated_relevance_0_to_3"))

theorem sheet_parsed : (parseAdjudicationRows moment firstReview secondReview sheet true).map (fun parsed => grades parsed.1) =
    .ok [(("quakes", "usgs:izmir"), some 1)] := by
  unfold parseAdjudicationRows
  rw [sheet_read]
  decide +kernel

theorem disputed : gradeOf firstReview ("quakes", "usgs:izmir") ≠ gradeOf secondReview ("quakes", "usgs:izmir") := by
  decide

theorem captured : ("quakes", "usgs:izmir") ∈ keysOf firstReview := by decide

end Izmir

open Izmir in
/-- The adjudicator's grade is that of the final pool. -/
theorem retrieval_adjudication_sound_izmir : ∃ pool report,
    applyRetrievalAdjudication moment firstReview secondReview sheet "Eve" none = .ok (pool, report) ∧
      (gradeOf pool ("quakes", "usgs:izmir")).map Int.ofNat = some 1 := by
  obtain ⟨parsed, hparsed, hrows⟩ := map_ok.mp sheet_parsed
  have hmay : MayAdjudicate firstReview secondReview "Eve" moment := by
    refine ⟨by decide, by decide, fun reviewer hreviewer => ?_, rfl⟩
    rcases hreviewer with hreviewer | hreviewer
    · rw [← Option.some.inj hreviewer]
      decide
    · rw [← Option.some.inj hreviewer]
      decide
  have hsound := retrieval_adjudication_sound moment firstReview secondReview sheet "Eve" none
  obtain ⟨⟨pool, report⟩, happly⟩ := hsound.1 ⟨parsed, hparsed⟩ hmay
  obtain ⟨⟨agreement, sheetRows, decisions, -, hparse, hpreserves⟩, -⟩ := hsound.2 pool report happly
  rw [hparsed] at hparse
  obtain rfl := Except.ok.inj hparse
  have hkey : ("quakes", "usgs:izmir") ∈ keysOf pool := (hpreserves.firstKeys _).mpr captured
  obtain ⟨row, hrow, hnamed, hgrade⟩ := hpreserves.disputed _ hkey disputed
  have hmem : (rowKey row, parseInt? (cellOf row "adjudicated_relevance_0_to_3")) ∈ grades sheetRows := List.mem_map_of_mem hrow
  rw [hrows, List.mem_singleton] at hmem
  obtain ⟨-, hvalue⟩ := Prod.mk.inj hmem
  rw [hvalue] at hgrade
  exact ⟨pool, report, happly, hgrade.symm⟩

end AtlasPulse.RetrievalAdjudication
