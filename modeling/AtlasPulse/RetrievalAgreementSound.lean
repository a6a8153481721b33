import AtlasPulse.AgreementSound
import AtlasPulse.RetrievalAdjudicationSound

/-!
# Agreement of retrieval reviews

Two complete reviews of one pool have an agreement report, whose matrix counts
the grades of each of them.
-/

namespace AtlasPulse.ExactAgreement.Retrieval

open PyTime Kappa RetrievalAdjudication

variable {F : Type} {m : PoolModel F} {first second : CandidatePool m} {rows : List (ReviewRow F)}

/-- How often a reviewer gives a grade. -/
def gradeCount (pool : CandidatePool m) (grade : ℕ) : ℕ := pool.candidates.countP fun c => c.relevance = some grade

/-! ## Rows of two reviews -/

/-- The rows of two reviews, one for each judgment of the one and of the other. -/
structure Pairing (first second : CandidatePool m) (rows : List (ReviewRow F)) : Prop where
  inFirst : rows.map (fun r => (r.key, r.query, r.first)) = firstCandidateLookup first
  inSecond : (rows.map fun r => (r.key, r.query, r.second)).Perm (firstCandidateLookup second)
  matched : ∀ r ∈ rows, Matches first second r
  some : rows ≠ []

theorem candidates_eq (pool : CandidatePool m) : pool.candidates = (firstCandidateLookup pool).map (·.2.2) := by
  rw [firstCandidateLookup_eq, List.map_flatMap]
  refine congrArg (fun f => List.flatMap f pool.queries) (funext fun q => ?_)
  rw [List.map_map]
  exact (List.map_id' q.candidates).symm

theorem gradeCount_eq (pool : CandidatePool m) (grade : ℕ) :
    gradeCount pool grade = (firstCandidateLookup pool).countP fun item => item.2.2.relevance = some grade := by
  rw [gradeCount, candidates_eq, List.countP_map]
  rfl

theorem rows_inFirst {perQuery : List (List (ReviewRow F))} (h : List.Forall₂ (QueryRows first second) first.queries perQuery) :
    perQuery.flatten.map (fun r => (r.key, r.query, r.first)) = firstCandidateLookup first := by
  rw [firstCandidateLookup_eq, ← List.flatMap_id, List.map_flatMap]
  refine (Keyed.flatMap_eq h fun {q rs} hq => ?_).symm
  obtain ⟨hfirst, hrows⟩ := hq
  rw [← hfirst, List.map_map]
  refine List.map_congr_left fun r hr => ?_
  obtain ⟨hquery, -⟩ := hrows r hr
  simp only [Function.comp_apply, ReviewRow.key, hquery]

variable [DecidableEq F]

theorem pairing_of_candidateRows (h : candidateRows first second = .ok rows) : Pairing first second rows := by
  obtain ⟨⟨perQuery, hperQuery, hrows⟩, hcovers⟩ := candidateRows_ok h
  have hfirst := rows_inFirst hrows
  have hmatched := fun r => matches_of_mem (r := r) hrows
  rw [← hperQuery] at hfirst hmatched
  have hkeys : (rows.map ReviewRow.key).Nodup := by
    have hnodup := nodup_lookupKeys first
    rw [← firstCandidateLookup_eq, ← hfirst, List.map_map] at hnodup
    exact hnodup
  have hkeys' : (rows.map fun r => (r.key, r.query, r.second)).map Prod.fst = rows.map ReviewRow.key := by
    rw [List.map_map]
    rfl
  have hnodup : ((firstCandidateLookup second).map Prod.fst).Nodup := by
    rw [firstCandidateLookup_eq]
    exact nodup_lookupKeys second
  refine ⟨hfirst, PyDict.perm_of_get (hkeys' ▸ hkeys) hnodup fun key => ?_, hmatched, ?_⟩
  · by_cases hkey : key ∈ keysOf second
    · obtain ⟨r, hr, rfl⟩ := hcovers key hkey
      rw [(hmatched r hr).inSecond, PyDict.get_eq_some (hkeys' ▸ hkeys)]
      exact List.mem_map_of_mem hr
    · rw [PyDict.get_eq_none.mpr hkey, PyDict.get_eq_none, hkeys']
      intro hmem
      obtain ⟨r, hr, rfl⟩ := List.mem_map.mp hmem
      exact hkey (List.mem_map_of_mem ((PyDict.get_eq_some hnodup).mp (hmatched r hr).inSecond))
  · intro hnil
    unfold candidateRows at h
    simp only [bind_ok, exists_unit, check_eq_ok, Except.ok.injEq] at h
    obtain ⟨-, rows', -, hsome, rfl⟩ := h
    rw [hnil] at hsome
    cases hsome

omit [DecidableEq F]

theorem onScale_grades (h : Pairing first second rows) : OnScale relevanceGrades (rows.map ReviewRow.grades) := by
  refine ⟨by decide, fun pair hpair => ?_⟩
  obtain ⟨r, hr, rfl⟩ := List.mem_map.mp hpair
  have hr := h.matched r hr
  have hscale : ∀ grade ≤ 3, grade ∈ relevanceGrades := by decide
  exact ⟨hscale _ (grade_le hr.inFirst hr.firstGraded), hscale _ (grade_le hr.inSecond hr.secondGraded)⟩

theorem grades_ne_nil (h : Pairing first second rows) : rows.map ReviewRow.grades ≠ [] := fun hnil => h.some (List.map_eq_nil_iff.mp hnil)

theorem firsts_grades (h : Pairing first second rows) (grade : ℕ) : firsts (rows.map ReviewRow.grades) grade = gradeCount first grade := by
  rw [gradeCount_eq, ← h.inFirst, firsts, List.countP_map, List.countP_map]
  refine List.countP_congr fun r hr => ?_
  simp only [Function.comp_apply, decide_eq_true_eq, (h.matched r hr).firstGraded, Option.some.injEq]
  rfl

theorem seconds_grades (h : Pairing first second rows) (grade : ℕ) :
    seconds (rows.map ReviewRow.grades) grade = gradeCount second grade := by
  rw [gradeCount_eq, ← h.inSecond.countP_eq, seconds, List.countP_map, List.countP_map]
  refine List.countP_congr fun r hr => ?_
  simp only [Function.comp_apply, decide_eq_true_eq, (h.matched r hr).secondGraded, Option.some.injEq]
  rfl

theorem nodup_keys (h : Pairing first second rows) : (rows.map ReviewRow.key).Nodup := by
  have hnodup := nodup_lookupKeys first
  rw [← firstCandidateLookup_eq, ← h.inFirst, List.map_map] at hnodup
  exact hnodup

/-! ## Disagreements -/

theorem disagreements_grades (rows : List (ReviewRow F)) :
    (rows.filterMap disagreementOf).map (fun d => (d.firstRelevance, d.secondRelevance)) =
      (rows.map ReviewRow.grades).filter fun pair => pair.1 ≠ pair.2 := by
  rw [List.map_filterMap, List.filter_map, ← List.filterMap_eq_filter, List.map_filterMap]
  refine List.filterMap_congr fun r _ => ?_
  unfold disagreementOf
  by_cases hgrade : r.firstGrade = r.secondGrade <;> simp [hgrade, ReviewRow.grades, Option.guard]

theorem disagreements_keys (rows : List (ReviewRow F)) :
    ((rows.filterMap disagreementOf).map Disagreement.key).Sublist (rows.map ReviewRow.key) := by
  induction rows with
  | nil => exact List.Sublist.refl _
  | cons r rows ih =>
    rw [List.filterMap_cons, List.map_cons]
    cases hdisagreement : disagreementOf r with
    | none => exact ih.cons _
    | some d =>
      rw [List.map_cons, (disagreementOf_some hdisagreement).2]
      exact ih.cons_cons _

theorem rationale_short {pool : CandidatePool m} {key : JudgmentKey} {query : EvaluationQuery F} {c : PooledCandidate}
    (h : PyDict.get (firstCandidateLookup pool) key = some (query, c)) : c.rationale.all (fun text => text.length ≤ 1000) = true := by
  obtain ⟨q, hq, hc, -⟩ := get_firstCandidateLookup.mp h
  obtain ⟨hqueries, -⟩ := CandidatePoolData.validate_ok pool.valid
  obtain ⟨hcandidates, -⟩ := PooledQuery.validate_ok.mp (hqueries q hq)
  have hvalid := hcandidates c hc
  unfold PooledCandidate.validate at hvalid
  simp only [bind_ok, exists_unit, check_eq_ok] at hvalid
  exact hvalid.2.1

theorem validateDisagreement_ok {r : ReviewRow F} {d : Disagreement} (hr : Matches first second r) (h : disagreementOf r = some d) :
    validateDisagreement d = .ok () := by
  unfold disagreementOf at h
  split at h
  · cases h
  · rename_i hdiffer
    obtain rfl := Option.some.inj h
    unfold validateDisagreement
    simp only [bind_ok, exists_unit, check_eq_ok, Bool.and_eq_true, decide_eq_true_eq]
    exact ⟨⟨grade_le hr.inFirst hr.firstGraded, grade_le hr.inSecond hr.secondGraded⟩,
      ⟨rationale_short hr.inFirst, rationale_short hr.inSecond⟩, hdiffer⟩

/-! ## Groups -/

theorem onScale_keyed {K : Type} (h : Pairing first second rows) (key : ReviewRow F → K) :
    OnScale relevanceGrades ((rows.map fun r => (key r, r.grades)).map Prod.snd) := by
  rw [List.map_map]
  exact onScale_grades h

theorem groups_ok {K : Type} [DecidableEq K] {items : List (K × (ℕ × ℕ))} (le : K → K → Prop) [DecidableRel le]
    (h : OnScale relevanceGrades (items.map Prod.snd)) :
    sortedGroups le agreementMetrics items = .ok (sortedBy le (measured relevanceGrades) items) :=
  sortedGroups_measured h fun hscale hne => agreementMetrics_ok _ _ hscale hne

/-- The grades of the rows under each slice of their queries. -/
def sliceItems (rows : List (ReviewRow F)) : List (String × (ℕ × ℕ)) := rows.flatMap fun r => r.query.slices.map (·, r.grades)

theorem onScale_slices (h : Pairing first second rows) : OnScale relevanceGrades ((sliceItems rows).map Prod.snd) := by
  refine OnScale.of_mem (onScale_grades h) fun value hvalue => ?_
  obtain ⟨item, hitem, rfl⟩ := List.mem_map.mp hvalue
  obtain ⟨r, hr, hslice⟩ := List.mem_flatMap.mp hitem
  obtain ⟨name, -, rfl⟩ := List.mem_map.mp hslice
  exact List.mem_map_of_mem hr

theorem length_slice_le (hslices : ∀ r ∈ rows, r.query.slices.Nodup) (name : String) :
    (valuesAt (sliceItems rows) name).length ≤ rows.length := by
  rw [length_valuesAt, sliceItems, List.countP_flatMap]
  have hone : ∀ count ∈ rows.map ((List.countP fun item : String × (ℕ × ℕ) => decide (item.1 = name)) ∘ fun r =>
      r.query.slices.map (·, r.grades)), count ≤ 1 := by
    intro count hcount
    obtain ⟨r, hr, rfl⟩ := List.mem_map.mp hcount
    rw [Function.comp_apply, List.countP_map]
    have hnodup := List.nodup_iff_count_le_one.mp (hslices r hr) name
    rw [List.count_eq_countP] at hnodup
    exact hnodup
  have hsum := List.sum_le_card_nsmul _ 1 hone
  rwa [List.length_map, nsmul_one, Nat.cast_id] at hsum

/-! ## The report -/

/-- What holds of the agreement report of two reviews. -/
structure Consistent (report : AgreementReport) (first second : CandidatePool m) : Prop where
  margins : Marginals relevanceGrades report.confusionMatrix (gradeCount first) (gradeCount second)
  overall : report.overall.Bounded
  queries : ∀ group ∈ report.queries, group.2.Bounded
  slices : ∀ group ∈ report.slices, group.2.Bounded
  sources : ∀ group ∈ report.sources, group.2.Bounded

/-- What the comparison derives of the rows of two reviews. -/
def reportOf (reviewers : String × String) (rows : List (ReviewRow F)) : AgreementReport :=
  { reviewers
    overall := measured relevanceGrades (rows.map ReviewRow.grades)
    queries := sortedBy (· ≤ ·) (measured relevanceGrades) (rows.map fun r => (r.query.queryId, r.grades))
    slices := sortedBy (· ≤ ·) (measured relevanceGrades) (sliceItems rows)
    sources := sortedBy (fun a b => a.text ≤ b.text) (measured relevanceGrades) (rows.map fun r => (r.first.source, r.grades))
    confusionMatrix := agreementConfusion relevanceGrades (rows.map ReviewRow.grades)
    disagreements := (rows.filterMap disagreementOf).insertionSort fun a b => keyLe a.key b.key }

theorem reportOf_valid {reviewers : String × String} (h : Pairing first second rows) (hslices : ∀ r ∈ rows, r.query.slices.Nodup)
    (hreviewers : checkReviewers m.casefold reviewers = .ok ()) : (reportOf reviewers rows).validate m.casefold = .ok () := by
  have hscale := onScale_grades h
  have hsorted : (reportOf reviewers rows).disagreements.Perm (rows.filterMap disagreementOf) := List.perm_insertionSort _ _
  have hgrades := (hsorted.map fun d => (d.firstRelevance, d.secondRelevance)).trans (.of_eq (disagreements_grades rows))
  unfold AgreementReport.validate
  simp only [bind_ok, exists_unit, check_eq_ok, Bool.and_eq_true, decide_eq_true_eq, List.all_eq_true]
  refine ⟨hreviewers, checkMatrix_ok _ _ _ hscale, ⟨sorted_keys _ _, ?_⟩, ?_, checkOffDiagonal_ok hgrades, ?_, ?_, fun slice hslice => ?_⟩
  · exact (hsorted.map Disagreement.key).nodup_iff.mpr ((disagreements_keys rows).nodup (nodup_keys h))
  · have hlength := hgrades.length_eq
    rw [List.length_map, length_filter_ne] at hlength
    exact hlength
  · exact (groupCount_measured (· ≤ ·) _ _).trans ((List.length_map _).trans (List.length_map _).symm)
  · exact (groupCount_measured (fun a b : SourceName => a.text ≤ b.text) _ _).trans ((List.length_map _).trans (List.length_map _).symm)
  · rw [(mem_sortedBy hslice).2]
    exact (length_slice_le hslices _).trans_eq (List.length_map _).symm

theorem reportOf_consistent (reviewers : String × String) (h : Pairing first second rows) :
    Consistent (reportOf reviewers rows) first second := by
  have hscale := onScale_grades h
  refine ⟨fun grade hgrade => ?_, bounded_rates hscale (grades_ne_nil h), fun group hgroup => ?_, fun group hgroup => ?_,
    fun group hgroup => ?_⟩
  · rw [← firsts_grades h, ← seconds_grades h]
    exact marginals_confusion hscale grade hgrade
  · exact bounded_sortedBy (· ≤ ·) (onScale_keyed h _) hgroup
  · exact bounded_sortedBy (· ≤ ·) (onScale_slices h) hgroup
  · exact bounded_sortedBy (fun a b : SourceName => a.text ≤ b.text) (onScale_keyed h _) hgroup

variable [DecidableEq F]

/-- **Retrieval reviews.** Two complete reviews of one pool have an agreement
report, and it is consistent. -/
theorem compare_consistent {one other : CandidatePool m} {pair : FirstPass m × FirstPass m} {capture : String}
    (hreviews : canonicalReviews one other = .ok (pair, capture)) (hrows : candidateRows pair.1.pool pair.2.pool = .ok rows)
    (hslices : ∀ q ∈ pair.1.pool.queries, q.query.slices.Nodup) :
    ∃ report, compareIndependentRetrievalReviews one other = .ok report ∧ Consistent report pair.1.pool pair.2.pool := by
  have h := pairing_of_candidateRows hrows
  have hindependent := independent_of_canonicalReviews hreviews
  have hqueries : ∀ r ∈ rows, r.query.slices.Nodup := by
    intro r hr
    obtain ⟨q, hq, -, hquery, -⟩ := get_firstCandidateLookup.mp (h.matched r hr).inFirst
    exact hquery ▸ hslices q hq
  have hvalid := reportOf_valid h hqueries (checkReviewers_ok hindependent.distinct hindependent.ordered)
  refine ⟨reportOf (pair.1.reviewer, pair.2.reviewer) rows, ?_, reportOf_consistent _ h⟩
  unfold compareIndependentRetrievalReviews
  simp only [bind_ok, hreviews, exists_unit, Except.ok.injEq, Prod.exists, Prod.mk.injEq]
  refine ⟨pair.1, pair.2, capture, ⟨rfl, rfl⟩, rows, hrows, listForM_ok.mpr fun d hd => ?_, _,
    agreementMetrics_ok _ _ (onScale_grades h) (grades_ne_nil h), _, groups_ok _ (onScale_keyed h _), _, groups_ok _ (onScale_slices h),
    _, groups_ok _ (onScale_keyed h _), hvalid, rfl⟩
  obtain ⟨r, hr, hdisagreement⟩ := List.mem_filterMap.mp hd
  exact validateDisagreement_ok (h.matched r hr) hdisagreement

end AtlasPulse.ExactAgreement.Retrieval
