import AtlasPulse.RetrievalAgreementSound

/-!
# Agreement of relationship reviews

Two complete reviews of one pool of relationship cases have an agreement report,
whose matrix counts the labels of each of them.
-/

namespace AtlasPulse.ExactAgreement

open PyTime Kappa RelationshipSheets

/-! ## Matched rows -/

section
variable {α K : Type} [DecidableEq K] {key : α → K} {first second : List α} {rows : List (α × α)}

/-- A list is matched by key with another one. -/
theorem matched_rows {pick : α → Except String (α × α)} (h : first.mapM pick = .ok rows) (hpick : ∀ {a row}, pick a = .ok row →
      row.1 = a ∧ PyDict.get (PyDict.ofItems (second.map fun b => (key b, b))) (key a) = some row.2) :
    rows.map Prod.fst = first ∧ ∀ row ∈ rows, row.2 ∈ second ∧ key row.2 = key row.1 := by
  constructor
  · have hfirst := map_of_mapM h fun a _ row hok => (hpick hok).1
    rwa [List.map_id'] at hfirst
  · intro row hmem
    obtain ⟨a, -, hok⟩ := (mem_mapM h).1 row hmem
    obtain ⟨rfl, hget⟩ := hpick hok
    obtain ⟨b, hb, hkey, hrow⟩ := RetrievalAdjudication.mem_of_get_ofItems hget
    exact ⟨hrow ▸ hb, hrow ▸ hkey⟩

omit [DecidableEq K] in
/-- The partners of a list with the same keys are the whole of the other one. -/
theorem partners_perm (hfirst : rows.map Prod.fst = first) (hrows : ∀ row ∈ rows, row.2 ∈ second ∧ key row.2 = key row.1)
    (h : (first.map key).Nodup) (h' : (second.map key).Nodup) (hkeys : ∀ b ∈ second, key b ∈ first.map key) :
    (rows.map Prod.snd).Perm second := by
  have hsame : (rows.map Prod.snd).map key = first.map key := by
    rw [← hfirst, List.map_map, List.map_map]
    exact List.map_congr_left fun row hrow => (hrows row hrow).2
  have hnodup : ((rows.map Prod.snd).map key).Nodup := hsame ▸ h
  rw [List.perm_ext_iff_of_nodup (List.Nodup.of_map _ hnodup) (List.Nodup.of_map _ h')]
  intro b
  constructor
  · intro hb
    obtain ⟨row, hrow, rfl⟩ := List.mem_map.mp hb
    exact (hrows row hrow).1
  · intro hb
    obtain ⟨c, hc, hkey⟩ := List.mem_map.mp (hsame ▸ hkeys b hb)
    have hmem : c ∈ second := by
      obtain ⟨row, hrow, rfl⟩ := List.mem_map.mp hc
      exact (hrows row hrow).1
    exact List.inj_on_of_nodup_map h' hmem hb hkey ▸ hc

end

namespace Relationship

variable {E : Type} {m : ReviewModel E} {first second : RelationshipPool m} {rows : List ReviewedCase}

/-- How often a reviewer gives a label. -/
def labelCount (pool : RelationshipPool m) (label : RelationshipLabel) : ℕ := pool.cases.countP fun c => c.goldLabel = some label

/-! ## Rows of two reviews -/

theorem pool_cases (pool : RelationshipPool m) :
    pool.cases ≠ [] ∧ (∀ c ∈ pool.cases, c.validate m = .ok ()) ∧ (pool.cases.map fun c => c.caseId).Nodup := by
  have hvalid := pool.valid
  unfold RelationshipPoolData.validate RelationshipPoolData.checkFields RelationshipPoolData.checkSample at hvalid
  simp only [bind_ok, exists_unit, check_eq_ok, listForM_ok, decide_eq_true_eq, Bool.not_eq_true', List.isEmpty_eq_false_iff] at hvalid
  obtain ⟨hfields, hcases, -, -, hsample, -⟩ := hvalid
  obtain ⟨-, -, -, -, -, -, -, -, -, -, -, -, hne, -⟩ := hfields
  obtain ⟨-, -, -, -, hids, -⟩ := hsample
  exact ⟨hne, hcases, hids⟩

/-- The rows of two reviews, one for each case of the one and of the other. -/
structure Pairing (first second : RelationshipPool m) (rows : List ReviewedCase) : Prop where
  inFirst : rows.map ReviewedCase.left = first.cases
  inSecond : (rows.map ReviewedCase.right).Perm second.cases
  leftLabelled : ∀ r ∈ rows, r.left.goldLabel = some r.leftLabel
  rightLabelled : ∀ r ∈ rows, r.right.goldLabel = some r.rightLabel

theorem pairing_of_reviewRows (h : reviewRows first second = .ok rows) : Pairing first second rows := by
  unfold reviewRows at h
  simp only [bind_ok, exists_unit, check_eq_ok] at h
  obtain ⟨hset, pairs, hpairs, -, hrows⟩ := h
  have hrow : List.Forall₂ (fun pair r => pair.1 = r.left ∧ pair.2 = r.right) pairs rows := by
    refine (mapM_ok.mp hrows).imp fun pair r h => ?_
    split at h
    · obtain rfl := Except.ok.inj h
      exact ⟨rfl, rfl⟩
    · cases h
  obtain ⟨hfirst, hmatched⟩ := matched_rows hpairs fun {case row} hok => by
    split at hok
    · rename_i other hother
      obtain rfl := Except.ok.inj hok
      exact ⟨rfl, hother⟩
    · cases hok
  obtain ⟨-, -, hids⟩ := pool_cases first
  obtain ⟨-, -, hids'⟩ := pool_cases second
  have hperm := partners_perm hfirst hmatched hids hids' fun b hb =>
    (sameSet_iff.mp hset b.caseId).mp (List.mem_map_of_mem (f := fun c : RelationshipCase => c.caseId) hb)
  have hleft : pairs.map Prod.fst = rows.map ReviewedCase.left := by
    rw [← List.forall₂_eq_eq_eq, List.forall₂_map_left_iff, List.forall₂_map_right_iff]
    exact hrow.imp fun _ _ h => h.1
  have hright : pairs.map Prod.snd = rows.map ReviewedCase.right := by
    rw [← List.forall₂_eq_eq_eq, List.forall₂_map_left_iff, List.forall₂_map_right_iff]
    exact hrow.imp fun _ _ h => h.2
  have hlabelled : ∀ r ∈ rows, r.left.goldLabel = some r.leftLabel ∧ r.right.goldLabel = some r.rightLabel := by
    intro r hr
    obtain ⟨pair, -, hok⟩ := (mem_mapM hrows).1 r hr
    split at hok
    · rename_i leftLabel rightLabel hleft hright
      obtain rfl := Except.ok.inj hok
      exact ⟨hleft, hright⟩
    · cases hok
  exact ⟨hleft.symm.trans hfirst, hright ▸ hperm, fun r hr => (hlabelled r hr).1, fun r hr => (hlabelled r hr).2⟩

theorem onScale_labels (pairs : List (RelationshipLabel × RelationshipLabel)) : OnScale relationshipLabels pairs := by
  have hscale : ∀ label : RelationshipLabel, label ∈ relationshipLabels := by
    intro label
    cases label <;> decide
  exact ⟨by decide, fun _ _ => ⟨hscale _, hscale _⟩⟩

theorem labels_ne_nil (h : Pairing first second rows) : rows.map ReviewedCase.labels ≠ [] := by
  intro hnil
  obtain ⟨hne, -⟩ := pool_cases first
  rw [← h.inFirst, List.map_eq_nil_iff.mp hnil] at hne
  exact hne rfl

theorem firsts_labels (h : Pairing first second rows) (label : RelationshipLabel) :
    firsts (rows.map ReviewedCase.labels) label = labelCount first label := by
  rw [labelCount, ← h.inFirst, firsts, List.countP_map, List.countP_map]
  refine List.countP_congr fun r hr => ?_
  simp only [Function.comp_apply, decide_eq_true_eq, h.leftLabelled r hr, Option.some.injEq]
  rfl

theorem seconds_labels (h : Pairing first second rows) (label : RelationshipLabel) :
    seconds (rows.map ReviewedCase.labels) label = labelCount second label := by
  rw [labelCount, ← h.inSecond.countP_eq, seconds, List.countP_map, List.countP_map]
  refine List.countP_congr fun r hr => ?_
  simp only [Function.comp_apply, decide_eq_true_eq, h.rightLabelled r hr, Option.some.injEq]
  rfl

/-! ## Disagreements -/

theorem disagreementOf_some {r : ReviewedCase} {d : ReviewDisagreement} (h : disagreementOf r = some d) :
    r.leftLabel ≠ r.rightLabel ∧ d.caseId = r.left.caseId := by
  unfold disagreementOf at h
  split at h
  · cases h
  · rename_i hdiffer
    rw [← Option.some.inj h]
    exact ⟨hdiffer, rfl⟩

theorem disagreements_labels (rows : List ReviewedCase) :
    (rows.filterMap disagreementOf).map (fun d => (d.firstLabel, d.secondLabel)) =
      (rows.map ReviewedCase.labels).filter fun pair => pair.1 ≠ pair.2 := by
  rw [List.map_filterMap, List.filter_map, ← List.filterMap_eq_filter, List.map_filterMap]
  refine List.filterMap_congr fun r _ => ?_
  unfold disagreementOf
  by_cases hlabel : r.leftLabel = r.rightLabel <;> simp [hlabel, ReviewedCase.labels, Option.guard]

theorem disagreements_ids (rows : List ReviewedCase) :
    ((rows.filterMap disagreementOf).map (·.caseId)).Sublist ((rows.map ReviewedCase.left).map fun c => c.caseId) := by
  induction rows with
  | nil => exact List.Sublist.refl _
  | cons r rows ih =>
    rw [List.filterMap_cons, List.map_cons, List.map_cons]
    cases hdisagreement : disagreementOf r with
    | none => exact ih.cons _
    | some d =>
      rw [List.map_cons, (disagreementOf_some hdisagreement).2]
      exact ih.cons_cons _

theorem case_bounds {c : RelationshipCase} (h : c.validate m = .ok ()) :
    matchesCaseId c.caseId = true ∧ c.rationale.all (fun text => text.length ≤ 1000) = true := by
  unfold RelationshipCase.validate CaseEvidence.validate at h
  simp only [bind_ok, exists_unit, check_eq_ok] at h
  exact ⟨h.2.2.1.1, h.2.1⟩

theorem disagreement_valid (h : Pairing first second rows) {r : ReviewedCase} (hr : r ∈ rows) {d : ReviewDisagreement}
    (hd : disagreementOf r = some d) : d.validate = .ok () := by
  obtain ⟨-, hvalid, -⟩ := pool_cases first
  obtain ⟨-, hvalid', -⟩ := pool_cases second
  have hleft := case_bounds (hvalid r.left (h.inFirst ▸ List.mem_map_of_mem hr))
  have hright := case_bounds (hvalid' r.right (h.inSecond.subset (List.mem_map_of_mem hr)))
  obtain ⟨hdiffer, -⟩ := disagreementOf_some hd
  unfold disagreementOf at hd
  rw [if_neg hdiffer] at hd
  obtain rfl := Option.some.inj hd
  unfold ReviewDisagreement.validate
  simp only [bind_ok, exists_unit, check_eq_ok, decide_eq_true_eq]
  exact ⟨hleft.1, hleft.2, hright.2, hdiffer⟩

/-! ## The report -/

/-- What holds of the agreement report of two reviews. -/
structure Consistent (report : AgreementReport) (first second : RelationshipPool m) : Prop where
  margins : Marginals relationshipLabels report.confusionMatrix (labelCount first) (labelCount second)
  overall : report.overall.Bounded
  predicates : ∀ group ∈ report.predicates, group.2.Bounded
  sourcePairs : ∀ group ∈ report.sourcePairs, group.2.Bounded

theorem onScale_keyed {K : Type} (rows : List ReviewedCase) (key : ReviewedCase → K) :
    OnScale relationshipLabels ((rows.map fun r => (key r, r.labels)).map Prod.snd) := by
  rw [List.map_map]
  exact onScale_labels _

theorem groups_ok {K : Type} [DecidableEq K] (le : K → K → Prop) [DecidableRel le] (rows : List ReviewedCase) (key : ReviewedCase → K) :
    sortedGroups le agreementMetrics (rows.map fun r => (key r, r.labels)) =
      .ok (sortedBy le (measured relationshipLabels) (rows.map fun r => (key r, r.labels))) :=
  sortedGroups_measured (onScale_keyed rows key) fun hscale hne => agreementMetrics_ok _ _ hscale hne

/-- What the comparison derives of the rows of two reviews. -/
def reportOf (reviewers : String × String) (rows : List ReviewedCase) : AgreementReport :=
  { reviewers
    overall := measured relationshipLabels (rows.map ReviewedCase.labels)
    predicates := sortedBy (fun a b => a.text ≤ b.text) (measured relationshipLabels) (rows.map fun r => (r.left.predicate, r.labels))
    sourcePairs := sortedBy (· ≤ ·) (measured relationshipLabels) (rows.map fun r => (r.left.pairKey, r.labels))
    confusionMatrix := agreementConfusion relationshipLabels (rows.map ReviewedCase.labels)
    disagreements := (rows.filterMap disagreementOf).insertionSort fun a b => a.caseId ≤ b.caseId }

theorem reportOf_valid {casefold : String → String} {reviewers : String × String} (h : Pairing first second rows)
    (hreviewers : checkReviewers casefold reviewers = .ok ()) : (reportOf reviewers rows).validate casefold = .ok () := by
  obtain ⟨-, -, hids⟩ := pool_cases first
  have hsorted : (reportOf reviewers rows).disagreements.Perm (rows.filterMap disagreementOf) := List.perm_insertionSort _ _
  have hlabels := (hsorted.map fun d => (d.firstLabel, d.secondLabel)).trans (.of_eq (disagreements_labels rows))
  unfold AgreementReport.validate
  simp only [bind_ok, exists_unit, check_eq_ok, decide_eq_true_eq]
  refine ⟨hreviewers, checkMatrix_ok _ _ _ (onScale_labels _), ?_, ?_, checkOffDiagonal_ok hlabels, ?_, ?_⟩
  · exact (hsorted.map (·.caseId)).nodup_iff.mpr ((disagreements_ids rows).nodup (h.inFirst ▸ hids))
  · have hlength := hlabels.length_eq
    rw [List.length_map, length_filter_ne] at hlength
    exact hlength
  · exact (groupCount_measured (fun a b : ClaimPredicate => a.text ≤ b.text) _ _).trans ((List.length_map _).trans (List.length_map _).symm)
  · exact (groupCount_measured (· ≤ ·) _ _).trans ((List.length_map _).trans (List.length_map _).symm)

theorem reportOf_consistent (reviewers : String × String) (h : Pairing first second rows) :
    Consistent (reportOf reviewers rows) first second := by
  have hscale := onScale_labels (rows.map ReviewedCase.labels)
  refine ⟨fun label hlabel => ?_, bounded_rates hscale (labels_ne_nil h), fun group hgroup => ?_, fun group hgroup => ?_⟩
  · rw [← firsts_labels h, ← seconds_labels h]
    exact marginals_confusion hscale label hlabel
  · exact bounded_sortedBy (fun a b : ClaimPredicate => a.text ≤ b.text) (onScale_keyed rows _) hgroup
  · exact bounded_sortedBy (· ≤ ·) (onScale_keyed rows _) hgroup

theorem requireSingleReview_ok {pool : RelationshipPool m} {label reviewer : String} (h : requireSingleReview pool label = .ok reviewer) :
    pool.reviewer = some reviewer := by
  unfold requireSingleReview at h
  split at h
  · rename_i name _ _ hname _
    simp only [bind_ok, exists_unit, Except.ok.injEq] at h
    exact h.2 ▸ hname
  · cases h

theorem canonicalReviews_reviewers {one other : RelationshipPool m} {pair : RelationshipPool m × RelationshipPool m}
    (h : canonicalReviews one other = .ok pair) :
    checkReviewers m.casefold (pair.1.reviewer.getD "", pair.2.reviewer.getD "") = .ok () := by
  unfold canonicalReviews at h
  simp only [bind_ok, exists_unit, check_eq_ok, decide_eq_true_eq, Except.ok.injEq] at h
  obtain ⟨first, hfirst, second, hsecond, hne, -, hpair⟩ := h
  have hdiffer : m.casefold (one.reviewer.getD "") ≠ m.casefold (other.reviewer.getD "") := by
    rw [requireSingleReview_ok hfirst, requireSingleReview_ok hsecond]
    exact hne
  refine checkReviewers_ok ?_ (namedBefore_canonicalPair hpair hdiffer)
  rcases canonicalPair_cases m.casefold (fun pool : RelationshipPool m => pool.reviewer.getD "") one other with horder | horder
  · obtain rfl : (one, other) = pair := horder.symm.trans hpair
    exact hdiffer
  · obtain rfl : (other, one) = pair := horder.symm.trans hpair
    exact hdiffer.symm

/-- **Relationship reviews.** Two complete reviews of one pool have an agreement
report, and it is consistent. -/
theorem compare_consistent {one other : RelationshipPool m} {pair : RelationshipPool m × RelationshipPool m}
    (hreviews : canonicalReviews one other = .ok pair) (hrows : reviewRows pair.1 pair.2 = .ok rows) :
    ∃ report, compareIndependentReviews one other = .ok report ∧ Consistent report pair.1 pair.2 := by
  have h := pairing_of_reviewRows hrows
  have hvalid := reportOf_valid h (canonicalReviews_reviewers hreviews)
  refine ⟨_, ?_, reportOf_consistent (pair.1.reviewer.getD "", pair.2.reviewer.getD "") h⟩
  unfold compareIndependentReviews
  simp only [bind_ok, hreviews, exists_unit, Except.ok.injEq, Prod.exists]
  refine ⟨pair.1, pair.2, rfl, rows, hrows, listForM_ok.mpr fun d hd => ?_, _,
    agreementMetrics_ok _ _ (onScale_labels _) (labels_ne_nil h), _, groups_ok _ rows _, _, groups_ok _ rows _, hvalid, rfl⟩
  obtain ⟨r, hr, hdisagreement⟩ := List.mem_filterMap.mp hd
  exact disagreement_valid h hr hdisagreement

end Relationship

end AtlasPulse.ExactAgreement
