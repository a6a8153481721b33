import AtlasPulse.GroundedAgreementSound
import AtlasPulse.RelationshipSamplingSound

/-!
# Agreement in the three review workflows

The agreement metrics of retrieval, relationship and grounded-answer reviews are
consistent, and do not depend on which review comes first.
-/

namespace AtlasPulse

open ExactAgreement GroundedAgreement Binary64

/-! ## Main theorem -/

/-- **Agreement.** Exchanged pairs have the same metrics and the transposed
matrix. Two complete reviews have a report that its validators accept; the
margins of its matrices are the counts of each reviewer, and its rates lie in
their intervals. -/
theorem agreement_metrics_consistent :
    (∀ {L : Type} [DecidableEq L] (empty uncovered : String) (scale : List L) (pairs : List (L × L)),
      ExactAgreement.agreementMetrics empty uncovered scale (pairs.map Prod.swap) =
          ExactAgreement.agreementMetrics empty uncovered scale pairs ∧
        agreementConfusion scale (pairs.map Prod.swap) = transpose scale (agreementConfusion scale pairs)) ∧
    (∀ (d : Dimension) (values : List (String × String)), Kappa.OnScale d.scale values → dimensionAgreement d (values.map Prod.swap) =
      (dimensionAgreement d values).map fun a => { a with confusionMatrix := transpose d.scale a.confusionMatrix }) ∧
    (∀ {F : Type} [DecidableEq F] {m : PoolModel F} (one other : CandidatePool m) pair capture rows,
      RetrievalAdjudication.canonicalReviews one other = .ok (pair, capture) →
      RetrievalAdjudication.candidateRows pair.1.pool pair.2.pool = .ok rows →
      (∀ q ∈ pair.1.pool.queries, q.query.slices.Nodup) →
      ∃ report, Retrieval.compareIndependentRetrievalReviews one other = .ok report ∧
        Retrieval.Consistent report pair.1.pool pair.2.pool) ∧
    (∀ {E : Type} {m : ReviewModel E} (one other : RelationshipPool m) pair rows,
      Relationship.canonicalReviews one other = .ok pair → Relationship.reviewRows pair.1 pair.2 = .ok rows →
      ∃ report, Relationship.compareIndependentReviews one other = .ok report ∧ Relationship.Consistent report pair.1 pair.2) ∧
    ∀ (casefold : String → String) (one other : ReviewedBatch) pair rows,
      GroundedAgreement.canonicalReviews casefold one other = .ok pair → reviewPairs pair.1 pair.2 = .ok rows →
      ∃ report, compareGroundedAnswerReviews casefold one other = .ok report ∧
        GroundedAgreement.Consistent report pair.1 pair.2 := by
  refine ⟨fun empty uncovered scale pairs => ⟨agreementMetrics_swap empty uncovered scale pairs, agreementConfusion_swap scale pairs⟩,
    fun d values h => ?_, fun one other pair capture rows hreviews hrows hslices => ?_, fun one other pair rows hreviews hrows => ?_,
    fun casefold one other pair rows hreviews hrows => ?_⟩
  · exact dimensionAgreement_swap h
  · exact Retrieval.compare_consistent hreviews hrows hslices
  · exact Relationship.compare_consistent hreviews hrows
  · exact GroundedAgreement.compare_consistent hreviews hrows

/-! ## Reviews by Ana and by Ben -/

namespace Reviewed

open RetrievalAdjudication.Izmir in
/-- A review of one quake. -/
def retrieval (reviewer : String) (grade : ℕ) : CandidatePoolData Unit :=
  { data reviewer grade with queries := [⟨⟨"quakes", "quakes", ["hazard"], ()⟩, [⟨evidence, some grade, none⟩],
      [⟨.lexical, "rule", "none", Float64.ofInt 1, ["usgs:izmir"]⟩]⟩] }

def retrievalAna : CandidatePool RetrievalAdjudication.Izmir.model := ⟨retrieval "Ana" 2, by decide +kernel, by decide +kernel⟩

def retrievalBen : CandidatePool RetrievalAdjudication.Izmir.model := ⟨retrieval "Ben" 3, by decide +kernel, by decide +kernel⟩

open MeasuredEdge in
def signal (source id hash : String) : EventEvidence PyTime.Datetime :=
  ⟨source ++ ":" ++ id, source, id, "signal", moment,
    "Source: " ++ source ++ "\nEvent type: signal\nEvent ID: " ++ id ++ "\nOccurred at: 2026-01-01T00:00:00+00:00", hash⟩

open MeasuredEdge in
/-- A review of one pair of signals. -/
def relationship (reviewer : String) (label : RelationshipLabel) : RelationshipPoolData :=
  { poolId := "quakes-pool"
    benchmarkId := "quakes"
    benchmarkSha256 := definitionHash
    capturedAt := moment
    endpoint := "http://atlas"
    captureLatencyMs := Float64.ofInt 4
    parameters := parameters
    predicates := [.hazardDomain]
    maxEdgesPerSourcePair := 1
    correlationRuleVersion := "spatiotemporal-v1"
    relationshipRuleVersion := "structured-claims-v1"
    incidentCount := 1
    totalIncidents := 1
    availableEdgeCount := 1
    sampledEdgeCount := 1
    availableEdgesBySourcePair := [("nws+usgs", 1)]
    sampledEdgesBySourcePair := [("nws+usgs", 1)]
    incidentsTruncated := false
    candidateEdgesTruncated := false
    schemaVersion := .firstPass
    judgmentStatus := .reviewed
    reviewer := some reviewer
    reviewedAt := some moment
    adjudication := none
    cases := [{
      caseId := "pair-38ed5a90093322df04d3"
      edgeId := "edge-1"
      predicate := .hazardDomain
      sourcePair := ("nws", "usgs")
      left := signal "nws" "warning" warningHash
      right := signal "usgs" "quake" quakeHash
      distanceKm := Float64.ofInt 4
      timeDeltaMinutes := Float64.ofInt 4
      leftGeometryBasis := .point
      rightGeometryBasis := .point
      systemPrediction := ⟨.insufficientEvidence, [], [], [], []⟩
      goldLabel := some label
      rationale := none }] }

def relationshipAna : RelationshipPool MeasuredEdge.reports :=
  ⟨relationship "Ana" .corroborates, by decide +kernel, by decide +kernel⟩

def relationshipBen : RelationshipPool MeasuredEdge.reports :=
  ⟨relationship "Ben" .contradicts, by decide +kernel, by decide +kernel⟩

/-- A review of one claim. -/
def grounded (reviewer : String) (support : ℕ) : ReviewData :=
  { taskId := "grounded-task-6e5744fde5e40cb3e0f7"
    taskSha256 := MeasuredEdge.definitionHash
    batchId := "grounded-batch-6e5744fde5e40cb3e0f7"
    batchSha256 := MeasuredEdge.definitionHash
    rubricVersion := "grounded-brief-review-v1"
    reviewer
    judgments := [⟨"answer-case-6e5744fde5e40cb3e0f7", some "claim-01", some support, some 2, some 2, none, "Quoted from the report"⟩]
    reviewStatus := .firstPassComplete
    adjudicated := false }

def groundedAna : ReviewedBatch := ⟨grounded "Ana" 3, by decide +kernel⟩

def groundedBen : ReviewedBatch := ⟨grounded "Ben" 1, by decide +kernel⟩

theorem retrieval_canonical : RetrievalAdjudication.canonicalReviews retrievalAna retrievalBen =
    .ok ((⟨retrievalAna, "Ana", RetrievalAdjudication.Izmir.moment⟩, ⟨retrievalBen, "Ben", RetrievalAdjudication.Izmir.moment⟩),
      RetrievalAdjudication.retrievalCaptureSha256 retrievalAna) := by
  rw [RetrievalAdjudication.canonicalReviews_ok]
  refine ⟨⟨retrievalAna, "Ana", _⟩, ⟨retrievalBen, "Ben", _⟩, RetrievalAdjudication.requireFirstPass_ok.mpr ⟨rfl, rfl, rfl, rfl, rfl⟩,
    RetrievalAdjudication.requireFirstPass_ok.mpr ⟨rfl, rfl, rfl, rfl, rfl⟩, by decide, by decide, ?_, rfl⟩
  exact if_neg (by decide)

theorem relationship_canonical :
    Relationship.canonicalReviews relationshipAna relationshipBen = .ok (relationshipAna, relationshipBen) := by
  unfold Relationship.canonicalReviews
  simp only [bind_ok, exists_unit, check_eq_ok, Except.ok.injEq]
  refine ⟨"Ana", by decide, "Ben", by decide, by decide, by decide, ?_⟩
  exact if_neg (by decide)

theorem grounded_canonical : GroundedAgreement.canonicalReviews id groundedAna groundedBen = .ok (groundedAna, groundedBen) := by
  unfold GroundedAgreement.canonicalReviews
  simp only [bind_ok, exists_unit, check_eq_ok, Except.ok.injEq]
  refine ⟨by decide, by decide, by decide, by decide, ?_⟩
  exact if_neg (by decide)

end Reviewed

open Reviewed in
/-- Ana and Ben have a consistent report in each of the workflows. -/
theorem agreement_metrics_consistent_ana_ben :
    dimensionAgreement .supportGrade [("1", "3")] =
      (dimensionAgreement .supportGrade [("3", "1")]).map (fun a =>
        { a with confusionMatrix := transpose Dimension.supportGrade.scale a.confusionMatrix }) ∧
    (∃ report, Retrieval.compareIndependentRetrievalReviews retrievalAna retrievalBen = .ok report ∧
      Retrieval.Consistent report retrievalAna retrievalBen) ∧
    (∃ report, Relationship.compareIndependentReviews relationshipAna relationshipBen = .ok report ∧
      Relationship.Consistent report relationshipAna relationshipBen) ∧
    ∃ report, compareGroundedAnswerReviews id groundedAna groundedBen = .ok report ∧
      GroundedAgreement.Consistent report groundedAna groundedBen := by
  obtain ⟨-, hdimension, hretrieval, hrelationship, hgrounded⟩ := agreement_metrics_consistent
  have hscale : Kappa.OnScale Dimension.supportGrade.scale [("3", "1")] := by
    unfold Kappa.OnScale
    decide
  have hretrievalRows : MeasuredEdge.accepts (RetrievalAdjudication.candidateRows retrievalAna retrievalBen) = true := by decide +kernel
  have hrelationshipRows : MeasuredEdge.accepts (Relationship.reviewRows relationshipAna relationshipBen) = true := by decide +kernel
  have hgroundedRows : MeasuredEdge.accepts (reviewPairs groundedAna groundedBen) = true := by decide +kernel
  obtain ⟨retrievalRows, hretrievalRows⟩ := MeasuredEdge.ok_of_accepts hretrievalRows
  obtain ⟨relationshipRows, hrelationshipRows⟩ := MeasuredEdge.ok_of_accepts hrelationshipRows
  obtain ⟨groundedRows, hgroundedRows⟩ := MeasuredEdge.ok_of_accepts hgroundedRows
  refine ⟨hdimension .supportGrade [("3", "1")] hscale, ?_, ?_, ?_⟩
  · refine hretrieval retrievalAna retrievalBen _ _ retrievalRows retrieval_canonical hretrievalRows fun q hq => ?_
    rw [List.mem_singleton.mp hq]
    exact List.nodup_singleton _
  · exact hrelationship relationshipAna relationshipBen _ relationshipRows relationship_canonical hrelationshipRows
  · exact hgrounded id groundedAna groundedBen _ groundedRows grounded_canonical hgroundedRows

end AtlasPulse
