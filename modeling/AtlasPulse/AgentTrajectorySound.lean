import AtlasPulse.AgentTrajectory
import AtlasPulse.Lib.Rates

/-!
# Soundness of trajectory scores

What an import binds is what the scorer asks of a trajectory (`import_binds`),
and the strict passes of a score report are exactly the cases whose trace uses
no capability, ends as its response does, inspects all that the response cites
and drafts each claim last with the evidence of the claim (`score_strict`).
-/

namespace AtlasPulse.AgentTrajectory

open PyJson PyTime Binary64

/-! ## Ordered ids -/

theorem mem_sortedUnique {α : Type} [LinearOrder α] {l : List α} {a : α} : a ∈ sortedUnique l ↔ a ∈ l := by
  rw [sortedUnique, List.mem_insertionSort, List.mem_dedup]

theorem nodup_sortedUnique {α : Type} [LinearOrder α] (l : List α) : (sortedUnique l).Nodup :=
  (List.perm_insertionSort _ _).nodup_iff.mpr (List.nodup_dedup l)

theorem nodup_of_ordered {α : Type} [LinearOrder α] {l : List α} (h : l = sortedUnique l) : l.Nodup := by
  rw [h]
  exact nodup_sortedUnique l

/-- What is looked up by a distinct id is what has it. -/
theorem find?_id {α β : Type} [DecidableEq β] {id : α → β} {l : List α} (h : (l.map id).Nodup) {a : α} (ha : a ∈ l) :
    l.find? (fun x => id x = id a) = some a := by
  cases hfind : l.find? (fun x => id x = id a) with
  | none => exact absurd (decide_eq_true rfl) (List.find?_eq_none.mp hfind a ha)
  | some x =>
    have hid : id x = id a := by simpa using List.find?_some hfind
    rw [List.inj_on_of_nodup_map h (List.mem_of_find?_eq_some hfind) ha hid]

/-! ## Last drafts -/

/-- The last item of a key is the one that counts. -/
theorem get_ofItems {K V : Type} [DecidableEq K] (items : List (K × V)) (key : K) :
    PyDict.get (PyDict.ofItems items) key = ((items.filter fun item => item.1 = key).map Prod.snd).getLast? := by
  induction items using List.reverseRecOn with
  | nil => rfl
  | append_singleton items item ih =>
    rw [PyDict.ofItems_concat, PyDict.get_setItem (PyDict.nodup_ofItems items), List.filter_append, List.map_append, ih]
    by_cases hkey : item.1 = key
    · simp [hkey]
    · simp [hkey, Ne.symm hkey]

/-- The drafts of a claim. -/
def draftsOf (steps : List AgentTrajectoryStep) (claimId : String) : List AgentTrajectoryStep :=
  (steps.filter fun step => step.action = .draftClaim).filter fun step => step.claimIds.head? = some claimId

theorem drafts_ok {steps : List AgentTrajectoryStep} {d : List (String × List String)} (h : drafts steps = .ok d)
    (claimId : String) : PyDict.get d claimId = ((draftsOf steps claimId).map (·.evidenceIds)).getLast? := by
  obtain ⟨items, hitems, hd⟩ := bind_ok.mp h
  obtain rfl := Except.ok.inj hd
  rw [get_ofItems, draftsOf]
  congr 1
  have hrows := mapM_ok.mp hitems
  generalize (steps.filter fun step => step.action = .draftClaim) = drafted at hrows ⊢
  clear h hd hitems
  induction hrows with
  | nil => rfl
  | cons hstep hrest ih =>
    rename_i step item steps' items'
    cases hids : step.claimIds with
    | nil => simp [hids] at hstep
    | cons id ids =>
      simp only [hids, Except.ok.injEq] at hstep
      subst hstep
      by_cases hid : id = claimId
      · simp [hids, hid, ih]
      · simp [hids, hid, ih]

/-! ## Strict traces -/

/-- A step of the trace inspects the evidence. -/
def Inspects (steps : List AgentTrajectoryStep) (evidenceId : String) : Prop :=
  ∃ step ∈ steps, step.action = .inspectEvidence ∧ evidenceId ∈ step.evidenceIds

/-- A trace of the response without a fault. -/
structure StrictTrace (response : GroundedAnswerResponse) (trajectory : AgentTrajectoryCase) : Prop where
  isolated : trajectory.capabilities = ⟨false, false, false⟩
  abstains : (∃ step ∈ trajectory.steps, step.action = .chooseAbstention) ↔ response.status = .abstained
  drafts : (∃ step ∈ trajectory.steps, step.action = .draftClaim) ↔ response.status = .answered
  inspected : ∀ claim ∈ response.claims, ∀ evidenceId ∈ claim.evidenceIds, Inspects trajectory.steps evidenceId
  drafted : ∀ claim ∈ response.claims,
    (draftsOf trajectory.steps claim.claimId).getLast?.map (·.evidenceIds) = some claim.evidenceIds


theorem nodup_claimIds (response : GroundedAnswerResponse) : (response.claims.map (·.claimId)).Nodup := by
  rw [response.numbered]
  apply List.Nodup.map_on _ List.nodup_range
  intro i hi j hj heq
  have hi' := List.mem_range.mp hi
  have hj' := List.mem_range.mp hj
  have hfew := response.few
  have hpad : Digits.pad 2 (i + 1) = Digits.pad 2 (j + 1) := by
    have := congrArg String.toList heq
    simpa [claimIdAt] using this
  have := Digits.pad_inj (by omega) (by omega) hpad
  omega

theorem length_citedEvidence (response : GroundedAnswerResponse) : (citedEvidence response).dedup.length ≤ 32 := by
  have hsum : (response.claims.map fun claim => claim.evidenceIds.length).sum ≤ response.claims.length * 4 := by
    have hle := List.sum_le_card_nsmul (response.claims.map fun claim => claim.evidenceIds.length) 4 fun n hn => by
      obtain ⟨claim, -, rfl⟩ := List.mem_map.mp hn
      exact claim.cited.2
    simpa using hle
  calc (citedEvidence response).dedup.length ≤ (citedEvidence response).length := (List.dedup_sublist _).length_le
    _ = (response.claims.flatMap (·.evidenceIds)).dedup.length := List.length_insertionSort _ _
    _ ≤ (response.claims.flatMap (·.evidenceIds)).length := (List.dedup_sublist _).length_le
    _ = (response.claims.map fun claim => claim.evidenceIds.length).sum := List.length_flatMap
    _ ≤ response.claims.length * 4 := hsum
    _ ≤ 32 := by have := response.few; omega

theorem rateOr_beq_one {k n : ℕ} {other rate : Float64} (hk : k ≤ n) (hn : n ≤ 2 ^ 53) (h : rateOr k n other = .ok rate) :
    rate.beq (Float64.ofInt 1) = true ↔ k = n ∧ (n = 0 → other.beq (Float64.ofInt 1) = true) := by
  unfold rateOr at h
  by_cases hzero : n = 0
  · rw [if_pos hzero, Except.ok.injEq] at h
    rw [← h]
    simp [hzero, Nat.le_zero.mp (hzero ▸ hk)]
  · rw [if_neg hzero] at h
    rw [rate_beq_one hzero hk hn h]
    simp [hzero]

theorem one_beq_one : (Float64.ofInt 1).beq (Float64.ofInt 1) = true := (Float64.beq_iff ofInt_one ofInt_one).mpr rfl

theorem ofBool_beq_one (value : Bool) : (ofBool value).beq (Float64.ofInt 1) = value := by
  cases value with
  | true => exact one_beq_one
  | false =>
    have hfalse : ¬ (Float64.ofInt 0).beq (Float64.ofInt 1) = true := by
      rw [Float64.beq_iff Near.ofInt_zero ofInt_one]
      norm_num
    simpa [ofBool] using hfalse

/-! ## Outcomes -/

section
variable {t : AgentTrajectoryCase} {g : Bool} {expected : List (String × List String)} {o : AgentTrajectoryCaseOutcome}

/-- What an outcome says of its trace. -/
structure Graded (t : AgentTrajectoryCase) (g : Bool) (expected : List (String × List String))
    (o : AgentTrajectoryCaseOutcome) : Prop where
  caseId : o.caseId = t.caseId
  queryId : o.queryId = t.queryId
  responseStatus : o.responseStatus = t.responseStatus
  grounded : o.groundedStrictPass = g
  endToEnd : o.strictEndToEndPass = (o.strictTrajectoryPass && g)
  strict : o.strictTrajectoryPass = (o.policyCompliant && o.terminationConsistent &&
    o.evidenceInspectionRate.beq (Float64.ofInt 1) && o.claimTraceRate.beq (Float64.ofInt 1))
  policy : o.policyCompliant = true ↔ t.capabilities = ⟨false, false, false⟩
  termination : o.terminationConsistent = true ↔
    ((∃ step ∈ t.steps, step.action = .chooseAbstention) ↔ t.responseStatus = .abstained) ∧
      ((∃ step ∈ t.steps, step.action = .draftClaim) ↔ t.responseStatus = .answered)
  inspection : t.requiredEvidenceIds.dedup.length ≤ 2 ^ 53 → (o.evidenceInspectionRate.beq (Float64.ofInt 1) = true ↔
    ∀ evidenceId ∈ t.requiredEvidenceIds, Inspects t.steps evidenceId)
  claims : expected.length ≤ 2 ^ 53 → (o.claimTraceRate.beq (Float64.ofInt 1) = true ↔
    (∀ claim ∈ expected, (draftsOf t.steps claim.1).getLast?.map (·.evidenceIds) = some claim.2) ∧
      (expected = [] → o.terminationConsistent = true))

theorem any_action_eq (steps : List AgentTrajectoryStep) (action : TrajectoryAction) :
    steps.any (·.action = action) = decide (∃ step ∈ steps, step.action = action) := by
  rw [Bool.eq_iff_iff]
  simp

theorem isTerminationConsistent_iff (status : ResponseStatus) (hasDraft hasAbstention : Bool) :
    isTerminationConsistent status hasDraft hasAbstention = true ↔
      (hasAbstention = true ↔ status = .abstained) ∧ (hasDraft = true ↔ status = .answered) := by
  cases status <;> cases hasDraft <;> cases hasAbstention <;> simp [isTerminationConsistent]

theorem trajectoryOutcome_ok (h : trajectoryOutcome t g expected = .ok o) : Graded t g expected o := by
  simp only [trajectoryOutcome, bind_ok] at h
  obtain ⟨d, hd, evidenceRate, hevidence, claimRate, hclaim, -, -, ho⟩ := h
  obtain rfl := Except.ok.inj ho
  constructor
  case policy =>
    obtain ⟨network, tools, effects⟩ := t.capabilities
    cases network <;> cases tools <;> cases effects <;> simp
  case termination =>
    rw [isTerminationConsistent_iff, any_action_eq, any_action_eq, decide_eq_true_iff, decide_eq_true_iff]
  case inspection =>
    intro hfew
    rw [rateOr_beq_one (List.length_filter_le _ _) hfew hevidence]
    simp only [one_beq_one, implies_true, and_true, List.length_filter_eq_length_iff, decide_eq_true_eq, List.mem_dedup,
      List.mem_flatMap, List.mem_filter, Inspects, and_assoc]
  case claims =>
    intro hfew
    rw [rateOr_beq_one List.countP_le_length hfew hclaim, ofBool_beq_one, List.countP_eq_length]
    simp only [decide_eq_true_eq, List.length_eq_zero_iff, drafts_ok hd, List.getLast?_map]
  all_goals rfl

/-- The evidence and the claims that the scorer expects of a response. -/
theorem strictPass_iff {response : GroundedAnswerResponse} (hstatus : t.responseStatus = response.status)
    (hevidence : t.requiredEvidenceIds = citedEvidence response)
    (hg : Graded t g (response.claims.map fun claim => (claim.claimId, claim.evidenceIds)) o) :
    o.strictTrajectoryPass = true ↔ StrictTrace response t := by
  have hinspection := hg.inspection (by rw [hevidence]; exact (length_citedEvidence response).trans (by norm_num))
  have hclaims := hg.claims (by rw [List.length_map]; exact response.few.trans (by norm_num))
  have hcited : (∀ evidenceId ∈ t.requiredEvidenceIds, Inspects t.steps evidenceId) ↔
      ∀ claim ∈ response.claims, ∀ evidenceId ∈ claim.evidenceIds, Inspects t.steps evidenceId := by
    rw [hevidence]
    simp only [citedEvidence, mem_sortedUnique, List.mem_flatMap]
    exact ⟨fun h claim hclaim id hid => h id ⟨claim, hclaim, hid⟩, fun h id hid => by
      obtain ⟨claim, hclaim, hmem⟩ := hid
      exact h claim hclaim id hmem⟩
  rw [hg.strict, Bool.and_eq_true, Bool.and_eq_true, Bool.and_eq_true, hg.policy, hinspection, hclaims, hcited]
  simp only [List.forall_mem_map, List.map_eq_nil_iff]
  constructor
  · intro h
    obtain ⟨⟨⟨hpolicy, hend⟩, hinspected⟩, hdrafted, -⟩ := h
    obtain ⟨habstains, hdrafts⟩ := hg.termination.mp hend
    rw [hstatus] at habstains hdrafts
    exact ⟨hpolicy, habstains, hdrafts, hinspected, hdrafted⟩
  · intro h
    have hend : o.terminationConsistent = true := by
      rw [hg.termination, hstatus]
      exact ⟨h.abstains, h.drafts⟩
    exact ⟨⟨⟨h.isolated, hend⟩, h.inspected⟩, h.drafted, fun _ => hend⟩

end

/-! ## Shares -/

theorem shareOf_beq_one {outcomes : List AgentTrajectoryCaseOutcome} {holds : AgentTrajectoryCaseOutcome → Bool}
    {rate : Float64} (hsome : outcomes ≠ []) (hfew : outcomes.length ≤ 2 ^ 53) (h : shareOf outcomes holds = .ok rate) :
    rate.beq (Float64.ofInt 1) = true ↔ ∀ o ∈ outcomes, holds o = true := by
  have hlength : outcomes.length ≠ 0 := by simpa using hsome
  rw [rate_beq_one hlength List.countP_le_length hfew h, List.countP_eq_length]

/-- The shares of a summary that say whether every case passes. -/
structure Summarized (outcomes : List AgentTrajectoryCaseOutcome) (s : AgentTrajectoryMetricSummary) : Prop where
  count : s.caseCount = outcomes.length
  some_case : outcomes ≠ []
  policy : shareOf outcomes (·.policyCompliant) = .ok s.policyComplianceRate
  strict : shareOf outcomes (·.strictTrajectoryPass) = .ok s.strictTrajectoryPassRate
  grounded : shareOf outcomes (·.groundedStrictPass) = .ok s.groundedStrictPassRate
  endToEnd : shareOf outcomes (·.strictEndToEndPass) = .ok s.strictEndToEndPassRate

theorem summary_ok {outcomes : List AgentTrajectoryCaseOutcome} {s : AgentTrajectoryMetricSummary}
    (h : summary outcomes = .ok s) : Summarized outcomes s := by
  simp only [summary, bind_ok, exists_unit, check_eq_ok] at h
  obtain ⟨hsome, policy, hpolicy, _, -, _, -, _, -, strict, hstrict, grounded, hgrounded, endToEnd, hendToEnd, _, -, _, -, _, -,
    _, -, _, -, _, -, -, hs⟩ := h
  obtain rfl := Except.ok.inj hs
  exact ⟨rfl, by simpa using hsome, hpolicy, hstrict, hgrounded, hendToEnd⟩

/-! ## One trace -/

namespace OneTrace

def evidenceId : String := "evidence-820fd5f51bb218a477dc8bbbfd249c8e1049d7ef04202b953aead4c7f190822c"

theorem evidence_identified : isPrefixedHash "evidence-" evidenceId = true := by decide +kernel

theorem evidence_canonical : [evidenceId] = sortedUnique [evidenceId] := rfl

theorem evidence_all : [evidenceId].all (isPrefixedHash "evidence-") = true := by simpa using evidence_identified

def claim : GroundedAnswerClaim :=
  ⟨"claim-01", "A magnitude 6.1 earthquake struck offshore.", [evidenceId], evidence_canonical, evidence_all, by simp⟩

theorem claim_numbered : [claim].map (·.claimId) = (List.range [claim].length).map fun index => claimIdAt (index + 1) := by
  decide +kernel

def response : GroundedAnswerResponse := ⟨.answered, [claim], none, claim_numbered, by simp, by simp⟩

def responseDigest : HexDigest := ⟨"edc27a9d7cff0703c880623088a3648888cfa72e7155a34e6caa56e341f5c66e", by decide +kernel⟩

def batchDigest : HexDigest := ⟨"f93c2db55b50e132781e2ff30f1e01c608cf249d5674fbfed9e92f9e9b80869a", by decide +kernel⟩

def reportDigest : HexDigest := ⟨"85426b23d54cf504d0b211075086c9d71e4dba436dcebdafae312505038e8144", by decide +kernel⟩

/-- Systems are named, and batches and reports are dumped as the id of the batch
that they are of; the digests are the ones of the texts. -/
def model : TrajectoryModel String where
  sha256 text := if text = dumps true response.dump then responseDigest
    else if text = dumps true (.str "grounded-batch-4bb24efc9641afc5ded1") then batchDigest else reportDigest
  dumpBatch content := .str content.candidateBatchId
  dumpReport content := .str content.trajectoryBatchId
  isdigit := Char.isDigit
  casefold := id

theorem noon_inRange : 63919713600000000 < maxMicros := by decide

def noon : Datetime := ⟨63919713600000000, some 0, noon_inRange, offsetBound_zero⟩

def taskCase : GroundedAnswerTaskCase where
  caseId := "answer-case-bbfcd4160a1e8674dac6"
  queryId := "offshore-quake"
  slices := ["earthquakes"]
  packId := "pack-4862f447f2c7f272fa2f4aaf89dadb3b1ac09105bd5864f8d1a0c9452bb0a226"
  evidence := [⟨evidenceId, evidence_identified⟩]
  distinct := by simp

def task : GroundedAnswerTask where
  taskId := "grounded-task-0ebb429fa86d481c2630"
  taskSha256 := "0ebb429fa86d481c2630fac53db1c91cffed5d4d41d1021c179444eb67e7ee0b"
  benchmarkId := "offshore-v1"
  capturedAt := noon
  cases := [taskCase]
  ordered := rfl
  some_case := by simp

theorem second_finite : ((Float64.ofInt 1000).isFinite && (Float64.ofInt 0).le (Float64.ofInt 1000)) = true := by
  decide +kernel

def candidate : GroundedAnswerCandidateCase where
  caseId := taskCase.caseId
  queryId := taskCase.queryId
  response := response
  inputTokens := 900
  outputTokens := 60
  latencyMs := Float64.ofInt 1000
  tokens := by simp
  latency := second_finite

def batch : GroundedAnswerCandidateBatch String where
  batchId := "grounded-batch-4bb24efc9641afc5ded1"
  batchSha256 := "4bb24efc9641afc5ded1ca77eabb6e2fcf062d2112ccd61bd8bd6acd89180bae"
  taskId := task.taskId
  taskSha256 := task.taskSha256
  system := "quoting-model"
  cases := [candidate]
  ordered := rfl

def steps : List AgentTrajectoryStep :=
  [⟨1, .inspectEvidence, [evidenceId], [], Float64.ofInt 100⟩, ⟨2, .draftClaim, [evidenceId], ["claim-01"], Float64.ofInt 400⟩,
    ⟨3, .finalize, [], [], Float64.ofInt 50⟩]

theorem steps_valid : ∀ step ∈ steps, step.validate model.isdigit = .ok () := by decide +kernel

def row : AgentTrajectorySubmissionCase := ⟨taskCase.caseId, taskCase.queryId, some steps, some ⟨false, false, false⟩⟩

theorem rows_valid : ∀ r ∈ [row], ∀ l ∈ r.steps, l.length ≤ 64 ∧ ∀ step ∈ l, step.validate model.isdigit = .ok () := by
  simp only [List.mem_singleton, forall_eq, row, Option.mem_some_iff, forall_eq']
  exact ⟨by simp [steps], steps_valid⟩

def submission : AgentTrajectorySubmission model.isdigit where
  taskId := task.taskId
  taskSha256 := task.taskSha256
  candidateBatchId := batch.batchId
  candidateBatchSha256 := batch.batchSha256
  cases := [row]
  ordered := rfl
  valid := rows_valid

/-- What the submission is imported as. -/
def imported : AgentTrajectoryBatchData String where
  taskId := task.taskId
  taskSha256 := task.taskSha256
  candidateBatchId := batch.batchId
  candidateBatchSha256 := batch.batchSha256
  observedAt := noon
  system := batch.system
  caseCount := 1
  cases := [{
    caseId := taskCase.caseId
    queryId := taskCase.queryId
    packId := taskCase.packId
    responseSha256 := responseDigest.val
    responseStatus := .answered
    availableEvidenceIds := [evidenceId]
    requiredEvidenceIds := [evidenceId]
    requiredClaimIds := ["claim-01"]
    steps
    capabilities := ⟨false, false, false⟩
    inputTokens := 900
    outputTokens := 60
    latencyMs := Float64.ofInt 1000 }]
  trajectoryBatchId := "trajectory-batch-f93c2db55b50e132781e"
  trajectoryBatchSha256 := batchDigest.val

theorem imported_eq : applyAgentTrajectorySubmission model task batch submission noon = .ok imported := by decide +kernel

def trajectory : AgentTrajectoryBatch model := ⟨imported, by decide +kernel⟩

theorem perfect : (within 0 (Float64.ofInt 1) 1 && (some (Float64.ofInt 0)).all (within 0 · 1) &&
    (some (Float64.ofInt 1)).all (within 0 · 1)) = true := by
  decide +kernel

def grounded : GroundedAnswerReport String where
  reportId := "grounded-report-c97ace4c8fef2cee8fa0"
  reportSha256 := "c97ace4c8fef2cee8fa0f3c9f52aab18dbd4f42438afe362ffb8f75ce4c04b84"
  taskId := task.taskId
  taskSha256 := task.taskSha256
  batchId := batch.batchId
  batchSha256 := batch.batchSha256
  adjudicated := true
  system := batch.system
  answeredCaseCount := 1
  caseCount := 1
  strictCasePassRate := Float64.ofInt 1
  unsupportedClaimRate := some (Float64.ofInt 0)
  completeCitationRate := some (Float64.ofInt 1)
  outcomes := [⟨taskCase.caseId, taskCase.queryId, .answered, true⟩]
  ordered := rfl
  counted := rfl
  some_outcome := by simp
  answered_le := by simp
  rates := perfect

theorem exists_report : ∃ report, scoreAgentTrajectory model task batch grounded trajectory noon = .ok report := by
  have h : (scoreAgentTrajectory model task batch grounded trajectory noon).toOption.isSome = true := by decide +kernel
  cases hscore : scoreAgentTrajectory model task batch grounded trajectory noon with
  | error message => simp [hscore, Except.toOption] at h
  | ok report => exact ⟨report, rfl⟩

end OneTrace

/-! ## The join -/

section
variable {S : Type} {m : TrajectoryModel S}

/-- An outcome of the case that a response, its trace and its review share. -/
structure CaseScore (candidate : GroundedAnswerCandidateCase) (t : AgentTrajectoryCase) (review : GroundedCaseOutcome)
    (o : AgentTrajectoryCaseOutcome) : Prop where
  candidateId : candidate.caseId = o.caseId
  trajectoryId : t.caseId = o.caseId
  reviewId : review.caseId = o.caseId
  strict : o.strictTrajectoryPass = true ↔ StrictTrace candidate.response t
  endToEnd : o.strictEndToEndPass = true ↔ StrictTrace candidate.response t ∧ review.strictPass = true

/-- What the join asks of the case of an id. -/
structure Bound (m : TrajectoryModel S) (taskCase : GroundedAnswerTaskCase) (candidate : GroundedAnswerCandidateCase)
    (t : AgentTrajectoryCase) (review : GroundedCaseOutcome) : Prop where
  queryId : t.queryId = taskCase.queryId
  candidateQuery : t.queryId = candidate.queryId
  reviewQuery : review.queryId = taskCase.queryId
  packId : t.packId = taskCase.packId
  responseSha256 : t.responseSha256 = responseSha256 m candidate.response
  responseStatus : t.responseStatus = candidate.response.status
  reviewStatus : review.responseStatus = candidate.response.status
  available : t.availableEvidenceIds = packEvidence taskCase
  required : t.requiredEvidenceIds = citedEvidence candidate.response
  claims : t.requiredClaimIds = claimIds candidate.response
  inputTokens : t.inputTokens = candidate.inputTokens
  outputTokens : t.outputTokens = candidate.outputTokens
  latency : t.latencyMs.beq candidate.latencyMs = true

variable {task : GroundedAnswerTask} {batch : GroundedAnswerCandidateBatch S} {trajectories : List AgentTrajectoryCase}
  {grounded : GroundedAnswerReport S} {caseId : String}

theorem validateCaseBinding_ok : validateCaseBinding m task batch trajectories grounded caseId = .ok () ↔
    ∃ taskCase candidate t review, task.cases.find? (·.caseId = caseId) = some taskCase ∧
      batch.cases.find? (·.caseId = caseId) = some candidate ∧ trajectories.find? (·.caseId = caseId) = some t ∧
      grounded.outcomes.find? (·.caseId = caseId) = some review ∧ Bound m taskCase candidate t review := by
  unfold validateCaseBinding
  cases htask : task.cases.find? (·.caseId = caseId) with
  | none => simp
  | some taskCase =>
    cases hcandidate : batch.cases.find? (·.caseId = caseId) with
    | none => simp
    | some candidate =>
      cases ht : trajectories.find? (·.caseId = caseId) with
      | none => simp
      | some t =>
        cases hreview : grounded.outcomes.find? (·.caseId = caseId) with
        | none => simp
        | some review =>
          simp only [check_eq_ok, Bool.and_eq_true, decide_eq_true_eq, Option.some.injEq]
          constructor
          · intro h
            obtain ⟨⟨⟨⟨⟨⟨⟨⟨⟨⟨⟨⟨h1, h2⟩, h3⟩, h4⟩, h5⟩, h6⟩, h7⟩, h8⟩, h9⟩, h10⟩, h11⟩, h12⟩, h13⟩ := h
            exact ⟨_, _, _, _, rfl, rfl, rfl, rfl, h1, h2, h3, h4, h5, h6, h7, h8, h9, h10, h11, h12, h13⟩
          · intro h
            obtain ⟨_, _, _, _, rfl, rfl, rfl, rfl, hb⟩ := h
            exact ⟨⟨⟨⟨⟨⟨⟨⟨⟨⟨⟨⟨hb.queryId, hb.candidateQuery⟩, hb.reviewQuery⟩, hb.packId⟩, hb.responseSha256⟩,
              hb.responseStatus⟩, hb.reviewStatus⟩, hb.available⟩, hb.required⟩, hb.claims⟩, hb.inputTokens⟩, hb.outputTokens⟩,
              hb.latency⟩

theorem scoreCase_ok {o : AgentTrajectoryCaseOutcome}
    (hbound : validateCaseBinding m task batch trajectories grounded caseId = .ok ())
    (h : scoreCase batch trajectories grounded caseId = .ok o) :
    o.caseId = caseId ∧ ∃ candidate ∈ batch.cases, ∃ t ∈ trajectories, ∃ review ∈ grounded.outcomes,
      CaseScore candidate t review o := by
  obtain ⟨taskCase, candidate, t, review, htask, hcandidate, ht, hreview, hb⟩ := validateCaseBinding_ok.mp hbound
  simp only [scoreCase, hcandidate, ht, hreview] at h
  rw [PyDict.ofItems_of_nodup (by simpa [Function.comp_def] using nodup_claimIds candidate.response)] at h
  have hg := trajectoryOutcome_ok h
  have hstrict := strictPass_iff hb.responseStatus hb.required hg
  have hcandidateId : candidate.caseId = caseId := by simpa using List.find?_some hcandidate
  have htId : t.caseId = caseId := by simpa using List.find?_some ht
  have hreviewId : review.caseId = caseId := by simpa using List.find?_some hreview
  have hid : o.caseId = caseId := hg.caseId.trans htId
  refine ⟨hid, candidate, List.mem_of_find?_eq_some hcandidate, t, List.mem_of_find?_eq_some ht, review,
    List.mem_of_find?_eq_some hreview, hcandidateId.trans hid.symm, htId.trans hid.symm, hreviewId.trans hid.symm, hstrict, ?_⟩
  rw [hg.endToEnd, Bool.and_eq_true, hstrict]

/-! ## Imports -/

variable {submission : AgentTrajectorySubmission m.isdigit}

theorem importCase_ok {c : AgentTrajectoryCase} (h : importCase m task batch submission caseId = .ok c) :
    ∃ taskCase candidate row, task.cases.find? (·.caseId = caseId) = some taskCase ∧
      batch.cases.find? (·.caseId = caseId) = some candidate ∧ row ∈ submission.cases ∧ row.caseId = caseId ∧
      c.caseId = caseId ∧ row.steps = some c.steps ∧ row.capabilities = some c.capabilities ∧
      ∀ review : GroundedCaseOutcome, Bound m taskCase candidate c review ↔
        review.queryId = taskCase.queryId ∧ review.responseStatus = candidate.response.status := by
  unfold importCase at h
  cases htask : task.cases.find? (·.caseId = caseId) with
  | none => simp [htask] at h
  | some taskCase =>
    cases hcandidate : batch.cases.find? (·.caseId = caseId) with
    | none => simp [htask, hcandidate] at h
    | some candidate =>
      cases hrow : submission.cases.find? (·.caseId = caseId) with
      | none => simp [htask, hcandidate, hrow] at h
      | some row =>
        simp only [htask, hcandidate, hrow, bind_ok, exists_unit, check_eq_ok, Bool.and_eq_true, decide_eq_true_eq] at h
        obtain ⟨⟨hquery, hquery'⟩, h⟩ := h
        cases hsteps : row.steps with
        | none => simp [hsteps] at h
        | some steps =>
          cases hcapabilities : row.capabilities with
          | none => simp [hsteps, hcapabilities] at h
          | some capabilities =>
            simp only [hsteps, hcapabilities, bind_ok, exists_unit] at h
            obtain ⟨-, h⟩ := h
            obtain rfl := Except.ok.inj h
            have hid : row.caseId = caseId := by simpa using List.find?_some hrow
            obtain ⟨q, hq⟩ : ∃ q, candidate.latencyMs.toRat? = some q := by
              have := candidate.latency
              rw [Bool.and_eq_true] at this
              exact Float64.isFinite_iff.mp this.1
            refine ⟨taskCase, candidate, row, rfl, rfl, List.mem_of_find?_eq_some hrow, hid, rfl, hsteps, hcapabilities,
              fun review => ?_⟩
            constructor
            · intro hb
              exact ⟨hb.reviewQuery, hb.reviewStatus⟩
            · intro hb
              exact ⟨rfl, hquery.symm.trans hquery', hb.1, rfl, rfl, rfl, hb.2, rfl, rfl, rfl, rfl, rfl,
                (Float64.beq_iff hq hq).mpr rfl⟩

theorem applySubmission_ok {observedAt : Datetime} {built : AgentTrajectoryBatchData S}
    (h : applyAgentTrajectorySubmission m task batch submission observedAt = .ok built) :
    (task.cases.map (·.caseId)).mapM (importCase m task batch submission) = .ok built.cases ∧
      built.validate m = .ok () ∧ task.cases.map (·.caseId) = batch.cases.map (·.caseId) := by
  simp only [applyAgentTrajectorySubmission, validateTaskBatch, bind_ok, exists_unit, check_eq_ok, decide_eq_true_eq] at h
  obtain ⟨⟨-, hcover⟩, -, -, cases, hcases, at', -, hvalid, hbuilt⟩ := h
  obtain rfl := Except.ok.inj hbuilt
  rw [← task.ordered] at hcases
  exact ⟨hcases, hvalid, hcover⟩

theorem imported_ids {observedAt : Datetime} {built : AgentTrajectoryBatchData S}
    (h : applyAgentTrajectorySubmission m task batch submission observedAt = .ok built) :
    built.cases.map (·.caseId) = task.cases.map (·.caseId) := by
  have := map_of_mapM (g := fun c : AgentTrajectoryCase => c.caseId) (k := id) (applySubmission_ok h).1 fun id _ c hc => by
    obtain ⟨-, -, -, -, -, -, -, hid, -⟩ := importCase_ok hc
    exact hid
  rw [this, List.map_id]

/-- The review is of the same cases, questions and responses. -/
def ReviewsBatch (task : GroundedAnswerTask) (batch : GroundedAnswerCandidateBatch S) (grounded : GroundedAnswerReport S) : Prop :=
  (∀ id, id ∈ grounded.outcomes.map (·.caseId) ↔ id ∈ task.cases.map (·.caseId)) ∧
    ∀ taskCase ∈ task.cases, ∀ candidate ∈ batch.cases, ∀ review ∈ grounded.outcomes,
      candidate.caseId = taskCase.caseId → review.caseId = taskCase.caseId →
        review.queryId = taskCase.queryId ∧ review.responseStatus = candidate.response.status

theorem sameSet_iff {a b : List String} : sameSet a b = true ↔ ∀ id, id ∈ a ↔ id ∈ b := by
  simp only [sameSet, Bool.and_eq_true, List.all_eq_true, decide_eq_true_eq]
  exact ⟨fun h id => ⟨h.1 id, h.2 id⟩, fun h => ⟨fun id => (h id).mp, fun id => (h id).mpr⟩⟩

/-- **What an import binds.** An import keeps the order of the task, and of the
submission only the steps and the capabilities. The scorer finds nothing to
refuse in what was imported, whatever the submission: its check of the bindings
passes exactly when the review is of the same cases, questions and responses. -/
theorem import_binds {observedAt : Datetime} {built : AgentTrajectoryBatchData S}
    (h : applyAgentTrajectorySubmission m task batch submission observedAt = .ok built) :
    built.cases.map (·.caseId) = task.cases.map (·.caseId) ∧
      (∀ c ∈ built.cases, ∃ row ∈ submission.cases, row.caseId = c.caseId ∧ row.steps = some c.steps ∧
        row.capabilities = some c.capabilities) ∧
      (validateCaseBindings m task batch built.cases grounded = .ok () ↔ ReviewsBatch task batch grounded) := by
  obtain ⟨hcases, -, hcover⟩ := applySubmission_ok h
  have hids := imported_ids h
  refine ⟨hids, fun c hc => ?_, ?_⟩
  · obtain ⟨id, -, hid⟩ := (mem_mapM hcases).1 c hc
    obtain ⟨-, -, row, -, -, hrow, hrowId, hcId, hsteps, hcapabilities, -⟩ := importCase_ok hid
    exact ⟨row, hrow, hrowId.trans hcId.symm, hsteps, hcapabilities⟩
  · have hnodup := nodup_of_ordered task.ordered
    have hbatch := nodup_of_ordered batch.ordered
    have hreviews := nodup_of_ordered grounded.ordered
    have hbuilt : (built.cases.map (·.caseId)).Nodup := hids ▸ hnodup
    simp only [validateCaseBindings, bind_ok, exists_unit, check_eq_ok, Bool.and_eq_true, sameSet_iff, ← hcover, hids,
      implies_true, true_and, listForM_ok, mem_sortedUnique, ReviewsBatch]
    apply and_congr_right
    intro hcovers
    constructor
    · intro hbound taskCase htaskCase candidate hcandidate review hreview hid hid'
      obtain ⟨taskCase', candidate', t, review', htask, hfind, -, hfind', hb⟩ :=
        validateCaseBinding_ok.mp (hbound _ (List.mem_map_of_mem htaskCase))
      rw [find?_id hnodup htaskCase] at htask
      rw [← hid, find?_id hbatch hcandidate] at hfind
      rw [← hid', find?_id hreviews hreview] at hfind'
      cases htask
      cases hfind
      cases hfind'
      exact ⟨hb.reviewQuery, hb.reviewStatus⟩
    · intro hagree id hid
      obtain ⟨c, hc, himport⟩ := (mem_mapM hcases).2 id hid
      obtain ⟨taskCase, candidate, -, htask, hcandidate, -, -, hcId, -, -, hb⟩ := importCase_ok himport
      obtain ⟨review, hreview, hreviewId⟩ := List.mem_map.mp ((hcovers id).mpr hid)
      have htaskId : taskCase.caseId = id := by simpa using List.find?_some htask
      have hcandidateId : candidate.caseId = id := by simpa using List.find?_some hcandidate
      have hfound := find?_id hbuilt hc
      have hfound' := find?_id hreviews hreview
      rw [hcId] at hfound
      rw [hreviewId] at hfound'
      refine validateCaseBinding_ok.mpr ⟨taskCase, candidate, c, review, htask, hcandidate, hfound, hfound', (hb review).mpr ?_⟩
      exact hagree taskCase (List.mem_of_find?_eq_some htask) candidate (List.mem_of_find?_eq_some hcandidate) review hreview
        (hcandidateId.trans htaskId.symm) (hreviewId.trans htaskId.symm)

theorem import_binds_one_trace :
    applyAgentTrajectorySubmission OneTrace.model OneTrace.task OneTrace.batch OneTrace.submission OneTrace.noon =
        .ok OneTrace.imported ∧
      validateCaseBindings OneTrace.model OneTrace.task OneTrace.batch OneTrace.imported.cases OneTrace.grounded = .ok () := by
  refine ⟨OneTrace.imported_eq, (import_binds OneTrace.imported_eq).2.2.mpr ⟨fun _ => Iff.rfl, ?_⟩⟩
  intro taskCase htask candidate hcandidate review hreview _ _
  obtain rfl := List.mem_singleton.mp htask
  obtain rfl := List.mem_singleton.mp hcandidate
  obtain rfl := List.mem_singleton.mp hreview
  exact ⟨rfl, rfl⟩

/-! ## Scores -/

variable [DecidableEq S] {trajectory : AgentTrajectoryBatch m} {generatedAt : Datetime}
  {report : AgentTrajectoryScoreReportData S}

theorem scoreAgentTrajectory_ok (h : scoreAgentTrajectory m task batch grounded trajectory generatedAt = .ok report) :
    (∀ id, id ∈ batch.cases.map (·.caseId) ↔ id ∈ task.cases.map (·.caseId)) ∧
      (∀ id ∈ task.cases.map (·.caseId), validateCaseBinding m task batch trajectory.cases grounded id = .ok ()) ∧
      (task.cases.map (·.caseId)).mapM (scoreCase batch trajectory.cases grounded) = .ok report.outcomes ∧
      (sortedUnique (task.cases.flatMap (·.slices))).mapM (sliceSummary task report.outcomes) = .ok report.slices ∧
      summary report.outcomes = .ok report.overall ∧ report.validate m = .ok () := by
  simp only [scoreAgentTrajectory, validateCaseBindings, bind_ok, exists_unit, check_eq_ok, listForM_ok, Bool.and_eq_true,
    sameSet_iff] at h
  obtain ⟨-, -, -, ⟨⟨⟨hcovers, -⟩, -⟩, hbound⟩, outcomes, houtcomes, slices, hslices, at', -, overall, hoverall, hvalid, hreport⟩ := h
  obtain rfl := Except.ok.inj hreport
  rw [← task.ordered] at houtcomes
  rw [← task.ordered] at hbound
  exact ⟨hcovers, hbound, houtcomes, hslices, hoverall, hvalid⟩

theorem sliceSummary_ok {outcomes : List AgentTrajectoryCaseOutcome} {name : String}
    {slice : String × AgentTrajectoryMetricSummary} (h : sliceSummary task outcomes name = .ok slice) :
    slice.1 = name ∧ summary (outcomes.filter (·.caseId ∈ (task.cases.filter (name ∈ ·.slices)).map (·.caseId))) = .ok slice.2 := by
  simp only [sliceSummary, bind_ok] at h
  obtain ⟨s, hs, hslice⟩ := h
  obtain rfl := Except.ok.inj hslice
  exact ⟨rfl, hs⟩

/-- **What a score report counts.** Of every batch that is scored, the outcomes
are one for each case of the task, in its order. One passes strictly exactly when
the trace of its case is strict for its response, and end to end exactly when
the adjudicated review passes it too. The end-to-end rate of the report and of
each slice is one exactly when every one of their cases passes. -/
theorem score_strict (h : scoreAgentTrajectory m task batch grounded trajectory generatedAt = .ok report) :
    report.outcomes.map (·.caseId) = task.cases.map (·.caseId) ∧
      (∀ o ∈ report.outcomes, ∃ candidate ∈ batch.cases, ∃ t ∈ trajectory.cases, ∃ review ∈ grounded.outcomes,
        CaseScore candidate t review o) ∧
      (report.overall.strictEndToEndPassRate.beq (Float64.ofInt 1) = true ↔
        ∀ o ∈ report.outcomes, o.strictEndToEndPass = true) ∧
      report.slices.map Prod.fst = sortedUnique (task.cases.flatMap (·.slices)) ∧
      ∀ slice ∈ report.slices, (slice.2.strictEndToEndPassRate.beq (Float64.ofInt 1) = true ↔
        ∀ o ∈ report.outcomes, (∃ c ∈ task.cases, c.caseId = o.caseId ∧ slice.1 ∈ c.slices) → o.strictEndToEndPass = true) := by
  obtain ⟨-, hbound, houtcomes, hslices, hoverall, -⟩ := scoreAgentTrajectory_ok h
  have hids : report.outcomes.map (·.caseId) = task.cases.map (·.caseId) := by
    have := map_of_mapM (g := fun o : AgentTrajectoryCaseOutcome => o.caseId) (k := id) houtcomes
      fun id hid o ho => (scoreCase_ok (hbound id hid) ho).1
    rw [this, List.map_id]
  have hfew : report.outcomes.length ≤ 2 ^ 53 := by
    have hlength := congrArg List.length hids
    rw [List.length_map, List.length_map] at hlength
    rw [hlength]
    exact task.some_case.2.trans (by norm_num)
  refine ⟨hids, fun o ho => ?_, ?_, ?_, fun slice hslice => ?_⟩
  · obtain ⟨id, hid, hscore⟩ := (mem_mapM houtcomes).1 o ho
    exact (scoreCase_ok (hbound id hid) hscore).2
  · have hs := summary_ok hoverall
    exact shareOf_beq_one hs.some_case hfew hs.endToEnd
  · have := map_of_mapM (g := Prod.fst) (k := id) hslices fun name _ slice hslice => (sliceSummary_ok hslice).1
    rw [this, List.map_id]
  · obtain ⟨name, -, hsummary⟩ := (mem_mapM hslices).1 slice hslice
    obtain ⟨hname, hsummary⟩ := sliceSummary_ok hsummary
    have hs := summary_ok hsummary
    rw [shareOf_beq_one hs.some_case ((List.length_filter_le _ _).trans hfew) hs.endToEnd]
    simp only [List.mem_filter, decide_eq_true_eq, List.mem_map, hname]
    constructor
    · intro hpass o ho hslice
      obtain ⟨c, hc, hid, hin⟩ := hslice
      exact hpass o ⟨ho, c, ⟨hc, hin⟩, hid⟩
    · intro hpass o ho
      obtain ⟨ho, c, ⟨hc, hin⟩, hid⟩ := ho
      exact hpass o ho ⟨c, hc, hid, hin⟩

theorem score_strict_one_trace :
    ∃ report, scoreAgentTrajectory OneTrace.model OneTrace.task OneTrace.batch OneTrace.grounded OneTrace.trajectory
        OneTrace.noon = .ok report ∧
      report.outcomes.map (·.caseId) = [OneTrace.taskCase.caseId] ∧
      ∀ o ∈ report.outcomes, ∃ candidate ∈ OneTrace.batch.cases, ∃ t ∈ OneTrace.imported.cases,
        ∃ review ∈ OneTrace.grounded.outcomes, CaseScore candidate t review o := by
  obtain ⟨report, hreport⟩ := OneTrace.exists_report
  have h := score_strict hreport
  exact ⟨report, hreport, h.1, h.2.1⟩

end

/-! ## Responses -/

theorem strs_inj {a b : List String} (h : (a.map Json.str).map sortKeys = (b.map Json.str).map sortKeys) : a = b := by
  have hinj : Function.Injective fun s => sortKeys (.str s) := fun s t hst => by simpa [sortKeys] using hst
  apply List.map_injective_iff.mpr hinj
  simpa [Function.comp_def] using h

theorem claim_dump_inj : Function.Injective fun c : GroundedAnswerClaim => sortKeys c.dump := by
  intro a b h
  have hmembers := sortMembers_of_sortKeys_eq h rfl (by simp)
  simp only [sortMembers, sortKeys, sortItems_eq_map, List.cons.injEq, Prod.mk.injEq, true_and, and_true, Json.str.injEq,
    Json.arr.injEq] at hmembers
  obtain ⟨hid, htext, hevidence⟩ := hmembers
  have hids := strs_inj hevidence
  cases a
  cases b
  subst hid htext hids
  rfl

theorem text_inj {a b : ResponseStatus} (h : a.text = b.text) : a = b := by
  cases a <;> cases b <;> simp [ResponseStatus.text] at h ⊢

theorem reason_inj {a b : Option String} (h : sortKeys (a.elim .null .str) = sortKeys (b.elim .null .str)) : a = b := by
  cases a <;> cases b <;> simp_all [sortKeys]

theorem response_dump_inj {a b : GroundedAnswerResponse} (h : sortKeys a.dump = sortKeys b.dump) : a = b := by
  have hmembers := sortMembers_of_sortKeys_eq h rfl (by simp)
  simp only [sortMembers, sortKeys, sortItems_eq_map, List.cons.injEq, Prod.mk.injEq, true_and, and_true, Json.str.injEq,
    Json.arr.injEq, List.map_map] at hmembers
  obtain ⟨hstatus, hclaims, hreason⟩ := hmembers
  have hclaims' : a.claims = b.claims := List.map_injective_iff.mpr claim_dump_inj hclaims
  have hstatus' := text_inj hstatus
  have hreason' := reason_inj hreason
  cases a
  cases b
  subst hstatus' hclaims' hreason'
  rfl

section
variable {S : Type} {m : TrajectoryModel S}

theorem responseSha256_inj {a b : GroundedAnswerResponse} (h : responseSha256 m a = responseSha256 m b)
    (hsha : Set.InjOn m.sha256 {dumps true a.dump, dumps true b.dump}) : a = b := by
  have htext := hsha (Set.mem_insert _ _) (Set.mem_insert_of_mem _ rfl) (Subtype.ext h)
  exact response_dump_inj (dumps_inj htext)

variable [DecidableEq S] {task task' : GroundedAnswerTask} {batch batch' : GroundedAnswerCandidateBatch S}
  {grounded : GroundedAnswerReport S} {submission : AgentTrajectorySubmission m.isdigit} {trajectory : AgentTrajectoryBatch m}
  {observedAt generatedAt : Datetime} {built : AgentTrajectoryBatchData S} {report : AgentTrajectoryScoreReportData S}

/-- **Traces stay with their responses.** What was imported for one batch is
scored with another only where that has the same response and the same costs,
unless SHA-256 collides on the two responses. -/
theorem score_binds_responses (himport : applyAgentTrajectorySubmission m task batch submission observedAt = .ok built)
    (hscore : scoreAgentTrajectory m task' batch' grounded trajectory generatedAt = .ok report)
    (hcases : trajectory.cases = built.cases) {candidate : GroundedAnswerCandidateCase} (hcandidate : candidate ∈ batch.cases)
    {candidate' : GroundedAnswerCandidateCase} (hcandidate' : candidate' ∈ batch'.cases)
    (hid : candidate'.caseId = candidate.caseId)
    (hsha : Set.InjOn m.sha256 {dumps true candidate.response.dump, dumps true candidate'.response.dump}) :
    candidate'.response = candidate.response ∧ candidate'.inputTokens = candidate.inputTokens ∧
      candidate'.outputTokens = candidate.outputTokens := by
  obtain ⟨himported, -, hcover⟩ := applySubmission_ok himport
  obtain ⟨hcovers, hbound, -⟩ := scoreAgentTrajectory_ok hscore
  have hmem : candidate.caseId ∈ task.cases.map (·.caseId) := hcover ▸ List.mem_map_of_mem hcandidate
  obtain ⟨c, hc, hcase⟩ := (mem_mapM himported).2 _ hmem
  obtain ⟨taskCase, found, -, -, hfound, -, -, hcId, -, -, hb⟩ := importCase_ok hcase
  rw [find?_id (nodup_of_ordered batch.ordered) hcandidate, Option.some.injEq] at hfound
  subst hfound
  have himportBound := (hb ⟨"", taskCase.queryId, candidate.response.status, false⟩).mpr ⟨rfl, rfl⟩
  have hmem' : candidate'.caseId ∈ task'.cases.map (·.caseId) := (hcovers _).mp (List.mem_map_of_mem hcandidate')
  obtain ⟨taskCase', found', t, review, -, hfound', ht, -, hscoreBound⟩ := validateCaseBinding_ok.mp (hbound _ hmem')
  rw [find?_id (nodup_of_ordered batch'.ordered) hcandidate', Option.some.injEq] at hfound'
  subst hfound'
  have hbuilt : (built.cases.map (·.caseId)).Nodup := imported_ids himport ▸ nodup_of_ordered task.ordered
  rw [hcases, hid, ← hcId, find?_id hbuilt hc, Option.some.injEq] at ht
  subst ht
  have hdigest := himportBound.responseSha256.symm.trans hscoreBound.responseSha256
  exact ⟨(responseSha256_inj hdigest hsha).symm, hscoreBound.inputTokens.symm.trans himportBound.inputTokens,
    hscoreBound.outputTokens.symm.trans himportBound.outputTokens⟩

theorem score_binds_responses_one_trace :
    ∃ report, scoreAgentTrajectory OneTrace.model OneTrace.task OneTrace.batch OneTrace.grounded OneTrace.trajectory
        OneTrace.noon = .ok report ∧
      ∀ candidate' ∈ OneTrace.batch.cases, candidate'.caseId = OneTrace.candidate.caseId →
        candidate'.response = OneTrace.response ∧ candidate'.inputTokens = 900 ∧ candidate'.outputTokens = 60 := by
  obtain ⟨report, hreport⟩ := OneTrace.exists_report
  refine ⟨report, hreport, fun candidate' hcandidate' hid => ?_⟩
  refine score_binds_responses OneTrace.imported_eq hreport rfl
    (List.mem_singleton_self OneTrace.candidate) hcandidate' hid ?_
  obtain rfl := List.mem_singleton.mp hcandidate'
  simp

end

end AtlasPulse.AgentTrajectory
