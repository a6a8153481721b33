import AtlasPulse.OperationalEvidence
import AtlasPulse.PaginationSound

/-!
# Recovery drills bind one failure and one recovery

A history names its items by descending positions, so that the four bound
transitions are told apart by theirs. What the builder records of them then
meets every check of the artifact's validator but one: that the three probes
are distinct.
-/

namespace AtlasPulse

open PyJson PyTime Binary64

/-! ## Identities -/

theorem matchesEvidenceId_of {digest : String} (lead : String) (h : matchesSha256 digest = true) :
    matchesEvidenceId lead (evidenceIdOf lead digest) = true := by
  rw [matchesSha256, Bool.and_eq_true, decide_eq_true_eq] at h
  have hlen : (lead ++ "-").length = (lead ++ "-").toList.length := String.length_toList.symm
  have hid : (evidenceIdOf lead digest).toList = (lead ++ "-").toList ++ digest.toList.take 20 := by
    rw [evidenceIdOf, String.toList_append, String.toList_ofList]
  have hhex : (digest.toList.take 20).all isHex = true :=
    List.all_eq_true.mpr fun c hc => List.all_eq_true.mp h.2 c (List.mem_of_mem_take hc)
  have hlead : (lead ++ "-").toList.isPrefixOf ((lead ++ "-").toList ++ digest.toList.take 20) = true :=
    List.isPrefixOf_iff_prefix.mpr (List.prefix_append _ _)
  rw [matchesEvidenceId, hid, hlen, List.drop_left, hlead, List.length_take, h.1, hhex]
  rfl

theorem validateIdentity_ok {lead identifier digest expected : String} :
    validateIdentity lead identifier digest expected = .ok () ↔
      digest = expected ∧ identifier = evidenceIdOf lead expected := by
  simp only [validateIdentity, bind_unit_ok, check_eq_ok, decide_eq_true_eq]

theorem checkUtcAll_ok {values : List (Datetime × String)} :
    checkUtcAll values = .ok () ↔ ∀ value ∈ values, value.1.isUtc := by
  rw [checkUtcAll, listForM_ok]
  refine forall₂_congr fun value _ => ?_
  have h := @checkUtc_ok (some value.1) value.2
  simpa [checkUtc] using h

/-! ## Durations -/

theorem instant_lt (d : Datetime) (h : d.isUtc) : 0 ≤ d.instant ∧ d.instant < maxMicros := by
  have hrange := d.inRange
  rw [Datetime.instant_of_isUtc h]
  omega

/-- The seconds between two instants in order are finite and not negative. -/
theorem totalSeconds_bounds {later earlier : Datetime} (hl : later.isUtc) (he : earlier.isUtc)
    (hle : earlier.instant ≤ later.instant) :
    ∃ p, (totalSeconds later earlier).toRat? = some p ∧ 0 ≤ p := by
  have h1 := instant_lt later hl
  have h2 := instant_lt earlier he
  have hdiff : (0 : Int) ≤ later.instant - earlier.instant ∧ later.instant - earlier.instant ≤ 2 ^ 60 := by
    have hmax : (maxMicros : Int) ≤ 2 ^ 60 := by decide
    omega
  generalize hd : later.instant - earlier.instant = d at hdiff
  have hlow : (0 : ℚ) ≤ (d : ℚ) := by exact_mod_cast hdiff.1
  have hhigh : (d : ℚ) ≤ 2 ^ 60 := by exact_mod_cast hdiff.2
  have hnonneg : (0 : ℚ) ≤ (d : ℚ) / 1000000 := div_nonneg hlow (by norm_num)
  have habs : |(d : ℚ) / 1000000| ≤ 2 ^ (60 : ℤ) := by
    rw [abs_of_nonneg hnonneg]
    calc (d : ℚ) / 1000000 ≤ (d : ℚ) := div_le_self hlow (by norm_num)
      _ ≤ 2 ^ (60 : ℤ) := by exact_mod_cast hhigh
  obtain ⟨p, hp, -⟩ := fit_of_abs_le (by norm_num) (by norm_num) habs
  refine ⟨p, ?_, fit_nonneg hnonneg hp⟩
  rw [totalSeconds, toRat?_ofRat, hd]
  exact hp

theorem totalSeconds_field {later earlier : Datetime} (hl : later.isUtc) (he : earlier.isUtc)
    (hle : earlier.instant ≤ later.instant) :
    ((Float64.ofInt 0).le (totalSeconds later earlier) && (totalSeconds later earlier).isFinite) = true := by
  obtain ⟨p, hp, hnonneg⟩ := totalSeconds_bounds hl he hle
  rw [Bool.and_eq_true, Float64.le_iff Near.ofInt_zero hp, Float64.isFinite_iff]
  exact ⟨hnonneg, p, hp⟩

theorem secondsDiffer_self {x : Float64} {p : ℚ} (hx : x.toRat? = some p) : secondsDiffer x x = false := by
  have hsub : (x.sub x).toRat? = some 0 := by
    rw [Float64.toRat?_sub hx hx, sub_self, fit_zero]
  have habs : (x.sub x).abs.toRat? = some 0 := by
    rw [Float64.toRat?_abs hsub, abs_zero]
  obtain ⟨r, hr, -⟩ := fit_of_abs_le (q := 1 / 1000000) (e := 0) (by norm_num) (by norm_num)
    (by rw [abs_of_nonneg (by norm_num)]; norm_num)
  have htol : (ofRat false (1 / 1000000)).toRat? = some r := (toRat?_ofRat _ _).trans hr
  rw [secondsDiffer, Bool.eq_false_iff, ne_eq, Float64.lt_iff htol habs, not_lt]
  exact fit_nonneg (by norm_num) hr

/-! ## Histories -/

/-- The items of an accepted history are told apart by their positions. -/
theorem history_positions (history : PollHistory) :
    (∀ t ∈ history.1.items, StreamId.parse? t.streamId = some (transitionPosition t)) ∧
      history.1.items.Pairwise fun a b => transitionPosition b < transitionPosition a := by
  have hv := history.2
  unfold SourcePollHistoryResponse.validate at hv
  simp only [bind_ok, exists_unit, check_eq_ok, Bool.and_eq_true, decide_eq_true_eq] at hv
  obtain ⟨-, -, -, -, -, -, positions, hpositions, hlen, hsort⟩ := hv
  have hparse : ∀ t ∈ history.1.items, StreamId.parse? t.streamId = some (transitionPosition t) := by
    intro t ht
    obtain ⟨p, -, hp⟩ := (mem_mapM hpositions).2 t ht
    unfold parseStreamId at hp
    split at hp
    · rename_i q hq
      rw [transitionPosition, hq]
      rfl
    · cases hp
  refine ⟨hparse, ?_⟩
  have hmap : positions = history.1.items.map transitionPosition := by
    rw [← List.map_id positions]
    refine map_of_mapM hpositions fun t ht p hp => ?_
    rw [parseStreamId, hparse t ht] at hp
    exact (Except.ok.inj hp).symm
  have hnodup : positions.Nodup := by
    rw [← List.dedup_eq_self]
    exact (List.dedup_sublist _).eq_of_length hlen
  have hsorted : positions.Pairwise fun a b => b ≤ a := by
    rw [hsort]
    exact List.pairwise_insertionSort _ _
  have hstrict := (hsorted.and hnodup).imp fun h => lt_of_le_of_ne h.1 (Ne.symm h.2)
  rwa [hmap, List.pairwise_map] at hstrict

theorem transitionPosition_inj (history : PollHistory) {a b : SourcePollTransition} (ha : a ∈ history.1.items)
    (hb : b ∈ history.1.items) (h : transitionPosition a = transitionPosition b) : a = b := by
  have hnodup : (history.1.items.map transitionPosition).Nodup :=
    List.pairwise_map.mpr ((history_positions history).2.imp fun hlt => ne_of_gt hlt)
  exact List.inj_on_of_nodup_map hnodup ha hb h

/-- The one item of a history with its attempt and kind. -/
structure OnlyTransition (history : PollHistory) (attemptId : String) (kind : SourcePollTransitionKind)
    (t : SourcePollTransition) : Prop where
  mem : t ∈ history.1.items
  ofAttempt : t.attempt.attemptId = attemptId
  ofKind : t.transition = kind
  unique : ∀ item ∈ history.1.items, item.attempt.attemptId = attemptId → item.transition = kind → item = t

theorem boundTransition_only {history : PollHistory} {attemptId : String} {kind : SourcePollTransitionKind}
    {t : SourcePollTransition} (h : boundTransition history attemptId kind = .ok t) :
    OnlyTransition history attemptId kind t := by
  unfold boundTransition at h
  split at h
  · rename_i found hfound
    obtain rfl := Except.ok.inj h
    have hmem := List.mem_filter.mp (hfound ▸ List.mem_singleton.mpr rfl)
    rw [Bool.and_eq_true, decide_eq_true_eq, decide_eq_true_eq] at hmem
    refine ⟨hmem.1, hmem.2.1, hmem.2.2, fun item hitem hattempt hkind => ?_⟩
    have hin : item ∈ history.1.items.filter fun item => item.attempt.attemptId = attemptId && item.transition = kind :=
      List.mem_filter.mpr ⟨hitem, by simp [hattempt, hkind]⟩
    rw [hfound] at hin
    exact List.mem_singleton.mp hin
  · cases h

/-! ## Parts of a drill -/

variable {h : EvidenceHashing ProbeContent DrillContent}

/-- What the probe's validator says of its identity and time. -/
theorem probe_valid (p : DeploymentProbeEvidence h) :
    matchesSha256 p.evidenceSha256 = true ∧ p.evidenceId = evidenceIdOf "deployment-probe" p.evidenceSha256 ∧
      matchesEvidenceId "deployment-target" p.targetId = true ∧ matchesSha256 p.targetSha256 = true ∧ p.observedAt.isUtc := by
  have hv := p.valid
  unfold ProbeData.validate at hv
  simp only [bind_unit_ok, check_eq_ok, checkUtcAll_ok, validateIdentity_ok, List.forall_mem_singleton] at hv
  obtain ⟨-, hsha, htarget, htargetSha, hutc, -, -, hdigest, hid⟩ := hv
  exact ⟨hsha, by rw [hdigest]; exact hid, htarget, htargetSha, hutc⟩

theorem submission_valid (s : SourcePollRecoveryDrillSubmission) :
    matchesAttemptId s.failureAttemptId = true ∧ matchesAttemptId s.recoveryAttemptId = true ∧ s.faultStartedAt.isUtc ∧
      s.faultClearedAt.isUtc ∧ s.faultStartedAt.instant ≤ s.faultClearedAt.instant ∧
      s.failureAttemptId ≠ s.recoveryAttemptId := by
  have hv := s.valid
  unfold SubmissionData.validate at hv
  simp only [bind_unit_ok, check_eq_ok, checkUtcAll_ok, List.forall_mem_cons, decide_eq_true_eq] at hv
  obtain ⟨h1, h2, ⟨h3, h4, -⟩, h5, h6⟩ := hv
  exact ⟨h1, h2, h3, h4, h5, h6⟩

theorem history_valid (history : PollHistory) :
    history.1.items.length ≤ 100 ∧ history.1.generatedAt.isUtc ∧ history.1.count = history.1.items.length := by
  have hv := history.2
  unfold SourcePollHistoryResponse.validate at hv
  simp only [bind_ok, exists_unit, check_eq_ok, checkUtc_ok, Option.mem_some_iff, forall_eq', decide_eq_true_eq] at hv
  exact ⟨hv.1, hv.2.2.1, hv.2.2.2.1⟩

theorem transition_valid (t : SourcePollTransition) :
    matchesStreamId t.streamId = true ∧ t.source = t.attempt.source ∧ t.attempt.outcome = expectedOutcome t.transition := by
  have hv := t.valid
  unfold TransitionData.validate at hv
  simp only [bind_unit_ok, check_eq_ok, decide_eq_true_eq] at hv
  exact hv

theorem attempt_times (a : SourcePollAttempt) :
    a.startedAt.isUtc ∧ ∀ c ∈ a.completedAt, c.isUtc ∧ a.startedAt.instant ≤ c.instant := by
  have hv := (AttemptData.validate_ok _).mp a.valid
  exact ⟨hv.2.2.2.1, hv.2.2.2.2.1⟩

theorem failed_code {a : SourcePollAttempt} (hf : a.outcome = .failed) : ∃ code, a.failureCode = some code := by
  have hv := ((AttemptData.validate_ok _).mp a.valid).2.2.2.2.2.2.2
  unfold AttemptData.checkOutcome at hv
  rw [hf] at hv
  simp only [bind_unit_ok, check_eq_ok, Bool.and_eq_true] at hv
  exact Option.isSome_iff_exists.mp hv.1.1.2

/-! ## The bound transitions -/

/-- A start and a failure, then a start and a success, of the submitted
attempts and source, and nothing else of the history is one of these. -/
structure Binds (history : PollHistory) (submission : SubmissionData) (b : BoundDrill) : Prop where
  failureStarted : OnlyTransition history submission.failureAttemptId .started b.failureStarted
  failureTerminal : OnlyTransition history submission.failureAttemptId .failed b.failureTerminal
  recoveryStarted : OnlyTransition history submission.recoveryAttemptId .started b.recoveryStarted
  recoveryTerminal : OnlyTransition history submission.recoveryAttemptId .succeeded b.recoveryTerminal
  ofSource : ∀ t ∈ b.transitions, t.source = submission.source
  failureCompleted : b.failureTerminal.attempt.completedAt = some b.failureCompletedAt
  recoveryCompleted : b.recoveryTerminal.attempt.completedAt = some b.recoveryCompletedAt
  increasing : b.transitions.Pairwise fun s t => transitionPosition s < transitionPosition t

/-- The declared sequence, in the fields of the inputs. -/
def declaredTimes (before failure recovery : DeploymentProbeEvidence h) (history : PollHistory) (submission : SubmissionData)
    (b : BoundDrill) : List Datetime :=
  [before.observedAt, submission.faultStartedAt, b.failureStarted.attempt.startedAt, b.failureCompletedAt,
    failure.observedAt, submission.faultClearedAt, b.recoveryStarted.attempt.startedAt, b.recoveryCompletedAt,
    recovery.observedAt, history.1.generatedAt]

theorem mem_transitions {P : SourcePollTransition → Prop} {b : BoundDrill} (h1 : P b.failureStarted) (h2 : P b.failureTerminal)
    (h3 : P b.recoveryStarted) (h4 : P b.recoveryTerminal) : ∀ t ∈ b.transitions, P t := by
  simp only [BoundDrill.transitions, List.forall_mem_cons]
  exact ⟨h1, h2, h3, h4, fun _ ht => absurd ht List.not_mem_nil⟩

/-- Transitions that are told apart by attempt and kind. -/
theorem bound_nodup {history : PollHistory} {submission : SourcePollRecoveryDrillSubmission} {b : BoundDrill}
    (h1 : OnlyTransition history submission.failureAttemptId .started b.failureStarted)
    (h2 : OnlyTransition history submission.failureAttemptId .failed b.failureTerminal)
    (h3 : OnlyTransition history submission.recoveryAttemptId .started b.recoveryStarted)
    (h4 : OnlyTransition history submission.recoveryAttemptId .succeeded b.recoveryTerminal) : b.transitions.Nodup := by
  have hids := (submission_valid submission).2.2.2.2.2
  have hkey : b.transitions.map (fun t => (t.attempt.attemptId, t.transition)) =
      [(submission.failureAttemptId, .started), (submission.failureAttemptId, .failed),
        (submission.recoveryAttemptId, .started), (submission.recoveryAttemptId, .succeeded)] := by
    simp only [BoundDrill.transitions, List.map_cons, List.map_nil, h1.ofAttempt, h1.ofKind, h2.ofAttempt, h2.ofKind,
      h3.ofAttempt, h3.ofKind, h4.ofAttempt, h4.ofKind]
  refine List.Nodup.of_map (fun t => (t.attempt.attemptId, t.transition)) ?_
  rw [hkey]
  simp [hids]

theorem checkDrill_ok {target : DeploymentTarget} {before failure recovery : DeploymentProbeEvidence h} {history : PollHistory}
    {submission : SourcePollRecoveryDrillSubmission} {b : BoundDrill}
    (hb : checkDrill target before failure recovery history submission = .ok b) :
    Binds history submission.toSubmissionData b ∧
      chronological (declaredTimes before failure recovery history submission.toSubmissionData b) = true ∧
      before.targetId = target.targetId ∧ before.targetSha256 = target.targetSha256 := by
  unfold checkDrill at hb
  simp only [bind_ok, exists_unit, check_eq_ok, listForM_ok, List.forall_mem_cons, Bool.and_eq_true, decide_eq_true_eq] at hb
  obtain ⟨⟨⟨htarget, -⟩, -⟩, -, fs, hfs, ft, hft, rs, hrs, rt, hrt, hsource, -, hb⟩ := hb
  obtain ⟨h1, h2⟩ := And.intro (boundTransition_only hfs) (boundTransition_only hft)
  obtain ⟨h3, h4⟩ := And.intro (boundTransition_only hrs) (boundTransition_only hrt)
  split at hb
  · cases hb
  · cases hb
  rename_i failureCompletedAt recoveryCompletedAt hfc hrc
  simp only [bind_ok, exists_unit, check_eq_ok, decide_eq_true_eq] at hb
  obtain ⟨positions, hpositions, hsorted, htimes, hb⟩ := hb
  obtain rfl := Except.ok.inj hb
  have hmem : ∀ t ∈ [fs, ft, rs, rt], t ∈ history.1.items := by
    simp only [List.forall_mem_cons]
    exact ⟨h1.mem, h2.mem, h3.mem, h4.mem, fun _ ht => absurd ht List.not_mem_nil⟩
  have hmap : positions = [fs, ft, rs, rt].map transitionPosition := by
    rw [← List.map_id positions]
    refine map_of_mapM hpositions fun t ht p hp => ?_
    rw [sourcePollStreamPosition, (history_positions history).1 t (hmem t ht)] at hp
    exact (Except.ok.inj hp).symm
  have hnodup : [fs, ft, rs, rt].Nodup :=
    bound_nodup (b := ⟨fs, ft, rs, rt, failureCompletedAt, recoveryCompletedAt⟩) h1 h2 h3 h4
  have hle : [fs, ft, rs, rt].Pairwise fun s t => transitionPosition s ≤ transitionPosition t := by
    rw [← List.pairwise_map (f := transitionPosition) (R := (· ≤ ·)), ← hmap, hsorted]
    exact List.pairwise_insertionSort _ _
  refine ⟨⟨h1, h2, h3, h4, ?_, hfc, hrc, ?_⟩, htimes, htarget⟩
  · exact fun t ht => of_decide_eq_true (List.all_eq_true.mp hsource t ht)
  · refine (hle.and hnodup).imp_of_mem fun {s t} hs ht ⟨hle, hne⟩ => lt_of_le_of_ne hle fun heq => ?_
    exact hne (transitionPosition_inj history (hmem s hs) (hmem t ht) heq)

/-! ## The artifact -/

section
variable {target : DeploymentTarget} {before failure recovery : DeploymentProbeEvidence h} {history : PollHistory}
  {submission : SourcePollRecoveryDrillSubmission} {b : BoundDrill}

/-- The draft with its pass status. -/
def drillDraft (target : DeploymentTarget) (before failure recovery : DeploymentProbeEvidence h) (history : PollHistory)
    (submission : SourcePollRecoveryDrillSubmission) (b : BoundDrill) (code : SourcePollFailureCode) : DrillContent :=
  { drillObservations target before failure recovery history submission b code with
    passed := (drillObservations target before failure recovery history submission b code).expectedPass }

/-- The draft under the identity of its content. -/
def drillData (target : DeploymentTarget) (before failure recovery : DeploymentProbeEvidence h) (history : PollHistory)
    (submission : SourcePollRecoveryDrillSubmission) (b : BoundDrill) (code : SourcePollFailureCode) : DrillData :=
  let digest := canonicalSha256 h.sha256 (h.dumpDrill (drillDraft target before failure recovery history submission b code))
  ⟨drillDraft target before failure recovery history submission b code, evidenceIdOf "source-poll-recovery" digest, digest⟩

theorem declaredTimes_utc (hb : Binds history submission.toSubmissionData b) :
    ∀ t ∈ declaredTimes before failure recovery history submission.toSubmissionData b, t.isUtc := by
  obtain ⟨-, -, hfault, hcleared, -⟩ := submission_valid submission
  have hprobe : ∀ p : DeploymentProbeEvidence h, p.observedAt.isUtc := fun p => (probe_valid p).2.2.2.2
  have hstart : ∀ a : SourcePollAttempt, a.startedAt.isUtc := fun a => (attempt_times a).1
  have hfc := ((attempt_times b.failureTerminal.attempt).2 _ hb.failureCompleted).1
  have hrc := ((attempt_times b.recoveryTerminal.attempt).2 _ hb.recoveryCompleted).1
  simp only [declaredTimes, List.forall_mem_cons]
  exact ⟨hprobe _, hfault, hstart _, hfc, hprobe _, hcleared, hstart _, hrc, hprobe _, (history_valid history).2.1,
    fun _ ht => absurd ht List.not_mem_nil⟩

theorem chronological_iff {times : List Datetime} :
    chronological times = true ↔ times.Pairwise fun a b => a.instant ≤ b.instant := by
  rw [chronological, decide_eq_true_eq]
  have htrans : IsTrans Datetime fun a b => a.instant ≤ b.instant := ⟨fun _ _ _ h1 h2 => h1.trans h2⟩
  exact List.isChain_iff_pairwise

/-- The history holds the four bound transitions. -/
theorem four_le_count (hb : Binds history submission.toSubmissionData b) : 4 ≤ history.1.count := by
  have hnodup := bound_nodup hb.failureStarted hb.failureTerminal hb.recoveryStarted hb.recoveryTerminal
  have hsub : ∀ t ∈ b.transitions, t ∈ history.1.items :=
    mem_transitions hb.failureStarted.mem hb.failureTerminal.mem hb.recoveryStarted.mem hb.recoveryTerminal.mem
  have hlen := (List.subperm_of_subset hnodup hsub).length_le
  rw [(history_valid history).2.2]
  exact hlen

theorem checkPatterns_ok (hb : Binds history submission.toSubmissionData b)
    (htimes : chronological (declaredTimes before failure recovery history submission.toSubmissionData b) = true)
    (htarget : before.targetId = target.targetId ∧ before.targetSha256 = target.targetSha256) (code : SourcePollFailureCode) :
    (drillData target before failure recovery history submission b code).checkPatterns = .ok () := by
  have hutc := @declaredTimes_utc h before failure recovery _ _ _ hb
  obtain ⟨hfa, hra, hfault, hcleared, hwindow, -⟩ := submission_valid submission
  obtain ⟨hbsha, hbid, hbt, hbts, -⟩ := probe_valid before
  obtain ⟨hfsha, hfid, -⟩ := probe_valid failure
  obtain ⟨hrsha, hrid, -, -, hobserved⟩ := probe_valid recovery
  have hafter : submission.faultClearedAt.instant ≤ recovery.observedAt.instant := by
    have hp := chronological_iff.mp htimes
    simp only [declaredTimes, List.pairwise_cons, List.forall_mem_cons] at hp
    exact hp.2.2.2.2.2.1.2.2.1
  have hstream : ∀ t ∈ b.transitions, matchesStreamId t.streamId = true := fun t _ => (transition_valid t).1
  simp only [BoundDrill.transitions, List.forall_mem_cons] at hstream
  unfold DrillData.checkPatterns
  simp only [bind_unit_ok, check_eq_ok, listForM_ok, DrillContent.probes, List.forall_mem_cons, drillData, drillDraft,
    drillObservations, decide_eq_true_eq, matchesSha256_val, canonicalSha256, hbid, hfid, hrid]
  refine ⟨matchesEvidenceId_of _ (matchesSha256_val _), trivial, htarget.1 ▸ hbt, htarget.2 ▸ hbts,
    totalSeconds_field hcleared hfault hwindow, totalSeconds_field hobserved hcleared hafter, trivial,
    four_le_count hb, ?_, ?_, ?_, ?_⟩
  · rw [(history_valid history).2.2]
    exact (history_valid history).1
  · exact ⟨⟨matchesEvidenceId_of _ hbsha, hbsha⟩, ⟨matchesEvidenceId_of _ hfsha, hfsha⟩, ⟨matchesEvidenceId_of _ hrsha, hrsha⟩,
      fun _ ht => absurd ht List.not_mem_nil⟩
  · exact ⟨hfa, hra, fun _ ht => absurd ht List.not_mem_nil⟩
  · exact ⟨hstream.1, hstream.2.1, hstream.2.2.1, hstream.2.2.2.1, fun _ ht => absurd ht List.not_mem_nil⟩

theorem drillData_valid (hb : Binds history submission.toSubmissionData b)
    (htimes : chronological (declaredTimes before failure recovery history submission.toSubmissionData b) = true)
    (htarget : before.targetId = target.targetId ∧ before.targetSha256 = target.targetSha256) (code : SourcePollFailureCode) :
    (drillData target before failure recovery history submission b code).validate h = .ok () ↔
      [before.evidenceId, failure.evidenceId, recovery.evidenceId].Nodup := by
  have hutc := @declaredTimes_utc h before failure recovery _ _ _ hb
  obtain ⟨-, -, hfault, hcleared, hwindow, hids⟩ := submission_valid submission
  have hafter : submission.faultClearedAt.instant ≤ recovery.observedAt.instant := by
    have hp := chronological_iff.mp htimes
    simp only [declaredTimes, List.pairwise_cons, List.forall_mem_cons] at hp
    exact hp.2.2.2.2.2.1.2.2.1
  have hobserved : recovery.observedAt.isUtc := (probe_valid recovery).2.2.2.2
  obtain ⟨p, hp, -⟩ := totalSeconds_bounds hcleared hfault hwindow
  obtain ⟨q, hq, -⟩ := totalSeconds_bounds hobserved hcleared hafter
  have hpositions : [b.failureStarted.streamId, b.failureTerminal.streamId, b.recoveryStarted.streamId,
      b.recoveryTerminal.streamId].mapM sourcePollStreamPosition = .ok (b.transitions.map transitionPosition) := by
    have hparse : ∀ t ∈ b.transitions, StreamId.parse? t.streamId = some (transitionPosition t) := by
      refine mem_transitions ?_ ?_ ?_ ?_
      · exact (history_positions history).1 _ hb.failureStarted.mem
      · exact (history_positions history).1 _ hb.failureTerminal.mem
      · exact (history_positions history).1 _ hb.recoveryStarted.mem
      · exact (history_positions history).1 _ hb.recoveryTerminal.mem
    have hall : b.transitions.mapM (fun t => sourcePollStreamPosition t.streamId) = .ok (b.transitions.map transitionPosition) :=
      mapM_of_ok fun t ht => by rw [sourcePollStreamPosition, hparse t ht]
    exact hall
  have hsorted : b.transitions.map transitionPosition = sortedSet (b.transitions.map transitionPosition) :=
    sortedSet_eq.mpr (List.pairwise_map.mpr hb.increasing)
  have hnodup : ∀ {l : List String}, l.length = 3 → (l.dedup.length = 3 ↔ l.Nodup) := by
    intro l hl
    rw [← List.dedup_eq_self]
    constructor
    · exact fun hd => (List.dedup_sublist l).eq_of_length (hd.trans hl.symm)
    · exact fun hd => by rw [hd, hl]
  unfold DrillData.validate
  simp only [bind_ok, exists_unit, check_eq_ok, validateIdentity_ok, checkUtcAll_ok, listForM_ok, decide_eq_true_eq,
    checkPatterns_ok hb htimes htarget code]
  constructor
  · intro hv
    have hthree := hv.2.2.2.2.2.1
    exact (hnodup rfl).mp hthree
  · intro hprobes
    simp only [declaredTimes, List.forall_mem_cons] at hutc
    refine ⟨trivial, ?_, htimes, ?_, ?_, (hnodup rfl).mpr hprobes, ?_, hids, _, hpositions, hsorted, ?_, rfl, rfl, rfl⟩
    · simp only [List.forall_mem_cons]
      obtain ⟨h1, h2, h3, h4, h5, h6, h7, h8, h9, h10, hnil⟩ := hutc
      exact ⟨h2, h6, h1, h5, h9, h3, h4, h7, h8, h10, fun _ ht => absurd ht List.not_mem_nil⟩
    · have hsame : secondsDiffer (totalSeconds submission.faultClearedAt submission.faultStartedAt)
          (totalSeconds submission.faultClearedAt submission.faultStartedAt) = false := secondsDiffer_self hp
      simpa [drillData, drillDraft, drillObservations] using hsame
    · have hsame : secondsDiffer (totalSeconds recovery.observedAt submission.faultClearedAt)
          (totalSeconds recovery.observedAt submission.faultClearedAt) = false := secondsDiffer_self hq
      simpa [drillData, drillDraft, drillObservations] using hsame
    · simp only [DrillContent.probes, List.forall_mem_cons]
      exact ⟨(probe_valid before).2.1, (probe_valid failure).2.1, (probe_valid recovery).2.1,
        fun _ ht => absurd ht List.not_mem_nil⟩
    · simp only [drillData, drillDraft, drillObservations, eq_comm]

/-! ## The drill -/

/-- What an artifact records of a history: four transitions of one source, in
this order and nothing else of the history one of these, and its times. -/
structure Records (history : PollHistory) (d : DrillData) (b : BoundDrill) : Prop where
  failureStarted : OnlyTransition history d.failureAttemptId .started b.failureStarted
  failureTerminal : OnlyTransition history d.failureAttemptId .failed b.failureTerminal
  recoveryStarted : OnlyTransition history d.recoveryAttemptId .started b.recoveryStarted
  recoveryTerminal : OnlyTransition history d.recoveryAttemptId .succeeded b.recoveryTerminal
  ofSource : ∀ t ∈ b.transitions, t.source = d.source
  streamIds : b.transitions.map (·.streamId) =
    [d.failureStartedStreamId, d.failureTerminalStreamId, d.recoveryStartedStreamId, d.recoveryTerminalStreamId]
  increasing : b.transitions.Pairwise fun s t => transitionPosition s < transitionPosition t
  startedAt : b.failureStarted.attempt.startedAt = d.failureAttemptStartedAt ∧
    b.recoveryStarted.attempt.startedAt = d.recoveryAttemptStartedAt
  completedAt : b.failureTerminal.attempt.completedAt = some d.failureTerminalAt ∧
    b.recoveryTerminal.attempt.completedAt = some d.recoveryTerminalAt
  failureCode : b.failureTerminal.attempt.failureCode = some d.observedFailureCode
  times : d.times.Pairwise fun s t => s.instant ≤ t.instant

theorem build_eq (hb : checkDrill target before failure recovery history submission = .ok b) :
    ∃ code, b.failureTerminal.attempt.failureCode = some code ∧
      buildSourcePollRecoveryDrill target before failure recovery history submission =
        (construct (DrillData.validate h) (drillData target before failure recovery history submission b code)).map
          fun d => ⟨d.1, d.2⟩ := by
  have hfailed : b.failureTerminal.attempt.outcome = .failed := by
    rw [(transition_valid b.failureTerminal).2.2, (checkDrill_ok hb).1.failureTerminal.ofKind]
    rfl
  obtain ⟨code, hcode⟩ := failed_code hfailed
  refine ⟨code, hcode, ?_⟩
  unfold buildSourcePollRecoveryDrill
  rw [hb]
  simp only [bind, Except.bind]
  rw [hcode]
  rfl

theorem buildable_iff (hb : checkDrill target before failure recovery history submission = .ok b) :
    (∃ e, buildSourcePollRecoveryDrill target before failure recovery history submission = .ok e) ↔
      [before.evidenceId, failure.evidenceId, recovery.evidenceId].Nodup := by
  obtain ⟨code, -, hbuild⟩ := build_eq hb
  obtain ⟨hbinds, htimes, htarget⟩ := checkDrill_ok hb
  rw [← drillData_valid hbinds htimes htarget code, ← construct_ok, hbuild]
  constructor
  · rintro ⟨e, he⟩
    obtain ⟨d, hd, -⟩ := map_ok.mp he
    exact ⟨d, hd⟩
  · rintro ⟨d, hd⟩
    exact ⟨_, map_ok.mpr ⟨d, hd, rfl⟩⟩

theorem build_data {e : SourcePollRecoveryDrillEvidence h}
    (he : buildSourcePollRecoveryDrill target before failure recovery history submission = .ok e) :
    ∃ b code, checkDrill target before failure recovery history submission = .ok b ∧
      b.failureTerminal.attempt.failureCode = some code ∧
      e.toDrillData = drillData target before failure recovery history submission b code := by
  cases hb : checkDrill target before failure recovery history submission with
  | error message =>
    unfold buildSourcePollRecoveryDrill at he
    rw [hb] at he
    cases he
  | ok b =>
    obtain ⟨code, hcode, hbuild⟩ := build_eq hb
    refine ⟨b, code, rfl, hcode, ?_⟩
    rw [hbuild, map_ok] at he
    obtain ⟨⟨d, hd⟩, hconstruct, rfl⟩ := he
    have hv : (drillData target before failure recovery history submission b code).validate h = .ok () :=
      construct_ok.mp ⟨_, hconstruct⟩
    rw [construct_of_valid hv] at hconstruct
    exact (congrArg Subtype.val (Except.ok.inj hconstruct)).symm

theorem build_records {e : SourcePollRecoveryDrillEvidence h}
    (he : buildSourcePollRecoveryDrill target before failure recovery history submission = .ok e) :
    e.source = submission.source ∧ e.passed = e.expectedPass ∧ ∃ b, Records history e.toDrillData b := by
  obtain ⟨b, code, hb, hcode, hdata⟩ := build_data he
  obtain ⟨hbinds, htimes, -⟩ := checkDrill_ok hb
  rw [hdata]
  refine ⟨rfl, rfl, b, ?_⟩
  exact ⟨hbinds.failureStarted, hbinds.failureTerminal, hbinds.recoveryStarted, hbinds.recoveryTerminal, hbinds.ofSource, rfl,
    hbinds.increasing, ⟨rfl, rfl⟩, ⟨hbinds.failureCompleted, hbinds.recoveryCompleted⟩, hcode, chronological_iff.mp htimes⟩

end

/-- **Recovery drills.** Inputs that pass the builder's checks give evidence
that passes its own validator, except where two of the probes have one id; and
what is built, passed or not, records a start and a failure, then a start and a
success, of one source, at increasing positions and in order of time. Other
transitions may lie between these. -/
theorem recovery_drill_sound (h : EvidenceHashing ProbeContent DrillContent) (target : DeploymentTarget)
    (before failure recovery : DeploymentProbeEvidence h) (history : PollHistory)
    (submission : SourcePollRecoveryDrillSubmission) :
    ((∃ b, checkDrill target before failure recovery history submission = .ok b) →
      ((∃ e, buildSourcePollRecoveryDrill target before failure recovery history submission = .ok e) ↔
        [before.evidenceId, failure.evidenceId, recovery.evidenceId].Nodup)) ∧
    ∀ e, buildSourcePollRecoveryDrill target before failure recovery history submission = .ok e →
      e.source = submission.source ∧ e.passed = e.expectedPass ∧ ∃ b, Records history e.toDrillData b := by
  refine ⟨?_, fun e he => build_records he⟩
  rintro ⟨b, hb⟩
  exact buildable_iff hb

/-! ## A drill with another failure in it -/

namespace UsgsDrill

theorem second_inRange {n : Nat} (hn : n < 60) : 63919713600000000 + n * 1000000 < maxMicros := by
  simp only [maxMicros, usPerDay]
  omega

def second (n : Nat) (hn : n < 60) : Datetime := TwoWorkers.utc (63919713600000000 + n * 1000000) (second_inRange hn)

def commit : String := "0000000000000000000000000000000000000000"

def item (attemptAt : Datetime) (passed : Bool) : SourceFreshnessItem where
  source := .usgs
  pollStatus := if passed then .healthy else .degraded
  sourceDataStatus := .current
  lastOutcome := some (if passed then .succeeded else .failed)
  lastStage := some (if passed then .complete else .fetch)
  lastFailureCode := if passed then none else some .transportExhausted
  lastAttemptAt := some attemptAt
  lastSuccessAt := if passed then some (second 8 (by decide)) else none
  lastSourceGeneratedAt := if passed then some (second 7 (by decide)) else none
  consecutiveFailures := if passed then 0 else 1
  transportAttempts := if passed then 1 else 4
  timestampBasis := if passed then some .sourceMetadata else none
  passed

def content (observedAt attemptAt : Datetime) (passed : Bool) : ProbeContent where
  targetId := "deployment-target-c626068c636189b18607"
  targetSha256 := "c626068c636189b18607cad52eb7d14e6dbeccf75b3ea840a94aa64254d25199"
  observedAt
  expectedVersion := "0.1.0"
  observedVersion := some "0.1.0"
  expectedCommitSha := commit
  observedCommitSha := some commit
  endpoints := probePaths.map fun name =>
    if name = .sourceFreshness ∧ !passed then ⟨name, false, some .unexpectedValue⟩ else ⟨name, true, none⟩
  certificatePassed := true
  sourceFreshness := [item attemptAt passed]
  executionBoundaryPassed := true
  passed

def beforeContent : ProbeContent := content (second 0 (by decide)) (second 0 (by decide)) true

def failureContent : ProbeContent := content (second 2 (by decide)) (second 2 (by decide)) false

def recoveryContent : ProbeContent := content (second 9 (by decide)) (second 7 (by decide)) true

/-- An attempt of the drill, still in progress. -/
def started (id : Char) (start : Datetime) : AttemptData :=
  { TwoWorkers.firstData with attemptId := "source-poll-0000000000000000000000000000000" ++ String.ofList [id], startedAt := start }

def failed (id : Char) (start stop : Datetime) : AttemptData :=
  { started id start with
    completedAt := some stop, outcome := .failed, transportAttempts := 4, failureCode := some .transportExhausted }

def succeeded (id : Char) (start stop : Datetime) : AttemptData :=
  { started id start with
    completedAt := some stop, outcome := .succeeded, stage := .complete, transportAttempts := 1, sourceGeneratedAt := some start,
    timestampBasis := some .sourceMetadata, fetchedEvents := some 0, publishedEvents := some 0, deduplicatedEvents := some 0 }

/-- The attempt 'a' fails at once, 'b' fails after it, and 'c' succeeds. -/
def items : List SourcePollTransition :=
  [⟨⟨"6-0", .usgs, .succeeded, ⟨succeeded 'c' (second 7 (by decide)) (second 8 (by decide)), by decide +kernel⟩⟩, by decide +kernel⟩,
    ⟨⟨"5-0", .usgs, .started, ⟨started 'c' (second 7 (by decide)), by decide +kernel⟩⟩, by decide +kernel⟩,
    ⟨⟨"4-0", .usgs, .failed, ⟨failed 'b' (second 4 (by decide)) (second 5 (by decide)), by decide +kernel⟩⟩, by decide +kernel⟩,
    ⟨⟨"3-0", .usgs, .started, ⟨started 'b' (second 4 (by decide)), by decide +kernel⟩⟩, by decide +kernel⟩,
    ⟨⟨"2-0", .usgs, .failed, ⟨failed 'a' (second 2 (by decide)) (second 2 (by decide)), by decide +kernel⟩⟩, by decide +kernel⟩,
    ⟨⟨"1-0", .usgs, .started, ⟨started 'a' (second 2 (by decide)), by decide +kernel⟩⟩, by decide +kernel⟩]

def history : PollHistory :=
  ⟨⟨second 10 (by decide), 6, items, some "1-0", false⟩, by decide +kernel⟩

/-! The members of the dumps that tell the documents apart, with the digests
that SHA-256 gives of these. -/

def dumpTime (d : Datetime) : Json := .str (d.naive.isoformat ++ "Z")

def dumpProbe (p : ProbeContent) : Json :=
  .obj [("kind", .str "deployment_probe"), ("observed_at", dumpTime p.observedAt), ("passed", .bool p.passed)]

def dumpHistory (r : SourcePollHistoryResponse) : Json := .obj [("generated_at", dumpTime r.generatedAt), ("count", .int r.count)]

def digest (text : String) : HexDigest :=
  if text = dumps true (dumpProbe beforeContent) then
    ⟨"eea788c4408fb4ae399d2bc642ef1429e44824bde8c17f9a56e92319b183edf4", by decide +kernel⟩
  else if text = dumps true (dumpProbe failureContent) then
    ⟨"b61a3201563fac8f46fb77dce2d490419380b8c7193f397bd99672c5e5d8d49d", by decide +kernel⟩
  else if text = dumps true (dumpProbe recoveryContent) then
    ⟨"aee3476952f4cd3bde6a86ef65b22a78decf2ab414e51b65dd906ba23a983f5e", by decide +kernel⟩
  else if text = dumps true (dumpHistory history.1) then
    ⟨"3581a4a27d4771716620e9fbd9c3892b3c94162f2c7923c09d9b3b96d5660285", by decide +kernel⟩
  else ⟨"6cc129a0a9ad10158a9bc610dbdba6afadd2f4dae955c267e64af4e2970b3a47", by decide +kernel⟩

def hashing : EvidenceHashing ProbeContent DrillContent where
  sha256 := digest
  dumpProbe
  dumpHistory
  dumpDrill d :=
    .obj [("kind", .str "source_poll_recovery_drill"), ("failure_attempt_id", .str d.failureAttemptId),
      ("recovery_attempt_id", .str d.recoveryAttemptId), ("passed", .bool d.passed)]

def before : DeploymentProbeEvidence hashing :=
  ⟨⟨beforeContent, "deployment-probe-eea788c4408fb4ae399d", "eea788c4408fb4ae399d2bc642ef1429e44824bde8c17f9a56e92319b183edf4"⟩,
    by decide +kernel⟩

def failure : DeploymentProbeEvidence hashing :=
  ⟨⟨failureContent, "deployment-probe-b61a3201563fac8f46fb", "b61a3201563fac8f46fb77dce2d490419380b8c7193f397bd99672c5e5d8d49d"⟩,
    by decide +kernel⟩

def recovery : DeploymentProbeEvidence hashing :=
  ⟨⟨recoveryContent, "deployment-probe-aee3476952f4cd3bde6a", "aee3476952f4cd3bde6a86ef65b22a78decf2ab414e51b65dd906ba23a983f5e"⟩,
    by decide +kernel⟩

def target : DeploymentTarget :=
  ⟨"deployment-target-c626068c636189b18607", "c626068c636189b18607cad52eb7d14e6dbeccf75b3ea840a94aa64254d25199", commit, "0.1.0", [.usgs]⟩

def submission : SourcePollRecoveryDrillSubmission where
  source := .usgs
  faultStartedAt := second 2 (by decide)
  faultClearedAt := second 6 (by decide)
  failureAttemptId := "source-poll-0000000000000000000000000000000a"
  recoveryAttemptId := "source-poll-0000000000000000000000000000000c"
  expectedFailureCode := .transportExhausted
  valid := by decide +kernel

def bound : BoundDrill where
  failureStarted := ⟨⟨"1-0", .usgs, .started, ⟨started 'a' (second 2 (by decide)), by decide +kernel⟩⟩, by decide +kernel⟩
  failureTerminal :=
    ⟨⟨"2-0", .usgs, .failed, ⟨failed 'a' (second 2 (by decide)) (second 2 (by decide)), by decide +kernel⟩⟩, by decide +kernel⟩
  recoveryStarted := ⟨⟨"5-0", .usgs, .started, ⟨started 'c' (second 7 (by decide)), by decide +kernel⟩⟩, by decide +kernel⟩
  recoveryTerminal :=
    ⟨⟨"6-0", .usgs, .succeeded, ⟨succeeded 'c' (second 7 (by decide)) (second 8 (by decide)), by decide +kernel⟩⟩, by decide +kernel⟩
  failureCompletedAt := second 2 (by decide)
  recoveryCompletedAt := second 8 (by decide)

theorem checked : checkDrill target before failure recovery history submission = .ok bound := by decide

theorem checked_twice : checkDrill target failure failure recovery history submission = .ok bound := by decide

theorem distinct : [before.evidenceId, failure.evidenceId, recovery.evidenceId].Nodup := by decide

end UsgsDrill

open UsgsDrill in
/-- The failed probe given as the probe before the fault passes the builder's
checks and is refused by the validator; and passed evidence leaves out a
failure of its source between the bound transitions, and has a start and a
failure at one time. -/
theorem passed_drill_skips_a_failure :
    (∃ b, checkDrill target failure failure recovery history submission = .ok b) ∧
    (∀ e, buildSourcePollRecoveryDrill target failure failure recovery history submission ≠ .ok e) ∧
    ∃ e, buildSourcePollRecoveryDrill target before failure recovery history submission = .ok e ∧ e.passed = true ∧
      e.failureAttemptStartedAt = e.failureTerminalAt ∧ e.failureTerminalStreamId = "2-0" ∧ e.recoveryStartedStreamId = "5-0" ∧
      ∃ t ∈ history.1.items, t.source = e.source ∧ t.transition = .failed ∧ t.streamId = "4-0" := by
  refine ⟨⟨_, checked_twice⟩, fun e he => ?_, ?_⟩
  · have hnodup := (buildable_iff checked_twice).mp ⟨e, he⟩
    simp at hnodup
  · obtain ⟨e, he⟩ := (buildable_iff checked).mpr distinct
    obtain ⟨b, code, hb, hcode, hdata⟩ := build_data he
    obtain rfl : bound = b := Except.ok.inj (checked.symm.trans hb)
    obtain rfl : SourcePollFailureCode.transportExhausted = code := Option.some.inj hcode
    refine ⟨e, he, ?_, ?_, ?_, ?_, ?_⟩
    · rw [hdata]
      decide
    · rw [hdata]
      rfl
    · rw [hdata]
      rfl
    · rw [hdata]
      rfl
    · rw [hdata]
      exact ⟨_, List.mem_cons_of_mem _ (List.mem_cons_of_mem _ List.mem_cons_self), rfl, rfl, rfl⟩

theorem recovery_drill_sound_usgs :
    ∃ e, buildSourcePollRecoveryDrill UsgsDrill.target UsgsDrill.before UsgsDrill.failure UsgsDrill.recovery UsgsDrill.history
        UsgsDrill.submission = .ok e ∧ e.source = .usgs ∧ ∃ b, Records UsgsDrill.history e.toDrillData b := by
  obtain ⟨hbuildable, hsound⟩ := recovery_drill_sound UsgsDrill.hashing UsgsDrill.target UsgsDrill.before UsgsDrill.failure
    UsgsDrill.recovery UsgsDrill.history UsgsDrill.submission
  obtain ⟨e, he⟩ := (hbuildable ⟨_, UsgsDrill.checked⟩).mpr UsgsDrill.distinct
  obtain ⟨hsource, -, hrecords⟩ := hsound e he
  exact ⟨e, he, hsource, hrecords⟩

end AtlasPulse
