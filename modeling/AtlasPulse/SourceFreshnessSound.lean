import AtlasPulse.OperationalEvidenceSound
import AtlasPulse.SourceFreshness
import AtlasPulse.StoreSound

/-!
# Soundness of the source freshness

`Recorded`: after any calls the state of a source follows from the terminal
transitions in the history. The evaluation reads such states only, so what it
lets pass is said of the history.
-/

namespace AtlasPulse

open PyTime Binary64

/-! ## Histories -/

/-- The terminal attempts of a source in the history, oldest first. -/
def terminalAttempts (source : SourceName) (m : InMemorySourcePollStore) : List SourcePollAttempt :=
  m.history.filterMap fun t => if t.source = source ∧ t.transition ≠ .started then some t.attempt else none

namespace InMemorySourcePollStore

/-- A state is refused, or stored with its transition. -/
theorem put_cases (m : InMemorySourcePollStore) (state : StateData) {k : SourcePollTransitionKind}
    (hk : state.currentAttempt.outcome = expectedOutcome k) :
    (∃ e, m.put state k = (.error e, m)) ∨
    ∃ (hv : state.validate = .ok ()) (t : SourcePollTransition) (n : Nat),
      m.put state k = (.ok (), ⟨m.states.insert state.source ⟨state, hv⟩, m.history ++ [t], n⟩) ∧
      t.source = state.source ∧ t.transition = k ∧ t.attempt = state.currentAttempt := by
  by_cases hv : state.validate = .ok ()
  · right
    have ht : TransitionData.validate ⟨StreamId.text ⟨0, m.historySequence + 1⟩, state.currentAttempt.source, k,
        state.currentAttempt⟩ = .ok () := by
      simp only [TransitionData.validate, bind_unit_ok, check_eq_ok, matchesStreamId_text, hk, decide_true, and_self]
    refine ⟨hv, ⟨_, ht⟩, m.historySequence + 1, ?_, ((StateData.validate_ok _).mp hv).2.1, rfl, rfl⟩
    rw [put, SourcePollState.make_of_valid hv]
    simp only [appendTransition]
    rw [SourcePollTransition.make_of_valid ht]
  · left
    obtain ⟨e, he⟩ : ∃ e, state.validate = .error e := by
      cases h : state.validate with
      | error e => exact ⟨e, rfl⟩
      | ok u => exact absurd h hv
    have hmake : SourcePollState.make state = .error e := by
      rw [SourcePollState.make, construct_of_invalid he]
      rfl
    exact ⟨.valueError e, by rw [put, hmake]⟩

/-- What a call can do: nothing, or one new state with its transition. -/
theorem call_cases (m : InMemorySourcePollStore) (call : PollCall) :
    (∃ e, m.call call = (.error e, m)) ∨
    ∃ (st : SourcePollState) (t : SourcePollTransition) (n : Nat),
      m.call call = (.ok (), ⟨m.states.insert st.source st, m.history ++ [t], n⟩) ∧
      t.source = st.source ∧ t.attempt = st.currentAttempt ∧ t.attempt.outcome = expectedOutcome t.transition ∧
      ((∃ attempt policy, call = .recordStarted attempt policy ∧ attempt.outcome = .inProgress ∧
          st.toStateData = startedState attempt policy (m.states.lookup st.source)) ∨
        ∃ attempt, call = .recordCompleted attempt ∧ attempt.outcome ≠ .inProgress ∧
          ∃ existing ∈ m.states.lookup st.source, st.toStateData = completedState attempt existing) := by
  cases call with
  | recordStarted attempt policy =>
    rw [call, recordStarted]
    split
    · exact Or.inl ⟨_, rfl⟩
    rename_i hgood
    obtain ⟨hin, -⟩ : attempt.outcome = .inProgress ∧ attempt.source = policy.source := by
      simpa only [not_or, not_not] using hgood
    dsimp only
    split
    · exact Or.inl ⟨_, rfl⟩
    rcases m.put_cases (startedState attempt policy (m.states.lookup attempt.source)) (k := .started) hin with
      h | ⟨hv, t, n, h, hsource, hkind, hattempt⟩
    · exact Or.inl h
    · refine Or.inr ⟨⟨_, hv⟩, t, n, h, hsource, hattempt, ?_, Or.inl ⟨attempt, policy, rfl, hin, rfl⟩⟩
      rw [hattempt, hkind]
      exact hin
  | recordCompleted attempt =>
    rw [call, recordCompleted]
    split
    · exact Or.inl ⟨_, rfl⟩
    rename_i hgood
    have hout : attempt.outcome ≠ .inProgress := fun h => hgood (Or.inl h)
    cases hlook : m.states.lookup attempt.source with
    | none => exact Or.inl ⟨_, rfl⟩
    | some existing =>
      dsimp only
      split
      · exact Or.inl ⟨_, rfl⟩
      have hk : (completedState attempt existing).currentAttempt.outcome =
          expectedOutcome (if decide (attempt.outcome = .succeeded) then .succeeded else .failed) := by
        cases ho : attempt.outcome with
        | inProgress => exact absurd ho hout
        | succeeded => simp [completedState, expectedOutcome, ho]
        | failed => simp [completedState, expectedOutcome, ho]
      have hstate : completedState attempt existing =
          { source := attempt.source
            policy := existing.policy
            currentAttempt := attempt
            lastSuccess := if decide (attempt.outcome = .succeeded) then some attempt else existing.lastSuccess
            consecutiveFailures := if decide (attempt.outcome = .succeeded) then 0 else existing.consecutiveFailures + 1 } := by
        simp [completedState]
      rw [← hstate]
      rcases m.put_cases (completedState attempt existing) hk with h | ⟨hv, t, n, h, hsource, hkind, hattempt⟩
      · exact Or.inl h
      · refine Or.inr ⟨⟨_, hv⟩, t, n, h, hsource, hattempt, ?_, Or.inr ⟨attempt, rfl, hout, existing, hlook, rfl⟩⟩
        rw [hattempt, hkind, hk]

end InMemorySourcePollStore

/-- The state of every source follows from its terminal attempts. -/
structure Recorded (m : InMemorySourcePollStore) : Prop where
  absent : ∀ source, m.states.lookup source = none → terminalAttempts source m = []
  source_eq : ∀ source, ∀ st ∈ m.states.lookup source, st.source = source
  success : ∀ source, ∀ st ∈ m.states.lookup source, st.lastSuccess = latestSuccess (terminalAttempts source m)
  current : ∀ source, ∀ st ∈ m.states.lookup source, st.currentAttempt.outcome ≠ .inProgress →
    (terminalAttempts source m).getLast? = some st.currentAttempt

namespace Recorded

variable {m : InMemorySourcePollStore}

theorem empty : Recorded .empty :=
  ⟨fun _ _ => rfl, fun _ _ h => by simp [InMemorySourcePollStore.empty] at h,
    fun _ _ h => by simp [InMemorySourcePollStore.empty] at h, fun _ _ h => by simp [InMemorySourcePollStore.empty] at h⟩

/-- One source gets a new state with its transition. -/
theorem write (h : Recorded m) {st : SourcePollState} {t : SourcePollTransition} {n : Nat} (ht : t.source = st.source)
    (hs : st.lastSuccess = latestSuccess (terminalAttempts st.source ⟨m.states.insert st.source st, m.history ++ [t], n⟩))
    (hc : st.currentAttempt.outcome ≠ .inProgress →
      (terminalAttempts st.source ⟨m.states.insert st.source st, m.history ++ [t], n⟩).getLast? = some st.currentAttempt) :
    Recorded ⟨m.states.insert st.source st, m.history ++ [t], n⟩ := by
  have hother : ∀ source, source ≠ st.source →
      terminalAttempts source ⟨m.states.insert st.source st, m.history ++ [t], n⟩ = terminalAttempts source m := by
    intro source hne
    have hno : ¬ (t.source = source ∧ t.transition ≠ .started) := fun h => hne (h.1.symm.trans ht)
    simp [terminalAttempts, if_neg hno]
  refine ⟨fun source hn => ?_, fun source st' hst' => ?_, fun source st' hst' => ?_, fun source st' hst' => ?_⟩
  all_goals by_cases hsource : source = st.source
  · subst hsource
    rw [AList.lookup_insert] at hn
    cases hn
  · rw [hother source hsource]
    exact h.absent source (by rwa [AList.lookup_insert_ne hsource] at hn)
  · subst hsource
    obtain rfl : st = st' := by simpa [AList.lookup_insert] using hst'
    rfl
  · exact h.source_eq source st' (by rwa [AList.lookup_insert_ne hsource] at hst')
  · subst hsource
    obtain rfl : st = st' := by simpa [AList.lookup_insert] using hst'
    exact hs
  · rw [hother source hsource]
    exact h.success source st' (by rwa [AList.lookup_insert_ne hsource] at hst')
  · subst hsource
    obtain rfl : st = st' := by simpa [AList.lookup_insert] using hst'
    exact hc
  · rw [hother source hsource]
    exact h.current source st' (by rwa [AList.lookup_insert_ne hsource] at hst')

theorem terminalAttempts_started {st : SourcePollState} {t : SourcePollTransition} {n : Nat}
    (hin : t.attempt.outcome = .inProgress) (ht : t.attempt.outcome = expectedOutcome t.transition) (source : SourceName) :
    terminalAttempts source ⟨m.states.insert st.source st, m.history ++ [t], n⟩ = terminalAttempts source m := by
  have hstarted : t.transition = .started := by
    rw [hin] at ht
    cases hk : t.transition with
    | started => rfl
    | succeeded => rw [hk] at ht; cases ht
    | failed => rw [hk] at ht; cases ht
  simp [terminalAttempts, hstarted]

theorem terminalAttempts_completed {st : SourcePollState} {t : SourcePollTransition} {n : Nat} (hsource : t.source = st.source)
    (hout : t.attempt.outcome ≠ .inProgress) (ht : t.attempt.outcome = expectedOutcome t.transition) :
    terminalAttempts st.source ⟨m.states.insert st.source st, m.history ++ [t], n⟩ =
      terminalAttempts st.source m ++ [t.attempt] := by
  have hstarted : t.transition ≠ .started := by
    intro hk
    rw [hk] at ht
    exact hout ht
  simp [terminalAttempts, hsource, hstarted]

theorem step (h : Recorded m) (call : PollCall) : Recorded (m.call call).2 := by
  rcases m.call_cases call with ⟨e, he⟩ | ⟨st, t, n, hcall, hsource, hattempt, hkind, hstate⟩
  · rw [he]
    exact h
  rw [hcall]
  rcases hstate with ⟨attempt, policy, -, hin, hst⟩ | ⟨attempt, -, hout, existing, hexisting, hst⟩
  · have hcurrent : st.currentAttempt = attempt := congrArg StateData.currentAttempt hst
    have hin' : t.attempt.outcome = .inProgress := by rw [hattempt, hcurrent, hin]
    refine h.write hsource ?_ fun hne => absurd (by rw [hcurrent, hin]) hne
    rw [terminalAttempts_started hin' hkind, congrArg StateData.lastSuccess hst]
    show ((m.states.lookup st.source).bind fun e => e.lastSuccess) = _
    cases hlook : m.states.lookup st.source with
    | none =>
      rw [h.absent _ hlook]
      rfl
    | some existing => exact h.success _ existing hlook
  · have hcurrent : st.currentAttempt = attempt := congrArg StateData.currentAttempt hst
    have hout' : t.attempt.outcome ≠ .inProgress := by rwa [hattempt, hcurrent]
    refine h.write hsource ?_ fun _ => ?_
    · rw [terminalAttempts_completed hsource hout' hkind, latestSuccess_snoc, congrArg StateData.lastSuccess hst,
        ← h.success _ existing hexisting, hattempt, hcurrent]
      rfl
    · rw [terminalAttempts_completed hsource hout' hkind, hattempt, List.getLast?_append]
      rfl

/-- After any calls. -/
theorem run (calls : List PollCall) : Recorded (Machine.run InMemorySourcePollStore.call .empty calls) :=
  Machine.run_inv (P := fun _ => True) (I := Recorded) (fun _ call _ h => h.step call) empty fun _ _ => trivial

end Recorded

/-! ## Ages -/

/-- The value of `(later - earlier).total_seconds()`. -/
def ageSeconds (later earlier : Datetime) : ℚ := (totalSeconds later earlier).toRat?.getD 0

section
variable {later earlier : Datetime} (hl : later.isUtc) (he : earlier.isUtc)
include hl he

theorem toRat?_totalSeconds : (totalSeconds later earlier).toRat? = some (ageSeconds later earlier) := by
  have h1 := instant_lt later hl
  have h2 := instant_lt earlier he
  have hmax : (maxMicros : Int) ≤ 2 ^ 60 := by decide
  have hdiff : |later.instant - earlier.instant| ≤ (2 : Int) ^ 60 := by
    rw [abs_le]
    omega
  have habs : |((later.instant - earlier.instant : Int) : ℚ) / 1000000| ≤ 2 ^ (60 : ℤ) := by
    rw [abs_div]
    calc |((later.instant - earlier.instant : Int) : ℚ)| / |1000000| ≤ |((later.instant - earlier.instant : Int) : ℚ)| :=
          div_le_self (abs_nonneg _) (by norm_num)
      _ ≤ 2 ^ (60 : ℤ) := by exact_mod_cast hdiff
  obtain ⟨p, hp, -⟩ := fit_of_abs_le (by norm_num) (by norm_num) habs
  have hvalue : (totalSeconds later earlier).toRat? = some p := by
    rw [totalSeconds, toRat?_ofRat, hp]
  rw [ageSeconds, hvalue]
  rfl

theorem isNegative_totalSeconds : isNegative (totalSeconds later earlier) = true ↔ ageSeconds later earlier < 0 :=
  Float64.lt_iff (toRat?_totalSeconds hl he) Near.ofInt_zero

theorem exceeds_totalSeconds (bound : ℚ) :
    exceeds (totalSeconds later earlier) bound = true ↔ bound < ageSeconds later earlier := by
  simp [exceeds, toRat?_totalSeconds hl he]

theorem isFinite_totalSeconds : (totalSeconds later earlier).isFinite = true :=
  Float64.isFinite_iff.mpr ⟨_, toRat?_totalSeconds hl he⟩

end

/-! ## Items -/

theorem SourcePollAttempt.failureCode_isSome (a : SourcePollAttempt) :
    a.failureCode.isSome = true ↔ a.outcome = .failed := by
  have ho := ((AttemptData.validate_ok _).mp a.valid).2.2.2.2.2.2.2
  unfold AttemptData.checkOutcome at ho
  cases hout : a.outcome with
  | inProgress =>
    simp only [hout, bind_unit_ok, check_eq_ok, Bool.and_eq_true, Option.isNone_iff_eq_none] at ho
    simp [ho.1.1.2]
  | succeeded =>
    simp only [hout, bind_unit_ok, check_eq_ok, Bool.and_eq_true, Option.isNone_iff_eq_none] at ho
    simp [ho.1.1.1.1.2]
  | failed =>
    simp only [hout, bind_unit_ok, check_eq_ok, Bool.and_eq_true] at ho
    simp [ho.1.1.2]

/-- The times of a last success. -/
structure SuccessTimes.Of (success : SourcePollAttempt) (times : SuccessTimes) : Prop where
  completedAt : success.completedAt = some times.successAt
  sourceGeneratedAt : success.sourceGeneratedAt = some times.generatedAt
  basis : success.timestampBasis = some times.basis
  success_isUtc : times.successAt.isUtc
  generated_isUtc : times.generatedAt.isUtc

theorem exists_successTimes {success : SourcePollAttempt} (h : success.outcome = .succeeded) :
    ∃ times, successTimes success = .ok times ∧ times.Of success := by
  obtain ⟨-, -, -, -, hcompleted, hbasis, hgenerated, ho⟩ := (AttemptData.validate_ok _).mp success.valid
  simp only [AttemptData.checkOutcome, h, bind_unit_ok, check_eq_ok, Bool.and_eq_true] at ho
  obtain ⟨at', hat⟩ := Option.isSome_iff_exists.mp ho.1.1.1.1.1.1
  obtain ⟨generatedAt, hgen⟩ := Option.isSome_iff_exists.mp ho.1.1.1.2
  obtain ⟨basis, hb⟩ : ∃ basis, success.timestampBasis = some basis := by
    rw [hgen] at hbasis
    exact Option.isSome_iff_exists.mp (by simpa using hbasis.symm)
  refine ⟨⟨at', generatedAt, basis⟩, ?_, hat, hgen, hb, (hcompleted at' hat).1, hgenerated generatedAt hgen⟩
  rw [successTimes, hat, hgen, hb]

theorem FreshnessItemData.validate_ok (d : FreshnessItemData) : d.validate = .ok () ↔
    0 < d.intervalSeconds ∧ 0 < d.pollStaleAfterSeconds ∧ 0 < d.sourceStaleAfterSeconds ∧
    (d.lastSuccessAgeSeconds.all Float64.isFinite = true ∧ d.sourceAgeSeconds.all Float64.isFinite = true) ∧
    0 ≤ d.transportAttempts ∧ d.transportAttempts ≤ 20 ∧
    presentTogether [d.lastAttemptAt.isNone, d.lastOutcome.isNone, d.lastStage.isNone] = true ∧
    (∀ t ∈ d.lastAttemptAt, t.isUtc) ∧
    presentTogether [d.lastSuccessAt.isNone, d.lastSourceGeneratedAt.isNone, d.lastSuccessAgeSeconds.isNone,
      d.sourceAgeSeconds.isNone, d.timestampBasis.isNone] = true ∧
    (∀ t ∈ d.lastSuccessAt, t.isUtc) ∧ (∀ t ∈ d.lastSourceGeneratedAt, t.isUtc) ∧
    d.lastFailureCode.isSome = decide (d.lastOutcome = some .failed) ∧
    d.passed = (decide (d.pollStatus = .healthy) && decide (d.sourceDataStatus = .current)) := by
  unfold FreshnessItemData.validate
  simp only [bind_unit_ok, check_eq_ok, checkUtc_ok, Bool.and_eq_true, decide_eq_true_eq, and_assoc]

/-- The item of a state passes all of its checks. -/
theorem stateItem_valid {policy : SourcePollPolicy} {state : SourcePollState} {now : Datetime} {times : Option SuccessTimes}
    (hnow : now.isUtc) (htimes : ∀ t ∈ times, t.successAt.isUtc ∧ t.generatedAt.isUtc) :
    (stateItem policy state now times).validate = .ok () := by
  obtain ⟨-, hlow, hhigh, hstart, -⟩ := (AttemptData.validate_ok _).mp state.currentAttempt.valid
  have hpos := policy.interval_pos
  have hpoll := hpos.trans policy.poll_exceeds
  have hsource := hpos.trans policy.source_exceeds
  have hcode : state.currentAttempt.failureCode.isSome = decide (state.currentAttempt.outcome = .failed) := by
    rw [Bool.eq_iff_iff, decide_eq_true_eq]
    exact state.currentAttempt.failureCode_isSome
  rw [FreshnessItemData.validate_ok]
  refine ⟨hpos, hpoll, hsource, ?_, hlow, hhigh, rfl, ?_, ?_, ?_, ?_, ?_, rfl⟩
  · cases times with
    | none => exact ⟨rfl, rfl⟩
    | some t => exact ⟨isFinite_totalSeconds hnow (htimes t rfl).1, isFinite_totalSeconds hnow (htimes t rfl).2⟩
  · simpa [stateItem] using hstart
  · cases times <;> rfl
  · simpa [stateItem] using fun t ht => (htimes t ht).1
  · simpa [stateItem] using fun t ht => (htimes t ht).2
  · simpa [stateItem] using hcode

theorem startingItem_valid (policy : SourcePollPolicy) : (startingItem policy).validate = .ok () := by
  have hpos := policy.interval_pos
  have hpoll := hpos.trans policy.poll_exceeds
  have hsource := hpos.trans policy.source_exceeds
  rw [FreshnessItemData.validate_ok]
  simp [startingItem, presentTogether, hpos, hpoll, hsource]

/-- The times that the evaluation reads in a state. -/
def SourcePollState.times (state : SourcePollState) : Option SuccessTimes :=
  state.lastSuccess.bind fun success => (successTimes success).toOption

theorem SourcePollState.times_eq_some {state : SourcePollState} {success : SourcePollAttempt}
    (h : state.lastSuccess = some success) :
    ∃ times, successTimes success = .ok times ∧ times.Of success ∧ state.times = some times := by
  obtain ⟨-, -, hsuccess, -⟩ := (StateData.validate_ok _).mp state.valid
  obtain ⟨times, htimes, hof⟩ := exists_successTimes (hsuccess success h).2.1
  refine ⟨times, htimes, hof, ?_⟩
  rw [SourcePollState.times, h]
  show (successTimes success).toOption = _
  rw [htimes]
  rfl

theorem SourcePollState.times_isUtc (state : SourcePollState) :
    ∀ t ∈ state.times, t.successAt.isUtc ∧ t.generatedAt.isUtc := by
  intro t ht
  cases hsuccess : state.lastSuccess with
  | none =>
    rw [SourcePollState.times, hsuccess] at ht
    cases ht
  | some success =>
    obtain ⟨times, -, hof, htimes⟩ := state.times_eq_some hsuccess
    obtain rfl := Option.some.inj (htimes.symm.trans ht)
    exact ⟨hof.success_isUtc, hof.generated_isUtc⟩

/-- The attempt and the data of a source are as recent as its policy asks. -/
structure Fresh (policy : SourcePollPolicy) (now : Datetime) (current success : SourcePollAttempt) : Prop where
  attempt_age : 0 ≤ ageSeconds now current.startedAt ∧ ageSeconds now current.startedAt ≤ policy.pollStaleAfterSeconds
  completion_age : ∀ c ∈ current.completedAt, 0 ≤ ageSeconds now c
  success_age : ∀ c ∈ success.completedAt, 0 ≤ ageSeconds now c
  data_age : ∃ g ∈ success.sourceGeneratedAt,
    0 ≤ ageSeconds now g ∧ ageSeconds now g ≤ policy.sourceStaleAfterSeconds

section
variable {policy : SourcePollPolicy} {state : SourcePollState} {now : Datetime} (hnow : now.isUtc)
include hnow

theorem attemptStatus_healthy : attemptStatus policy state now = .healthy ↔
    (0 ≤ ageSeconds now state.currentAttempt.startedAt ∧
      ageSeconds now state.currentAttempt.startedAt ≤ policy.pollStaleAfterSeconds) ∧
    (∀ c ∈ state.currentAttempt.completedAt, 0 ≤ ageSeconds now c) ∧ state.currentAttempt.outcome ≠ .failed ∧
    ¬ (state.currentAttempt.outcome = .inProgress ∧ state.lastSuccess = none) := by
  obtain ⟨-, -, -, hstart, hcompleted, -⟩ := (AttemptData.validate_ok _).mp state.currentAttempt.valid
  have hneg := isNegative_totalSeconds hnow hstart
  have hexc := exceeds_totalSeconds hnow hstart policy.pollStaleAfterSeconds
  have hany : (state.currentAttempt.completedAt.map (totalSeconds now)).any isNegative = true ↔
      ¬ ∀ c ∈ state.currentAttempt.completedAt, 0 ≤ ageSeconds now c := by
    cases hc : state.currentAttempt.completedAt with
    | none => simp
    | some c => simp [isNegative_totalSeconds hnow (hcompleted c hc).1]
  unfold attemptStatus
  dsimp only
  split
  · rename_i hskew
    rw [Bool.or_eq_true, hneg, hany] at hskew
    refine iff_of_false (by decide) fun h => ?_
    exact hskew.elim (fun h1 => absurd h.1.1 (not_le.mpr h1)) fun h2 => h2 h.2.1
  rename_i hskew
  rw [Bool.or_eq_true, hneg, hany, not_or, not_lt, not_not] at hskew
  split
  · rename_i hstale
    exact iff_of_false (by decide) fun h => absurd h.1.2 (not_le.mpr (hexc.mp hstale))
  rename_i hstale
  rw [hexc, not_lt] at hstale
  split
  · rename_i hfailed
    exact iff_of_false (by decide) fun h => h.2.2.1 hfailed
  rename_i hfailed
  split
  · rename_i hstarting
    rw [Bool.and_eq_true, decide_eq_true_eq, Option.isNone_iff_eq_none] at hstarting
    exact iff_of_false (by decide) fun h => h.2.2.2 hstarting
  · rename_i hstarting
    rw [Bool.and_eq_true, decide_eq_true_eq, Option.isNone_iff_eq_none] at hstarting
    exact iff_of_true rfl ⟨⟨hskew.1, hstale⟩, hskew.2, hfailed, hstarting⟩

theorem dataStatus_current {generatedAt : Datetime} (hg : generatedAt.isUtc) :
    dataStatus policy (totalSeconds now generatedAt) = .current ↔
      0 ≤ ageSeconds now generatedAt ∧ ageSeconds now generatedAt ≤ policy.sourceStaleAfterSeconds := by
  have hneg := isNegative_totalSeconds hnow hg
  have hexc := exceeds_totalSeconds hnow hg policy.sourceStaleAfterSeconds
  unfold dataStatus
  split
  · rename_i h
    exact iff_of_false (by decide) fun h' => absurd h'.1 (not_le.mpr (hneg.mp h))
  rename_i h
  rw [hneg, not_lt] at h
  split
  · rename_i h2
    exact iff_of_false (by decide) fun h' => absurd h'.2 (not_le.mpr (hexc.mp h2))
  · rename_i h2
    rw [hexc, not_lt] at h2
    exact iff_of_true rfl ⟨h, h2⟩

/-- When a source passes. -/
theorem stateItem_passed : (stateItem policy state now state.times).passed = true ↔
    ∃ success, state.lastSuccess = some success ∧ state.currentAttempt.outcome ≠ .failed ∧
      Fresh policy now state.currentAttempt success := by
  cases hsuccess : state.lastSuccess with
  | none =>
    have htimes : state.times = none := by rw [SourcePollState.times, hsuccess]; rfl
    simp [stateItem, htimes]
  | some success =>
    obtain ⟨times, -, hof, htimes⟩ := state.times_eq_some hsuccess
    have hskew := isNegative_totalSeconds hnow hof.success_isUtc
    simp only [stateItem, htimes, Option.map_some, Option.any_some, Bool.and_eq_true, decide_eq_true_eq]
    rw [dataStatus_current hnow hof.generated_isUtc]
    split
    · rename_i h
      refine iff_of_false (fun h' => nomatch h'.1) ?_
      rintro ⟨_, hs, -, hfresh⟩
      cases hs
      exact absurd (hfresh.success_age _ hof.completedAt) (not_le.mpr (hskew.mp h))
    rename_i h
    rw [hskew, not_lt] at h
    rw [attemptStatus_healthy hnow, hsuccess]
    constructor
    · rintro ⟨⟨hattempt, hcompletion, hfailed, -⟩, hdata⟩
      refine ⟨success, rfl, hfailed, hattempt, hcompletion, fun c hc => ?_, _, hof.sourceGeneratedAt, hdata⟩
      obtain rfl := Option.some.inj (hof.completedAt.symm.trans hc)
      exact h
    · rintro ⟨_, hs, hfailed, hfresh⟩
      cases hs
      obtain ⟨g, hg, hdata⟩ := hfresh.data_age
      obtain rfl := Option.some.inj (hof.sourceGeneratedAt.symm.trans hg)
      exact ⟨⟨hfresh.attempt_age, hfresh.completion_age, hfailed, fun h => nomatch h.2⟩, hdata⟩

end

/-! ## Responses -/

/-- The item that the evaluation gives for a policy. -/
def expectedItem (states : List SourcePollState) (now : Datetime) (policy : SourcePollPolicy) : FreshnessItemData :=
  match states.find? fun state => state.source = policy.source with
  | none => startingItem policy
  | some state => stateItem policy state now state.times

theorem expectedItem_source (states : List SourcePollState) (now : Datetime) (policy : SourcePollPolicy) :
    (expectedItem states now policy).source = policy.source := by
  unfold expectedItem
  split <;> rfl

theorem expectedItem_valid (states : List SourcePollState) {now : Datetime} (hnow : now.isUtc) (policy : SourcePollPolicy) :
    (expectedItem states now policy).validate = .ok () := by
  unfold expectedItem
  split
  · exact startingItem_valid policy
  · rename_i state _
    exact stateItem_valid hnow state.times_isUtc

theorem evaluatePolicy_ok {policy : SourcePollPolicy} {state : Option SourcePollState} {now : Datetime} (hnow : now.isUtc)
    (hpolicy : ∀ st ∈ state, st.policy = policy) :
    ∃ hv, evaluatePolicy policy state now =
      .ok ⟨match state with | none => startingItem policy | some st => stateItem policy st now st.times, hv⟩ := by
  cases state with
  | none => exact ⟨startingItem_valid policy, construct_of_valid _⟩
  | some state =>
    refine ⟨stateItem_valid hnow state.times_isUtc, ?_⟩
    rw [evaluatePolicy, if_neg (not_not.mpr (hpolicy state rfl))]
    cases hsuccess : state.lastSuccess with
    | none =>
      have htimes : state.times = none := by rw [SourcePollState.times, hsuccess]; rfl
      simp only [htimes]
      exact construct_of_valid _
    | some success =>
      obtain ⟨times, hok, -, htimes⟩ := state.times_eq_some hsuccess
      simp only [hok, htimes]
      exact construct_of_valid _

/-- The ages of the expected items are those of the response. -/
theorem checkAges_expectedItem (states : List SourcePollState) {now : Datetime} (hnow : now.isUtc) (policy : SourcePollPolicy) :
    checkAges now (expectedItem states now policy) = .ok () := by
  unfold expectedItem
  split
  · rfl
  rename_i state _
  cases htimes : state.times with
  | none => rfl
  | some times =>
    obtain ⟨hsuccess, hgenerated⟩ := state.times_isUtc times htimes
    simp only [checkAges, stateItem, Option.map_some, bind_unit_ok, check_eq_ok, Bool.not_eq_true']
    exact ⟨secondsDiffer_self (toRat?_totalSeconds hnow hsuccess), secondsDiffer_self (toRat?_totalSeconds hnow hgenerated)⟩

/-- Canonical policies, at least one. -/
def Configured (policies : List SourcePollPolicy) : Prop :=
  policies ≠ [] ∧ policies.map (·.source) = sortedSources (policies.map (·.source))

theorem Configured.nodup {policies : List SourcePollPolicy} (h : Configured policies) :
    (policies.map (·.source)).Nodup := by
  rw [h.2]
  exact (List.perm_insertionSort _ _).nodup_iff.mpr (List.nodup_dedup _)

theorem Configured.length_le {policies : List SourcePollPolicy} (h : Configured policies) : policies.length ≤ 4 := by
  have hsub : policies.map (·.source) ⊆ [.usgs, .nws, .firms, .gdelt] := by
    intro source _
    cases source <;> simp
  have hlen := (h.nodup.subperm hsub).length_le
  rwa [List.length_map] at hlen

/-- States of the store, one for each of some of the policies. -/
structure Collected (m : InMemorySourcePollStore) (policies : List SourcePollPolicy) (states : List SourcePollState) :
    Prop where
  nodup : (states.map (·.source)).Nodup
  stored : ∀ st ∈ states, m.states.lookup st.source = some st
  configured : ∀ st ∈ states, st.policy ∈ policies

def expectedItems (policies : List SourcePollPolicy) (states : List SourcePollState) {now : Datetime} (hnow : now.isUtc) :
    List FreshnessItem :=
  policies.map fun policy => ⟨expectedItem states now policy, expectedItem_valid states hnow policy⟩

section
variable {policies : List SourcePollPolicy} {now : Datetime} (hpolicies : Configured policies) (hnow : now.isUtc)
  (states : List SourcePollState)
include hpolicies

theorem expectedResponse_valid :
    FreshnessResponseData.validate ⟨now, expectedItems policies states hnow,
      (expectedItems policies states hnow).all (·.val.passed)⟩ = .ok () := by
  have hsources : (expectedItems policies states hnow).map (·.val.source) = policies.map (·.source) := by
    rw [expectedItems, List.map_map]
    exact List.map_congr_left fun policy _ => expectedItem_source states now policy
  have hlen : (expectedItems policies states hnow).length = policies.length := List.length_map _
  simp only [FreshnessResponseData.validate, bind_unit_ok, check_eq_ok, checkUtc_ok, decide_eq_true_eq, listForM_ok]
  refine ⟨?_, ?_, ?_, ?_, ?_, trivial⟩
  · rw [hlen]
    exact List.length_pos_iff.mpr hpolicies.1
  · rw [hlen]
    exact hpolicies.length_le
  · simpa using hnow
  · rw [hsources]
    exact hpolicies.2
  · intro item hmem
    obtain ⟨policy, -, rfl⟩ := List.mem_map.mp hmem
    exact checkAges_expectedItem states hnow policy

/-- **Totality.** The response has the expected items. -/
theorem evaluate_ok (hnodup : (states.map (·.source)).Nodup) (hconfigured : ∀ st ∈ states, st.policy ∈ policies) :
    ∃ response, evaluateSourceFreshness policies states now = .ok response ∧
      response.val.items = expectedItems policies states hnow := by
  have hkeys : ((states.map fun state => (state.source, state)).map Prod.fst).Nodup := by
    rwa [List.map_map]
  have hdict := PyDict.ofItems_of_nodup hkeys
  have hget : ∀ policy : SourcePollPolicy,
      PyDict.get (states.map fun state => (state.source, state)) policy.source =
        states.find? fun state => state.source = policy.source := by
    intro policy
    rw [PyDict.get, List.find?_map, Option.map_map]
    exact congrFun Option.map_id _
  have hitem : ∀ policy ∈ policies, evaluatePolicy policy
      (PyDict.get (states.map fun state => (state.source, state)) policy.source) now =
        .ok ⟨expectedItem states now policy, expectedItem_valid states hnow policy⟩ := by
    intro policy hpolicy
    rw [hget]
    refine (evaluatePolicy_ok hnow fun st hst => ?_).2
    have hsource : st.source = policy.source := by simpa using List.find?_some hst
    have hmem := hconfigured st (List.mem_of_find?_eq_some hst)
    refine List.inj_on_of_nodup_map hpolicies.nodup hmem hpolicy ?_
    exact ((StateData.validate_ok _).mp st.valid).1.trans hsource
  have hitems := mapM_of_ok hitem
  refine ⟨⟨_, expectedResponse_valid hpolicies hnow states⟩, ?_, rfl⟩
  unfold evaluateSourceFreshness
  rw [requireUtc_ok hnow]
  simp only [bind_ok, exists_unit, check_eq_ok, decide_eq_true_eq, Bool.and_eq_true, hdict]
  refine ⟨now, rfl, hpolicies.2, ⟨List.length_map _, ?_⟩, _, hitems, construct_of_valid _⟩
  rw [List.all_eq_true]
  intro source hsource
  rw [List.map_map] at hsource
  obtain ⟨st, hst, rfl⟩ := List.mem_map.mp hsource
  have hmem := List.mem_map_of_mem (f := (·.source)) (hconfigured st hst)
  rw [((StateData.validate_ok _).mp st.valid).1] at hmem
  exact decide_eq_true hmem

end

/-! ## Passing sources -/

/-- What an item says of the history of its source. -/
structure Supported (m : InMemorySourcePollStore) (states : List SourcePollState) (now : Datetime) (policy : SourcePollPolicy)
    (item : FreshnessItemData) : Prop where
  /-- A source that passes has a fresh success and no failed attempt on top of it. -/
  sound : item.passed = true → ∃ st ∈ states, st.source = policy.source ∧ ∃ success,
    latestSuccess (terminalAttempts policy.source m) = some success ∧ Fresh policy now st.currentAttempt success ∧
    st.currentAttempt.outcome ≠ .failed ∧
    (st.currentAttempt.outcome = .succeeded → (terminalAttempts policy.source m).getLast? = some success)
  /-- A source whose latest terminal attempt is a fresh success passes. -/
  complete : ∀ st ∈ states, st.source = policy.source → ∀ success,
    (terminalAttempts policy.source m).getLast? = some success → success.outcome = .succeeded →
    Fresh policy now st.currentAttempt success → item.passed = true

theorem latestSuccess_of_getLast? {l : List SourcePollAttempt} {a : SourcePollAttempt} (h : l.getLast? = some a)
    (ha : a.outcome = .succeeded) : latestSuccess l = some a := by
  obtain ⟨before, rfl⟩ := List.getLast?_eq_some_iff.mp h
  rw [latestSuccess_snoc, if_pos ha]

theorem find?_source {states : List SourcePollState} (hnodup : (states.map (·.source)).Nodup) {st : SourcePollState}
    (hst : st ∈ states) : (states.find? fun state => state.source = st.source) = some st := by
  obtain ⟨found, hfound⟩ : ∃ found, (states.find? fun state => state.source = st.source) = some found :=
    Option.isSome_iff_exists.mp (List.find?_isSome.mpr ⟨st, hst, decide_eq_true rfl⟩)
  have hsource : found.source = st.source := by simpa using List.find?_some hfound
  rw [hfound, List.inj_on_of_nodup_map hnodup (List.mem_of_find?_eq_some hfound) hst hsource]

theorem supported {m : InMemorySourcePollStore} (hm : Recorded m) {policies : List SourcePollPolicy}
    {states : List SourcePollState} (hstates : Collected m policies states) {now : Datetime} (hnow : now.isUtc)
    (policy : SourcePollPolicy) : Supported m states now policy (expectedItem states now policy) := by
  constructor
  · intro hpassed
    unfold expectedItem at hpassed
    split at hpassed
    · cases hpassed
    rename_i st hfind
    have hst := List.mem_of_find?_eq_some hfind
    have hsource : st.source = policy.source := by simpa using List.find?_some hfind
    have hlook := hstates.stored st hst
    obtain ⟨success, hsuccess, hfailed, hfresh⟩ := (stateItem_passed hnow).mp hpassed
    rw [hsource] at hlook
    refine ⟨st, hst, hsource, success, ?_, hfresh, hfailed, fun hout => ?_⟩
    · rw [← hm.success _ st hlook, hsuccess]
    · have hcurrent := ((StateData.validate_ok _).mp st.valid).2.2.2.1 hout
      rw [hsuccess] at hcurrent
      rw [hm.current _ st hlook (by rw [hout]; decide), hcurrent.2]
  · intro st hst hsource success hlast hout hfresh
    have hlook := hstates.stored st hst
    rw [hsource] at hlook
    have hfind := find?_source hstates.nodup hst
    rw [hsource] at hfind
    simp only [expectedItem, hfind]
    refine (stateItem_passed hnow).mpr ⟨success, ?_, fun hfailed => ?_, hfresh⟩
    · rw [hm.success _ st hlook, latestSuccess_of_getLast? hlast hout]
    · have hcurrent := hm.current _ st hlook (by rw [hfailed]; decide)
      rw [hlast] at hcurrent
      rw [Option.some.inj hcurrent, hfailed] at hout
      cases hout

/-! ## Starts -/

theorem loadStates_source {m : InMemorySourcePollStore} (hm : Recorded m) (sources : List SourceName) :
    ∀ st ∈ m.loadStates sources, st.source ∈ sources ∧ m.states.lookup st.source = some st := by
  intro st hst
  obtain ⟨source, hmem, hlook⟩ := List.mem_filterMap.mp hst
  obtain rfl := hm.source_eq source st hlook
  exact ⟨hmem, hlook⟩

theorem collected_loadStates {m : InMemorySourcePollStore} (hm : Recorded m) {policies : List SourcePollPolicy}
    (hpolicies : Configured policies)
    (hconfigured : ∀ st ∈ m.loadStates (policies.map (·.source)), st.policy ∈ policies) :
    Collected m policies (m.loadStates (policies.map (·.source))) := by
  refine ⟨?_, fun st hst => (loadStates_source hm _ st hst).2, hconfigured⟩
  have hsub : ((m.loadStates (policies.map (·.source))).map (·.source)).Sublist (policies.map (·.source)) := by
    generalize policies.map (·.source) = sources
    induction sources with
    | nil => exact List.Sublist.refl _
    | cons source sources ih =>
      cases hlook : m.states.lookup source with
      | none =>
        simp only [InMemorySourcePollStore.loadStates, List.filterMap_cons, hlook]
        exact ih.cons _
      | some st =>
        simp only [InMemorySourcePollStore.loadStates, List.filterMap_cons, hlook, List.map_cons, hm.source_eq _ st hlook]
        exact ih.cons_cons _
  exact hsub.nodup hpolicies.nodup

/-- The stored state of a policy is the one that the evaluation finds. -/
theorem expectedItem_loadStates {m : InMemorySourcePollStore} (hm : Recorded m) {policies : List SourcePollPolicy}
    (hpolicies : Configured policies) (hconfigured : ∀ st ∈ m.loadStates (policies.map (·.source)), st.policy ∈ policies)
    (now : Datetime) {policy : SourcePollPolicy} (hpolicy : policy ∈ policies) :
    expectedItem (m.loadStates (policies.map (·.source))) now policy =
      match m.states.lookup policy.source with
      | none => startingItem policy
      | some st => stateItem policy st now st.times := by
  have hcollected := collected_loadStates hm hpolicies hconfigured
  cases hlook : m.states.lookup policy.source with
  | none =>
    have hnone : ((m.loadStates (policies.map (·.source))).find? fun state => state.source = policy.source) = none := by
      rw [List.find?_eq_none]
      intro st hst hsource
      have hstored := (loadStates_source hm _ st hst).2
      rw [of_decide_eq_true hsource, hlook] at hstored
      cases hstored
    rw [expectedItem, hnone]
  | some st =>
    have hst : st ∈ m.loadStates (policies.map (·.source)) :=
      List.mem_filterMap.mpr ⟨policy.source, List.mem_map_of_mem hpolicy, hlook⟩
    have hfind := find?_source hcollected.nodup hst
    rw [hm.source_eq _ st hlook] at hfind
    rw [expectedItem, hfind]

/-- A start leaves the data side of every item as it is. -/
theorem start_keeps_data {m m' : InMemorySourcePollStore} (hm : Recorded m) {policies : List SourcePollPolicy}
    (hpolicies : Configured policies) {now : Datetime} (hnow : now.isUtc) {attempt : SourcePollAttempt}
    {started : SourcePollPolicy} (hstarted : started ∈ policies) (hcall : m.recordStarted attempt started = (.ok (), m'))
    (hconfigured : ∀ st ∈ m.loadStates (policies.map (·.source)), st.policy ∈ policies) :
    (∀ st ∈ m'.loadStates (policies.map (·.source)), st.policy ∈ policies) ∧
    ∀ policy ∈ policies,
      let before := expectedItem (m.loadStates (policies.map (·.source))) now policy
      let after := expectedItem (m'.loadStates (policies.map (·.source))) now policy
      after.sourceDataStatus = before.sourceDataStatus ∧ after.sourceAgeSeconds = before.sourceAgeSeconds ∧
        (before.sourceDataStatus ≠ .current → after.passed = false) := by
  have hm' : Recorded m' := by
    have h := hm.step (.recordStarted attempt started)
    rwa [show m.call (.recordStarted attempt started) = (.ok (), m') from hcall] at h
  rcases m.call_cases (.recordStarted attempt started) with ⟨e, he⟩ | ⟨st, t, n, hwrite, -, -, -, hstate⟩
  · rw [show m.call (.recordStarted attempt started) = (.ok (), m') from hcall] at he
    cases he
  rw [show m.call (.recordStarted attempt started) = (.ok (), m') from hcall] at hwrite
  obtain ⟨-, rfl⟩ := Prod.mk.inj hwrite
  obtain ⟨_, _, hsame, -, hst⟩ | ⟨_, hother, -⟩ := hstate
  swap
  · cases hother
  obtain ⟨rfl, rfl⟩ := PollCall.recordStarted.inj hsame
  have hsuccess : st.lastSuccess = (m.states.lookup st.source).bind fun e => e.lastSuccess :=
    congrArg StateData.lastSuccess hst
  have hpolicy : st.policy = started := congrArg StateData.policy hst
  have hconfigured' : ∀ st' ∈ InMemorySourcePollStore.loadStates ⟨m.states.insert st.source st, m.history ++ [t], n⟩
      (policies.map (·.source)), st'.policy ∈ policies := by
    intro st' hst'
    obtain ⟨hmem, hlook⟩ := loadStates_source hm' _ st' hst'
    by_cases hsource : st'.source = st.source
    · rw [hsource, AList.lookup_insert] at hlook
      rw [← Option.some.inj hlook, hpolicy]
      exact hstarted
    · rw [AList.lookup_insert_ne hsource] at hlook
      exact hconfigured st' (List.mem_filterMap.mpr ⟨st'.source, hmem, hlook⟩)
  refine ⟨hconfigured', fun policy hmem => ?_⟩
  have hdata : (expectedItem (InMemorySourcePollStore.loadStates ⟨m.states.insert st.source st, m.history ++ [t], n⟩
        (policies.map (·.source))) now policy).sourceDataStatus =
      (expectedItem (m.loadStates (policies.map (·.source))) now policy).sourceDataStatus ∧
      (expectedItem (InMemorySourcePollStore.loadStates ⟨m.states.insert st.source st, m.history ++ [t], n⟩
        (policies.map (·.source))) now policy).sourceAgeSeconds =
      (expectedItem (m.loadStates (policies.map (·.source))) now policy).sourceAgeSeconds := by
    rw [expectedItem_loadStates hm' hpolicies hconfigured' now hmem, expectedItem_loadStates hm hpolicies hconfigured now hmem]
    by_cases hsource : policy.source = st.source
    · rw [hsource, AList.lookup_insert]
      cases hlook : m.states.lookup st.source with
      | none =>
        have htimes : st.times = none := by
          rw [SourcePollState.times, hsuccess, hlook]
          rfl
        simp [stateItem, htimes, startingItem]
      | some existing =>
        have htimes : st.times = existing.times := by
          rw [SourcePollState.times, hsuccess, hlook]
          rfl
        simp [stateItem, htimes]
    · rw [AList.lookup_insert_ne hsource]
      exact ⟨rfl, rfl⟩
  refine ⟨hdata.1, hdata.2, fun hne => ?_⟩
  have hpass := ((FreshnessItemData.validate_ok _).mp (expectedItem_valid (InMemorySourcePollStore.loadStates
    ⟨m.states.insert st.source st, m.history ++ [t], n⟩ (policies.map (·.source))) hnow policy)).2.2.2.2.2.2.2.2.2.2.2.2
  rw [hdata.1, decide_eq_false hne, Bool.and_false] at hpass
  exact hpass

/-- **Source freshness.** After any calls the evaluation of stored states is
accepted by its validators, and a source that passes has its support in the
history. Starting an attempt leaves the data side of a source as it is. -/
theorem source_freshness_sound (calls : List PollCall) (policies : List SourcePollPolicy) (now : Datetime)
    (hpolicies : Configured policies) (hnow : now.isUtc = true) :
    let m := Machine.run InMemorySourcePollStore.call .empty calls
    (∀ states, Collected m policies states →
      ∃ response, evaluateSourceFreshness policies states now = .ok response ∧
        List.Forall₂ (fun policy (item : FreshnessItem) =>
          item.val.source = policy.source ∧ Supported m states now policy item.val) policies response.val.items) ∧
    ∀ attempt started m', started ∈ policies → m.recordStarted attempt started = (.ok (), m') →
      Collected m policies (m.loadStates (policies.map (·.source))) →
      ∃ before after, evaluateSourceFreshness policies (m.loadStates (policies.map (·.source))) now = .ok before ∧
        evaluateSourceFreshness policies (m'.loadStates (policies.map (·.source))) now = .ok after ∧
        List.Forall₂ (fun item item' : FreshnessItem => item'.val.source = item.val.source ∧
          item'.val.sourceDataStatus = item.val.sourceDataStatus ∧
          item'.val.sourceAgeSeconds = item.val.sourceAgeSeconds ∧
          (item.val.sourceDataStatus ≠ .current → item'.val.passed = false)) before.val.items after.val.items := by
  intro m
  have hm : Recorded m := Recorded.run calls
  constructor
  · intro states hstates
    obtain ⟨response, hresponse, hitems⟩ := evaluate_ok hpolicies hnow states hstates.nodup hstates.configured
    refine ⟨response, hresponse, ?_⟩
    rw [hitems, expectedItems, List.forall₂_map_right_iff, List.forall₂_same]
    exact fun policy _ => ⟨expectedItem_source states now policy, supported hm hstates hnow policy⟩
  · intro attempt started m' hstarted hcall hcollected
    have hm' : Recorded m' := by
      have h := hm.step (.recordStarted attempt started)
      rwa [show m.call (.recordStarted attempt started) = (.ok (), m') from hcall] at h
    obtain ⟨hconfigured', hkept⟩ := start_keeps_data hm hpolicies hnow hstarted hcall hcollected.configured
    have hcollected' := collected_loadStates hm' hpolicies hconfigured'
    obtain ⟨before, hbefore, hitems⟩ := evaluate_ok hpolicies hnow _ hcollected.nodup hcollected.configured
    obtain ⟨after, hafter, hitems'⟩ := evaluate_ok hpolicies hnow _ hcollected'.nodup hcollected'.configured
    refine ⟨before, after, hbefore, hafter, ?_⟩
    rw [hitems, hitems', expectedItems, expectedItems, List.forall₂_map_left_iff, List.forall₂_map_right_iff,
      List.forall₂_same]
    intro policy hpolicy
    refine ⟨?_, hkept policy hpolicy⟩
    rw [expectedItem_source, expectedItem_source]

/-! ## A heartbeat that a start renews -/

namespace Renewed

open TwoWorkers

/-- A success at noon. -/
def calls : List PollCall := [.recordStarted second policy, .recordCompleted secondSucceeded]

/-- Six minutes and forty seconds later. -/
def now : Datetime := TwoWorkers.utc 63919714000000000

def next : SourcePollAttempt :=
  ⟨{ firstData with attemptId := "source-poll-0000000000000000000000000000000c", startedAt := now }, by decide +kernel⟩

def memory : InMemorySourcePollStore := Machine.run InMemorySourcePollStore.call .empty calls

def passes (m : InMemorySourcePollStore) : Except String Bool :=
  (evaluateSourceFreshness [policy] (m.loadStates [.usgs]) now).map fun response => response.val.passed

end Renewed

open Renewed TwoWorkers in
/-- At one time the source fails for its stale heartbeat, and passes after a
start. -/
theorem start_renews_heartbeat : now.isUtc = true ∧ Configured [policy] ∧
    (∀ st ∈ memory.loadStates [.usgs], st.policy = policy) ∧ (memory.recordStarted next policy).1 = .ok () ∧
    passes memory = .ok false ∧ passes (memory.recordStarted next policy).2 = .ok true := by
  refine ⟨by decide +kernel, ⟨by decide, by decide +kernel⟩, ?_⟩
  decide +kernel

open Renewed TwoWorkers in
/-- The data of the source are as current as before. -/
theorem source_freshness_sound_renewed : ∃ before after,
    evaluateSourceFreshness [policy] (memory.loadStates [.usgs]) now = .ok before ∧
      evaluateSourceFreshness [policy] ((memory.recordStarted next policy).2.loadStates [.usgs]) now = .ok after ∧
      before.val.items.map (·.val.sourceDataStatus) = after.val.items.map (·.val.sourceDataStatus) := by
  have hstored : (memory.loadStates [.usgs]).map (·.source) = [.usgs] ∧
      (∀ st ∈ memory.loadStates [.usgs], memory.states.lookup st.source = some st) ∧
      ∀ st ∈ memory.loadStates [.usgs], st.policy ∈ [policy] := by decide
  have hcall : memory.recordStarted next policy = (.ok (), (memory.recordStarted next policy).2) :=
    Prod.ext (by decide) rfl
  obtain ⟨-, hstart⟩ := source_freshness_sound calls [policy] now ⟨by decide, by decide⟩ (by decide)
  obtain ⟨before, after, hbefore, hafter, hitems⟩ := hstart next policy _ List.mem_cons_self hcall
    ⟨by rw [show [policy].map (·.source) = [SourceName.usgs] from rfl]; exact hstored.1 ▸ List.nodup_singleton _,
      hstored.2.1, hstored.2.2⟩
  refine ⟨before, after, hbefore, hafter, ?_⟩
  have hstatus : List.Forall₂ (fun item item' : FreshnessItem => item.val.sourceDataStatus = item'.val.sourceDataStatus)
      before.val.items after.val.items := hitems.imp fun _ _ h => h.2.1.symm
  exact List.forall₂_eq_eq_eq ▸ (List.forall₂_map_left_iff.mpr (List.forall₂_map_right_iff.mpr hstatus))

end AtlasPulse
