import AtlasPulse.SourcePollStore
import AtlasPulse.Lib.Machine

/-!
# Soundness of the source-poll stores

`Mirrors`: the hash of a source holds what the in-memory store holds of it. One
call, on either store, is answered alike and keeps the relation, so the stores
agree along every run; the fields of the state follow from the log of the
accepted calls.
-/

namespace AtlasPulse

open PyTime

/-! ## Runs -/

/-- A call as it reaches a store: with the tick of the server. -/
def InMemorySourcePollStore.step (s : InMemorySourcePollStore) (x : Tick × PollCall) :
    Except PollError Unit × InMemorySourcePollStore :=
  s.call x.2

def ValkeySourcePollStore.step (c : PollCodec) (db : PollDb) (x : Tick × PollCall) :
    Except PollError Unit × PollDb :=
  call c db x.1 x.2

/-- A completion that names the id of a start carries its source and start. -/
def Disciplined (calls : List PollCall) : Prop :=
  ∀ start policy done, .recordStarted start policy ∈ calls → .recordCompleted done ∈ calls →
    done.attemptId = start.attemptId → done.source = start.source ∧ done.startedAt = start.startedAt

/-- The models of a call survive the JSON dump and its validation. -/
def PollCodec.RoundTrips (c : PollCodec) : PollCall → Prop
  | .recordStarted attempt policy =>
    c.validateAttempt (c.dumpAttempt attempt) = .ok attempt ∧ c.validatePolicy (c.dumpPolicy policy) = .ok policy
  | .recordCompleted attempt => c.validateAttempt (c.dumpAttempt attempt) = .ok attempt

theorem stateKey_injective : Function.Injective stateKey := by
  intro a b h
  cases a <;> cases b <;> first | rfl | exact absurd h (by decide)

/-! ## States the stores write -/

/-- The state that an accepted start writes. -/
def startedState (attempt : SourcePollAttempt) (policy : SourcePollPolicy) (existing : Option SourcePollState) :
    StateData where
  source := attempt.source
  policy := policy
  currentAttempt := attempt
  lastSuccess := existing.bind fun e => e.lastSuccess
  consecutiveFailures := (existing.map fun e => e.consecutiveFailures).getD 0

/-- The state that an accepted completion writes. -/
def completedState (attempt : SourcePollAttempt) (existing : SourcePollState) : StateData where
  source := attempt.source
  policy := existing.policy
  currentAttempt := attempt
  lastSuccess := if attempt.outcome = .succeeded then some attempt else existing.lastSuccess
  consecutiveFailures := if attempt.outcome = .succeeded then 0 else existing.consecutiveFailures + 1

theorem SourcePollState.currentAttempt_source (st : SourcePollState) : st.currentAttempt.source = st.source :=
  ((StateData.validate_ok _).mp st.valid).2.1

theorem startedState_valid {attempt : SourcePollAttempt} {policy : SourcePollPolicy}
    {existing : Option SourcePollState} (hin : attempt.outcome = .inProgress) (hp : attempt.source = policy.source)
    (hs : ∀ e ∈ existing, e.source = attempt.source)
    (ht : ∀ e ∈ existing, e.currentAttempt.startedAt.instant < attempt.startedAt.instant) :
    (startedState attempt policy existing).validate = .ok () := by
  rw [StateData.validate_ok]
  refine ⟨hp.symm, rfl, ?_, ?_, ?_⟩
  · intro l hl
    obtain ⟨e, he, hle⟩ : ∃ e, existing = some e ∧ e.lastSuccess = some l := by
      simpa [startedState, Option.bind_eq_some_iff] using hl
    obtain ⟨-, -, hsucc, -, -⟩ := (StateData.validate_ok _).mp e.valid
    obtain ⟨h1, h2, h3⟩ := hsucc l hle
    exact ⟨h1.trans (hs e he), h2, le_trans h3 (le_of_lt (ht e he))⟩
  · intro h
    exact absurd (hin.symm.trans h) (by decide)
  · intro h
    exact absurd (hin.symm.trans h) (by decide)

theorem completedState_valid {attempt : SourcePollAttempt} {existing : SourcePollState}
    (hs : attempt.source = existing.source) (ht : attempt.startedAt = existing.currentAttempt.startedAt) :
    (completedState attempt existing).validate = .ok () := by
  obtain ⟨hpol, -, hsucc, -, -⟩ := (StateData.validate_ok _).mp existing.valid
  rw [StateData.validate_ok]
  refine ⟨hpol.trans hs.symm, rfl, ?_, ?_, ?_⟩
  · intro l hl
    by_cases h : attempt.outcome = .succeeded
    · obtain rfl : attempt = l := by simpa [completedState, h] using hl
      exact ⟨rfl, h, le_rfl⟩
    · obtain ⟨h1, h2, h3⟩ := hsucc l (by simpa [completedState, h] using hl)
      refine ⟨h1.trans hs.symm, h2, ?_⟩
      simpa [completedState, ht] using h3
  · intro h
    have h' : attempt.outcome = .succeeded := h
    simp [completedState, h']
  · intro h
    have h' : attempt.outcome = .failed := h
    simp [completedState, h']

/-! ## The in-memory store -/

namespace InMemorySourcePollStore

theorem matchesStreamId_text (n : Nat) : matchesStreamId (StreamId.text ⟨0, n⟩) = true := by
  have hd : (Digits.decimal n).all Char.isDigit = true :=
    List.all_eq_true.mpr fun c hc => Digits.isDigit_of_mem_decimal hc
  have h0 : Digits.decimal 0 = ['0'] := by decide
  simp [matchesStreamId, StreamId.text, h0, List.span, List.span.loop, hd, Digits.decimal_ne_nil]

/-- A valid state is stored with its transition. -/
theorem put_of_valid (s : InMemorySourcePollStore) {state : StateData} (hv : state.validate = .ok ())
    {k : SourcePollTransitionKind} (hk : state.currentAttempt.outcome = expectedOutcome k) :
    ∃ history n, s.put state k = (.ok (), ⟨s.states.insert state.source ⟨state, hv⟩, history, n⟩) := by
  have ht : TransitionData.validate ⟨StreamId.text ⟨0, s.historySequence + 1⟩, state.currentAttempt.source, k,
      state.currentAttempt⟩ = .ok () := by
    simp only [TransitionData.validate, bind_unit_ok, check_eq_ok, matchesStreamId_text, hk, decide_true, and_self]
  refine ⟨s.history ++ [⟨_, ht⟩], s.historySequence + 1, ?_⟩
  rw [put, SourcePollState.make_of_valid hv]
  simp only [appendTransition]
  rw [SourcePollTransition.make_of_valid ht]

theorem recordStarted_accepted {s : InMemorySourcePollStore} {attempt : SourcePollAttempt}
    {policy : SourcePollPolicy} (hin : attempt.outcome = .inProgress) (hp : attempt.source = policy.source)
    (hs : ∀ e ∈ s.states.lookup attempt.source, e.source = attempt.source)
    (ht : ∀ e ∈ s.states.lookup attempt.source, e.currentAttempt.startedAt.instant < attempt.startedAt.instant) :
    ∃ history n, s.recordStarted attempt policy = (.ok (), ⟨s.states.insert attempt.source
      ⟨startedState attempt policy (s.states.lookup attempt.source), startedState_valid hin hp hs ht⟩, history, n⟩) := by
  have hany : ¬ ((s.states.lookup attempt.source).any fun e =>
      attempt.startedAt.instant ≤ e.currentAttempt.startedAt.instant) = true := by
    rw [Option.any_eq_true]
    rintro ⟨e, he, hle⟩
    exact absurd (ht e he) (not_lt.mpr (of_decide_eq_true hle))
  obtain ⟨history, n, h⟩ := s.put_of_valid (k := .started) (startedState_valid hin hp hs ht) hin
  refine ⟨history, n, ?_⟩
  rw [recordStarted, if_neg (by simp [hin, hp])]
  simp only
  rw [if_neg hany]
  exact h

/-- A start is refused and leaves the store alone, or is accepted. -/
theorem recordStarted_cases {s : InMemorySourcePollStore} (attempt : SourcePollAttempt) (policy : SourcePollPolicy)
    (hs : ∀ e ∈ s.states.lookup attempt.source, e.source = attempt.source) :
    (∃ e, s.recordStarted attempt policy = (.error e, s)) ∨
    ∃ hv history n, s.recordStarted attempt policy = (.ok (), ⟨s.states.insert attempt.source
      ⟨startedState attempt policy (s.states.lookup attempt.source), hv⟩, history, n⟩) := by
  by_cases hbad : attempt.outcome ≠ .inProgress ∨ attempt.source ≠ policy.source
  · exact Or.inl ⟨badStart, by rw [recordStarted, if_pos hbad]⟩
  obtain ⟨hin, hp⟩ : attempt.outcome = .inProgress ∧ attempt.source = policy.source := by
    simpa only [not_or, not_not] using hbad
  by_cases ht : ∀ e ∈ s.states.lookup attempt.source, e.currentAttempt.startedAt.instant < attempt.startedAt.instant
  · exact Or.inr ⟨startedState_valid hin hp hs ht, recordStarted_accepted hin hp hs ht⟩
  · left
    refine ⟨staleStart, ?_⟩
    have hany : ((s.states.lookup attempt.source).any fun e =>
        attempt.startedAt.instant ≤ e.currentAttempt.startedAt.instant) = true := by
      rw [Option.any_eq_true]
      push Not at ht
      obtain ⟨e, he, hle⟩ := ht
      exact ⟨e, he, decide_eq_true hle⟩
    rw [recordStarted, if_neg hbad]
    simp only
    rw [if_pos hany]

theorem recordCompleted_accepted {s : InMemorySourcePollStore} {attempt : SourcePollAttempt}
    {existing : SourcePollState} (he : s.states.lookup attempt.source = some existing)
    (ho : attempt.outcome ≠ .inProgress) (hs : attempt.source = existing.source)
    (hid : existing.currentAttempt.attemptId = attempt.attemptId)
    (hin : existing.currentAttempt.outcome = .inProgress)
    (ht : attempt.startedAt = existing.currentAttempt.startedAt) :
    ∃ history n, s.recordCompleted attempt = (.ok (), ⟨s.states.insert attempt.source
      ⟨completedState attempt existing, completedState_valid hs ht⟩, history, n⟩) := by
  have hk : (completedState attempt existing).currentAttempt.outcome =
      expectedOutcome (if attempt.outcome = .succeeded then .succeeded else .failed) := by
    show attempt.outcome = _
    cases hout : attempt.outcome with
    | inProgress => exact absurd hout ho
    | succeeded => rfl
    | failed => rfl
  obtain ⟨history, n, h⟩ := s.put_of_valid (completedState_valid hs ht) hk
  have hc : attempt.completedAt ≠ none := by
    have := attempt.completedAt_isSome ho
    intro h
    simp [h] at this
  refine ⟨history, n, ?_⟩
  rw [recordCompleted, if_neg (by simp [ho, hc]), he]
  simp only [hid, hin, ne_eq, not_true_eq_false, or_self, if_false, decide_eq_true_eq]
  exact h

end InMemorySourcePollStore

/-! ## The hash of a source -/

/-- The hash fields of a stored state, and that its texts read back. -/
structure Stored (c : PollCodec) (st : SourcePollState) (h : Hash) : Prop where
  source : h.hget "source" = some st.source.text
  policy : h.hget "policy_json" = some (c.dumpPolicy st.policy)
  attemptId : h.hget "current_attempt_id" = some st.currentAttempt.attemptId
  startedAt : h.hget "current_started_at" = some st.currentAttempt.startedAt.isoformat
  outcome : h.hget "current_outcome" = some st.currentAttempt.outcome.text
  attempt : h.hget "current_attempt_json" = some (c.dumpAttempt st.currentAttempt)
  success : h.hget "last_success_json" = st.lastSuccess.map c.dumpAttempt
  failures : (h.hget "consecutive_failures" = none ∧ st.consecutiveFailures = 0) ∨
    h.hget "consecutive_failures" = some (String.ofList (Digits.decimal st.consecutiveFailures))
  readsPolicy : c.validatePolicy (c.dumpPolicy st.policy) = .ok st.policy
  readsAttempt : c.validateAttempt (c.dumpAttempt st.currentAttempt) = .ok st.currentAttempt
  readsSuccess : ∀ l ∈ st.lastSuccess, c.validateAttempt (c.dumpAttempt l) = .ok l

theorem outcomeText_injective : Function.Injective SourcePollOutcome.text := by
  intro a b h
  cases a <;> cases b <;> first | rfl | exact absurd h (by decide)

section stored
variable {c : PollCodec}

/-- The fields that an accepted start writes. -/
def startFields (c : PollCodec) (attempt : SourcePollAttempt) (policy : SourcePollPolicy) : List (String × String) :=
  [("source", attempt.source.text), ("policy_json", c.dumpPolicy policy), ("current_attempt_id", attempt.attemptId),
    ("current_started_at", attempt.startedAt.isoformat), ("current_outcome", "in_progress"),
    ("current_attempt_json", c.dumpAttempt attempt)]

theorem Stored.start {h : Hash} {attempt : SourcePollAttempt} {policy : SourcePollPolicy}
    {existing : Option SourcePollState} (hc : c.RoundTrips (.recordStarted attempt policy))
    (hin : attempt.outcome = .inProgress) (hnone : existing = none → h = ∅)
    (hsome : ∀ e ∈ existing, Stored c e h) (hv : (startedState attempt policy existing).validate = .ok ()) :
    Stored c ⟨startedState attempt policy existing, hv⟩ (h.hset (startFields c attempt policy)) := by
  refine
    { source := by rw [Hash.hget_hset]; rfl
      policy := by rw [Hash.hget_hset]; rfl
      attemptId := by rw [Hash.hget_hset]; rfl
      startedAt := by rw [Hash.hget_hset]; rfl
      outcome := by rw [Hash.hget_hset]; simp [startFields, startedState, hin, SourcePollOutcome.text]
      attempt := by rw [Hash.hget_hset]; rfl
      success := ?_, failures := ?_, readsPolicy := hc.2, readsAttempt := hc.1, readsSuccess := ?_ }
  · have hf : (startFields c attempt policy).reverse.find? (fun f => f.1 = "last_success_json") = none := by
      simp [startFields]
    rw [Hash.hget_hset, hf]
    cases existing with
    | none => simp [hnone rfl, startedState]
    | some e => exact (hsome e rfl).success
  · have hf : (startFields c attempt policy).reverse.find? (fun f => f.1 = "consecutive_failures") = none := by
      simp [startFields]
    rw [Hash.hget_hset, hf]
    cases existing with
    | none => exact Or.inl ⟨by simp [hnone rfl], rfl⟩
    | some e => exact (hsome e rfl).failures
  · intro l hl
    cases existing with
    | none => simp [startedState] at hl
    | some e => exact (hsome e rfl).readsSuccess l (by simpa [startedState] using hl)

/-- The counter field after an accepted completion. -/
theorem Stored.hincrby {st : SourcePollState} {h : Hash} (hs : Stored c st h) (fields : List (String × String))
    (hf : fields.reverse.find? (fun f => f.1 = "consecutive_failures") = none) :
    (h.hset fields).hincrby "consecutive_failures" 1 = .ok ((h.hset fields).hset
      [("consecutive_failures", String.ofList (Digits.decimal (st.consecutiveFailures + 1)))]) := by
  have hget : (h.hset fields).hget "consecutive_failures" = h.hget "consecutive_failures" := by
    rw [Hash.hget_hset, hf]
    rfl
  rcases hs.failures with ⟨h0, hz⟩ | h1
  · rw [Hash.hincrby, hget, h0, hz]
  · rw [Hash.hincrby, hget, h1]
    simp

/-- The fields that an accepted completion writes. -/
def completionFields (c : PollCodec) (attempt : SourcePollAttempt) (existing : SourcePollState) :
    List (String × String) :=
  [("current_outcome", attempt.outcome.text), ("current_attempt_json", c.dumpAttempt attempt)] ++
    if attempt.outcome = .succeeded then
      [("last_success_json", c.dumpAttempt attempt), ("consecutive_failures", "0")]
    else [("consecutive_failures", String.ofList (Digits.decimal (existing.consecutiveFailures + 1)))]

theorem Stored.complete {h : Hash} {attempt : SourcePollAttempt} {existing : SourcePollState}
    (hc : c.RoundTrips (.recordCompleted attempt)) (hs : Stored c existing h)
    (hid : existing.currentAttempt.attemptId = attempt.attemptId) (hsrc : attempt.source = existing.source)
    (ht : attempt.startedAt = existing.currentAttempt.startedAt)
    (hv : (completedState attempt existing).validate = .ok ()) :
    Stored c ⟨completedState attempt existing, hv⟩ (h.hset (completionFields c attempt existing)) := by
  have h0 : String.ofList (Digits.decimal 0) = "0" := by decide
  have hother : ∀ field : String, field ∉ ["current_outcome", "current_attempt_json", "last_success_json",
      "consecutive_failures"] → (h.hset (completionFields c attempt existing)).hget field = h.hget field := by
    intro field hfield
    simp only [List.mem_cons, List.not_mem_nil, or_false, not_or] at hfield
    obtain ⟨h1, h2, h3, h4⟩ := hfield
    rw [Hash.hget_hset, completionFields]
    split <;> simp [Ne.symm h1, Ne.symm h2, Ne.symm h3, Ne.symm h4]
  refine
    { source := by rw [hother _ (by decide), hs.source]; simp [completedState, hsrc]
      policy := by rw [hother _ (by decide), hs.policy]; rfl
      attemptId := by rw [hother _ (by decide), hs.attemptId]; simp [completedState, hid]
      startedAt := by rw [hother _ (by decide), hs.startedAt]; simp [completedState, ht]
      outcome := by rw [Hash.hget_hset, completionFields]; split <;> simp [completedState]
      attempt := by rw [Hash.hget_hset, completionFields]; split <;> simp [completedState]
      success := ?_, failures := Or.inr ?_, readsPolicy := hs.readsPolicy, readsAttempt := hc, readsSuccess := ?_ }
  · rw [Hash.hget_hset, completionFields]
    by_cases hsucc : attempt.outcome = .succeeded
    · simp [completedState, hsucc]
    · simp [completedState, hsucc, hs.success]
  · rw [Hash.hget_hset, completionFields]
    by_cases hsucc : attempt.outcome = .succeeded
    · simp [completedState, hsucc, h0]
    · simp [completedState, hsucc]
  · intro l hl
    by_cases hsucc : attempt.outcome = .succeeded
    · obtain rfl : attempt = l := by simpa [completedState, hsucc] using hl
      exact hc
    · exact hs.readsSuccess l (by simpa [completedState, hsucc] using hl)

/-- A stored state is loaded. -/
theorem Stored.loadState {db : PollDb} {st : SourcePollState} (hs : Stored c st (db.hgetall (stateKey st.source))) :
    ValkeySourcePollStore.loadState c db st.source = .ok (some st) := by
  have hne : (db.hgetall (stateKey st.source)).entries ≠ [] := by
    intro h
    have hsrc := hs.source
    rw [show db.hgetall (stateKey st.source) = ∅ from AList.ext h] at hsrc
    simp at hsrc
  have hmake : SourcePollState.make ⟨st.source, st.policy, st.currentAttempt, st.lastSuccess,
      st.consecutiveFailures⟩ = .ok st := SourcePollState.make_of_valid st.valid
  unfold ValkeySourcePollStore.loadState
  simp only [hne, if_false, hs.source, hs.policy, hs.attempt, ne_eq, not_true_eq_false, hs.success, hs.readsPolicy,
    hs.readsAttempt]
  cases hl : st.lastSuccess with
  | none =>
    rw [hl] at hmake
    rcases hs.failures with ⟨h0, hz⟩ | h1
    · rw [hz] at hmake
      simp [h0, hmake, Except.map, bind, Except.bind]
    · simp [h1, hmake, Except.map, bind, Except.bind]
  | some l =>
    rw [hl] at hmake
    rcases hs.failures with ⟨h0, hz⟩ | h1
    · rw [hz] at hmake
      simp [h0, hmake, hs.readsSuccess l hl, Except.map, bind, Except.bind]
    · simp [h1, hmake, hs.readsSuccess l hl, Except.map, bind, Except.bind]

theorem loadState_absent {db : PollDb} {source : SourceName} (h : db.hashes.lookup (stateKey source) = none) :
    ValkeySourcePollStore.loadState c db source = .ok none := by
  simp [ValkeySourcePollStore.loadState, PollDb.hgetall, h]

end stored

/-! ## The simulation -/

/-- The state of a source, and the start that its current attempt comes from. -/
structure Kept (c : PollCodec) (calls : List PollCall) (source : SourceName) (st : SourcePollState) (h : Hash) :
    Prop where
  source_eq : st.source = source
  begun : ∃ start policy, .recordStarted start policy ∈ calls ∧ start.attemptId = st.currentAttempt.attemptId ∧
    start.source = source ∧ start.startedAt = st.currentAttempt.startedAt
  stored : Stored c st h

/-- The two stores hold the same of every source. -/
def Mirrors (c : PollCodec) (calls : List PollCall) (m : InMemorySourcePollStore) (db : PollDb) : Prop :=
  ∀ source, (m.states.lookup source = none ∧ db.hashes.lookup (stateKey source) = none) ∨
    ∃ st, m.states.lookup source = some st ∧ Kept c calls source st (db.hgetall (stateKey source))

namespace Mirrors

variable {c : PollCodec} {calls : List PollCall} {m m' : InMemorySourcePollStore} {db db' : PollDb}

theorem empty (c : PollCodec) (calls : List PollCall) : Mirrors c calls .empty .empty :=
  fun _ => Or.inl ⟨AList.lookup_empty _, AList.lookup_empty _⟩

/-- Both stores write the state of one source. -/
theorem update (hm : Mirrors c calls m db) {source : SourceName} {st : SourcePollState} {h : Hash}
    (hk : Kept c calls source st h) (hstates : m'.states = m.states.insert source st)
    (hhashes : db'.hashes = db.hashes.insert (stateKey source) h) : Mirrors c calls m' db' := by
  intro s
  by_cases hs : s = source
  · subst hs
    right
    refine ⟨st, by rw [hstates, AList.lookup_insert], ?_⟩
    rwa [PollDb.hgetall, hhashes, AList.lookup_insert]
  · have hkey : stateKey s ≠ stateKey source := fun h => hs (stateKey_injective h)
    rcases hm s with ⟨h1, h2⟩ | ⟨st', h1, h2⟩
    · left
      rw [hstates, hhashes, AList.lookup_insert_ne hs, AList.lookup_insert_ne hkey]
      exact ⟨h1, h2⟩
    · right
      refine ⟨st', by rw [hstates, AList.lookup_insert_ne hs, h1], ?_⟩
      rwa [PollDb.hgetall, hhashes, AList.lookup_insert_ne hkey]

theorem loadState (hm : Mirrors c calls m db) (source : SourceName) :
    ValkeySourcePollStore.loadState c db source = .ok (m.states.lookup source) := by
  rcases hm source with ⟨h1, h2⟩ | ⟨st, h1, h2⟩
  · rw [loadState_absent h2, h1]
  · obtain rfl := h2.source_eq
    rw [h2.stored.loadState, h1]

theorem loadStates (hm : Mirrors c calls m db) (sources : List SourceName) :
    ValkeySourcePollStore.loadStates c db sources = .ok (m.loadStates sources) := by
  have hmap : sources.mapM (ValkeySourcePollStore.loadState c db) =
      .ok (sources.map fun source => m.states.lookup source) := by
    induction sources with
    | nil => rfl
    | cons source sources ih =>
      rw [List.mapM_cons, hm.loadState, ih]
      rfl
  rw [ValkeySourcePollStore.loadStates, hmap, InMemorySourcePollStore.loadStates]
  simp [Except.map, List.reduceOption, List.filterMap_map]

/-! ### One call -/

theorem recordStarted (hm : Mirrors c calls m db) (t : Tick) {attempt : SourcePollAttempt}
    {policy : SourcePollPolicy} (hc : c.RoundTrips (.recordStarted attempt policy))
    (hmem : .recordStarted attempt policy ∈ calls) :
    (m.recordStarted attempt policy).1 = (ValkeySourcePollStore.recordStarted c db t attempt policy).1 ∧
      Mirrors c calls (m.recordStarted attempt policy).2
        (ValkeySourcePollStore.recordStarted c db t attempt policy).2 := by
  by_cases hbad : attempt.outcome ≠ .inProgress ∨ attempt.source ≠ policy.source
  · rw [InMemorySourcePollStore.recordStarted, if_pos hbad, ValkeySourcePollStore.recordStarted, if_pos hbad]
    exact ⟨rfl, hm⟩
  obtain ⟨hin, hp⟩ : attempt.outcome = .inProgress ∧ attempt.source = policy.source := by
    simpa only [not_or, not_not] using hbad
  -- Both stores compare the start with the one they hold: as datetimes, and as texts.
  have hstart : ∀ st, Kept c calls attempt.source st (db.hgetall (stateKey attempt.source)) →
      ((db.hgetall (stateKey attempt.source)).hget "current_started_at").any
        (fun e => ¬ e < attempt.startedAt.isoformat) =
      decide (attempt.startedAt.instant ≤ st.currentAttempt.startedAt.instant) := by
    intro st hk
    rw [hk.stored.startedAt, Option.any_some]
    exact decide_eq_decide.mpr (isoformat_le_iff attempt.startedAt_isUtc st.currentAttempt.startedAt_isUtc)
  have haccept : (∀ e ∈ m.states.lookup attempt.source, e.source = attempt.source) →
      (∀ e ∈ m.states.lookup attempt.source, e.currentAttempt.startedAt.instant < attempt.startedAt.instant) →
      ((db.hgetall (stateKey attempt.source)).hget "current_started_at").any
        (fun e => ¬ e < attempt.startedAt.isoformat) = false →
      (m.states.lookup attempt.source = none → db.hgetall (stateKey attempt.source) = ∅) →
      (∀ e ∈ m.states.lookup attempt.source, Stored c e (db.hgetall (stateKey attempt.source))) →
      (m.recordStarted attempt policy).1 = (ValkeySourcePollStore.recordStarted c db t attempt policy).1 ∧
      Mirrors c calls (m.recordStarted attempt policy).2
        (ValkeySourcePollStore.recordStarted c db t attempt policy).2 := by
    intro hs ht hany hnone hsome
    obtain ⟨history, n, hmemo⟩ := InMemorySourcePollStore.recordStarted_accepted hin hp hs ht
    rw [hmemo, ValkeySourcePollStore.recordStarted, if_neg hbad, recordStartScript]
    simp only [hany, Bool.false_eq_true, if_false, ValkeySourcePollStore.settle, if_true, true_and]
    have hkept : Kept c calls attempt.source
        ⟨startedState attempt policy (m.states.lookup attempt.source), startedState_valid hin hp hs ht⟩
        ((db.hgetall (stateKey attempt.source)).hset (startFields c attempt policy)) :=
      ⟨rfl, ⟨attempt, policy, hmem, rfl, rfl, rfl⟩, Stored.start hc hin hnone hsome _⟩
    exact hm.update hkept rfl rfl
  rcases hm attempt.source with ⟨h1, h2⟩ | ⟨st, h1, hk⟩
  · have hempty : db.hgetall (stateKey attempt.source) = ∅ := by simp [PollDb.hgetall, h2]
    exact haccept (by simp [h1]) (by simp [h1]) (by simp [hempty]) (fun _ => hempty) (by simp [h1])
  · by_cases hle : attempt.startedAt.instant ≤ st.currentAttempt.startedAt.instant
    · rw [InMemorySourcePollStore.recordStarted, if_neg hbad, ValkeySourcePollStore.recordStarted, if_neg hbad,
        recordStartScript]
      simp only [hstart st hk, h1, hle, Option.any_some, decide_true, if_true, ValkeySourcePollStore.settle,
        Nat.zero_ne_one, if_false, true_and]
      exact hm
    · refine haccept ?_ ?_ ?_ ?_ ?_
      · rintro e he
        obtain rfl : st = e := by simpa [h1] using he
        exact hk.source_eq
      · rintro e he
        obtain rfl : st = e := by simpa [h1] using he
        exact not_le.mp hle
      · rw [hstart st hk, decide_eq_false hle]
      · simp [h1]
      · rintro e he
        obtain rfl : st = e := by simpa [h1] using he
        exact hk.stored

/-- The attempt that a completion closes: the one in progress under its id. -/
def Closes (st : SourcePollState) (attempt : SourcePollAttempt) : Prop :=
  st.currentAttempt.attemptId = attempt.attemptId ∧ st.currentAttempt.outcome = .inProgress

theorem recordCompleted_refused (hm : Mirrors c calls m db) (t : Tick) (attempt : SourcePollAttempt)
    (hno : ∀ st ∈ m.states.lookup attempt.source, ¬ Closes st attempt) :
    ∃ e, m.recordCompleted attempt = (.error e, m) ∧
      ValkeySourcePollStore.recordCompleted c db t attempt = (.error e, db) := by
  by_cases hbad : attempt.outcome = .inProgress ∨ attempt.completedAt = none
  · refine ⟨badCompletion, ?_, ?_⟩
    · rw [InMemorySourcePollStore.recordCompleted, if_pos hbad]
    · rw [ValkeySourcePollStore.recordCompleted, if_pos hbad]
  refine ⟨staleCompletion, ?_, ?_⟩
  · rw [InMemorySourcePollStore.recordCompleted, if_neg hbad]
    cases hst : m.states.lookup attempt.source with
    | none => rfl
    | some st =>
      have h : st.currentAttempt.attemptId ≠ attempt.attemptId ∨ st.currentAttempt.outcome ≠ .inProgress :=
        not_and_or.mp (hno st hst)
      simp only [h, if_true]
  · rw [ValkeySourcePollStore.recordCompleted, if_neg hbad, recordCompletionScript]
    have h : (db.hgetall (stateKey attempt.source)).hget "current_attempt_id" ≠ some attempt.attemptId ∨
        (db.hgetall (stateKey attempt.source)).hget "current_outcome" ≠ some "in_progress" := by
      rcases hm attempt.source with ⟨-, h2⟩ | ⟨st, h1, hk⟩
      · simp [PollDb.hgetall, h2]
      · rw [hk.stored.attemptId, hk.stored.outcome]
        refine (not_and_or.mp (hno st h1)).imp (fun h he => h (Option.some.inj he)) fun h he => h ?_
        have he' : st.currentAttempt.outcome.text = SourcePollOutcome.inProgress.text := Option.some.inj he
        exact outcomeText_injective he'
    simp only [h, if_true, ValkeySourcePollStore.settle, Nat.zero_ne_one, if_false]

theorem recordCompleted_accepted (hm : Mirrors c calls m db) (hd : Disciplined calls) (t : Tick)
    {attempt : SourcePollAttempt} (hc : c.RoundTrips (.recordCompleted attempt))
    (hmem : .recordCompleted attempt ∈ calls) (ho : attempt.outcome ≠ .inProgress) {st : SourcePollState}
    (hst : m.states.lookup attempt.source = some st) (hcl : Closes st attempt) :
    ∃ hv history n, m.recordCompleted attempt =
        (.ok (), ⟨m.states.insert attempt.source ⟨completedState attempt st, hv⟩, history, n⟩) ∧
      (ValkeySourcePollStore.recordCompleted c db t attempt).1 = .ok () ∧
      Mirrors c calls ⟨m.states.insert attempt.source ⟨completedState attempt st, hv⟩, history, n⟩
        (ValkeySourcePollStore.recordCompleted c db t attempt).2 := by
  obtain ⟨hid, hin⟩ := hcl
  obtain ⟨st', hst', hk⟩ : ∃ st', m.states.lookup attempt.source = some st' ∧
      Kept c calls attempt.source st' (db.hgetall (stateKey attempt.source)) := by
    rcases hm attempt.source with ⟨h1, -⟩ | h
    · rw [h1] at hst
      cases hst
    · exact h
  obtain rfl : st' = st := Option.some.inj (hst'.symm.trans hst)
  obtain ⟨start, policy, hstart, hsid, hssrc, hst0⟩ := hk.begun
  obtain ⟨-, htime⟩ := hd start policy attempt hstart hmem (hid.symm.trans hsid.symm)
  have ht : attempt.startedAt = st'.currentAttempt.startedAt := htime.trans hst0
  have hsrc : attempt.source = st'.source := hk.source_eq.symm
  have hv := completedState_valid hsrc ht
  obtain ⟨history, n, hmemo⟩ := InMemorySourcePollStore.recordCompleted_accepted hst ho hsrc hid hin ht
  refine ⟨hv, history, n, hmemo, ?_⟩
  have hbad : ¬ (attempt.outcome = .inProgress ∨ attempt.completedAt = none) := by
    have := attempt.completedAt_isSome ho
    rintro (h | h)
    · exact ho h
    · simp [h] at this
  have hkept : Kept c calls attempt.source ⟨completedState attempt st', hv⟩
      ((db.hgetall (stateKey attempt.source)).hset (completionFields c attempt st')) :=
    { source_eq := rfl
      begun := ⟨start, policy, hstart, hsid.trans hid, hssrc, htime.symm⟩
      stored := Stored.complete hc hk.stored hid hsrc ht hv }
  have hguard : ¬ ((db.hgetall (stateKey attempt.source)).hget "current_attempt_id" ≠ some attempt.attemptId ∨
      (db.hgetall (stateKey attempt.source)).hget "current_outcome" ≠ some "in_progress") := by
    rw [hk.stored.attemptId, hk.stored.outcome, hid, hin]
    simp [SourcePollOutcome.text]
  rw [ValkeySourcePollStore.recordCompleted, if_neg hbad, recordCompletionScript]
  simp only [hguard, if_false]
  by_cases hsucc : attempt.outcome = .succeeded
  · have htext : attempt.outcome.text = "succeeded" := by rw [hsucc]; rfl
    simp only [completionFields, hsucc, if_true] at hkept
    simp only [htext, if_true, ValkeySourcePollStore.settle, true_and]
    exact hm.update hkept rfl rfl
  · have htext : attempt.outcome.text ≠ "succeeded" := fun h => hsucc (outcomeText_injective h)
    have hcount := hk.stored.hincrby [("current_outcome", attempt.outcome.text),
      ("current_attempt_json", c.dumpAttempt attempt)] (by simp)
    simp only [completionFields, hsucc, if_false] at hkept
    simp only [htext, if_false, hcount, ValkeySourcePollStore.settle, if_true, true_and]
    exact hm.update hkept rfl rfl

theorem recordCompleted (hm : Mirrors c calls m db) (hd : Disciplined calls) (t : Tick)
    {attempt : SourcePollAttempt} (hc : c.RoundTrips (.recordCompleted attempt))
    (hmem : .recordCompleted attempt ∈ calls) :
    (m.recordCompleted attempt).1 = (ValkeySourcePollStore.recordCompleted c db t attempt).1 ∧
      Mirrors c calls (m.recordCompleted attempt).2
        (ValkeySourcePollStore.recordCompleted c db t attempt).2 := by
  by_cases hcl : ∃ st, m.states.lookup attempt.source = some st ∧ Closes st attempt
  · obtain ⟨st, hst, hcl⟩ := hcl
    by_cases ho : attempt.outcome = .inProgress
    · have hbad : attempt.outcome = .inProgress ∨ attempt.completedAt = none := Or.inl ho
      rw [InMemorySourcePollStore.recordCompleted, if_pos hbad, ValkeySourcePollStore.recordCompleted, if_pos hbad]
      exact ⟨rfl, hm⟩
    · obtain ⟨hv, history, n, h1, h2, h3⟩ := hm.recordCompleted_accepted hd t hc hmem ho hst hcl
      rw [h1, h2]
      exact ⟨rfl, h3⟩
  · obtain ⟨e, h1, h2⟩ := hm.recordCompleted_refused t attempt fun st hst h => hcl ⟨st, hst, h⟩
    rw [h1, h2]
    exact ⟨rfl, hm⟩

/-- One call is answered alike and keeps the relation. -/
theorem step (hd : Disciplined calls) (m : InMemorySourcePollStore) (db : PollDb) (x : Tick × PollCall)
    (hx : x.2 ∈ calls ∧ c.RoundTrips x.2) (hm : Mirrors c calls m db) :
    (m.step x).1 = (ValkeySourcePollStore.step c db x).1 ∧
      Mirrors c calls (m.step x).2 (ValkeySourcePollStore.step c db x).2 := by
  obtain ⟨t, call⟩ := x
  cases call with
  | recordStarted attempt policy => exact hm.recordStarted t hx.2 hx.1
  | recordCompleted attempt => exact hm.recordCompleted hd t hx.2 hx.1

end Mirrors

/-! ## Agreement -/

open Machine in
/-- **Agreement.** After every call of a disciplined sequence the two stores
have given the same answers and load the same states. -/
theorem stores_agree (c : PollCodec) (calls : List (Tick × PollCall)) (hd : Disciplined (calls.map Prod.snd))
    (hc : ∀ x ∈ calls, c.RoundTrips x.2) (before : List (Tick × PollCall)) (hpre : before <+: calls) :
    answers InMemorySourcePollStore.step .empty before = answers (ValkeySourcePollStore.step c) .empty before ∧
      ∀ sources, ValkeySourcePollStore.loadStates c (run (ValkeySourcePollStore.step c) .empty before) sources =
        .ok ((run InMemorySourcePollStore.step .empty before).loadStates sources) := by
  obtain ⟨hl, hm⟩ := simulates (Mirrors.step (c := c) hd) (Mirrors.empty c _) fun x hx =>
    have hx' := hpre.subset hx
    ⟨List.mem_map_of_mem hx', hc x hx'⟩
  exact ⟨congrArg (List.map Prod.snd) hl, hm.loadStates⟩

/-! ## What the state counts -/

/-- The calls that workers make: a start has an id of its own, and a completion
is built from the start it ends. -/
inductive WorkerCalls : List PollCall → Prop
  | nil : WorkerCalls []
  | start {calls attempt policy} (prior : WorkerCalls calls)
      (fresh : ∀ other p, .recordStarted other p ∈ calls → other.attemptId ≠ attempt.attemptId) :
      WorkerCalls (calls ++ [.recordStarted attempt policy])
  | complete {calls start policy done} (prior : WorkerCalls calls) (begun : .recordStarted start policy ∈ calls)
      (sameId : done.attemptId = start.attemptId) (sameSource : done.source = start.source)
      (sameStart : done.startedAt = start.startedAt) : WorkerCalls (calls ++ [.recordCompleted done])

namespace WorkerCalls

theorem begun_of_completed {calls : List PollCall} (hw : WorkerCalls calls) :
    ∀ done, .recordCompleted done ∈ calls → ∃ start policy, .recordStarted start policy ∈ calls ∧
      done.attemptId = start.attemptId ∧ done.source = start.source ∧ done.startedAt = start.startedAt := by
  induction hw with
  | nil => simp
  | start prior fresh ih =>
    intro done hdone
    obtain ⟨start, policy, hs, h⟩ := ih done (by simpa using hdone)
    exact ⟨start, policy, List.mem_append_left _ hs, h⟩
  | complete prior begun sameId sameSource sameStart ih =>
    intro done hdone
    rcases List.mem_append.mp hdone with h | h
    · obtain ⟨start, policy, hs, h⟩ := ih done h
      exact ⟨start, policy, List.mem_append_left _ hs, h⟩
    · obtain rfl := PollCall.recordCompleted.inj (List.mem_singleton.mp h)
      exact ⟨_, _, List.mem_append_left _ begun, sameId, sameSource, sameStart⟩

theorem start_unique {calls : List PollCall} (hw : WorkerCalls calls) :
    ∀ a p b q, .recordStarted a p ∈ calls → .recordStarted b q ∈ calls → a.attemptId = b.attemptId → a = b := by
  induction hw with
  | nil => simp
  | start prior fresh ih =>
    intro a p b q ha hb hab
    rcases List.mem_append.mp ha with ha' | ha' <;> rcases List.mem_append.mp hb with hb' | hb'
    · exact ih a p b q ha' hb' hab
    · obtain ⟨rfl, -⟩ := PollCall.recordStarted.inj (List.mem_singleton.mp hb')
      exact absurd hab (fresh a p ha')
    · obtain ⟨rfl, -⟩ := PollCall.recordStarted.inj (List.mem_singleton.mp ha')
      exact absurd hab.symm (fresh b q hb')
    · obtain ⟨rfl, -⟩ := PollCall.recordStarted.inj (List.mem_singleton.mp ha')
      obtain ⟨rfl, -⟩ := PollCall.recordStarted.inj (List.mem_singleton.mp hb')
      rfl
  | complete prior begun sameId sameSource sameStart ih =>
    intro a p b q ha hb hab
    exact ih a p b q (by simpa using ha) (by simpa using hb) hab

theorem disciplined {calls : List PollCall} (hw : WorkerCalls calls) : Disciplined calls := by
  intro start policy done hstart hdone hid
  obtain ⟨start', policy', hs, hid', hsrc, ht⟩ := hw.begun_of_completed done hdone
  obtain rfl := hw.start_unique _ _ _ _ hstart hs (hid.symm.trans hid')
  exact ⟨hsrc, ht⟩

end WorkerCalls

/-- The calls of a run with the answers of the store. -/
abbrev PollLog := List ((Tick × PollCall) × Except PollError Unit)

/-- The completion of a source that a log entry accepted. -/
def acceptedCompletion (source : SourceName) : (Tick × PollCall) × Except PollError Unit → Option SourcePollAttempt
  | ((_, .recordCompleted attempt), .ok ()) => if attempt.source = source then some attempt else none
  | _ => none

/-- The accepted completions of a source, oldest first. -/
def acceptedCompletions (source : SourceName) (log : PollLog) : List SourcePollAttempt :=
  log.filterMap (acceptedCompletion source)

/-- The failed completions since the last success. -/
def failuresSinceSuccess (completions : List SourcePollAttempt) : Nat :=
  (completions.reverse.takeWhile fun a => a.outcome ≠ .succeeded).countP fun a => a.outcome = .failed

def latestSuccess (completions : List SourcePollAttempt) : Option SourcePollAttempt :=
  completions.reverse.find? fun a => a.outcome = .succeeded

theorem failuresSinceSuccess_snoc (l : List SourcePollAttempt) {a : SourcePollAttempt} (ha : a.outcome ≠ .inProgress) :
    failuresSinceSuccess (l ++ [a]) = if a.outcome = .succeeded then 0 else failuresSinceSuccess l + 1 := by
  cases h : a.outcome with
  | inProgress => exact absurd h ha
  | succeeded => simp [failuresSinceSuccess, h]
  | failed => simp [failuresSinceSuccess, h]

theorem latestSuccess_snoc (l : List SourcePollAttempt) (a : SourcePollAttempt) :
    latestSuccess (l ++ [a]) = if a.outcome = .succeeded then some a else latestSuccess l := by
  by_cases h : a.outcome = .succeeded <;> simp [latestSuccess, h]

/-- The counters of every source follow from the accepted completions. -/
structure Counted (log : PollLog) (m : InMemorySourcePollStore) : Prop where
  absent : ∀ source, m.states.lookup source = none → acceptedCompletions source log = []
  failures : ∀ source, ∀ st ∈ m.states.lookup source,
    st.consecutiveFailures = failuresSinceSuccess (acceptedCompletions source log)
  success : ∀ source, ∀ st ∈ m.states.lookup source,
    st.lastSuccess = latestSuccess (acceptedCompletions source log)

namespace Counted

variable {log : PollLog} {m m' : InMemorySourcePollStore}

theorem empty : Counted [] .empty :=
  ⟨fun _ _ => rfl, fun _ st h => by simp [InMemorySourcePollStore.empty] at h,
    fun _ st h => by simp [InMemorySourcePollStore.empty] at h⟩

/-- The log grows by an entry that accepts no completion. -/
theorem skip (h : Counted log m) {e} (he : ∀ source, acceptedCompletion source e = none) : Counted (log ++ [e]) m := by
  have hl : ∀ source, acceptedCompletions source (log ++ [e]) = acceptedCompletions source log := by
    intro source
    simp [acceptedCompletions, he source]
  exact ⟨by simpa only [hl] using h.absent, by simpa only [hl] using h.failures, by simpa only [hl] using h.success⟩

/-- One source gets a new state, whose counters are right. -/
theorem write (h : Counted log m) {e} {source : SourceName} {st : SourcePollState}
    (hstates : m'.states = m.states.insert source st)
    (hother : ∀ s, s ≠ source → acceptedCompletion s e = none)
    (hf : st.consecutiveFailures = failuresSinceSuccess (acceptedCompletions source (log ++ [e])))
    (hs : st.lastSuccess = latestSuccess (acceptedCompletions source (log ++ [e]))) : Counted (log ++ [e]) m' := by
  have hl : ∀ s, s ≠ source → acceptedCompletions s (log ++ [e]) = acceptedCompletions s log := by
    intro s hs
    simp [acceptedCompletions, hother s hs]
  have hlook : ∀ s, s ≠ source → m'.states.lookup s = m.states.lookup s := fun s hs => by
    rw [hstates, AList.lookup_insert_ne hs]
  have hsame : m'.states.lookup source = some st := by rw [hstates, AList.lookup_insert]
  refine ⟨fun s hn => ?_, fun s st' hst' => ?_, fun s st' hst' => ?_⟩
  all_goals by_cases hsource : s = source
  · subst hsource
    rw [hsame] at hn
    cases hn
  · rw [hl s hsource]
    exact h.absent s (by rwa [hlook s hsource] at hn)
  · subst hsource
    obtain rfl := Option.some.inj (hsame.symm.trans hst')
    exact hf
  · rw [hl s hsource]
    exact h.failures s st' (by rwa [hlook s hsource] at hst')
  · subst hsource
    obtain rfl := Option.some.inj (hsame.symm.trans hst')
    exact hs
  · rw [hl s hsource]
    exact h.success s st' (by rwa [hlook s hsource] at hst')

theorem step {c : PollCodec} {calls : List PollCall} (hd : Disciplined calls) {db : PollDb}
    (hm : Mirrors c calls m db) (h : Counted log m) {x : Tick × PollCall} (hx : x.2 ∈ calls ∧ c.RoundTrips x.2) :
    Counted (log ++ [(x, (m.step x).1)]) (m.step x).2 := by
  obtain ⟨t, call⟩ := x
  cases call with
  | recordStarted attempt policy =>
    have hskip : ∀ source answer,
        acceptedCompletion source ((t, .recordStarted attempt policy), answer) = none := fun _ _ => rfl
    have hs : ∀ e ∈ m.states.lookup attempt.source, e.source = attempt.source := by
      intro e he
      rcases hm attempt.source with ⟨h1, -⟩ | ⟨st, h1, hk⟩
      · simp [h1] at he
      · obtain rfl : st = e := by simpa [h1] using he
        exact hk.source_eq
    rcases InMemorySourcePollStore.recordStarted_cases attempt policy hs with ⟨e, he⟩ | ⟨hv, history, n, hok⟩
    · rw [InMemorySourcePollStore.step, InMemorySourcePollStore.call, he]
      exact h.skip fun source => hskip source _
    · rw [InMemorySourcePollStore.step, InMemorySourcePollStore.call, hok]
      have hl : acceptedCompletions attempt.source (log ++ [((t, .recordStarted attempt policy), .ok ())]) =
          acceptedCompletions attempt.source log := by
        simp [acceptedCompletions, hskip]
      refine h.write rfl (fun s _ => hskip s _) ?_ ?_ <;> rw [hl]
      · show ((m.states.lookup attempt.source).map fun e => e.consecutiveFailures).getD 0 = _
        cases hst : m.states.lookup attempt.source with
        | none => rw [h.absent _ hst]; rfl
        | some st => exact h.failures _ st hst
      · show ((m.states.lookup attempt.source).bind fun e => e.lastSuccess) = _
        cases hst : m.states.lookup attempt.source with
        | none => rw [h.absent _ hst]; rfl
        | some st => exact h.success _ st hst
  | recordCompleted attempt =>
    have hrefused : ∀ e, m.recordCompleted attempt = (.error e, m) →
        Counted (log ++ [((t, .recordCompleted attempt), (m.recordCompleted attempt).1)])
          (m.recordCompleted attempt).2 := by
      intro e he
      rw [he]
      exact h.skip fun _ => rfl
    by_cases hcl : ∃ st, m.states.lookup attempt.source = some st ∧ Mirrors.Closes st attempt
    · obtain ⟨st, hst, hcl⟩ := hcl
      by_cases ho : attempt.outcome = .inProgress
      · exact hrefused badCompletion (by rw [InMemorySourcePollStore.recordCompleted, if_pos (Or.inl ho)])
      · obtain ⟨hv, history, n, hok, -, -⟩ := hm.recordCompleted_accepted hd t hx.2 hx.1 ho hst hcl
        rw [InMemorySourcePollStore.step, InMemorySourcePollStore.call, hok]
        have hl : acceptedCompletions attempt.source (log ++ [((t, .recordCompleted attempt), .ok ())]) =
            acceptedCompletions attempt.source log ++ [attempt] := by
          simp [acceptedCompletions, acceptedCompletion]
        refine h.write rfl (fun s hs => if_neg (Ne.symm hs)) ?_ ?_ <;> rw [hl]
        · rw [failuresSinceSuccess_snoc _ ho, ← h.failures _ st hst]
          rfl
        · rw [latestSuccess_snoc, ← h.success _ st hst]
          rfl
    · obtain ⟨e, he, -⟩ := hm.recordCompleted_refused t attempt fun st hst h => hcl ⟨st, hst, h⟩
      exact hrefused e he

end Counted

open Machine in
/-- **State invariant.** After any calls of any workers every source loads a
state that its validators accept, or none; its counters are those of the
accepted completions; and a completion that is not for the attempt in progress
is refused by both stores, which stay as they are. -/
theorem poll_state_invariant (c : PollCodec) (calls : List (Tick × PollCall))
    (hw : WorkerCalls (calls.map Prod.snd)) (hc : ∀ x ∈ calls, c.RoundTrips x.2) (source : SourceName) :
    let db := run (ValkeySourcePollStore.step c) .empty calls
    let memory := run InMemorySourcePollStore.step .empty calls
    let completions := acceptedCompletions source (log (ValkeySourcePollStore.step c) .empty calls)
    acceptedCompletions source (log InMemorySourcePollStore.step .empty calls) = completions ∧
    ∃ state, ValkeySourcePollStore.loadState c db source = .ok state ∧ memory.states.lookup source = state ∧
      (state = none → completions = []) ∧
      (∀ st ∈ state, st.source = source ∧ st.toStateData.validate = .ok () ∧
        st.consecutiveFailures = failuresSinceSuccess completions ∧ st.lastSuccess = latestSuccess completions) ∧
      ∀ t attempt, attempt.source = source →
        (∀ st ∈ state, ¬ (st.currentAttempt.attemptId = attempt.attemptId ∧
          st.currentAttempt.outcome = .inProgress)) →
        ∃ e, ValkeySourcePollStore.recordCompleted c db t attempt = (.error e, db) ∧
          memory.recordCompleted attempt = (.error e, memory) := by
  have hP : ∀ x ∈ calls, x.2 ∈ calls.map Prod.snd ∧ c.RoundTrips x.2 := fun x hx =>
    ⟨List.mem_map_of_mem hx, hc x hx⟩
  have hd := hw.disciplined
  obtain ⟨hl, hm⟩ := simulates (Mirrors.step (c := c) hd) (Mirrors.empty c _) hP
  have hcount : Counted (log InMemorySourcePollStore.step .empty calls)
      (run InMemorySourcePollStore.step .empty calls) := by
    refine (run_log_inv (I := fun l m => Counted l m ∧ ∃ db, Mirrors c (calls.map Prod.snd) m db)
      ⟨Counted.empty, _, Mirrors.empty c _⟩ ?_ hP).1
    rintro l m x hx ⟨hcm, db, hm⟩
    exact ⟨hcm.step hd hm hx, _, (Mirrors.step hd m db x hx hm).2⟩
  rw [hl] at hcount
  refine ⟨by rw [hl], _, hm.loadState source, rfl, hcount.absent source, ?_, ?_⟩
  · intro st hst
    refine ⟨?_, st.valid, hcount.failures source st hst, hcount.success source st hst⟩
    rcases hm source with ⟨h1, -⟩ | ⟨st', h1, hk⟩
    · rw [h1] at hst
      cases hst
    · rw [h1] at hst
      obtain rfl := Option.some.inj hst
      exact hk.source_eq
  · rintro t attempt rfl hno
    obtain ⟨e, h1, h2⟩ := hm.recordCompleted_refused t attempt hno
    exact ⟨e, h2, h1⟩

/-! ## Two overlapping workers -/

namespace TwoWorkers

/-! The models as pydantic dumps them, read back from a table of the dumps. -/

def quoted (text : String) : String := "\"" ++ text ++ "\""

def jsonObject (fields : List (String × String)) : String :=
  "\x7b" ++ ",".intercalate (fields.map fun f => quoted f.1 ++ ":" ++ f.2) ++ "\x7d"

/-- The text of a UTC datetime, with `Z` in place of its offset. -/
def jsonDatetime (d : Datetime) : String :=
  quoted (String.ofList (d.isoformat.toList.take (d.isoformat.toList.length - 6)) ++ "Z")

def nullable {α : Type} (dump : α → String) (value : Option α) : String := (value.map dump).getD "null"

def dumpAttempt (a : SourcePollAttempt) : String :=
  jsonObject
    [("schema_version", quoted "1.0.0"), ("rule_version", quoted "source-poll-freshness-v1"),
      ("attempt_id", quoted a.attemptId), ("source", quoted a.source.text), ("started_at", jsonDatetime a.startedAt),
      ("completed_at", nullable jsonDatetime a.completedAt), ("outcome", quoted a.outcome.text),
      ("stage", quoted a.stage.text), ("transport_attempts", toString a.transportAttempts),
      ("source_generated_at", nullable jsonDatetime a.sourceGeneratedAt),
      ("timestamp_basis", nullable (fun b => quoted b.text) a.timestampBasis),
      ("fetched_events", nullable toString a.fetchedEvents), ("published_events", nullable toString a.publishedEvents),
      ("deduplicated_events", nullable toString a.deduplicatedEvents),
      ("failure_code", nullable (fun f => quoted f.text) a.failureCode), ("execution_enabled", "false")]

def utc (micros : Nat) (h : micros < maxMicros := by decide) : Datetime := ⟨micros, some 0, h, offsetBound_zero⟩

/-- Noon, on a whole second. -/
def noon : Datetime := utc 63919713600000000

/-- Half a second after noon. -/
def later : Datetime := utc 63919713600500000

def policy : SourcePollPolicy := ⟨.usgs, 60, 300, 900, by decide, by decide, by decide⟩

/-- The fields of an attempt of the first worker. -/
def firstData : AttemptData where
  attemptId := "source-poll-0000000000000000000000000000000a"
  source := .usgs
  startedAt := noon
  completedAt := none
  outcome := .inProgress
  stage := .fetch
  transportAttempts := 0
  sourceGeneratedAt := none
  timestampBasis := none
  fetchedEvents := none
  publishedEvents := none
  deduplicatedEvents := none
  failureCode := none

def first : SourcePollAttempt := ⟨firstData, by decide +kernel⟩

def second : SourcePollAttempt :=
  ⟨{ firstData with attemptId := "source-poll-0000000000000000000000000000000b", startedAt := later }, by decide +kernel⟩

/-- The first worker gives up after the second one has started. -/
def firstFailed : SourcePollAttempt :=
  ⟨{ first.toAttemptData with
      completedAt := some (utc 63919713602000000), outcome := .failed, transportAttempts := 4,
      failureCode := some .transportExhausted }, by decide +kernel⟩

def secondSucceeded : SourcePollAttempt :=
  ⟨{ second.toAttemptData with
      completedAt := some (utc 63919713603250000), outcome := .succeeded, stage := .complete, transportAttempts := 1,
      sourceGeneratedAt := some (utc 63919713540000000), timestampBasis := some .sourceMetadata,
      fetchedEvents := some 2, publishedEvents := some 1, deduplicatedEvents := some 1 }, by decide +kernel⟩

def policyJson : String :=
  jsonObject [("source", quoted "usgs"), ("interval_seconds", "60.0"), ("poll_stale_after_seconds", "300.0"),
    ("source_stale_after_seconds", "900.0")]

def codec : PollCodec where
  dumpPolicy p := if p = policy then policyJson else ""
  validatePolicy text := if text = policyJson then .ok policy else .error "Invalid JSON"
  dumpAttempt := dumpAttempt
  validateAttempt text :=
    match [first, second, firstFailed, secondSucceeded].find? fun a => dumpAttempt a = text with
    | some a => .ok a
    | none => .error "Invalid JSON"

def calls : List (Tick × PollCall) :=
  [(⟨1784116800000, 0⟩, .recordStarted first policy), (⟨1784116800500, 0⟩, .recordStarted second policy),
    (⟨1784116802000, 0⟩, .recordCompleted firstFailed), (⟨1784116803250, 0⟩, .recordCompleted secondSucceeded)]

theorem workerCalls : WorkerCalls (calls.map Prod.snd) := by
  have h1 : WorkerCalls [.recordStarted first policy] := WorkerCalls.start .nil (by simp)
  have h2 : WorkerCalls [.recordStarted first policy, .recordStarted second policy] := by
    refine WorkerCalls.start h1 ?_
    rintro other p h
    obtain ⟨rfl, -⟩ := PollCall.recordStarted.inj (List.mem_singleton.mp h)
    decide
  have h3 : WorkerCalls [.recordStarted first policy, .recordStarted second policy, .recordCompleted firstFailed] :=
    WorkerCalls.complete h2 (List.mem_cons_self) rfl rfl rfl
  exact WorkerCalls.complete h3 (List.mem_cons_of_mem _ List.mem_cons_self) rfl rfl rfl

theorem roundTrips : ∀ x ∈ calls, codec.RoundTrips x.2 := by
  simp only [calls, List.forall_mem_cons, List.not_mem_nil, false_implies, implies_true, and_true,
    PollCodec.RoundTrips]
  decide +kernel

end TwoWorkers

theorem stores_agree_two_workers :
    Machine.answers (ValkeySourcePollStore.step TwoWorkers.codec) .empty TwoWorkers.calls =
      [.ok (), .ok (), .error staleCompletion, .ok ()] := by
  rw [← (stores_agree TwoWorkers.codec TwoWorkers.calls TwoWorkers.workerCalls.disciplined TwoWorkers.roundTrips
    TwoWorkers.calls List.prefix_rfl).1]
  decide

theorem poll_state_invariant_two_workers :
    ∃ st, ValkeySourcePollStore.loadState TwoWorkers.codec
        (Machine.run (ValkeySourcePollStore.step TwoWorkers.codec) .empty TwoWorkers.calls) .usgs = .ok (some st) ∧
      st.consecutiveFailures = 0 ∧ st.lastSuccess = some TwoWorkers.secondSucceeded := by
  obtain ⟨-, state, hload, -, hnone, hst, -⟩ := poll_state_invariant TwoWorkers.codec TwoWorkers.calls
    TwoWorkers.workerCalls TwoWorkers.roundTrips .usgs
  have hdone : acceptedCompletions .usgs (Machine.log (ValkeySourcePollStore.step TwoWorkers.codec) .empty
      TwoWorkers.calls) = [TwoWorkers.secondSucceeded] := by decide
  rw [hdone] at hnone hst
  cases state with
  | none => exact absurd (hnone rfl) (by simp)
  | some st =>
    obtain ⟨-, -, hf, hs⟩ := hst st rfl
    exact ⟨st, hload, hf, hs⟩

end AtlasPulse
