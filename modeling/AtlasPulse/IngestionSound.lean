import AtlasPulse.Ingestion
import AtlasPulse.StoreSound

/-!
# Soundness of attempt closure

A cycle whose start was accepted closes its attempt exactly when its terminal
record passes its own validators (`ingest_once_closes_iff`); a provider
timestamp in another timezone is one of the inputs that leave it in progress.
-/

namespace AtlasPulse

open PyTime

variable {E : Type}

/-- The attempt is the current one of its source. -/
def IsCurrent (store : InMemorySourcePollStore) (attempt : SourcePollAttempt) : Prop :=
  ∃ st, store.states.lookup attempt.source = some st ∧ st.currentAttempt = attempt

/-- The cycle ends with one accepted terminal record of the attempt: succeeded
for a published batch, failed otherwise, and then with the original error. -/
def Closes (svc : IngestionService E) (attempt : SourcePollAttempt) (cycle : Cycle) : Prop :=
  ∃ terminal, cycle.calls = [(.recordStarted attempt svc.policy, .ok ()), (.recordCompleted terminal, .ok ())] ∧
    terminal.attemptId = attempt.attemptId ∧ terminal.source = attempt.source ∧ IsCurrent cycle.store terminal ∧
    match svc.boundary with
    | .ok p => terminal.outcome = .succeeded ∧ cycle.result = .ok (svc.result p)
    | .error failure => terminal.outcome = .failed ∧ cycle.result = .error failure.error

/-- The attempt counts that a record admits. -/
def Countable (transportAttempts : Int) : Prop := 0 ≤ transportAttempts ∧ transportAttempts ≤ 20

/-- What adapter, bus and clock must bring for the terminal record to pass its
validators: a UTC completion not before the start, a UTC provider timestamp,
bounded attempt counts, and one outcome for each event. -/
def Recordable (svc : IngestionService E) (startedAt completedAt : Datetime) : Prop :=
  completedAt.isUtc ∧ startedAt.instant ≤ completedAt.instant ∧
    match svc.source.fetch with
    | .error e => Countable (e.attempts 0)
    | .ok fetched =>
      match svc.snapshotsWrite svc.source.sourceName fetched.fetchedAt fetched.raw svc.source.snapshotExtension with
      | .error e => Countable (e.attempts fetched.transportAttempts)
      | .ok _ =>
        match svc.source.normalize fetched.raw fetched.fetchedAt with
        | .error e => Countable (e.attempts fetched.transportAttempts)
        | .ok batch => batch.generatedAt.isUtc ∧
          match svc.publishMany batch.events with
          | .error e => Countable (e.attempts fetched.transportAttempts)
          | .ok outcomes => fetched.fetchedAt.utcoffset.isSome ∧ 1 ≤ fetched.transportAttempts ∧
              fetched.transportAttempts ≤ 20 ∧ outcomes.length = batch.events.length

/-! ## Terminal records -/

theorem failedAttempt_valid {attempt : SourcePollAttempt} {completedAt : Datetime} {failure : Failure E}
    (hstage : failure.stage ≠ .complete) :
    (IngestionService.failedAttempt attempt completedAt failure).validate = .ok () ↔
      completedAt.isUtc ∧ attempt.startedAt.instant ≤ completedAt.instant ∧
        Countable (failure.error.attempts failure.transportAttempts) ∧
        ∀ batch ∈ failure.batch, batch.generatedAt.isUtc := by
  have hid := ((AttemptData.validate_ok _).mp attempt.valid).1
  have houtcome : (IngestionService.failedAttempt attempt completedAt failure).checkOutcome = .ok () := by
    simp [AttemptData.checkOutcome, IngestionService.failedAttempt, bind_unit_ok, check_eq_ok, hstage,
      AttemptData.counts]
  rw [AttemptData.validate_ok]
  simp only [houtcome, and_true]
  simp [IngestionService.failedAttempt, hid, attempt.startedAt_isUtc, Countable]
  grind

theorem published_add_deduplicated (p : Published E) : p.published + p.deduplicated = p.outcomes.length := by
  have : p.published ≤ p.outcomes.length := List.countP_le_length
  unfold Published.deduplicated
  omega

theorem succeededAttempt_valid {attempt : SourcePollAttempt} {completedAt : Datetime} {p : Published E} :
    (IngestionService.succeededAttempt attempt completedAt p).validate = .ok () ↔
      completedAt.isUtc ∧ attempt.startedAt.instant ≤ completedAt.instant ∧ p.batch.generatedAt.isUtc ∧
        1 ≤ p.fetched.transportAttempts ∧ p.fetched.transportAttempts ≤ 20 ∧
        p.outcomes.length = p.batch.events.length := by
  have hid := ((AttemptData.validate_ok _).mp attempt.valid).1
  have houtcome : (IngestionService.succeededAttempt attempt completedAt p).checkOutcome = .ok () ↔
      1 ≤ p.fetched.transportAttempts ∧ p.outcomes.length = p.batch.events.length := by
    rw [← published_add_deduplicated]
    simp only [AttemptData.checkOutcome, IngestionService.succeededAttempt, bind_unit_ok, check_eq_ok,
      AttemptData.counts]
    simp
    exact and_congr decide_eq_true_iff decide_eq_true_iff
  rw [AttemptData.validate_ok, houtcome]
  simp [IngestionService.succeededAttempt, hid, attempt.startedAt_isUtc]
  grind

/-! ## Closing an attempt -/

/-- A terminal record of the current attempt is accepted and becomes current. -/
theorem recordCompleted_closes {store : InMemorySourcePollStore} {attempt : SourcePollAttempt}
    (terminal : SourcePollAttempt) (hcur : IsCurrent store attempt) (hin : attempt.outcome = .inProgress) (ho : terminal.outcome ≠ .inProgress)
    (hid : terminal.attemptId = attempt.attemptId) (hs : terminal.source = attempt.source)
    (ht : terminal.startedAt = attempt.startedAt) :
    (store.recordCompleted terminal).1 = .ok () ∧ IsCurrent (store.recordCompleted terminal).2 terminal := by
  obtain ⟨st, hst, rfl⟩ := hcur
  obtain ⟨history, n, h⟩ := InMemorySourcePollStore.recordCompleted_accepted (by rw [hs]; exact hst) ho
    (hs.trans st.currentAttempt_source) hid.symm hin ht
  rw [h]
  exact ⟨rfl, _, AList.lookup_insert _, rfl⟩

theorem newSourcePollAttempt_eq {uuid : String} {source : SourceName} {startedAt : Datetime}
    {attempt : SourcePollAttempt} (h : newSourcePollAttempt uuid source startedAt = .ok attempt) :
    attempt.source = source ∧ attempt.startedAt = startedAt ∧ attempt.outcome = .inProgress := by
  unfold newSourcePollAttempt at h
  cases hu : requireUtc startedAt "started_at" with
  | error e => rw [hu] at h; cases h
  | ok v =>
    obtain ⟨rfl, -⟩ := requireUtc_isUtc hu
    rw [hu] at h
    simp only [bind, Except.bind, SourcePollAttempt.make] at h
    cases hc : construct AttemptData.validate _ with
    | error e => rw [hc] at h; cases h
    | ok a =>
      rw [hc] at h
      obtain rfl := Except.ok.inj h
      unfold construct at hc
      split at hc
      · obtain rfl := Except.ok.inj hc
        exact ⟨rfl, rfl, rfl⟩
      · cases hc

section close
variable {svc : IngestionService E} {attempt : SourcePollAttempt} {store : InMemorySourcePollStore}
  {completedAt : Datetime}

theorem boundary_stage {failure : Failure E} (h : svc.boundary = .error failure) : failure.stage ≠ .complete := by
  unfold IngestionService.boundary at h
  repeat' split at h
  all_goals cases h <;> simp

theorem closeFailed_closes_iff {failure : Failure E} (hb : svc.boundary = .error failure)
    (hcur : IsCurrent store attempt) (hin : attempt.outcome = .inProgress) :
    Closes svc attempt (IngestionService.closeFailed attempt completedAt failure
      [(.recordStarted attempt svc.policy, .ok ())] store) ↔
    (IngestionService.failedAttempt attempt completedAt failure).validate = .ok () := by
  unfold IngestionService.closeFailed
  cases hv : (IngestionService.failedAttempt attempt completedAt failure).validate with
  | error e =>
    rw [SourcePollAttempt.make_of_invalid hv]
    simp [Closes]
  | ok u =>
    rw [SourcePollAttempt.make_of_valid hv]
    obtain ⟨h1, h2⟩ := recordCompleted_closes ⟨_, hv⟩ hcur hin (by simp [IngestionService.failedAttempt])
      rfl rfl rfl
    simp only [iff_true]
    refine ⟨⟨_, hv⟩, ?_, rfl, rfl, h2, ?_⟩
    · simp only [h1, List.singleton_append]
    · rw [hb]
      exact ⟨rfl, rfl⟩

theorem closeSucceeded_closes_iff {p : Published E} (hb : svc.boundary = .ok p) (hcur : IsCurrent store attempt)
    (hin : attempt.outcome = .inProgress) :
    Closes svc attempt (svc.closeSucceeded attempt completedAt p [(.recordStarted attempt svc.policy, .ok ())] store) ↔
    p.fetched.fetchedAt.utcoffset.isSome = p.batch.generatedAt.utcoffset.isSome ∧
      (IngestionService.succeededAttempt attempt completedAt p).validate = .ok () := by
  unfold IngestionService.closeSucceeded IngestionService.lag
  split
  · rename_i e he
    split at he
    · cases he
    · rename_i hne
      simp [Closes, hne]
  · rename_i lag hlag
    have hoffset : p.fetched.fetchedAt.utcoffset.isSome = p.batch.generatedAt.utcoffset.isSome := by
      by_contra hne
      rw [if_neg hne] at hlag
      cases hlag
    simp only [hoffset, true_and]
    cases hv : (IngestionService.succeededAttempt attempt completedAt p).validate with
    | error e =>
      rw [SourcePollAttempt.make_of_invalid hv]
      simp [Closes]
    | ok u =>
      rw [SourcePollAttempt.make_of_valid hv]
      obtain ⟨h1, h2⟩ := recordCompleted_closes ⟨_, hv⟩ hcur hin
        (by simp [IngestionService.succeededAttempt]) rfl rfl rfl
      simp only [iff_true, h1]
      refine ⟨⟨_, hv⟩, rfl, rfl, rfl, h2, ?_⟩
      rw [hb]
      exact ⟨rfl, rfl⟩

end close

/-! ## The condition -/

theorem recordable_of_failure {svc : IngestionService E} {failure : Failure E} (hb : svc.boundary = .error failure)
    (startedAt completedAt : Datetime) :
    Recordable svc startedAt completedAt ↔ completedAt.isUtc ∧ startedAt.instant ≤ completedAt.instant ∧
      Countable (failure.error.attempts failure.transportAttempts) ∧
      ∀ batch ∈ failure.batch, batch.generatedAt.isUtc := by
  unfold IngestionService.boundary at hb
  unfold Recordable
  repeat' split at hb
  all_goals cases hb
  all_goals simp_all
  all_goals grind

theorem recordable_of_published {svc : IngestionService E} {p : Published E} (hb : svc.boundary = .ok p)
    (startedAt completedAt : Datetime) :
    Recordable svc startedAt completedAt ↔ completedAt.isUtc ∧ startedAt.instant ≤ completedAt.instant ∧
      p.batch.generatedAt.isUtc ∧ p.fetched.fetchedAt.utcoffset.isSome ∧ 1 ≤ p.fetched.transportAttempts ∧
      p.fetched.transportAttempts ≤ 20 ∧ p.outcomes.length = p.batch.events.length := by
  unfold IngestionService.boundary at hb
  unfold Recordable
  repeat' split at hb
  all_goals cases hb
  simp_all

/-- **Attempt closure.** A cycle whose start was accepted, and whose attempt no
other worker has superseded, closes the attempt if and only if its inputs are
recordable. -/
theorem ingest_once_closes_iff (svc : IngestionService E) (run : Surroundings) (store : InMemorySourcePollStore)
    (attempt : SourcePollAttempt)
    (hnew : newSourcePollAttempt run.uuid svc.source.sourceName run.startedAt = .ok attempt)
    (haccepted : (store.recordStarted attempt svc.policy).1 = .ok ())
    (hcurrent : IsCurrent (Machine.run InMemorySourcePollStore.call (store.recordStarted attempt svc.policy).2
      run.others) attempt) :
    Closes svc attempt (svc.ingestOnce run store) ↔ Recordable svc run.startedAt run.completedAt := by
  obtain ⟨-, hstart, hin⟩ := newSourcePollAttempt_eq hnew
  unfold IngestionService.ingestOnce
  rw [hnew]
  simp only [haccepted]
  cases hb : svc.boundary with
  | error failure =>
    rw [closeFailed_closes_iff hb hcurrent hin, failedAttempt_valid (boundary_stage hb), recordable_of_failure hb, hstart]
  | ok p =>
    rw [closeSucceeded_closes_iff hb hcurrent hin, succeededAttempt_valid, recordable_of_published hb, hstart]
    constructor
    · rintro ⟨h1, h2, h3, h4, h5, h6, h7⟩
      have hg : p.batch.generatedAt.utcoffset = some 0 := by simpa [Datetime.isUtc] using h4
      exact ⟨h2, h3, h4, by rw [h1, hg]; rfl, h5, h6, h7⟩
    · rintro ⟨h2, h3, h4, h1, h5, h6, h7⟩
      have hg : p.batch.generatedAt.utcoffset = some 0 := by simpa [Datetime.isUtc] using h4
      exact ⟨by rw [h1, hg]; rfl, h2, h3, h4, h5, h6, h7⟩

/-! ## A provider timestamp with an offset -/

namespace NwsPoll

def collection (updated : String) : String :=
  "\x7b\"type\":\"FeatureCollection\",\"title\":\"Current watches, warnings, and advisories\",\"updated\":\"" ++ updated ++
    "\",\"features\":[]\x7d"

theorem fetched_inRange : 63919713602000000 < maxMicros := by decide

theorem completed_inRange : 63919713603250000 < maxMicros := by decide

theorem interval_pos : (0 : ℚ) < 60 := by decide

theorem interval_lt_delayed : (60 : ℚ) < 300 := by decide

theorem delayed_lt_stale : (300 : ℚ) < 900 := by decide

section
variable {offset : Int}

theorem generated_inRange (h : -18000000000 ≤ offset ∧ offset ≤ 0) : (63919713540000000 + offset).toNat < maxMicros := by
  simp only [maxMicros, usPerDay]
  omega

theorem offset_inDay (h : -18000000000 ≤ offset ∧ offset ≤ 0) : ∀ o ∈ some offset, -(usPerDay : Int) < o ∧ o < usPerDay := by
  simp only [Option.mem_some_iff, forall_eq', usPerDay]
  omega

end

/-- An NWS collection without alerts, updated at 11:59 UTC and written with the
offset of its publisher. -/
def service (updated digest : String) (offset : Int) (h : -18000000000 ≤ offset ∧ offset ≤ 0) :
    IngestionService Unit where
  source :=
    { sourceName := .nws
      snapshotExtension := "geojson"
      fetch := .ok ⟨(collection updated).toUTF8.toList, TwoWorkers.utc 63919713602000000 fetched_inRange, 1⟩
      normalize := fun _ _ => .ok
        { generatedAt := ⟨(63919713540000000 + offset).toNat, some offset, generated_inRange h, offset_inDay h⟩
          events := []
          timestampBasis := .sourceMetadata } }
  snapshotsWrite := fun _ _ _ _ => .ok ⟨"data/raw/nws/2026/07/15/" ++ digest ++ ".geojson", digest, true⟩
  publishMany := fun _ => .ok []
  policy := ⟨.nws, 60, 300, 900, interval_pos, interval_lt_delayed, delayed_lt_stale⟩
  policy_source := rfl

def utcService : IngestionService Unit :=
  service "2026-07-15T11:59:00+00:00" "548ebc0da07869c776745dfddbee8a2b25cc1c1c3ed6d43cbd0ec837f2bff480" 0 (by decide)

def centralService : IngestionService Unit :=
  service "2026-07-15T06:59:00-05:00" "7f2268c44cde197950d46aa4feb7c29f257340054d16f003bc97f2f23ba36841" (-18000000000) (by decide)

def run : Surroundings where
  uuid := "0000000000000000000000000000000c"
  startedAt := TwoWorkers.noon
  completedAt := TwoWorkers.utc 63919713603250000 completed_inRange
  others := []

def attempt : SourcePollAttempt :=
  ⟨{ TwoWorkers.firstData with attemptId := "source-poll-0000000000000000000000000000000c", source := .nws },
    by decide +kernel⟩

theorem new_eq : newSourcePollAttempt run.uuid .nws run.startedAt = .ok attempt := by decide

theorem started_eq (svc : IngestionService Unit) (h : svc.policy = utcService.policy) :
    (InMemorySourcePollStore.empty.recordStarted attempt svc.policy).1 = .ok () ∧
      IsCurrent (Machine.run InMemorySourcePollStore.call
        (InMemorySourcePollStore.empty.recordStarted attempt svc.policy).2 run.others) attempt := by
  rw [h]
  refine ⟨by decide, ?_⟩
  obtain ⟨st, hst⟩ : ∃ st, (InMemorySourcePollStore.empty.recordStarted attempt utcService.policy).2.states.lookup
      attempt.source = some st := Option.isSome_iff_exists.mp (by decide)
  refine ⟨st, hst, ?_⟩
  have hcur : ((InMemorySourcePollStore.empty.recordStarted attempt utcService.policy).2.states.lookup
      attempt.source).map (fun st => st.currentAttempt) = some attempt := by decide
  rw [hst] at hcur
  exact Option.some.inj hcur

end NwsPoll

theorem ingest_once_closes_iff_utc :
    Closes NwsPoll.utcService NwsPoll.attempt (NwsPoll.utcService.ingestOnce NwsPoll.run .empty) := by
  obtain ⟨haccepted, hcurrent⟩ := NwsPoll.started_eq NwsPoll.utcService rfl
  refine (ingest_once_closes_iff NwsPoll.utcService NwsPoll.run .empty NwsPoll.attempt NwsPoll.new_eq haccepted
    hcurrent).mpr ⟨by decide, by decide, ?_⟩
  exact ⟨by decide, by decide, by decide, by decide, rfl⟩

/-- The collection is published, and its attempt stays in progress. -/
theorem ingest_once_offset_left_in_progress :
    newSourcePollAttempt NwsPoll.run.uuid .nws NwsPoll.run.startedAt = .ok NwsPoll.attempt ∧
    (InMemorySourcePollStore.empty.recordStarted NwsPoll.attempt NwsPoll.centralService.policy).1 = .ok () ∧
    IsCurrent (Machine.run InMemorySourcePollStore.call
      (InMemorySourcePollStore.empty.recordStarted NwsPoll.attempt NwsPoll.centralService.policy).2 NwsPoll.run.others)
      NwsPoll.attempt ∧
    (∃ p, NwsPoll.centralService.boundary = .ok p ∧ p.batch.generatedAt.utcoffset.isSome) ∧
    (NwsPoll.centralService.ingestOnce NwsPoll.run .empty).result =
      .error (.valueError "source_generated_at must use UTC") ∧
    ¬ Closes NwsPoll.centralService NwsPoll.attempt (NwsPoll.centralService.ingestOnce NwsPoll.run .empty) := by
  obtain ⟨haccepted, hcurrent⟩ := NwsPoll.started_eq NwsPoll.centralService rfl
  refine ⟨NwsPoll.new_eq, haccepted, hcurrent, ⟨_, rfl, rfl⟩, by decide, ?_⟩
  rintro ⟨terminal, hcalls, -⟩
  have hlength : (NwsPoll.centralService.ingestOnce NwsPoll.run .empty).calls.length = 1 := by decide
  rw [hcalls] at hlength
  exact absurd hlength (by simp)

end AtlasPulse
