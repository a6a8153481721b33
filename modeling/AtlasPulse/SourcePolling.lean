import AtlasPulse.Lib.Datetime
import AtlasPulse.Validation

/-!
# Source polling contracts

The strict models of `source_polling.py`: poll policies, attempts, states and
transitions. Each is its data with the proof that its own validators accept
it, so a value of the type is one the constructor returned. The fields that
admit one literal value only are left out.
-/

namespace AtlasPulse

open PyTime

inductive SourceName
  | usgs
  | nws
  | firms
  | gdelt
  deriving DecidableEq, Repr

def SourceName.text : SourceName → String
  | .usgs => "usgs"
  | .nws => "nws"
  | .firms => "firms"
  | .gdelt => "gdelt"

inductive SourceTimestampBasis
  | sourceMetadata
  | latestRecord
  | fetchFallback
  deriving DecidableEq, Repr

def SourceTimestampBasis.text : SourceTimestampBasis → String
  | .sourceMetadata => "source_metadata"
  | .latestRecord => "latest_record"
  | .fetchFallback => "fetch_fallback"

inductive SourcePollOutcome
  | inProgress
  | succeeded
  | failed
  deriving DecidableEq, Repr

def SourcePollOutcome.text : SourcePollOutcome → String
  | .inProgress => "in_progress"
  | .succeeded => "succeeded"
  | .failed => "failed"

inductive SourcePollStage
  | fetch
  | snapshot
  | normalize
  | publish
  | complete
  deriving DecidableEq, Repr

def SourcePollStage.text : SourcePollStage → String
  | .fetch => "fetch"
  | .snapshot => "snapshot"
  | .normalize => "normalize"
  | .publish => "publish"
  | .complete => "complete"

inductive SourcePollFailureCode
  | transportExhausted
  | sourceRejected
  | sourcePayloadInvalid
  | snapshotWriteFailed
  | publicationUnavailable
  | unexpectedFailure
  deriving DecidableEq, Repr

def SourcePollFailureCode.text : SourcePollFailureCode → String
  | .transportExhausted => "transport_exhausted"
  | .sourceRejected => "source_rejected"
  | .sourcePayloadInvalid => "source_payload_invalid"
  | .snapshotWriteFailed => "snapshot_write_failed"
  | .publicationUnavailable => "publication_unavailable"
  | .unexpectedFailure => "unexpected_failure"

inductive SourcePollTransitionKind
  | started
  | succeeded
  | failed
  deriving DecidableEq, Repr

def SourcePollTransitionKind.text : SourcePollTransitionKind → String
  | .started => "started"
  | .succeeded => "succeeded"
  | .failed => "failed"

/-! ## Validation -/

/-- `_require_utc`. -/
def requireUtc (value : Datetime) (field : String) : Except String Datetime :=
  if value.utcoffset = none then .error (field ++ " must be timezone-aware")
  else if value.utcoffset ≠ some 0 then .error (field ++ " must use UTC")
  else .ok value

theorem requireUtc_ok {value : Datetime} (h : value.isUtc) (field : String) : requireUtc value field = .ok value := by
  have h0 : value.utcoffset = some 0 := by simpa [Datetime.isUtc] using h
  simp [requireUtc, h0]

theorem requireUtc_isUtc {value v : Datetime} {field : String} (h : requireUtc value field = .ok v) :
    v = value ∧ value.isUtc := by
  unfold requireUtc at h
  split at h
  · cases h
  · split at h
    · cases h
    · rename_i h0
      exact ⟨(Except.ok.inj h).symm, by simpa [Datetime.isUtc] using h0⟩

def checkUtc (value : Option Datetime) (field : String) : Except String Unit :=
  match value with
  | none => .ok ()
  | some v => (requireUtc v field).map fun _ => ()

/-! ## Policies -/

/-- Expected cadence and age bounds of one source, in seconds. -/
structure SourcePollPolicy where
  source : SourceName
  intervalSeconds : ℚ
  pollStaleAfterSeconds : ℚ
  sourceStaleAfterSeconds : ℚ
  interval_pos : 0 < intervalSeconds
  /-- poll stale threshold must exceed the configured interval -/
  poll_exceeds : intervalSeconds < pollStaleAfterSeconds
  /-- source stale threshold must exceed the configured interval -/
  source_exceeds : intervalSeconds < sourceStaleAfterSeconds
  deriving DecidableEq

/-! ## Attempts -/

def attemptIdPrefix : String := "source-poll-"

/-- The `attempt_id` pattern: the prefix and 32 hexadecimal digits. -/
def matchesAttemptId (id : String) : Bool :=
  id.toList.take 12 = attemptIdPrefix.toList && (id.toList.drop 12).length = 32 && (id.toList.drop 12).all isHex

structure AttemptData where
  attemptId : String
  source : SourceName
  startedAt : Datetime
  completedAt : Option Datetime
  outcome : SourcePollOutcome
  stage : SourcePollStage
  transportAttempts : Int
  sourceGeneratedAt : Option Datetime
  timestampBasis : Option SourceTimestampBasis
  fetchedEvents : Option Nat
  publishedEvents : Option Nat
  deduplicatedEvents : Option Nat
  failureCode : Option SourcePollFailureCode
  deriving DecidableEq

namespace AttemptData

def counts (a : AttemptData) : List (Option Nat) := [a.fetchedEvents, a.publishedEvents, a.deduplicatedEvents]

/-- The checks of each outcome. -/
def checkOutcome (a : AttemptData) : Except String Unit :=
  match a.outcome with
  | .inProgress => do
    check (a.completedAt.isNone && a.failureCode.isNone && a.stage ≠ .complete)
      "in-progress polls cannot contain a completion or failure"
    check (a.counts.all Option.isNone && a.transportAttempts = 0) "new polls cannot contain result counters"
  | .succeeded => do
    check (a.completedAt.isSome && a.stage = .complete && a.failureCode.isNone && a.sourceGeneratedAt.isSome &&
        1 ≤ a.transportAttempts && a.counts.all Option.isSome)
      "successful polls require complete bounded result metadata"
    check (a.publishedEvents.getD 0 + a.deduplicatedEvents.getD 0 = a.fetchedEvents.getD 0)
      "published and deduplicated counts must equal fetched events"
  | .failed => do
    check (a.completedAt.isSome && a.failureCode.isSome && a.stage ≠ .complete)
      "failed polls require a completion, stage, and bounded failure"
    check (!a.counts.any Option.isSome || a.counts.all Option.isSome) "partial result counters must be present together"

/-- The field bounds, then `validate_attempt`. -/
def validate (a : AttemptData) : Except String Unit := do
  check (matchesAttemptId a.attemptId) "String should match pattern '^source-poll-[0-9a-f]\x7b32\x7d$'"
  check (0 ≤ a.transportAttempts) "Input should be greater than or equal to 0"
  check (a.transportAttempts ≤ 20) "Input should be less than or equal to 20"
  checkUtc (some a.startedAt) "started_at"
  checkUtc a.completedAt "completed_at"
  check (a.completedAt.all fun c => a.startedAt.instant ≤ c.instant) "poll completion cannot precede its start"
  check (a.sourceGeneratedAt.isNone = a.timestampBasis.isNone) "source timestamp and basis must be present together"
  checkUtc a.sourceGeneratedAt "source_generated_at"
  a.checkOutcome

end AttemptData

/-- One validated poll attempt. -/
structure SourcePollAttempt extends AttemptData where
  valid : toAttemptData.validate = .ok ()
  deriving DecidableEq

/-- The constructor: the validated model, or the `ValueError` it raises. -/
def SourcePollAttempt.make (a : AttemptData) : Except String SourcePollAttempt :=
  (construct AttemptData.validate a).map fun p => ⟨p.1, p.2⟩

theorem SourcePollAttempt.make_of_valid {a : AttemptData} (h : a.validate = .ok ()) :
    SourcePollAttempt.make a = .ok ⟨a, h⟩ := by
  rw [SourcePollAttempt.make, construct_of_valid h]
  rfl

theorem SourcePollAttempt.make_of_invalid {a : AttemptData} {e : String} (h : a.validate = .error e) :
    SourcePollAttempt.make a = .error e := by
  rw [SourcePollAttempt.make, construct_of_invalid h]
  rfl

theorem checkUtc_ok {value : Option Datetime} {field : String} :
    checkUtc value field = .ok () ↔ ∀ v ∈ value, v.isUtc := by
  cases value with
  | none => simp [checkUtc]
  | some v =>
    by_cases h : v.isUtc
    · simp [checkUtc, requireUtc_ok h, h, Except.map]
    · have : ∃ e, requireUtc v field = .error e := by
        cases hr : requireUtc v field with
        | error e => exact ⟨e, rfl⟩
        | ok w => exact absurd (requireUtc_isUtc hr).2 h
      obtain ⟨e, he⟩ := this
      simp [checkUtc, he, h, Except.map]

/-- What the validators check, as one proposition. -/
theorem AttemptData.validate_ok (a : AttemptData) : a.validate = .ok () ↔
    matchesAttemptId a.attemptId ∧ 0 ≤ a.transportAttempts ∧ a.transportAttempts ≤ 20 ∧ a.startedAt.isUtc ∧
    (∀ c ∈ a.completedAt, c.isUtc ∧ a.startedAt.instant ≤ c.instant) ∧
    a.sourceGeneratedAt.isNone = a.timestampBasis.isNone ∧ (∀ g ∈ a.sourceGeneratedAt, g.isUtc) ∧
    a.checkOutcome = .ok () := by
  unfold AttemptData.validate
  simp only [bind_unit_ok, check_eq_ok, checkUtc_ok, decide_eq_true_eq, Option.all_eq_true, Option.mem_some_iff,
    forall_eq']
  constructor
  · rintro ⟨h1, h2, h3, h4, h5, h6, h7, h8, h9⟩
    exact ⟨h1, h2, h3, h4, fun c hc => ⟨h5 c hc, by simpa using h6 c hc⟩, h7, h8, h9⟩
  · rintro ⟨h1, h2, h3, h4, h5, h7, h8, h9⟩
    exact ⟨h1, h2, h3, h4, fun c hc => (h5 c hc).1, fun c hc => by simpa using (h5 c hc).2, h7, h8, h9⟩

namespace SourcePollAttempt

theorem startedAt_isUtc (a : SourcePollAttempt) : a.startedAt.isUtc :=
  ((AttemptData.validate_ok _).mp a.valid).2.2.2.1

/-- A terminal attempt has its completion. -/
theorem completedAt_isSome (a : SourcePollAttempt) (h : a.outcome ≠ .inProgress) : a.completedAt.isSome := by
  have ho := ((AttemptData.validate_ok _).mp a.valid).2.2.2.2.2.2.2
  unfold AttemptData.checkOutcome at ho
  cases hout : a.outcome with
  | inProgress => exact absurd hout h
  | succeeded =>
    simp only [hout, bind_unit_ok, check_eq_ok, Bool.and_eq_true] at ho
    exact ho.1.1.1.1.1.1
  | failed =>
    simp only [hout, bind_unit_ok, check_eq_ok, Bool.and_eq_true] at ho
    exact ho.1.1.1

end SourcePollAttempt

/-! ## States -/

structure StateData where
  source : SourceName
  policy : SourcePollPolicy
  currentAttempt : SourcePollAttempt
  lastSuccess : Option SourcePollAttempt
  consecutiveFailures : Nat
  deriving DecidableEq

/-- `validate_state`. -/
def StateData.validate (s : StateData) : Except String Unit := do
  check (s.policy.source = s.source && s.currentAttempt.source = s.source)
    "poll state source must match its policy and current attempt"
  check (s.lastSuccess.all fun l => l.source = s.source && l.outcome = .succeeded)
    "last-success state must contain a successful matching poll"
  check (s.lastSuccess.all fun l => l.startedAt.instant ≤ s.currentAttempt.startedAt.instant)
    "last success cannot begin after the current attempt"
  match s.currentAttempt.outcome with
  | .succeeded => do
    check (s.consecutiveFailures = 0) "successful current polls reset consecutive failures"
    check (s.lastSuccess = some s.currentAttempt) "successful current polls must also be the last success"
  | .failed => check (1 ≤ s.consecutiveFailures) "failed current polls require a positive consecutive-failure count"
  | .inProgress => .ok ()

/-- Latest transition and most recent success of one source. -/
structure SourcePollState extends StateData where
  valid : toStateData.validate = .ok ()
  deriving DecidableEq

def SourcePollState.make (s : StateData) : Except String SourcePollState :=
  (construct StateData.validate s).map fun p => ⟨p.1, p.2⟩

theorem SourcePollState.make_of_valid {s : StateData} (h : s.validate = .ok ()) :
    SourcePollState.make s = .ok ⟨s, h⟩ := by
  rw [SourcePollState.make, construct_of_valid h]
  rfl

/-- What `validate_state` checks, as one proposition. -/
theorem StateData.validate_ok (s : StateData) : s.validate = .ok () ↔
    s.policy.source = s.source ∧ s.currentAttempt.source = s.source ∧
    (∀ l ∈ s.lastSuccess, l.source = s.source ∧ l.outcome = .succeeded ∧
      l.startedAt.instant ≤ s.currentAttempt.startedAt.instant) ∧
    (s.currentAttempt.outcome = .succeeded →
      s.consecutiveFailures = 0 ∧ s.lastSuccess = some s.currentAttempt) ∧
    (s.currentAttempt.outcome = .failed → 1 ≤ s.consecutiveFailures) := by
  unfold StateData.validate
  have hsplit : (∀ l ∈ s.lastSuccess, l.source = s.source ∧ l.outcome = .succeeded ∧
      l.startedAt.instant ≤ s.currentAttempt.startedAt.instant) ↔
      (∀ l ∈ s.lastSuccess, l.source = s.source ∧ l.outcome = .succeeded) ∧
        ∀ l ∈ s.lastSuccess, l.startedAt.instant ≤ s.currentAttempt.startedAt.instant :=
    ⟨fun h => ⟨fun l hl => ⟨(h l hl).1, (h l hl).2.1⟩, fun l hl => (h l hl).2.2⟩,
      fun h l hl => ⟨(h.1 l hl).1, (h.1 l hl).2, h.2 l hl⟩⟩
  rw [hsplit]
  simp only [bind_unit_ok, check_eq_ok, Bool.and_eq_true, decide_eq_true_eq, Option.all_eq_true, and_assoc]
  cases s.currentAttempt.outcome <;> simp [bind_unit_ok, check_eq_ok]

/-! ## Transitions -/

def expectedOutcome : SourcePollTransitionKind → SourcePollOutcome
  | .started => .inProgress
  | .succeeded => .succeeded
  | .failed => .failed

/-- `^[0-9]+-[0-9]+$`. -/
def matchesStreamId (id : String) : Bool :=
  let (ms, rest) := id.toList.span Char.isDigit
  ms ≠ [] && match rest with
    | '-' :: seq => seq ≠ [] && seq.all Char.isDigit
    | _ => false

structure TransitionData where
  streamId : String
  source : SourceName
  transition : SourcePollTransitionKind
  attempt : SourcePollAttempt
  deriving DecidableEq

/-- `validate_transition`, after the pattern of the stream id. -/
def TransitionData.validate (t : TransitionData) : Except String Unit := do
  check (matchesStreamId t.streamId) "String should match pattern '^[0-9]+-[0-9]+$'"
  check (t.source = t.attempt.source) "poll transition source must match its attempt"
  check (t.attempt.outcome = expectedOutcome t.transition) "poll transition must match its attempt outcome"

/-- One transition of the bounded poll history. -/
structure SourcePollTransition extends TransitionData where
  valid : toTransitionData.validate = .ok ()
  deriving DecidableEq

def SourcePollTransition.make (t : TransitionData) : Except String SourcePollTransition :=
  (construct TransitionData.validate t).map fun p => ⟨p.1, p.2⟩

theorem SourcePollTransition.make_of_valid {t : TransitionData} (h : t.validate = .ok ()) :
    SourcePollTransition.make t = .ok ⟨t, h⟩ := by
  rw [SourcePollTransition.make, construct_of_valid h]
  rfl

/-- `new_source_poll_attempt`, with the identity that `uuid4` supplied. -/
def newSourcePollAttempt (uuid : String) (source : SourceName) (startedAt : Datetime) :
    Except String SourcePollAttempt := do
  let startedAt ← requireUtc startedAt "started_at"
  SourcePollAttempt.make
    { attemptId := attemptIdPrefix ++ uuid
      source := source
      startedAt := startedAt
      completedAt := none
      outcome := .inProgress
      stage := .fetch
      transportAttempts := 0
      sourceGeneratedAt := none
      timestampBasis := none
      fetchedEvents := none
      publishedEvents := none
      deduplicatedEvents := none
      failureCode := none }

end AtlasPulse
