import AtlasPulse.EventBus
import AtlasPulse.SourcePollStore
import AtlasPulse.Lib.Machine

/-!
# Ingestion

`IngestionService.ingest_once`, for a service that has a poll store: fetch,
snapshot, normalize, publish, and the poll transitions around them. The adapter,
the snapshot store and the event bus are what they return or raise; between the
start and the completion other workers may call the poll store.
-/

namespace AtlasPulse

open PyTime

/-! ## Contracts -/

inductive SourceFetchErrorKind
  | retryable
  | permanent
  | other
  deriving DecidableEq

/-- `SourceFetchError` and its two subclasses. -/
structure SourceFetchError where
  kind : SourceFetchErrorKind
  message : String
  attemptCount : Int
  /-- source fetch attempt count must be positive -/
  positive : 1 ≤ attemptCount
  deriving DecidableEq

/-- An ordinary exception. -/
inductive Raised
  | sourceFetchError (error : SourceFetchError)
  | pollStore (error : PollError)
  | valueError (message : String)
  | typeError (message : String)
  | other (type message : String)
  deriving DecidableEq

structure FetchedDocument where
  raw : List UInt8
  fetchedAt : Datetime
  transportAttempts : Int
  deriving DecidableEq

structure NormalizedBatch (E : Type) where
  generatedAt : Datetime
  events : List E
  timestampBasis : SourceTimestampBasis

structure SnapshotResult where
  path : String
  sha256 : String
  created : Bool
  deriving DecidableEq

structure SourceAdapter (E : Type) where
  sourceName : SourceName
  snapshotExtension : String
  fetch : Except Raised FetchedDocument
  normalize : List UInt8 → Datetime → Except Raised (NormalizedBatch E)

structure IngestionService (E : Type) where
  source : SourceAdapter E
  /-- `RawSnapshotStore.write` -/
  snapshotsWrite : SourceName → Datetime → List UInt8 → String → Except Raised SnapshotResult
  publishMany : List E → Except Raised (List PublishResult)
  policy : SourcePollPolicy
  /-- source poll policy must match the ingestion source -/
  policy_source : policy.source = source.sourceName

/-- Auditable summary of one poll cycle. -/
structure IngestionResult where
  source : SourceName
  fetchedAt : Datetime
  sourceGeneratedAt : Datetime
  snapshotPath : String
  snapshotSha256 : String
  snapshotCreated : Bool
  fetchedEvents : Nat
  publishedEvents : Nat
  deduplicatedEvents : Nat
  transportAttempts : Int
  timestampBasis : SourceTimestampBasis
  deriving DecidableEq

/-- The attempts that a failure record counts. -/
def Raised.attempts (error : Raised) (transportAttempts : Int) : Int :=
  match error with
  | .sourceFetchError e => e.attemptCount
  | _ => transportAttempts

/-- `_failure_code`. -/
def failureCode (error : Raised) (stage : SourcePollStage) : SourcePollFailureCode :=
  match error with
  | .sourceFetchError ⟨.retryable, _, _, _⟩ => .transportExhausted
  | .sourceFetchError ⟨.permanent, _, _, _⟩ => .sourceRejected
  | _ =>
    match stage with
    | .snapshot => .snapshotWriteFailed
    | .normalize => .sourcePayloadInvalid
    | .publish => .publicationUnavailable
    | _ => .unexpectedFailure

/-! ## One cycle -/

/-- What the handler of a failed cycle sees. -/
structure Failure (E : Type) where
  error : Raised
  stage : SourcePollStage
  transportAttempts : Int
  batch : Option (NormalizedBatch E)

structure Published (E : Type) where
  fetched : FetchedDocument
  snapshot : SnapshotResult
  batch : NormalizedBatch E
  outcomes : List PublishResult

namespace Published

variable {E : Type} (p : Published E)

def published : Nat := p.outcomes.countP fun outcome => !outcome.deduplicated

def deduplicated : Nat := p.outcomes.length - p.published

end Published

/-- What a cycle meets: the clock readings, the identity of its attempt, and
the calls of other workers before its completion. -/
structure Surroundings where
  uuid : String
  startedAt : Datetime
  completedAt : Datetime
  others : List PollCall

/-- A finished cycle: its result, its calls of the poll store with their
answers, and the store it leaves. -/
structure Cycle where
  result : Except Raised IngestionResult
  calls : List (PollCall × Except PollError Unit)
  store : InMemorySourcePollStore

namespace IngestionService

variable {E : Type} (svc : IngestionService E)

/-- The `try` block. -/
def boundary : Except (Failure E) (Published E) :=
  match svc.source.fetch with
  | .error e => .error ⟨e, .fetch, 0, none⟩
  | .ok fetched =>
    match svc.snapshotsWrite svc.source.sourceName fetched.fetchedAt fetched.raw svc.source.snapshotExtension with
    | .error e => .error ⟨e, .snapshot, fetched.transportAttempts, none⟩
    | .ok snapshot =>
      match svc.source.normalize fetched.raw fetched.fetchedAt with
      | .error e => .error ⟨e, .normalize, fetched.transportAttempts, none⟩
      | .ok batch =>
        match svc.publishMany batch.events with
        | .error e => .error ⟨e, .publish, fetched.transportAttempts, some batch⟩
        | .ok outcomes => .ok ⟨fetched, snapshot, batch, outcomes⟩

/-- The terminal record of a failed cycle. -/
def failedAttempt (attempt : SourcePollAttempt) (completedAt : Datetime) (failure : Failure E) : AttemptData where
  attemptId := attempt.attemptId
  source := attempt.source
  startedAt := attempt.startedAt
  completedAt := some completedAt
  outcome := .failed
  stage := failure.stage
  transportAttempts := failure.error.attempts failure.transportAttempts
  sourceGeneratedAt := failure.batch.map fun batch => batch.generatedAt
  timestampBasis := failure.batch.map fun batch => batch.timestampBasis
  fetchedEvents := none
  publishedEvents := none
  deduplicatedEvents := none
  failureCode := some (failureCode failure.error failure.stage)

/-- The terminal record of a published batch. -/
def succeededAttempt (attempt : SourcePollAttempt) (completedAt : Datetime) (p : Published E) : AttemptData where
  attemptId := attempt.attemptId
  source := attempt.source
  startedAt := attempt.startedAt
  completedAt := some completedAt
  outcome := .succeeded
  stage := .complete
  transportAttempts := p.fetched.transportAttempts
  sourceGeneratedAt := some p.batch.generatedAt
  timestampBasis := some p.batch.timestampBasis
  fetchedEvents := some p.batch.events.length
  publishedEvents := some p.published
  deduplicatedEvents := some p.deduplicated
  failureCode := none

def result (p : Published E) : IngestionResult where
  source := svc.source.sourceName
  fetchedAt := p.fetched.fetchedAt
  sourceGeneratedAt := p.batch.generatedAt
  snapshotPath := p.snapshot.path
  snapshotSha256 := p.snapshot.sha256
  snapshotCreated := p.snapshot.created
  fetchedEvents := p.batch.events.length
  publishedEvents := p.published
  deduplicatedEvents := p.deduplicated
  transportAttempts := p.fetched.transportAttempts
  timestampBasis := p.batch.timestampBasis

/-- `max(0.0, (fetched_at - generated_at).total_seconds())`, in microseconds. -/
def lag (fetchedAt generatedAt : Datetime) : Except Raised Int :=
  if fetchedAt.utcoffset.isSome = generatedAt.utcoffset.isSome then
    .ok (max 0 (fetchedAt.instant - generatedAt.instant))
  else .error (.typeError "can't subtract offset-naive and offset-aware datetimes")

/-- The handler of a failed cycle: the record, and the original error again. -/
def closeFailed (attempt : SourcePollAttempt) (completedAt : Datetime) (failure : Failure E)
    (calls : List (PollCall × Except PollError Unit)) (store : InMemorySourcePollStore) : Cycle :=
  match SourcePollAttempt.make (failedAttempt attempt completedAt failure) with
  | .error e => ⟨.error (.valueError e), calls, store⟩
  | .ok failed =>
    let (answer, store) := store.recordCompleted failed
    ⟨.error failure.error, calls ++ [(.recordCompleted failed, answer)], store⟩

/-- What follows a published batch. -/
def closeSucceeded (attempt : SourcePollAttempt) (completedAt : Datetime) (p : Published E)
    (calls : List (PollCall × Except PollError Unit)) (store : InMemorySourcePollStore) : Cycle :=
  match lag p.fetched.fetchedAt p.batch.generatedAt with
  | .error e => ⟨.error e, calls, store⟩
  | .ok _ =>
    match SourcePollAttempt.make (succeededAttempt attempt completedAt p) with
    | .error e => ⟨.error (.valueError e), calls, store⟩
    | .ok succeeded =>
      let (answer, store) := store.recordCompleted succeeded
      let calls := calls ++ [(.recordCompleted succeeded, answer)]
      match answer with
      | .error e => ⟨.error (.pollStore e), calls, store⟩
      | .ok () => ⟨.ok (svc.result p), calls, store⟩

def ingestOnce (run : Surroundings) (store : InMemorySourcePollStore) : Cycle :=
  match newSourcePollAttempt run.uuid svc.source.sourceName run.startedAt with
  | .error e => ⟨.error (.valueError e), [], store⟩
  | .ok attempt =>
    let (answer, store) := store.recordStarted attempt svc.policy
    let calls := [(.recordStarted attempt svc.policy, answer)]
    match answer with
    | .error e => ⟨.error (.pollStore e), calls, store⟩
    | .ok () =>
      let store := Machine.run InMemorySourcePollStore.call store run.others
      match svc.boundary with
      | .error failure => closeFailed attempt run.completedAt failure calls store
      | .ok p => svc.closeSucceeded attempt run.completedAt p calls store

end IngestionService

end AtlasPulse
