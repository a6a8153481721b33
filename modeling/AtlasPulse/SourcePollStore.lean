import AtlasPulse.SourcePolling
import AtlasPulse.Valkey

/-!
# Source-poll stores

`source_poll_store.py`: the lock-protected in-memory store and the Valkey store
with its two scripts. An operation returns its outcome and the store after it,
so that a rejected call can be seen to leave the store alone.
-/

namespace AtlasPulse

open PyTime

/-- What a store operation raises. -/
inductive PollError
  | valueError (message : String)
  | staleSourcePollTransition (message : String)
  | responseError (message : String)
  deriving DecidableEq

def badStart : PollError := .valueError "poll start must be in progress and match its policy"

def badCompletion : PollError := .valueError "poll completion must contain a terminal attempt"

def staleStart : PollError := .staleSourcePollTransition "source poll start was stale or duplicated"

def staleCompletion : PollError := .staleSourcePollTransition "source poll completion was stale or duplicated"

/-- One call of the store interface. -/
inductive PollCall
  | recordStarted (attempt : SourcePollAttempt) (policy : SourcePollPolicy)
  | recordCompleted (attempt : SourcePollAttempt)
  deriving DecidableEq

/-! ## In memory -/

structure InMemorySourcePollStore where
  states : AList fun _ : SourceName => SourcePollState
  history : List SourcePollTransition
  historySequence : Nat

namespace InMemorySourcePollStore

def empty : InMemorySourcePollStore := ⟨∅, [], 0⟩

/-- `_append_transition`. -/
def appendTransition (s : InMemorySourcePollStore) (transition : SourcePollTransitionKind)
    (attempt : SourcePollAttempt) : Except PollError Unit × InMemorySourcePollStore :=
  let n := s.historySequence + 1
  match SourcePollTransition.make ⟨StreamId.text ⟨0, n⟩, attempt.source, transition, attempt⟩ with
  | .ok t => (.ok (), { s with historySequence := n, history := s.history ++ [t] })
  | .error e => (.error (.valueError e), { s with historySequence := n })

/-- Store a state, then its transition; an invalid state raises before anything is written. -/
def put (s : InMemorySourcePollStore) (state : StateData) (transition : SourcePollTransitionKind) :
    Except PollError Unit × InMemorySourcePollStore :=
  match SourcePollState.make state with
  | .ok st => appendTransition { s with states := s.states.insert state.source st } transition st.currentAttempt
  | .error e => (.error (.valueError e), s)

def recordStarted (s : InMemorySourcePollStore) (attempt : SourcePollAttempt) (policy : SourcePollPolicy) :
    Except PollError Unit × InMemorySourcePollStore :=
  if attempt.outcome ≠ .inProgress ∨ attempt.source ≠ policy.source then (.error badStart, s)
  else
    let existing := s.states.lookup attempt.source
    if existing.any fun e => attempt.startedAt.instant ≤ e.currentAttempt.startedAt.instant then
      (.error staleStart, s)
    else
      s.put
        { source := attempt.source
          policy := policy
          currentAttempt := attempt
          lastSuccess := existing.bind fun e => e.lastSuccess
          consecutiveFailures := (existing.map fun e => e.consecutiveFailures).getD 0 }
        .started

def recordCompleted (s : InMemorySourcePollStore) (attempt : SourcePollAttempt) :
    Except PollError Unit × InMemorySourcePollStore :=
  if attempt.outcome = .inProgress ∨ attempt.completedAt = none then (.error badCompletion, s)
  else
    match s.states.lookup attempt.source with
    | none => (.error staleCompletion, s)
    | some existing =>
      if existing.currentAttempt.attemptId ≠ attempt.attemptId ∨
          existing.currentAttempt.outcome ≠ .inProgress then
        (.error staleCompletion, s)
      else
        let succeeded : Bool := attempt.outcome = .succeeded
        s.put
          { source := attempt.source
            policy := existing.policy
            currentAttempt := attempt
            lastSuccess := if succeeded then some attempt else existing.lastSuccess
            consecutiveFailures := if succeeded then 0 else existing.consecutiveFailures + 1 }
          (if succeeded then .succeeded else .failed)

def loadStates (s : InMemorySourcePollStore) (sources : List SourceName) : List SourcePollState :=
  sources.filterMap fun source => s.states.lookup source

def call (s : InMemorySourcePollStore) : PollCall → Except PollError Unit × InMemorySourcePollStore
  | .recordStarted attempt policy => s.recordStarted attempt policy
  | .recordCompleted attempt => s.recordCompleted attempt

end InMemorySourcePollStore

/-! ## Valkey -/

/-- JSON text of the stored models, as pydantic writes and reads it. -/
structure PollCodec where
  dumpPolicy : SourcePollPolicy → String
  validatePolicy : String → Except String SourcePollPolicy
  dumpAttempt : SourcePollAttempt → String
  validateAttempt : String → Except String SourcePollAttempt

/-- The keys of the store: one hash for each source, and the history stream. -/
structure PollDb where
  hashes : AList fun _ : String => Hash
  history : Stream (List (String × String))

def PollDb.empty : PollDb := ⟨∅, Stream.empty⟩

/-- `HGETALL`: a missing key is an empty hash. -/
def PollDb.hgetall (db : PollDb) (key : String) : Hash := (db.hashes.lookup key).getD ∅

/-- `HINCRBY`, an error on a value that is no integer. -/
def Hash.hincrby (h : Hash) (field : String) (n : Nat) : Except String Hash :=
  match h.hget field with
  | none => .ok (h.hset [(field, String.ofList (Digits.decimal n))])
  | some v =>
    match Digits.parse? v.toList with
    | some m => .ok (h.hset [(field, String.ofList (Digits.decimal (m + n)))])
    | none => .error "ERR hash value is not an integer"

/-- A script's reply, and the database after it. -/
abbrev ScriptResult := Except String (Nat × String) × PollDb

/-- `_RECORD_START`, with `KEYS[1]` and `ARGV[1]` to `ARGV[5]`. -/
def recordStartScript (t : Tick) (key source policyJson attemptId startedAt attemptJson : String) (db : PollDb) :
    ScriptResult :=
  let h := db.hgetall key
  let existingStartedAt := h.hget "current_started_at"
  if existingStartedAt.any fun e => ¬ e < startedAt then (.ok (0, "stale_start"), db)
  else
    (.ok (1, "started"),
      { hashes := db.hashes.insert key (h.hset
          [("source", source), ("policy_json", policyJson), ("current_attempt_id", attemptId),
            ("current_started_at", startedAt), ("current_outcome", "in_progress"),
            ("current_attempt_json", attemptJson)])
        history := (db.history.xadd t [("source", source), ("transition", "started"), ("attempt", attemptJson)]).2 })

/-- `_RECORD_COMPLETION`, with `KEYS[1]`, `ARGV[1]` to `ARGV[3]` and `ARGV[5]`. -/
def recordCompletionScript (t : Tick) (key attemptId outcome attemptJson source : String) (db : PollDb) :
    ScriptResult :=
  let h := db.hgetall key
  if h.hget "current_attempt_id" ≠ some attemptId ∨ h.hget "current_outcome" ≠ some "in_progress" then
    (.ok (0, "stale_completion"), db)
  else
    let h := h.hset [("current_outcome", outcome), ("current_attempt_json", attemptJson)]
    let counted :=
      if outcome = "succeeded" then
        .ok (h.hset [("last_success_json", attemptJson), ("consecutive_failures", "0")])
      else h.hincrby "consecutive_failures" 1
    match counted with
    | .error e => (.error e, { db with hashes := db.hashes.insert key h })
    | .ok h =>
      (.ok (1, outcome),
        { hashes := db.hashes.insert key h
          history := (db.history.xadd t [("source", source), ("transition", outcome), ("attempt", attemptJson)]).2 })

/-- `_state_key`. -/
def stateKey (source : SourceName) : String := "\x7batlas\x7d:source-poll:" ++ source.text

namespace ValkeySourcePollStore

variable (c : PollCodec)

/-- `_script_accepted`, and the exception of a refused transition. -/
def settle (refused : PollError) : ScriptResult → Except PollError Unit × PollDb
  | (.error e, db) => (.error (.responseError e), db)
  | (.ok (accepted, _), db) => if accepted = 1 then (.ok (), db) else (.error refused, db)

def recordStarted (db : PollDb) (t : Tick) (attempt : SourcePollAttempt) (policy : SourcePollPolicy) :
    Except PollError Unit × PollDb :=
  if attempt.outcome ≠ .inProgress ∨ attempt.source ≠ policy.source then (.error badStart, db)
  else
    settle staleStart (recordStartScript t (stateKey attempt.source) attempt.source.text (c.dumpPolicy policy)
      attempt.attemptId attempt.startedAt.isoformat (c.dumpAttempt attempt) db)

def recordCompleted (db : PollDb) (t : Tick) (attempt : SourcePollAttempt) : Except PollError Unit × PollDb :=
  if attempt.outcome = .inProgress ∨ attempt.completedAt = none then (.error badCompletion, db)
  else
    settle staleCompletion (recordCompletionScript t (stateKey attempt.source) attempt.attemptId
      attempt.outcome.text (c.dumpAttempt attempt) attempt.source.text db)

/-- One source of `load_states`. -/
def loadState (db : PollDb) (source : SourceName) : Except String (Option SourcePollState) :=
  let raw := db.hgetall (stateKey source)
  if raw.entries = [] then .ok none
  else
    match raw.hget "source", raw.hget "policy_json", raw.hget "current_attempt_json" with
    | some storedSource, some policyJson, some currentJson =>
      if storedSource ≠ source.text then .error "Valkey source-poll state has the wrong source"
      else do
        let policy ← c.validatePolicy policyJson
        let current ← c.validateAttempt currentJson
        let success ← match raw.hget "last_success_json" with
          | none => .ok none
          | some json => (c.validateAttempt json).map some
        let failures ← match raw.hget "consecutive_failures" with
          | none => .ok 0
          | some text => match Digits.parse? text.toList with
            | some n => .ok n
            | none => .error "invalid literal for int() with base 10"
        (SourcePollState.make ⟨source, policy, current, success, failures⟩).map some
    | _, _, _ => .error "Valkey source-poll state is incomplete"

def loadStates (db : PollDb) (sources : List SourceName) : Except String (List SourcePollState) :=
  (sources.mapM (loadState c db)).map List.reduceOption

def call (db : PollDb) (t : Tick) : PollCall → Except PollError Unit × PollDb
  | .recordStarted attempt policy => recordStarted c db t attempt policy
  | .recordCompleted attempt => recordCompleted c db t attempt

end ValkeySourcePollStore

end AtlasPulse
