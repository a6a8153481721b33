import AtlasPulse.Lib.Dict
import AtlasPulse.OperationalEvidence

/-!
# Source freshness

`evaluate_source_freshness` of `source_polling.py` with the models of its
response: what a poll state says, at one time, of the heartbeat of a source and
of the age of its data.
-/

namespace AtlasPulse

open PyTime Binary64

/-- `tuple(sorted(set(sources)))`. -/
def sortedSources (sources : List SourceName) : List SourceName :=
  sources.dedup.insertionSort fun a b => a.text ≤ b.text

/-! ## Items -/

/-- A freshness item, with the bounds of its policy and the two ages. -/
structure FreshnessItemData extends SourceFreshnessItem where
  intervalSeconds : ℚ
  pollStaleAfterSeconds : ℚ
  sourceStaleAfterSeconds : ℚ
  lastSuccessAgeSeconds : Option Float64
  sourceAgeSeconds : Option Float64
  deriving DecidableEq

/-- All of the fields are there, or none. -/
def presentTogether (absent : List Bool) : Bool := absent.any id = absent.all id

/-- The field bounds, then `validate_freshness`. -/
def FreshnessItemData.validate (d : FreshnessItemData) : Except String Unit := do
  check (0 < d.intervalSeconds && 0 < d.pollStaleAfterSeconds && 0 < d.sourceStaleAfterSeconds)
    "Input should be greater than 0"
  check (d.lastSuccessAgeSeconds.all Float64.isFinite && d.sourceAgeSeconds.all Float64.isFinite)
    "Input should be a finite number"
  check (0 ≤ d.transportAttempts) "Input should be greater than or equal to 0"
  check (d.transportAttempts ≤ 20) "Input should be less than or equal to 20"
  check (presentTogether [d.lastAttemptAt.isNone, d.lastOutcome.isNone, d.lastStage.isNone])
    "last-attempt fields must be present together"
  checkUtc d.lastAttemptAt "last_attempt_at"
  check (presentTogether [d.lastSuccessAt.isNone, d.lastSourceGeneratedAt.isNone, d.lastSuccessAgeSeconds.isNone,
      d.sourceAgeSeconds.isNone, d.timestampBasis.isNone])
    "last-success freshness fields must be present together"
  checkUtc d.lastSuccessAt "last_success_at"
  checkUtc d.lastSourceGeneratedAt "last_source_generated_at"
  check (d.lastFailureCode.isSome = (d.lastOutcome = some .failed : Bool))
    "only a failed latest poll may expose a failure code"
  check (d.passed = (d.pollStatus = .healthy && d.sourceDataStatus = .current : Bool))
    "freshness pass status must match poll and source-data status"

abbrev FreshnessItem := {d : FreshnessItemData // d.validate = .ok ()}

/-! ## Responses -/

structure FreshnessResponseData where
  generatedAt : Datetime
  items : List FreshnessItem
  passed : Bool
  deriving DecidableEq

/-- The ages of an item are those at the generation of the response. -/
def checkAges (generated : Datetime) (item : FreshnessItemData) : Except String Unit :=
  match item.lastSuccessAt with
  | none => .ok ()
  | some successAt =>
    match item.lastSuccessAgeSeconds, item.lastSourceGeneratedAt, item.sourceAgeSeconds with
    | some successAge, some generatedAt, some sourceAge => do
      check (!secondsDiffer successAge (totalSeconds generated successAt))
        "last-success age must match response generation time"
      check (!secondsDiffer sourceAge (totalSeconds generated generatedAt)) "source age must match response generation time"
    | _, _, _ => .error "AssertionError"

/-- The field bounds, then `validate_response`. -/
def FreshnessResponseData.validate (d : FreshnessResponseData) : Except String Unit := do
  check (1 ≤ d.items.length) "Tuple should have at least 1 item after validation"
  check (d.items.length ≤ 4) "Tuple should have at most 4 items after validation"
  checkUtc (some d.generatedAt) "generated_at"
  check (d.items.map (·.val.source) = sortedSources (d.items.map (·.val.source)))
    "source freshness items must be unique and canonically ordered"
  d.items.forM fun item => checkAges d.generatedAt item.val
  check (d.passed = d.items.all (·.val.passed)) "response pass status must match every source"

abbrev SourceFreshnessResponse := {d : FreshnessResponseData // d.validate = .ok ()}

/-! ## Evaluation -/

/-- `age > bound`, for the age of two datetimes. -/
def exceeds (age : Float64) (bound : ℚ) : Bool := age.toRat?.any fun seconds => bound < seconds

def isNegative (age : Float64) : Bool := age.lt (Float64.ofInt 0)

/-- The poll status that the current attempt gives. -/
def attemptStatus (policy : SourcePollPolicy) (state : SourcePollState) (timestamp : Datetime) : SourcePollStatus :=
  let current := state.currentAttempt
  let attemptAge := totalSeconds timestamp current.startedAt
  let completionAge := current.completedAt.map (totalSeconds timestamp)
  if isNegative attemptAge || completionAge.any isNegative then .clockSkew
  else if exceeds attemptAge policy.pollStaleAfterSeconds then .stale
  else if current.outcome = .failed then .degraded
  else if current.outcome = .inProgress && state.lastSuccess.isNone then .starting
  else .healthy

def dataStatus (policy : SourcePollPolicy) (sourceAge : Float64) : SourceDataStatus :=
  if isNegative sourceAge then .futureClockSkew
  else if exceeds sourceAge policy.sourceStaleAfterSeconds then .stale
  else .current

/-- The item of a source that has not been polled yet. -/
def startingItem (policy : SourcePollPolicy) : FreshnessItemData where
  source := policy.source
  pollStatus := .starting
  sourceDataStatus := .notReported
  lastOutcome := none
  lastStage := none
  lastFailureCode := none
  lastAttemptAt := none
  lastSuccessAt := none
  lastSourceGeneratedAt := none
  consecutiveFailures := 0
  transportAttempts := 0
  timestampBasis := none
  passed := false
  intervalSeconds := policy.intervalSeconds
  pollStaleAfterSeconds := policy.pollStaleAfterSeconds
  sourceStaleAfterSeconds := policy.sourceStaleAfterSeconds
  lastSuccessAgeSeconds := none
  sourceAgeSeconds := none

/-- What the last success contributes: its times and basis. -/
structure SuccessTimes where
  successAt : Datetime
  generatedAt : Datetime
  basis : SourceTimestampBasis

/-- The three assertions about a last success. -/
def successTimes (success : SourcePollAttempt) : Except String SuccessTimes :=
  match success.completedAt, success.sourceGeneratedAt, success.timestampBasis with
  | some successAt, some generatedAt, some basis => .ok ⟨successAt, generatedAt, basis⟩
  | _, _, _ => .error "AssertionError"

def stateItem (policy : SourcePollPolicy) (state : SourcePollState) (timestamp : Datetime) (times : Option SuccessTimes) :
    FreshnessItemData :=
  let successAge := times.map fun t => totalSeconds timestamp t.successAt
  let sourceAge := times.map fun t => totalSeconds timestamp t.generatedAt
  let pollStatus := if successAge.any isNegative then .clockSkew else attemptStatus policy state timestamp
  let sourceStatus := match sourceAge with
    | none => .notReported
    | some age => dataStatus policy age
  { source := policy.source
    pollStatus := pollStatus
    sourceDataStatus := sourceStatus
    lastOutcome := some state.currentAttempt.outcome
    lastStage := some state.currentAttempt.stage
    lastFailureCode := state.currentAttempt.failureCode
    lastAttemptAt := some state.currentAttempt.startedAt
    lastSuccessAt := times.map (·.successAt)
    lastSourceGeneratedAt := times.map (·.generatedAt)
    consecutiveFailures := state.consecutiveFailures
    transportAttempts := state.currentAttempt.transportAttempts
    timestampBasis := times.map (·.basis)
    passed := pollStatus = .healthy && sourceStatus = .current
    intervalSeconds := policy.intervalSeconds
    pollStaleAfterSeconds := policy.pollStaleAfterSeconds
    sourceStaleAfterSeconds := policy.sourceStaleAfterSeconds
    lastSuccessAgeSeconds := successAge
    sourceAgeSeconds := sourceAge }

/-- The body of the loop: the item of one policy. -/
def evaluatePolicy (policy : SourcePollPolicy) (state : Option SourcePollState) (timestamp : Datetime) :
    Except String FreshnessItem :=
  match state with
  | none => construct FreshnessItemData.validate (startingItem policy)
  | some state =>
    if state.policy ≠ policy then .error "stored source poll policy does not match runtime configuration"
    else match state.lastSuccess with
      | none => construct FreshnessItemData.validate (stateItem policy state timestamp none)
      | some success => do
        let times ← successTimes success
        construct FreshnessItemData.validate (stateItem policy state timestamp (some times))

def evaluateSourceFreshness (policies : List SourcePollPolicy) (states : List SourcePollState) (generatedAt : Datetime) :
    Except String SourceFreshnessResponse := do
  let timestamp ← requireUtc generatedAt "generated_at"
  let policySources := policies.map (·.source)
  check (policySources = sortedSources policySources) "source poll policies must be unique and canonically ordered"
  let stateBySource := PyDict.ofItems (states.map fun state => (state.source, state))
  check (stateBySource.length = states.length && (stateBySource.map Prod.fst).all (· ∈ policySources))
    "source poll states must be unique and match configured policies"
  let items ← policies.mapM fun policy => evaluatePolicy policy (PyDict.get stateBySource policy.source) timestamp
  construct FreshnessResponseData.validate ⟨timestamp, items, items.all (·.val.passed)⟩

end AtlasPulse
