import AtlasPulse.Validation
import AtlasPulse.Valkey

/-!
# Rate limits

`rate_limit.py` and the middleware of `api.py`: request budgets in Valkey. The
script runs as one step at one server time. The client key, a keyed hash of the
caller's address, is an argument.
-/

namespace AtlasPulse

structure RateLimitPolicy where
  name : String
  requests : Int
  windowSeconds : Int
  deriving DecidableEq

/-- `RateLimitPolicy.__post_init__`. -/
def RateLimitPolicy.validate (p : RateLimitPolicy) : Except String Unit := do
  check (p.name ≠ "" && p.name.toList.all fun c => c.isLower || c = '-')
    "rate-limit policy names require lowercase ASCII letters or '-'"
  check (1 ≤ p.requests) "rate-limit requests must be positive"
  check (1 ≤ p.windowSeconds) "rate-limit window must be positive"

abbrev ValidPolicy := {p : RateLimitPolicy // p.validate = .ok ()}

structure RateLimitDecision where
  policy : String
  allowed : Bool
  limit : Int
  remaining : Int
  resetAfterSeconds : Int
  deriving DecidableEq

structure ApiRateLimitConfig where
  generalPolicy : ValidPolicy
  expensivePolicy : ValidPolicy
  distinct : generalPolicy.val.name ≠ expensivePolicy.val.name
  bounded : expensivePolicy.val.requests ≤ generalPolicy.val.requests
  sharedWindow : expensivePolicy.val.windowSeconds = generalPolicy.val.windowSeconds

/-- `_EXPENSIVE_API_PATHS`. -/
def expensiveApiPaths : List String :=
  ["/v1/agent-runs/preflight", "/v1/evidence-packs", "/v1/incidents", "/v1/search"]

def ApiRateLimitConfig.policiesForPath (config : ApiRateLimitConfig) (path : String) : List ValidPolicy :=
  if !"/v1/".toList.isPrefixOf path.toList then []
  else if path ∈ expensiveApiPaths then [config.generalPolicy, config.expensivePolicy]
  else [config.generalPolicy]

/-! ## The limiter -/

/-- `_CONSUME_BUDGET`, with `KEYS[1]` and `ARGV[1]`. -/
def consumeBudgetScript (now : Nat) (key : String) (window : Nat) (db : Counters) : (Nat × Int) × Counters :=
  let (count, db) := db.incr now key
  let db := if count = 1 then db.pexpire now key window else db
  let ttl := db.pttl now key
  if ttl < 1 then ((count, window), db.pexpire now key window) else ((count, ttl), db)

/-- `_budget_key`. -/
def budgetKey (clientKey : String) (policy : RateLimitPolicy) : Except String String :=
  if clientKey.length ≠ 64 ∨ !clientKey.toList.all isHex then
    .error "rate-limit client keys must be lowercase SHA-256 digests"
  else .ok ("\x7batlas-rate:" ++ clientKey ++ "\x7d:" ++ policy.name)

/-- `_decision`. -/
def rateLimitDecision (result : Nat × Int) (policy : RateLimitPolicy) : Except String RateLimitDecision :=
  let (count, ttlMilliseconds) := result
  if count < 1 ∨ ttlMilliseconds < 1 then .error "rate-limit script returned values outside the valid range"
  else .ok
    { policy := policy.name
      allowed := count ≤ policy.requests
      limit := policy.requests
      remaining := max (policy.requests - count) 0
      resetAfterSeconds := max 1 ((ttlMilliseconds + 999) / 1000) }

/-- A connection fails before the script has run, or its reply is lost. -/
inductive ConnectionFault
  | unsent
  | lost
  deriving DecidableEq

/-- `ValkeyRateLimiter.consume`: every error is `RateLimiterUnavailable`. -/
def consume (policy : RateLimitPolicy) (now : Nat) (fault : Option ConnectionFault) (clientKey : String)
    (db : Counters) : Option RateLimitDecision × Counters :=
  match budgetKey clientKey policy, fault with
  | .error _, _ => (none, db)
  | .ok _, some .unsent => (none, db)
  | .ok key, some .lost => (none, (consumeBudgetScript now key (policy.windowSeconds * 1000).toNat db).2)
  | .ok key, none =>
    let (result, db) := consumeBudgetScript now key (policy.windowSeconds * 1000).toNat db
    ((rateLimitDecision result policy).toOption, db)

/-! ## The middleware -/

inductive Outcome
  /-- the handler ran; the headers show this decision -/
  | handled (effective : Option RateLimitDecision)
  /-- 429 -/
  | limited (decision : RateLimitDecision)
  /-- 503 -/
  | unavailable
  deriving DecidableEq

/-- A request inside `dispatch`: the policies still to be consumed, the
decisions so far, and the response. -/
structure Dispatch where
  clientKey : String
  policies : List ValidPolicy
  decisions : List RateLimitDecision
  outcome : Option Outcome

def ApiRateLimitConfig.request (config : ApiRateLimitConfig) (path clientKey : String) : Dispatch :=
  ⟨clientKey, config.policiesForPath path, [], none⟩

/-- `min(decisions, key=lambda decision: decision.remaining)`. -/
def leastRemaining (decisions : List RateLimitDecision) : Option RateLimitDecision :=
  @List.argmin _ Int Int.instLinearOrder.toPreorder Int.instLinearOrder.toDecidableLT (·.remaining) decisions

/-- The next await of `dispatch`: one budget, or the handler. -/
def Dispatch.step (r : Dispatch) (now : Nat) (fault : Option ConnectionFault) (db : Counters) : Dispatch × Counters :=
  match r.outcome, r.policies with
  | some _, _ => (r, db)
  | none, [] => ({ r with outcome := some (.handled (leastRemaining r.decisions)) }, db)
  | none, policy :: policies =>
    match consume policy.val now fault r.clientKey db with
    | (none, db) => ({ r with outcome := some .unavailable }, db)
    | (some decision, db) =>
      if decision.allowed then ({ r with policies, decisions := r.decisions ++ [decision] }, db)
      else ({ r with decisions := r.decisions ++ [decision], outcome := some (.limited decision) }, db)

end AtlasPulse
