import AtlasPulse.Projection
import AtlasPulse.Ranking
import AtlasPulse.SourcePollStore
import AtlasPulse.Lib.Keyset

/-!
# Paged reads

The three cursors: `query_current` of `projections/postgres.py`, the recent
transitions of `source_poll_store.py` and the replay of `streams/`, and over
them the endpoints of `api.py` with their response models.
-/

namespace AtlasPulse

open Keyset PyTime

/-! ## Current signals -/

/-- The columns of a revision that a query reads; a spatial query reads the
footprint, or else the point. -/
structure SignalColumns (G : Type) where
  occurredAt : Datetime
  severityRank : Option Int
  expiresAt : Option Datetime
  point : Option G
  footprint : Option G

/-- A row of `current_signals` joined with its revision. -/
structure SignalRow (G : Type) where
  source : String
  pointer : Pointer
  columns : SignalColumns G
  eventJson : String

structure SignalQuery where
  limit : Nat
  after : Option String
  source : Option SourceName
  minSeverity : Option Int
  occurredAfter : Option Datetime
  occurredBefore : Option Datetime
  bounds : Option {b : GeoBounds // b.validate = .ok ()}
  includeAreaOnly : Bool
  activeOnly : Bool

abbrev SignalPage (E : Type) := Page String (StreamMessage E)

section
variable {E G : Type} (m : EventModel E)

/-- `ST_Intersects` with the envelope of the bounds. -/
def matchesBounds (intersects : G → GeoBounds → Bool) (query : SignalQuery) (columns : SignalColumns G)
    (bounds : GeoBounds) : Bool :=
  match columns.footprint, columns.point with
  | some footprint, _ => intersects footprint bounds
  | none, some point => intersects point bounds
  | none, none => query.includeAreaOnly

/-- The conditions of the statement, the cursor's apart; `now` is
`CURRENT_TIMESTAMP`. -/
def matchesSignal (intersects : G → GeoBounds → Bool) (now : Datetime) (query : SignalQuery) (row : SignalRow G) : Bool :=
  (query.source.all fun source => row.source = source.text) &&
  (query.minSeverity.all fun minimum => row.columns.severityRank.any fun rank => minimum ≤ rank) &&
  (query.occurredAfter.all fun after => after.instant ≤ row.columns.occurredAt.instant) &&
  (query.occurredBefore.all fun before => row.columns.occurredAt.instant ≤ before.instant) &&
  (!query.activeOnly || row.columns.expiresAt.all fun expires => now.instant < expires.instant) &&
  (query.bounds.all fun bounds => matchesBounds intersects query row.columns bounds.1)

/-- `current_signals AS cs JOIN event_revisions AS er`; `columns` are those
of the revision of a stream id. -/
def signalRows (columns : String → SignalColumns G) (db : SignalDb) : List (SignalRow G) :=
  db.current.entries.filterMap fun row =>
    (db.revisions.lookup row.2.streamId).map fun revision => ⟨row.1.1, row.2, columns row.2.streamId, revision.eventJson⟩

/-- `ORDER BY cs.stream_ms DESC, cs.stream_seq DESC` -/
def newestFirst (rows : List (SignalRow G)) : List (SignalRow G) :=
  rows.insertionSort fun a b => b.pointer.position ≤ a.pointer.position

def signalMessage (row : SignalRow G) : Except String (StreamMessage E) :=
  (m.modelValidateJson row.eventJson).map fun event => ⟨row.pointer.streamId, event⟩

/-- The position of an optional cursor. -/
def parseCursor (after : Option String) : Except String (Option StreamId) :=
  match after with
  | none => .ok none
  | some after => (parseStreamId after).map some

def queryCurrent (intersects : G → GeoBounds → Bool) (columns : String → SignalColumns G) (now : Datetime) (db : SignalDb)
    (query : SignalQuery) : Except String (SignalPage E) := do
  let cursor ← parseCursor query.after
  let selected := (signalRows columns db).filter fun row =>
    matchesSignal intersects now query row && cursor.all fun c => row.pointer.position < c
  let rows := (newestFirst selected).take (query.limit + 1)
  let messages ← (rows.take query.limit).mapM (signalMessage m)
  .ok ⟨messages, messages.getLast?.map StreamMessage.streamId, query.limit < rows.length⟩

end

/-! ## Recent transitions -/

/-- `_stream_position`. -/
def streamPosition (value : String) : Except PollError StreamId :=
  match StreamId.parse? value with
  | some position => .ok position
  | none => .error (.valueError "source poll history cursor must be a Valkey stream ID")

def cursorPosition (before : Option String) : Except PollError (Option StreamId) :=
  match before with
  | none => .ok none
  | some before => (streamPosition before).map some

namespace InMemorySourcePollStore

def isVisible (beforePosition : Option StreamId) (transition : SourcePollTransition) : Except PollError Bool :=
  match beforePosition with
  | none => .ok true
  | some before => (streamPosition transition.streamId).map fun position => position < before

/-- The loop over the visible transitions, with what is left of the limit. -/
def takeVisible (beforePosition : Option StreamId) : Nat → List SourcePollTransition → Except PollError (List SourcePollTransition)
  | 0, _ => .ok []
  | _, [] => .ok []
  | limit + 1, transition :: rest => do
    let visible ← isVisible beforePosition transition
    if visible then (takeVisible beforePosition limit rest).map (transition :: ·)
    else takeVisible beforePosition (limit + 1) rest

def loadRecentTransitions (s : InMemorySourcePollStore) (before : Option String) (limit : Nat) :
    Except PollError (List SourcePollTransition) := do
  if limit < 1 then .error (.valueError "source poll history limit must be positive")
  else
    let beforePosition ← cursorPosition before
    takeVisible beforePosition limit s.history.reverse

end InMemorySourcePollStore

def SourceName.all : List SourceName := [.usgs, .nws, .firms, .gdelt]

def SourcePollTransitionKind.all : List SourcePollTransitionKind := [.started, .succeeded, .failed]

namespace ValkeySourcePollStore

variable (c : PollCodec)

/-- A transition of its stream entry, by the strict model. -/
def decodeTransition (entry : StreamId × List (String × String)) : Except PollError SourcePollTransition :=
  let fields := entry.2
  if ¬ (fields.map Prod.fst ⊆ ["source", "transition", "attempt"] ∧
      ["source", "transition", "attempt"] ⊆ fields.map Prod.fst) then
    .error (.valueError "Valkey source-poll history fields are incomplete or extended")
  else
    match fields.lookup "source", fields.lookup "transition", fields.lookup "attempt" with
    | some source, some transition, some attempt =>
      match c.validateAttempt attempt with
      | .error e => .error (.valueError e)
      | .ok attempt =>
        match SourceName.all.find? fun s => s.text = source, SourcePollTransitionKind.all.find? fun k => k.text = transition with
        | some source, some transition =>
          match SourcePollTransition.make ⟨entry.1.text, source, transition, attempt⟩ with
          | .ok t => .ok t
          | .error e => .error (.valueError e)
        | none, _ => .error (.valueError "Input should be 'usgs', 'nws', 'firms' or 'gdelt'")
        | _, none => .error (.valueError "Input should be 'started', 'succeeded' or 'failed'")
    | _, _, _ => .error (.valueError "Valkey source-poll history fields are incomplete or extended")

/-- `load_recent_transitions`: the page of `XREVRANGE` before the cursor. -/
def loadRecentTransitions (db : PollDb) (before : Option String) (limit : Nat) :
    Except PollError (List SourcePollTransition) := do
  if limit < 1 then .error (.valueError "source poll history limit must be positive")
  else
    let maximum ← cursorPosition before
    let entries := (db.history.entries.reverse.filter fun entry => maximum.all (entry.1 < ·)).take limit
    entries.mapM (decodeTransition c)

end ValkeySourcePollStore

structure SourcePollHistoryResponse where
  generatedAt : Datetime
  count : Nat
  items : List SourcePollTransition
  nextCursor : Option String
  hasMore : Bool

/-- The field bounds, then `validate_history`. -/
def SourcePollHistoryResponse.validate (r : SourcePollHistoryResponse) : Except String Unit := do
  check (r.items.length ≤ 100) "Tuple should have at most 100 items after validation"
  check (r.nextCursor.all matchesStreamId) "String should match pattern '^[0-9]+-[0-9]+$'"
  checkUtc (some r.generatedAt) "generated_at"
  check (r.count = r.items.length) "poll history count must match its items"
  check (r.nextCursor = r.items.getLast?.map (·.streamId)) "poll history cursor must identify the oldest returned transition"
  check (!(r.hasMore && r.items.isEmpty)) "empty poll history cannot report another page"
  let positions ← r.items.mapM fun item => parseStreamId item.streamId
  check (positions.dedup.length = positions.length && positions = positions.insertionSort fun a b => b ≤ a)
    "poll history transitions must be unique and newest first"

/-- The bounds of a `limit` parameter. -/
def checkLimit (limit most : Nat) : Except String Unit := do
  check (1 ≤ limit) "Input should be greater than or equal to 1"
  check (limit ≤ most) ("Input should be less than or equal to " ++ String.ofList (Digits.decimal most))

/-- `GET /v1/source-polls`, with what the store loads. Whatever fails behind
the parameters is reported as unavailable. -/
def sourcePollHistory (load : Option String → Nat → Except PollError (List SourcePollTransition)) (clock : Datetime)
    (before : Option String) (limit : Nat) : Except String SourcePollHistoryResponse := do
  check (before.all matchesStreamId) "String should match pattern '^[0-9]+-[0-9]+$'"
  checkLimit limit 100
  match load before (limit + 1) with
  | .error _ => .error "source poll history unavailable"
  | .ok page =>
    let visible := page.take limit
    let response : SourcePollHistoryResponse :=
      { generatedAt := clock
        count := visible.length
        items := visible
        nextCursor := visible.getLast?.map (·.streamId)
        hasMore := limit < page.length }
    match response.validate with
    | .ok () => .ok response
    | .error _ => .error "source poll history unavailable"

def SourcePollHistoryResponse.page (r : SourcePollHistoryResponse) : Page String SourcePollTransition :=
  ⟨r.items, r.nextCursor, r.hasMore⟩

/-! ## Replay -/

section
variable {E : Type}

/-- `replay`; the ids of the bus and the cursors that the endpoint admits are
pairs of numbers. -/
def InMemoryEventBus.replay (bus : InMemoryEventBus E) (after : Option String) (limit : Nat) :
    Except String (List (StreamMessage E)) :=
  match after with
  | none => .ok (bus.messages.take limit)
  | some after => do
    let cursor ← parseStreamId after
    let startIndex := bus.messages.findIdx fun message => (StreamId.parse? message.streamId).any (cursor < ·)
    .ok ((bus.messages.drop startIndex).take limit)

structure ReplayResponse (E : Type) where
  count : Nat
  items : List (StreamMessage E)
  nextCursor : Option String
  hasMore : Bool

/-- `GET /v1/events/replay`, with the replay of the bus. -/
def replayEvents (replay : Option String → Nat → Except String (List (StreamMessage E))) (after : Option String)
    (limit : Nat) : Except String (ReplayResponse E) := do
  checkLimit limit 500
  let page ← replay after (limit + 1)
  let visible := page.take limit
  .ok
    { count := visible.length
      items := visible
      nextCursor := visible.getLast?.map StreamMessage.streamId
      hasMore := limit < page.length }

def ReplayResponse.page (r : ReplayResponse E) : Page String (StreamMessage E) := ⟨r.items, r.nextCursor, r.hasMore⟩

end

end AtlasPulse
