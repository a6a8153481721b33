import AtlasPulse.EventBus
import AtlasPulse.Lib.Newest

/-!
# Current-signal projection

`projections/postgres.py` and `projections/service.py`: the three upserts of one
transaction and the projector's cycle. A failed transaction leaves the database
as it was, so what its constraints reject is left out; so are the columns that
are extracted for queries only.
-/

namespace AtlasPulse

/-- `parse_stream_id`. -/
def parseStreamId (streamId : String) : Except String StreamId :=
  match StreamId.parse? streamId with
  | some position => .ok position
  | none => .error ("invalid stream id: " ++ streamId)

@[simp] theorem parseStreamId_text (i : StreamId) : parseStreamId i.text = .ok i := by simp [parseStreamId]

/-! ## Tables -/

/-- A row of `event_revisions`, by its `stream_id`. -/
structure Revision where
  position : StreamId
  source : String
  eventId : String
  eventJson : String
  deriving DecidableEq

/-- The stream id of a `current_signals` or `projection_checkpoints` row, with
its numeric columns. -/
structure Pointer where
  streamId : String
  position : StreamId
  deriving DecidableEq

structure SignalDb where
  revisions : AList fun _ : String => Revision
  current : AList fun _ : String × String => Pointer
  checkpoints : AList fun _ : String => Pointer
  deriving DecidableEq

def SignalDb.empty : SignalDb := ⟨∅, ∅, ∅⟩

/-- `WHERE (stream_ms, stream_seq) < (EXCLUDED.stream_ms, EXCLUDED.stream_seq)`. -/
def olderPointer (old new : Pointer) : Bool := old.position < new.position

/-- The parameters of the three statements for one message. -/
structure ProjectionValues where
  streamId : String
  position : StreamId
  source : String
  eventId : String
  eventJson : String

namespace ProjectionValues

variable (v : ProjectionValues)

def pointer : Pointer := ⟨v.streamId, v.position⟩

def revision : Revision := ⟨v.position, v.source, v.eventId, v.eventJson⟩

end ProjectionValues

/-- `sorted(set(positions))`. -/
def sortedSet (positions : List StreamId) : List StreamId := positions.dedup.insertionSort (· ≤ ·)

/-- A transaction that a store runs for a batch of stream ids in order: the
parameters of its items, and the last id for the checkpoint. -/
def orderedBatch {α β D : Type} (refusal : String) (streamId : α → String) (values : α → Except String β)
    (tx : List β → Pointer → D → D) (items : List α) (db : D) : Except String D := do
  let positions ← items.mapM fun item => parseStreamId (streamId item)
  match items.getLast?, positions.getLast? with
  | some item, some position =>
    if positions ≠ sortedSet positions then .error refusal
    else do
      let values ← items.mapM values
      .ok (tx values ⟨streamId item, position⟩ db)
  | _, _ => .ok db

section
variable {E : Type} (m : EventModel E)

def projectionValues (message : StreamMessage E) : Except String ProjectionValues := do
  let position ← parseStreamId message.streamId
  .ok
    { streamId := message.streamId
      position := position
      source := m.source message.event
      eventId := m.eventId message.event
      eventJson := m.modelDumpJson message.event }

/-- The statements of one transaction: `_INSERT_REVISIONS`, `_UPSERT_CURRENT`
and `_UPSERT_CHECKPOINT`. -/
def projectTx (projectionName : String) (values : List ProjectionValues) (last : Pointer) (db : SignalDb) : SignalDb where
  revisions := Newest.upsertAll (fun _ _ => false) db.revisions (values.map fun v => (v.streamId, v.revision))
  current := Newest.upsertAll olderPointer db.current (values.map fun v => ((v.source, v.eventId), v.pointer))
  checkpoints := Newest.upsert olderPointer db.checkpoints projectionName last

def project (projectionName : String) (messages : List (StreamMessage E)) : SignalDb → Except String SignalDb :=
  orderedBatch "projection batches must contain unique oldest-first stream IDs" StreamMessage.streamId
    (projectionValues m) (projectTx projectionName) messages

/-- Auditable outcome of one bounded projection cycle. -/
structure ProjectionCycle where
  projectionName : String
  previousCheckpoint : Option String
  checkpoint : Option String
  projectedEvents : Nat
  deriving DecidableEq

def projectOnce (bus : BusDb) (projectionName : String) (batchSize : Nat) (db : SignalDb) :
    Except String (ProjectionCycle × SignalDb) := do
  let previous := (db.checkpoints.lookup projectionName).map Pointer.streamId
  let messages ← ValkeyEventBus.replay m bus previous batchSize
  match messages.getLast? with
  | none => .ok (⟨projectionName, previous, previous, 0⟩, db)
  | some last => do
    let db ← project m projectionName messages db
    .ok (⟨projectionName, previous, some last.streamId, messages.length⟩, db)

/-- The projector's loop: a failed cycle leaves the database as it was. -/
def projectCycles (bus : BusDb) (projectionName : String) (batchSize : Nat) : Nat → SignalDb → SignalDb
  | 0, db => db
  | cycles + 1, db =>
    match projectOnce m bus projectionName batchSize db with
    | .ok (_, db) => projectCycles bus projectionName batchSize cycles db
    | .error _ => projectCycles bus projectionName batchSize cycles db

/-- The event that `query_current` reads for an identity. -/
def currentSignal (db : SignalDb) (source eventId : String) : Option E := do
  let pointer ← db.current.lookup (source, eventId)
  let revision ← db.revisions.lookup pointer.streamId
  (m.modelValidateJson revision.eventJson).toOption

end

end AtlasPulse
