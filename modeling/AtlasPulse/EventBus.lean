import AtlasPulse.Lib.Json
import AtlasPulse.Valkey

/-!
# Event bus

The publication side of `streams/`: the content fingerprint, the in-memory bus
and the Valkey bus with its script. The event model of `agent_rag_core` and
SHA-256 are parameters. A running `publish_many` is a value of its own, so that
the commands of several publishers can interleave.
-/

namespace AtlasPulse

open PyJson

/-- What the adapters use of the shared event model. -/
structure EventModel (E : Type) where
  eventId : E → String
  source : E → String
  /-- `model_dump(mode="json", exclude={"ingested_at"})` -/
  modelDump : E → Json
  modelDumpJson : E → String
  modelValidateJson : String → Except String E
  /-- `hashlib.sha256(text.encode()).hexdigest()` -/
  sha256 : String → String

section
variable {E : Type} (m : EventModel E)

/-- The semantic content that the fingerprint covers. -/
def canonicalContent (event : E) : String := dumps true (m.modelDump event)

def eventFingerprint (event : E) : String := m.sha256 (canonicalContent m event)

end

/-- Outcome of one idempotent publication attempt. -/
structure PublishResult where
  streamId : String
  deduplicated : Bool
  deriving DecidableEq, Repr

structure StreamMessage (E : Type) where
  streamId : String
  event : E
  deriving DecidableEq

/-! ## In memory -/

structure InMemoryEventBus (E : Type) where
  messages : List (StreamMessage E)
  dedupe : AList fun _ : String => String

namespace InMemoryEventBus

variable {E : Type} (m : EventModel E)

def empty : InMemoryEventBus E := ⟨[], ∅⟩

def publish (bus : InMemoryEventBus E) (event : E) : PublishResult × InMemoryEventBus E :=
  let fingerprint := eventFingerprint m event
  match bus.dedupe.lookup fingerprint with
  | some existingId => (⟨existingId, true⟩, bus)
  | none =>
    let streamId := StreamId.text ⟨0, bus.messages.length + 1⟩
    (⟨streamId, false⟩, ⟨bus.messages ++ [⟨streamId, event⟩], bus.dedupe.insert fingerprint streamId⟩)

def publishMany (bus : InMemoryEventBus E) : List E → List PublishResult × InMemoryEventBus E
  | [] => ([], bus)
  | event :: events =>
    let (outcome, bus) := publish m bus event
    let (outcomes, bus) := publishMany bus events
    (outcome :: outcomes, bus)

end InMemoryEventBus

/-! ## Valkey -/

/-- The dedupe keys and the event stream; an entry's field is the event text. -/
structure BusDb where
  keys : Keyspace
  stream : Stream String

def BusDb.empty : BusDb := ⟨∅, Stream.empty⟩

/-- `_PUBLISH_ONCE`, with `KEYS[1]`, `ARGV[2]` and `ARGV[3]`. -/
def publishOnceScript (t : Tick) (key event : String) (ttlSeconds : Nat) (db : BusDb) : (Nat × String) × BusDb :=
  match db.keys.get t.now key with
  | some existing => ((0, existing), db)
  | none =>
    let (streamId, stream) := db.stream.xadd t event
    ((1, streamId.text), ⟨db.keys.setEx t.now key streamId.text ttlSeconds, stream⟩)

/-- `_PUBLISH_PIPELINE_SIZE`. -/
def publishPipelineSize : Nat := 500

/-- `_decode_publish_result`. -/
def decodePublishResult (result : Nat × String) : PublishResult := ⟨result.2, result.1 = 0⟩

namespace ValkeyEventBus

variable {E : Type} (m : EventModel E) (ttlSeconds : Nat)

/-- `_dedupe_key`. -/
def dedupeKey (event : E) : String := "\x7batlas\x7d:dedupe:" ++ eventFingerprint m event

/-- One queued command, as the server runs it. -/
def runCommand (t : Tick) (event : E) (db : BusDb) : PublishResult × BusDb :=
  let (result, db) := publishOnceScript t (dedupeKey m event) (m.modelDumpJson event) ttlSeconds db
  (decodePublishResult result, db)

/-- A running `publish_many`: its events, the outcomes of the groups that have
returned, the replies of the group in flight and the commands of it that the
server has yet to run. -/
structure Call (E : Type) where
  events : List E
  outcomes : List PublishResult
  replies : List PublishResult
  queued : List E

/-- The group that starts behind `start` events. -/
def group {α : Type} (events : List α) (start : Nat) : List α := (events.drop start).take publishPipelineSize

def Call.begin (events : List E) : Call E := ⟨events, [], [], group events 0⟩

/-- The server runs the next command of the group. -/
def Call.exec (c : Call E) (t : Tick) (db : BusDb) : Option (Call E × BusDb) :=
  match c.queued with
  | [] => none
  | event :: queued =>
    let (reply, db) := runCommand m ttlSeconds t event db
    some (⟨c.events, c.outcomes, c.replies ++ [reply], queued⟩, db)

/-- `pipeline.execute()` returns: the next group begins. -/
def Call.execute (c : Call E) : Option (Call E) :=
  if c.queued = [] ∧ c.outcomes.length < c.events.length then
    let outcomes := c.outcomes ++ c.replies
    some ⟨c.events, outcomes, [], group c.events outcomes.length⟩
  else none

/-- The outcomes, once no group is left. -/
def Call.returned (c : Call E) : Option (List PublishResult) :=
  if c.events.length ≤ c.outcomes.length then some c.outcomes else none

/-- The commands of one group without interruption. -/
def runGroup : List (Tick × E) → BusDb → List PublishResult × BusDb
  | [], db => ([], db)
  | (t, event) :: commands, db =>
    let (reply, db) := runCommand m ttlSeconds t event db
    let (replies, db) := runGroup commands db
    (reply :: replies, db)

/-- `publish_many` without interruption, each event with the tick of its
command. -/
def publishMany (commands : List (Tick × E)) (db : BusDb) : List PublishResult × BusDb :=
  (List.range' 0 ((commands.length + publishPipelineSize - 1) / publishPipelineSize) publishPipelineSize).foldl
    (fun (outcomes, db) start =>
      let (replies, db) := runGroup m ttlSeconds (group commands start) db
      (outcomes ++ replies, db))
    ([], db)

/-- `_decode_messages`. -/
def decodeMessages (entries : List (StreamId × String)) : Except String (List (StreamMessage E)) :=
  entries.mapM fun entry => (m.modelValidateJson entry.2).map fun event => ⟨entry.1.text, event⟩

/-- `replay`: the page of `XRANGE` behind the cursor, oldest first. -/
def replay (db : BusDb) (after : Option String) (limit : Nat) : Except String (List (StreamMessage E)) :=
  match after with
  | none => decodeMessages m (db.stream.entries.take limit)
  | some cursor =>
    match StreamId.parse? cursor with
    | none => .error "ERR Invalid stream ID specified as stream command argument"
    | some position => decodeMessages m ((db.stream.entries.filter fun entry => position < entry.1).take limit)

end ValkeyEventBus

end AtlasPulse
