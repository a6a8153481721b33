import AtlasPulse.Projection

/-!
# Retrieval index

`retrieval/postgres.py` and the indexer of `retrieval/service.py`. The text that
is rendered for an event and the embedding provider are parameters: the index
stores what they return. Columns for queries only are left out.
-/

namespace AtlasPulse

section
variable (E V : Type)

/-- One event revision rendered and embedded for atomic indexing. -/
structure IndexedDocument where
  message : StreamMessage E
  text : String
  documentHash : String
  embeddingModel : String
  embedding : V

structure EmbeddingProvider where
  modelName : String
  embedDocuments : List String → Except String (List V)

/-- A row of `retrieval_documents`, by its `source` and `event_id`. -/
structure DocumentRow where
  streamId : String
  position : StreamId
  eventJson : String
  documentText : String
  documentHash : String
  embeddingModel : String
  embedding : V

structure RetrievalDb where
  documents : AList fun _ : String × String => DocumentRow V
  checkpoints : AList fun _ : String => Pointer

/-- The parameters of `_UPSERT_DOCUMENT`. -/
structure RetrievalValues extends ProjectionValues where
  documentText : String
  documentHash : String
  embeddingModel : String
  embedding : V

end

variable {E V : Type} (m : EventModel E)

def RetrievalDb.empty : RetrievalDb V := ⟨∅, ∅⟩

def RetrievalValues.row (v : RetrievalValues V) : DocumentRow V :=
  ⟨v.streamId, v.position, v.eventJson, v.documentText, v.documentHash, v.embeddingModel, v.embedding⟩

/-- The `WHERE` of `_UPSERT_DOCUMENT`: a newer position, or the same one under a
changed embedding contract. -/
def replacesDocument (old new : DocumentRow V) : Bool :=
  old.position < new.position ||
    (old.position = new.position && (old.documentHash, old.embeddingModel) ≠ (new.documentHash, new.embeddingModel))

def retrievalDocumentValues (document : IndexedDocument E V) : Except String (RetrievalValues V) := do
  let values ← projectionValues m document.message
  .ok
    { toProjectionValues := values
      documentText := document.text
      documentHash := document.documentHash
      embeddingModel := document.embeddingModel
      embedding := document.embedding }

/-- The statements of one transaction: `_UPSERT_DOCUMENT` and `_UPSERT_CHECKPOINT`. -/
def indexTx (projectionName : String) (values : List (RetrievalValues V)) (last : Pointer) (db : RetrievalDb V) :
    RetrievalDb V where
  documents := Newest.upsertAll replacesDocument db.documents (values.map fun v => ((v.source, v.eventId), v.row))
  checkpoints := Newest.upsert olderPointer db.checkpoints projectionName last

def index (projectionName : String) (documents : List (IndexedDocument E V)) :
    RetrievalDb V → Except String (RetrievalDb V) :=
  orderedBatch "retrieval batches must contain unique oldest-first stream IDs" (fun document => document.message.streamId)
    (retrievalDocumentValues m) (indexTx projectionName) documents

/-- Auditable outcome of one bounded retrieval-index cycle. -/
structure IndexingCycle where
  projectionName : String
  previousCheckpoint : Option String
  checkpoint : Option String
  indexedDocuments : Nat
  deriving DecidableEq

def indexOnce (renderEventDocument : E → String) (embedder : EmbeddingProvider V) (bus : BusDb) (projectionName : String)
    (batchSize : Nat) (db : RetrievalDb V) : Except String (IndexingCycle × RetrievalDb V) := do
  let previous := (db.checkpoints.lookup projectionName).map Pointer.streamId
  let messages ← ValkeyEventBus.replay m bus previous batchSize
  match messages.getLast? with
  | none => .ok (⟨projectionName, previous, previous, 0⟩, db)
  | some last => do
    let texts := messages.map fun message => renderEventDocument message.event
    let embeddings ← embedder.embedDocuments texts
    if embeddings.length ≠ messages.length then .error "embedding count must match the stream batch"
    else do
      let documents := (messages.zip (texts.zip embeddings)).map fun x =>
        { message := x.1
          text := x.2.1
          documentHash := m.sha256 x.2.1
          embeddingModel := embedder.modelName
          embedding := x.2.2 : IndexedDocument E V }
      let db ← index m projectionName documents db
      .ok (⟨projectionName, previous, some last.streamId, documents.length⟩, db)

end AtlasPulse
