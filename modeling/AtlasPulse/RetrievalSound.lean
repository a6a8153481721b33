import AtlasPulse.ProjectionSound
import AtlasPulse.Retrieval

/-!
# Soundness of the retrieval index

Indexers are checkpointed consumers of the stream too. An indexed document
stands at the greatest position that was indexed for its identity, whatever the
documents' texts and embeddings are; below a checkpoint, every message is
represented at its own position or a later one.
-/

namespace AtlasPulse

open ValkeyEventBus Newest

variable {E V : Type} {m : EventModel E}

/-! ## One transaction -/

/-- The positioned event of a document. -/
def eventAt (y : StreamId × IndexedDocument E V) : StreamId × E := (y.1, y.2.message.event)

/-- The documents stand under the ids of their positions. -/
def Positioned (l : List (StreamId × IndexedDocument E V)) : Prop := ∀ y ∈ l, y.2.message.streamId = y.1.text

theorem exists_positioned {documents : List (IndexedDocument E V)} {events : List (StreamId × E)}
    (h : documents.map IndexedDocument.message = events.map message) :
    ∃ l : List (StreamId × IndexedDocument E V), l.map Prod.snd = documents ∧ l.map eventAt = events ∧ Positioned l := by
  induction documents generalizing events with
  | nil =>
    obtain rfl := List.map_eq_nil_iff.mp h.symm
    exact ⟨[], rfl, rfl, fun _ hy => by cases hy⟩
  | cons d documents ih =>
    cases events with
    | nil => cases h
    | cons x events =>
      obtain ⟨hd, hrest⟩ := List.cons.inj h
      obtain ⟨l, rfl, rfl, hl⟩ := ih hrest
      refine ⟨(x.1, d) :: l, rfl, ?_, ?_⟩
      · simp [eventAt, hd]
      · intro y hy
        rcases List.mem_cons.mp hy with rfl | hy
        · exact congrArg StreamMessage.streamId hd
        · exact hl y hy

variable (m) in
/-- The stored row of a positioned document. -/
def rowOf (y : StreamId × IndexedDocument E V) : DocumentRow V :=
  ⟨y.1.text, y.1, m.modelDumpJson y.2.message.event, y.2.text, y.2.documentHash, y.2.embeddingModel, y.2.embedding⟩

variable (m) in
/-- The transaction of positioned documents. -/
def indexed (projectionName : String) (l : List (StreamId × IndexedDocument E V)) (last : StreamId) (db : RetrievalDb V) :
    RetrievalDb V where
  documents := upsertAll replacesDocument db.documents (l.map fun y => (identityOf m (eventAt y), rowOf m y))
  checkpoints := upsert olderPointer db.checkpoints projectionName (pointerTo last)

theorem document_guard : Guard (replacesDocument (V := V)) DocumentRow.position := by
  constructor
  · intro a b h
    simp only [replacesDocument, Bool.or_eq_true, Bool.and_eq_true, decide_eq_true_iff] at h
    rcases h with h | ⟨h, -⟩
    · exact le_of_lt h
    · exact le_of_eq h
  · intro a b h
    simp [replacesDocument, h]

/-- An older document is rejected, and so is one of the same contract. -/
theorem replacesDocument_eq_false {old new : DocumentRow V} (hle : new.position ≤ old.position)
    (hsame : new.position = old.position →
      (new.documentHash, new.embeddingModel) = (old.documentHash, old.embeddingModel)) :
    replacesDocument old new = false := by
  by_cases heq : new.position = old.position
  · simp [replacesDocument, heq, hsame heq]
  · have hlt : new.position < old.position := lt_of_le_of_ne hle heq
    simp [replacesDocument, not_lt.mpr hle, Ne.symm heq]

variable (m) in
/-- The parameters of the statement for a positioned document. -/
def documentValues (y : StreamId × IndexedDocument E V) : RetrievalValues V where
  toProjectionValues := valuesOf m (eventAt y)
  documentText := y.2.text
  documentHash := y.2.documentHash
  embeddingModel := y.2.embeddingModel
  embedding := y.2.embedding

theorem index_ok {projectionName : String} {l : List (StreamId × IndexedDocument E V)} (hl : Positioned l)
    {db db' : RetrievalDb V} :
    index m projectionName (l.map Prod.snd) db = .ok db' ↔
      l = [] ∧ db' = db ∨ ∃ last ∈ (l.map Prod.fst).getLast?,
        (l.map Prod.fst).Pairwise (· < ·) ∧ db' = indexed m projectionName l last db := by
  have hval : ∀ y ∈ l, retrievalDocumentValues m y.2 = .ok (documentValues m y) := by
    intro y hy
    simp [retrievalDocumentValues, projectionValues, hl y hy, documentValues, valuesOf, eventAt, bind, Except.bind]
  have hindexed : ∀ last, indexTx projectionName (l.map (documentValues m)) (pointerTo last) db =
      indexed m projectionName l last db := by
    intro last
    rw [indexTx, indexed, List.map_map]
    rfl
  rw [index, orderedBatch_ok Prod.snd Prod.fst (documentValues m) (fun y hy => hl y hy) hval]
  simp only [hindexed]

/-! ## The consumer -/

variable (V m) in
/-- The indexers' database; a commit may embed the page in any way. -/
def retrievalStore : Consumer.Store StreamId String String (RetrievalDb V) where
  checkpoint db projectionName := (db.checkpoints.lookup projectionName).map Pointer.position
  commit projectionName batch db db' :=
    ∃ documents : List (IndexedDocument E V), decodeMessages m batch = .ok (documents.map IndexedDocument.message) ∧
      index m projectionName documents db = .ok db'

theorem index_cases {projectionName : String} {batch : List (StreamId × String)} {db db' : RetrievalDb V}
    (h : (retrievalStore V m).commit projectionName batch db db') :
    ∃ l : List (StreamId × IndexedDocument E V), Decodes m batch (l.map eventAt) ∧
      (l = [] ∧ db' = db ∨ ∃ last ∈ (l.map Prod.fst).getLast?,
        (l.map Prod.fst).Pairwise (· < ·) ∧ db' = indexed m projectionName l last db) := by
  obtain ⟨documents, hd, hi⟩ := h
  obtain ⟨events, hev, heq⟩ := decodeMessages_ok.mp hd
  obtain ⟨l, rfl, rfl, hl⟩ := exists_positioned heq
  exact ⟨l, hev, (index_ok hl).mp hi⟩

/-- The cycle of an indexer commits the page behind its checkpoint. -/
theorem indexOnce_commit {render : E → String} {embedder : EmbeddingProvider V} {bus : BusDb} {projectionName : String}
    {batchSize : Nat} {db db' : RetrievalDb V} {cycle : IndexingCycle}
    (hp : ∀ p ∈ db.checkpoints.lookup projectionName, p.streamId = p.position.text)
    (h : indexOnce m render embedder bus projectionName batchSize db = .ok (cycle, db')) :
    (retrievalStore V m).commit projectionName
      (Consumer.page bus.stream.entries ((retrievalStore V m).checkpoint db projectionName) batchSize) db db' := by
  have hprev : (db.checkpoints.lookup projectionName).map Pointer.streamId =
      ((retrievalStore V m).checkpoint db projectionName).map StreamId.text := by
    rw [retrievalStore, Option.map_map]
    cases hl : db.checkpoints.lookup projectionName with
    | none => rfl
    | some p => exact congrArg some (hp p hl)
  rw [indexOnce, hprev, replay_eq_page] at h
  cases hd : decodeMessages m (Consumer.page bus.stream.entries ((retrievalStore V m).checkpoint db projectionName)
      batchSize) with
  | error e => rw [hd] at h; cases h
  | ok messages =>
    rw [hd] at h
    simp only [bind, Except.bind] at h
    cases hl : messages.getLast? with
    | none =>
      rw [hl] at h
      obtain rfl := List.getLast?_eq_none_iff.mp hl
      obtain ⟨-, rfl⟩ := Prod.mk.inj (Except.ok.inj h)
      exact ⟨[], hd, rfl⟩
    | some last =>
      rw [hl] at h
      cases he : embedder.embedDocuments (messages.map fun message => render message.event) with
      | error e => rw [he] at h; cases h
      | ok embeddings =>
        rw [he] at h
        dsimp only at h
        split at h
        · cases h
        · rename_i hlen
          split at h
          · cases h
          · rename_i db'' hi
            obtain ⟨-, rfl⟩ := Prod.mk.inj (Except.ok.inj h)
            refine ⟨_, ?_, hi⟩
            rw [hd, List.map_map]
            have hzip : messages.length ≤ ((messages.map fun message => render message.event).zip embeddings).length := by
              simp [not_not.mp hlen]
            exact congrArg Except.ok (List.map_fst_zip hzip).symm

/-- A page of documents in order commits. -/
theorem exists_index_commit {l : List (StreamId × IndexedDocument E V)} (hl : Positioned l)
    (hread : ∀ x ∈ l.map eventAt, Readable m x.2) (hs : (l.map Prod.fst).Pairwise (· < ·)) (projectionName : String)
    (db : RetrievalDb V) :
    ∃ db', (retrievalStore V m).commit projectionName ((l.map eventAt).map (entryOf m)) db db' := by
  have hdecode : decodeMessages m ((l.map eventAt).map (entryOf m)) =
      .ok ((l.map Prod.snd).map IndexedDocument.message) := by
    refine decodeMessages_ok.mpr ⟨_, decodes_entryOf hread, ?_⟩
    rw [List.map_map, List.map_map]
    exact List.map_congr_left fun y hy => by simp [message, eventAt, ← hl y hy]
  cases hlast : (l.map Prod.fst).getLast? with
  | none => exact ⟨db, _, hdecode, (index_ok hl).mpr (Or.inl ⟨by simpa using hlast, rfl⟩)⟩
  | some last => exact ⟨_, _, hdecode, (index_ok hl).mpr (Or.inr ⟨last, hlast, hs, rfl⟩)⟩

/-- The message is represented at its own position or a later one. -/
def IsIndexed (m : EventModel E) (db : RetrievalDb V) (x : StreamId × String) : Prop :=
  ∃ e, m.modelValidateJson x.2 = .ok e ∧
    ∃ row ∈ db.documents.lookup (m.source e, m.eventId e), x.1 ≤ row.position

theorem retrieval_lawful : Consumer.Lawful (retrievalStore V m) (IsIndexed m) := by
  refine ⟨?_, ?_, ?_, ?_⟩
  · intro n batch db db' h x hx
    obtain ⟨l, hd, hdb⟩ := index_cases h
    obtain ⟨e, he, hv⟩ := hd.of_left hx
    obtain ⟨y, hy, hye⟩ := List.mem_map.mp he
    obtain ⟨hpos, rfl⟩ := Prod.mk.inj hye
    rcases hdb with ⟨rfl, -⟩ | ⟨last, -, -, rfl⟩
    · cases hy
    · obtain ⟨row, hrow, hle⟩ := le_lookup_of_offered document_guard
        (l.map fun y => (identityOf m (eventAt y), rowOf m y)) (t := db.documents) (List.mem_map_of_mem hy)
      exact ⟨_, hv, row, hrow, hpos ▸ hle⟩
  · intro n batch db db' h x hx
    obtain ⟨l, -, ⟨-, rfl⟩ | ⟨last, -, -, rfl⟩⟩ := index_cases h
    · exact hx
    · obtain ⟨e, hv, row, hrow, hle⟩ := hx
      obtain ⟨row', hrow', hle'⟩ := le_lookup_upsertAll document_guard
        (l.map fun y => (identityOf m (eventAt y), rowOf m y)) hrow
      exact ⟨e, hv, row', hrow', hle.trans hle'⟩
  · intro n batch db db' h n' c hc
    obtain ⟨l, -, ⟨-, rfl⟩ | ⟨last, -, -, rfl⟩⟩ := index_cases h
    · exact ⟨c, hc, le_rfl⟩
    · exact checkpoint_kept n last hc
  · intro n batch db db' h n' c hc
    obtain ⟨l, hd, ⟨-, rfl⟩ | ⟨last, hlast, -, rfl⟩⟩ := index_cases h
    · exact Or.inl ⟨c, hc, le_rfl⟩
    · rcases checkpoint_cases hc with hold | ⟨rfl, rfl⟩
      · exact Or.inl ⟨c, hold, le_rfl⟩
      · obtain ⟨y, hy, rfl⟩ := List.mem_map.mp (List.mem_of_getLast? hlast)
        obtain ⟨x, hx, hxy, -⟩ := hd.of_right (List.mem_map_of_mem hy)
        exact Or.inr ⟨rfl, x, hx, le_of_eq hxy.symm⟩

/-! ## The tables -/

/-- The tables after the commits `l`. -/
structure RetrievalInv (m : EventModel E) (l : List (String × List (StreamId × String))) (db : RetrievalDb V) : Prop where
  documents : ∀ k row, db.documents.lookup k = some row → ∃ x, Committed m l x ∧ identityOf m x = k ∧
    row.streamId = x.1.text ∧ row.position = x.1 ∧ row.eventJson = m.modelDumpJson x.2
  represented : ∀ x, Committed m l x → ∃ row ∈ db.documents.lookup (identityOf m x), x.1 ≤ row.position
  pages : Reached m l db.checkpoints

theorem RetrievalInv.empty : RetrievalInv m [] (.empty : RetrievalDb V) := by
  refine ⟨?_, ?_, ?_⟩
  · intro k row h
    simp [RetrievalDb.empty] at h
  · rintro x ⟨d, hd, -⟩
    cases hd
  · exact ⟨fun d hd => (by cases hd), fun d hd => (by cases hd)⟩

theorem RetrievalInv.commit {l : List (String × List (StreamId × String))} {n : String}
    {batch : List (StreamId × String)} {db db' : RetrievalDb V} (hc : (retrievalStore V m).commit n batch db db')
    (h : RetrievalInv m l db) : RetrievalInv m ((n, batch) :: l) db' := by
  obtain ⟨ys, hd, ⟨rfl, rfl⟩ | ⟨last, hlast, hs, rfl⟩⟩ := index_cases hc
  · have hcom : ∀ x, Committed m ((n, batch) :: l) x ↔ Committed m l x := fun x => by
      rw [committed_cons hd]
      simp
    cases hd
    refine ⟨?_, ?_, h.pages.empty_page n⟩
    · simpa only [hcom] using h.documents
    · simpa only [hcom] using h.represented
  · have hfst : (ys.map eventAt).map Prod.fst = ys.map Prod.fst := by
      rw [List.map_map]
      rfl
    refine ⟨?_, ?_, h.pages.commit hd (hfst ▸ hs) (hfst ▸ hlast)⟩
    · intro k row hrow
      rcases mem_of_lookup_upsertAll _ hrow with hrow | hrow
      · obtain ⟨x, hx, hrest⟩ := h.documents k row hrow
        exact ⟨x, (committed_cons hd).mpr (Or.inl hx), hrest⟩
      · obtain ⟨y, hy, hyrow⟩ := List.mem_map.mp hrow
        obtain ⟨rfl, rfl⟩ := Prod.mk.inj hyrow
        exact ⟨eventAt y, (committed_cons hd).mpr (Or.inr (List.mem_map_of_mem hy)), rfl, rfl, rfl, rfl⟩
    · intro x hx
      rcases (committed_cons hd).mp hx with hx | hx
      · obtain ⟨row, hrow, hle⟩ := h.represented x hx
        obtain ⟨row', hrow', hle'⟩ := le_lookup_upsertAll document_guard
          (ys.map fun y => (identityOf m (eventAt y), rowOf m y)) hrow
        exact ⟨row', hrow', hle.trans hle'⟩
      · obtain ⟨y, hy, rfl⟩ := List.mem_map.mp hx
        exact le_lookup_of_offered document_guard (ys.map fun y => (identityOf m (eventAt y), rowOf m y))
          (List.mem_map_of_mem hy)

theorem position_kept {n : String} {batch : List (StreamId × String)} {db db' : RetrievalDb V} {k : String × String}
    {row : DocumentRow V} (hc : (retrievalStore V m).commit n batch db db') (hrow : db.documents.lookup k = some row) :
    ∃ row' ∈ db'.documents.lookup k, row.position ≤ row'.position := by
  obtain ⟨l, -, ⟨-, rfl⟩ | ⟨last, -, -, rfl⟩⟩ := index_cases hc
  · exact ⟨row, hrow, le_rfl⟩
  · exact le_lookup_upsertAll document_guard _ hrow

/-- Indexing documents that are not newer than the stored ones, nor of another
contract at the same position, leaves the row. -/
theorem lookup_indexed {n : String} {l : List (StreamId × IndexedDocument E V)} {last : StreamId} {db : RetrievalDb V}
    {k : String × String} {row : DocumentRow V} (hrow : db.documents.lookup k = some row)
    (hsame : ∀ y ∈ l, identityOf m (eventAt y) = k → y.1 ≤ row.position ∧
      (y.1 = row.position → (y.2.documentHash, y.2.embeddingModel) = (row.documentHash, row.embeddingModel))) :
    (indexed m n l last db).documents.lookup k = some row := by
  refine lookup_upsertAll_of_rejected hrow fun b hb => ?_
  obtain ⟨y, hy, hyrow⟩ := List.mem_map.mp hb
  obtain ⟨hk, rfl⟩ := Prod.mk.inj hyrow
  obtain ⟨hle, hcontract⟩ := hsame y hy hk
  exact replacesDocument_eq_false hle hcontract

/-- Indexing a committed page again under the stored contracts changes nothing. -/
theorem RetrievalInv.reindex {l : List (String × List (StreamId × String))} {db : RetrievalDb V}
    (h : RetrievalInv m l db) {d : String × List (StreamId × String)} (hdl : d ∈ l)
    {documents : List (IndexedDocument E V)} (hd : decodeMessages m d.2 = .ok (documents.map IndexedDocument.message))
    (hsame : ∀ doc ∈ documents, ∀ row ∈ db.documents.lookup (m.source doc.message.event, m.eventId doc.message.event),
      row.streamId = doc.message.streamId →
        (doc.documentHash, doc.embeddingModel) = (row.documentHash, row.embeddingModel)) :
    index m d.1 documents db = .ok db := by
  obtain ⟨events, hev, heq⟩ := decodeMessages_ok.mp hd
  obtain ⟨ys, rfl, rfl, hpos⟩ := exists_positioned heq
  obtain ⟨events', hev', hs⟩ := h.pages.decoded d hdl
  rw [← hev.unique hev', List.map_map] at hs
  refine (index_ok hpos).mpr ?_
  cases hlast : (ys.map Prod.fst).getLast? with
  | none => exact Or.inl ⟨by simpa using hlast, rfl⟩
  | some last =>
    refine Or.inr ⟨last, rfl, hs, ?_⟩
    have hdocuments : upsertAll replacesDocument db.documents (ys.map fun y => (identityOf m (eventAt y), rowOf m y)) =
        db.documents := by
      refine upsertAll_of_rejected fun row hrow => ?_
      obtain ⟨y, hy, rfl⟩ := List.mem_map.mp hrow
      obtain ⟨x, hx, hxy⟩ := hev.of_right (List.mem_map_of_mem hy)
      obtain ⟨old, hold, hle⟩ := h.represented (eventAt y) ⟨d, hdl, x, hx, hxy⟩
      refine ⟨old, hold, replacesDocument_eq_false hle fun heq => ?_⟩
      obtain ⟨z, -, -, hid, hposition, -⟩ := h.documents _ old hold
      refine hsame y.2 (List.mem_map_of_mem hy) old hold ?_
      rw [hid, hpos y hy, ← hposition, ← heq]
      rfl
    have hcheck := h.pages.upsert_eq hdl hev (by rw [List.map_map]; exact hlast)
    rw [indexed, hdocuments, hcheck]

/-! ## The index -/

/-- **Retrieval index.** For any indexers on one stream, in every committed state:
a document holds the event of the greatest position that was indexed for its
identity; positions never go back; documents that are older, or of the same
position and contract, leave the stored row, and indexing a committed page again
under the stored contracts changes nothing; and every message at or below a
checkpoint has a document at its position or a later one. -/
theorem retrieval_follows {W : Type} [DecidableEq W] (m : EventModel E) (name : W → String)
    (s : Consumer.System StreamId String String (RetrievalDb V) W)
    (h : Consumer.Reachable (retrievalStore V m) name .empty s) :
    (∀ k, ∀ row ∈ s.db.documents.lookup k, ∃ x, Committed m s.committed x ∧ identityOf m x = k ∧
      row.streamId = x.1.text ∧ row.position = x.1 ∧ row.eventJson = m.modelDumpJson x.2 ∧
      IsGreatest {q | ∃ x, Committed m s.committed x ∧ identityOf m x = k ∧ x.1 = q} row.position) ∧
    (∀ s', Relation.ReflTransGen (Consumer.Step (retrievalStore V m) name) s s' → ∀ k,
      ∀ row ∈ s.db.documents.lookup k, ∃ row' ∈ s'.db.documents.lookup k, row.position ≤ row'.position) ∧
    (∀ n (l : List (StreamId × IndexedDocument E V)) db', Positioned l → index m n (l.map Prod.snd) s.db = .ok db' →
      ∀ k, ∀ row ∈ s.db.documents.lookup k, (∀ y ∈ l, identityOf m (eventAt y) = k → y.1 ≤ row.position ∧
        (y.1 = row.position → (y.2.documentHash, y.2.embeddingModel) = (row.documentHash, row.embeddingModel))) →
      db'.documents.lookup k = some row) ∧
    (∀ d ∈ s.committed, ∀ documents : List (IndexedDocument E V),
      decodeMessages m d.2 = .ok (documents.map IndexedDocument.message) →
      (∀ doc ∈ documents, ∀ row ∈ s.db.documents.lookup (m.source doc.message.event, m.eventId doc.message.event),
        row.streamId = doc.message.streamId →
          (doc.documentHash, doc.embeddingModel) = (row.documentHash, row.embeddingModel)) →
      index m d.1 documents s.db = .ok s.db) ∧
    ∀ n, ∀ p ∈ s.db.checkpoints.lookup n, ∀ x ∈ s.entries, x.1 ≤ p.position →
      ∃ e, m.modelValidateJson x.2 = .ok e ∧
        ∃ row ∈ s.db.documents.lookup (m.source e, m.eventId e), x.1 ≤ row.position := by
  have h0 : ∀ n, (retrievalStore V m).checkpoint .empty n = none := fun n => by
    simp [retrievalStore, RetrievalDb.empty]
  have hinv := Consumer.inv_of_reachable retrieval_lawful h0 h
  have hdb : RetrievalInv m s.committed s.db :=
    Consumer.db_inv retrieval_lawful h0 RetrievalInv.empty (fun _ _ hc h => h.commit hc) h
  refine ⟨?_, ?_, ?_, fun d hd documents => hdb.reindex hd, ?_⟩
  · intro k row hrow
    obtain ⟨x, hx, hid, htext, hpos, hjson⟩ := hdb.documents k row hrow
    refine ⟨x, hx, hid, htext, hpos, hjson, ⟨x, hx, hid, hpos.symm⟩, ?_⟩
    rintro q ⟨x', hx', hid', rfl⟩
    obtain ⟨row', hrow', hle⟩ := hdb.represented x' hx'
    rw [hid', Option.mem_def.mp hrow] at hrow'
    exact Option.some.inj hrow' ▸ hle
  · intro s' hs' k row hrow
    have hkept : ∃ row' ∈ s'.db.documents.lookup k, row.position ≤ row'.position := by
      induction hs' with
      | refl => exact ⟨row, hrow, le_rfl⟩
      | @tail s₁ s₂ hs₁ hstep ih =>
        obtain ⟨row', hrow', hle⟩ := ih
        have hinv₁ := Consumer.inv_of_reachable retrieval_lawful h0 (h.trans hs₁)
        rcases Consumer.db_step hinv₁ hstep with ⟨heq, -⟩ | ⟨n, batch, -, hc, -⟩
        · exact ⟨row', heq ▸ hrow', hle⟩
        · obtain ⟨row'', hrow'', hle'⟩ := position_kept hc hrow'
          exact ⟨row'', hrow'', hle.trans hle'⟩
    exact hkept
  · intro n l db' hl hi k row hrow hsame
    rcases (index_ok hl).mp hi with ⟨-, rfl⟩ | ⟨last, -, -, rfl⟩
    · exact hrow
    · exact lookup_indexed hrow hsame
  · intro n p hp x hx hle
    exact hinv.covered n x hx ⟨p.position, Option.map_eq_some_iff.mpr ⟨p, hp, rfl⟩, hle⟩

/-! ## A late indexer -/

namespace Quake

abbrev indexer : String := "hybrid-retrieval-v1"

/-- The document of a quake under the local model, up to its text. -/
def documentOf (x : StreamId × Quake) : IndexedDocument Quake Unit :=
  ⟨message x, x.2.title, digest x.2.title, "BAAI/bge-small-en-v1.5", ()⟩

end Quake

theorem retrieval_follows_late : ∃ s : Consumer.System StreamId String String (RetrievalDb Unit) Bool,
    s.committed.length = 3 ∧ ∀ k, ∀ row ∈ s.db.documents.lookup k,
      ∃ x, Committed Quake.model s.committed x ∧ identityOf Quake.model x = k ∧ row.position = x.1 := by
  have hcommit : ∀ events : List (StreamId × Quake), (∀ x ∈ events, Readable Quake.model x.2) →
      (events.map Prod.fst).Pairwise (· < ·) → ∀ db : RetrievalDb Unit, ∃ db',
        (retrievalStore Unit Quake.model).commit Quake.indexer (events.map (entryOf Quake.model)) db db' := by
    intro events hr hs db
    have hevents : (events.map fun x => (x.1, Quake.documentOf x)).map eventAt = events := by
      simp [Function.comp_def, eventAt, Quake.documentOf]
    have hpos : Positioned (events.map fun x => (x.1, Quake.documentOf x)) := by
      intro y hy
      obtain ⟨x, -, rfl⟩ := List.mem_map.mp hy
      rfl
    have h := exists_index_commit hpos (hevents.symm ▸ hr) (by simpa [Function.comp_def] using hs) Quake.indexer db
    rwa [hevents] at h
  obtain ⟨s, hs, hc⟩ := Quake.late_worker (retrievalStore Unit Quake.model) Quake.indexer .empty
    (by simp [retrievalStore, RetrievalDb.empty]) hcommit
  refine ⟨s, hc, fun k row hrow => ?_⟩
  obtain ⟨x, hx, hid, -, hpos, -⟩ := (retrieval_follows Quake.model _ s hs).1 k row hrow
  exact ⟨x, hx, hid, hpos⟩

end AtlasPulse
