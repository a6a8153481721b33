import AtlasPulse.Validation
import AtlasPulse.Projection
import AtlasPulse.BusSound
import AtlasPulse.Lib.Consumer

/-!
# Soundness of the projection

Projectors are checkpointed consumers of the stream. In every committed state
the revisions are the messages of the committed pages, each once; every message
at or below a checkpoint is among them; and the current pointer of an identity
names its revision of the greatest position.
-/

namespace AtlasPulse

open ValkeyEventBus Newest

variable {E : Type} (m : EventModel E)

/-! ## Decoded pages -/

/-- The events of stream entries, at their positions. -/
def Decodes (batch : List (StreamId × String)) (events : List (StreamId × E)) : Prop :=
  List.Forall₂ (fun x y => x.1 = y.1 ∧ m.modelValidateJson x.2 = .ok y.2) batch events

/-- The message of a positioned event. -/
abbrev message (x : StreamId × E) : StreamMessage E := ⟨x.1.text, x.2⟩

/-- The stream entry of a positioned event. -/
def entryOf (x : StreamId × E) : StreamId × String := (x.1, m.modelDumpJson x.2)

variable {m} in
theorem decodeMessages_ok {batch : List (StreamId × String)} {messages : List (StreamMessage E)} :
    decodeMessages m batch = .ok messages ↔ ∃ events, Decodes m batch events ∧ messages = events.map message := by
  rw [decodeMessages, mapM_ok]
  constructor
  · intro h
    induction h with
    | nil => exact ⟨[], List.Forall₂.nil, rfl⟩
    | @cons x msg _ _ hx _ ih =>
      obtain ⟨events, hev, rfl⟩ := ih
      cases hv : m.modelValidateJson x.2 with
      | error e => rw [hv] at hx; cases hx
      | ok e =>
        rw [hv] at hx
        obtain rfl := Except.ok.inj hx
        exact ⟨(x.1, e) :: events, List.Forall₂.cons ⟨rfl, hv⟩ hev, rfl⟩
  · rintro ⟨events, hev, rfl⟩
    refine (List.forall₂_map_right_iff).mpr (hev.imp ?_)
    rintro x y ⟨h1, h2⟩
    rw [h2, h1]
    rfl

variable {m} in
theorem decodes_entryOf {events : List (StreamId × E)} (h : ∀ x ∈ events, Readable m x.2) :
    Decodes m (events.map (entryOf m)) events :=
  List.forall₂_map_left_iff.mpr (List.forall₂_same.mpr fun x hx => ⟨rfl, h x hx⟩)

variable {m} in
/-- A page of the bus is a page behind its cursor. -/
theorem replay_eq_page (db : BusDb) (after : Option StreamId) (limit : Nat) :
    replay m db (after.map StreamId.text) limit = decodeMessages m (Consumer.page db.stream.entries after limit) := by
  cases after with
  | none => simp [replay, Consumer.page]
  | some c => simp [replay, Consumer.page]

/-! ## One transaction -/

/-- The parameters of the statements for a positioned event. -/
def valuesOf (x : StreamId × E) : ProjectionValues where
  streamId := x.1.text
  position := x.1
  source := m.source x.2
  eventId := m.eventId x.2
  eventJson := m.modelDumpJson x.2

def identityOf (x : StreamId × E) : String × String := (m.source x.2, m.eventId x.2)

abbrev pointerTo (i : StreamId) : Pointer := ⟨i.text, i⟩

theorem pointer_guard : Guard olderPointer Pointer.position :=
  ⟨fun h => le_of_lt (of_decide_eq_true h), fun h => decide_eq_true h⟩

/-- The transaction of a page. -/
def projected (projectionName : String) (events : List (StreamId × E)) (last : StreamId) (db : SignalDb) : SignalDb :=
  projectTx projectionName (events.map (valuesOf m)) (pointerTo last) db

theorem sortedSet_eq {positions : List StreamId} : positions = sortedSet positions ↔ positions.Pairwise (· < ·) := by
  constructor
  · intro h
    have hsorted : positions.Pairwise (· ≤ ·) := by
      rw [h]
      exact List.pairwise_insertionSort _ _
    have hnodup : positions.Nodup := by
      rw [h]
      exact ((List.perm_insertionSort _ _).nodup_iff).mpr (List.nodup_dedup _)
    exact (hsorted.and hnodup).imp fun ⟨h1, h2⟩ => lt_of_le_of_ne h1 h2
  · intro h
    rw [sortedSet, List.Nodup.dedup (h.imp ne_of_lt), List.Pairwise.insertionSort_eq (h.imp le_of_lt)]

variable {m}

/-- What a batch transaction does, for items with known positions and values. -/
theorem orderedBatch_ok {α β γ D : Type} {refusal : String} {streamId : α → String} {values : α → Except String β}
    {tx : List β → Pointer → D → D} (item : γ → α) (position : γ → StreamId) (value : γ → β) {l : List γ} {db db' : D}
    (hpos : ∀ c ∈ l, streamId (item c) = (position c).text) (hval : ∀ c ∈ l, values (item c) = .ok (value c)) :
    orderedBatch refusal streamId values tx (l.map item) db = .ok db' ↔
      l = [] ∧ db' = db ∨ ∃ last ∈ (l.map position).getLast?,
        (l.map position).Pairwise (· < ·) ∧ db' = tx (l.map value) (pointerTo last) db := by
  have hpositions : (l.map item).mapM (fun a => parseStreamId (streamId a)) = .ok (l.map position) := by
    refine mapM_ok.mpr (List.forall₂_map_left_iff.mpr (List.forall₂_map_right_iff.mpr (List.forall₂_same.mpr ?_)))
    intro c hc
    rw [hpos c hc, parseStreamId_text]
  have hvalues : (l.map item).mapM values = .ok (l.map value) :=
    mapM_ok.mpr (List.forall₂_map_left_iff.mpr (List.forall₂_map_right_iff.mpr (List.forall₂_same.mpr hval)))
  rw [orderedBatch, hpositions]
  cases hlast : l.getLast? with
  | none =>
    obtain rfl := List.getLast?_eq_none_iff.mp hlast
    simp [bind, Except.bind, eq_comm]
  | some c =>
    have hne : l ≠ [] := by rintro rfl; cases hlast
    have hc := hpos c (List.mem_of_getLast? hlast)
    simp only [bind, Except.bind, List.getLast?_map, hlast, Option.map_some, hvalues, hne, false_and, false_or,
      Option.mem_some_iff, exists_eq_left', hc]
    by_cases hs : (l.map position).Pairwise (· < ·)
    · rw [if_neg (not_not.mpr (sortedSet_eq.mpr hs))]
      simp [hs, eq_comm]
    · rw [if_pos fun h => hs (sortedSet_eq.mp h)]
      simp [hs]

/-- What the transaction of decoded messages does. -/
theorem project_ok {projectionName : String} {events : List (StreamId × E)} {db db' : SignalDb} :
    project m projectionName (events.map message) db = .ok db' ↔
      events = [] ∧ db' = db ∨ ∃ last ∈ (events.map Prod.fst).getLast?,
        (events.map Prod.fst).Pairwise (· < ·) ∧ db' = projected m projectionName events last db := by
  refine orderedBatch_ok message Prod.fst (valuesOf m) (fun _ _ => rfl) fun x _ => ?_
  simp [projectionValues, valuesOf, bind, Except.bind]

/-! ## Checkpoints -/

section checkpoint
variable {t : AList fun _ : String => Pointer} {n n' : String} {last c : StreamId}

theorem checkpoint_kept (n : String) (last : StreamId) (h : c ∈ (t.lookup n').map Pointer.position) :
    ∃ c' ∈ ((upsert olderPointer t n (pointerTo last)).lookup n').map Pointer.position, c ≤ c' := by
  obtain ⟨p, hp, rfl⟩ := Option.map_eq_some_iff.mp h
  obtain ⟨p', hp', hle⟩ := le_lookup_upsert pointer_guard n (pointerTo last) hp
  exact ⟨_, Option.map_eq_some_iff.mpr ⟨p', hp', rfl⟩, hle⟩

theorem checkpoint_cases (h : c ∈ ((upsert olderPointer t n (pointerTo last)).lookup n').map Pointer.position) :
    c ∈ (t.lookup n').map Pointer.position ∨ n' = n ∧ c = last := by
  obtain ⟨p, hp, rfl⟩ := Option.map_eq_some_iff.mp h
  rcases mem_of_lookup_upsertAll [(n, pointerTo last)] hp with hold | hnew
  · exact Or.inl (Option.map_eq_some_iff.mpr ⟨p, hold, rfl⟩)
  · obtain ⟨rfl, rfl⟩ := Prod.mk.inj (List.mem_singleton.mp hnew)
    exact Or.inr ⟨rfl, rfl⟩

theorem checkpoint_reached (t : AList fun _ : String => Pointer) (n : String) (last : StreamId) :
    ∃ p ∈ (upsert olderPointer t n (pointerTo last)).lookup n, last ≤ p.position :=
  le_lookup_of_offered pointer_guard [(n, pointerTo last)] (List.mem_singleton_self _)

end checkpoint

/-! ## The consumer -/

variable (m) in
/-- The projectors' database, as a consumer of stream entries. -/
def projectionStore : Consumer.Store StreamId String String SignalDb where
  checkpoint db projectionName := (db.checkpoints.lookup projectionName).map Pointer.position
  commit projectionName batch db db' :=
    ∃ messages, decodeMessages m batch = .ok messages ∧ project m projectionName messages db = .ok db'

/-- A commit is the transaction of a decoded page, or of an empty one. -/
theorem commit_cases {projectionName : String} {batch : List (StreamId × String)} {db db' : SignalDb}
    (h : (projectionStore m).commit projectionName batch db db') :
    ∃ events, Decodes m batch events ∧ (events = [] ∧ db' = db ∨ ∃ last ∈ (events.map Prod.fst).getLast?,
      (events.map Prod.fst).Pairwise (· < ·) ∧ db' = projected m projectionName events last db) := by
  obtain ⟨messages, hd, hp⟩ := h
  obtain ⟨events, hev, rfl⟩ := decodeMessages_ok.mp hd
  exact ⟨events, hev, project_ok.mp hp⟩

/-- The cycle of a projector commits the page behind its checkpoint. -/
theorem projectOnce_commit {bus : BusDb} {projectionName : String} {batchSize : Nat} {db db' : SignalDb}
    {cycle : ProjectionCycle} (hp : ∀ p ∈ db.checkpoints.lookup projectionName, p.streamId = p.position.text)
    (h : projectOnce m bus projectionName batchSize db = .ok (cycle, db')) :
    (projectionStore m).commit projectionName
      (Consumer.page bus.stream.entries ((projectionStore m).checkpoint db projectionName) batchSize) db db' := by
  have hprev : (db.checkpoints.lookup projectionName).map Pointer.streamId =
      ((projectionStore m).checkpoint db projectionName).map StreamId.text := by
    rw [projectionStore, Option.map_map]
    cases hl : db.checkpoints.lookup projectionName with
    | none => rfl
    | some p => exact congrArg some (hp p hl)
  rw [projectOnce, hprev, replay_eq_page] at h
  cases hd : decodeMessages m (Consumer.page bus.stream.entries ((projectionStore m).checkpoint db projectionName)
      batchSize) with
  | error e => rw [hd] at h; cases h
  | ok messages =>
    rw [hd] at h
    simp only [bind, Except.bind] at h
    cases hl : messages.getLast? with
    | none =>
      rw [hl] at h
      obtain rfl := List.getLast?_eq_none_iff.mp hl
      obtain ⟨-, rfl⟩ := Prod.mk.inj (Except.ok.inj h)
      exact ⟨[], hd, rfl⟩
    | some last =>
      rw [hl] at h
      cases hpr : project m projectionName messages db with
      | error e => rw [hpr] at h; cases h
      | ok db'' =>
        rw [hpr] at h
        obtain ⟨-, rfl⟩ := Prod.mk.inj (Except.ok.inj h)
        exact ⟨messages, hd, hpr⟩

/-- A page of readable events in order commits. -/
theorem exists_commit {events : List (StreamId × E)} (h : ∀ x ∈ events, Readable m x.2)
    (hs : (events.map Prod.fst).Pairwise (· < ·)) (projectionName : String) (db : SignalDb) :
    ∃ db', (projectionStore m).commit projectionName (events.map (entryOf m)) db db' := by
  cases hlast : (events.map Prod.fst).getLast? with
  | none =>
    obtain rfl := List.map_eq_nil_iff.mp (List.getLast?_eq_none_iff.mp hlast)
    exact ⟨db, _, decodeMessages_ok.mpr ⟨_, decodes_entryOf h, rfl⟩, project_ok.mpr (Or.inl ⟨rfl, rfl⟩)⟩
  | some last =>
    exact ⟨_, _, decodeMessages_ok.mpr ⟨_, decodes_entryOf h, rfl⟩, project_ok.mpr (Or.inr ⟨last, hlast, hs, rfl⟩)⟩

theorem Decodes.of_left {batch : List (StreamId × String)} {events : List (StreamId × E)} (h : Decodes m batch events)
    {x : StreamId × String} (hx : x ∈ batch) : ∃ e, (x.1, e) ∈ events ∧ m.modelValidateJson x.2 = .ok e := by
  induction h with
  | nil => cases hx
  | @cons a b _ _ hab _ ih =>
    rcases List.mem_cons.mp hx with rfl | hx
    · exact ⟨b.2, by rw [hab.1]; exact List.mem_cons_self, hab.2⟩
    · obtain ⟨e, he, hv⟩ := ih hx
      exact ⟨e, List.mem_cons_of_mem _ he, hv⟩

theorem Decodes.of_right {batch : List (StreamId × String)} {events : List (StreamId × E)} (h : Decodes m batch events)
    {y : StreamId × E} (hy : y ∈ events) : ∃ x ∈ batch, x.1 = y.1 ∧ m.modelValidateJson x.2 = .ok y.2 := by
  induction h with
  | nil => cases hy
  | @cons a b _ _ hab _ ih =>
    rcases List.mem_cons.mp hy with rfl | hy
    · exact ⟨a, List.mem_cons_self, hab⟩
    · obtain ⟨x, hx, hv⟩ := ih hy
      exact ⟨x, List.mem_cons_of_mem _ hx, hv⟩

theorem Decodes.unique {batch : List (StreamId × String)} {events events' : List (StreamId × E)}
    (h : Decodes m batch events) (h' : Decodes m batch events') : events = events' := by
  induction h generalizing events' with
  | nil =>
    cases h'
    rfl
  | @cons a b _ _ hab _ ih =>
    cases h' with
    | @cons _ b' _ _ hab' hrest =>
      have hv := hab.2
      rw [hab'.2] at hv
      rw [ih hrest, Prod.ext (hab.1.symm.trans hab'.1) (Except.ok.inj hv).symm]

theorem le_getLast {l : List StreamId} (hs : l.Pairwise (· < ·)) {last : StreamId} (h : last ∈ l.getLast?) :
    ∀ i ∈ l, i ≤ last := by
  obtain ⟨front, rfl⟩ := List.getLast?_eq_some_iff.mp h
  intro i hi
  rcases List.mem_append.mp hi with hi | hi
  · exact le_of_lt ((List.pairwise_append.mp hs).2.2 i hi last (List.mem_singleton_self _))
  · rw [List.mem_singleton.mp hi]

/-- The message stands in the revisions under its position. -/
def IsStored (db : SignalDb) (x : StreamId × String) : Prop := (db.revisions.lookup x.1.text).isSome

theorem projection_lawful : Consumer.Lawful (projectionStore m) IsStored := by
  refine ⟨?_, ?_, ?_, ?_⟩
  · intro n batch db db' h x hx
    obtain ⟨events, hd, ⟨rfl, rfl⟩ | ⟨last, -, -, rfl⟩⟩ := commit_cases h
    · obtain ⟨e, he, -⟩ := hd.of_left hx
      cases he
    · obtain ⟨e, he, -⟩ := hd.of_left hx
      refine exists_lookup_upsertAll (Or.inr ?_)
      simp only [List.map_map]
      exact List.mem_map.mpr ⟨_, he, rfl⟩
  · intro n batch db db' h x hx
    obtain ⟨events, -, ⟨-, rfl⟩ | ⟨last, -, -, rfl⟩⟩ := commit_cases h
    · exact hx
    · exact exists_lookup_upsertAll (Or.inl hx)
  · intro n batch db db' h n' c hc
    obtain ⟨events, -, ⟨-, rfl⟩ | ⟨last, -, -, rfl⟩⟩ := commit_cases h
    · exact ⟨c, hc, le_rfl⟩
    · exact checkpoint_kept n last hc
  · intro n batch db db' h n' c hc
    obtain ⟨events, hd, ⟨-, rfl⟩ | ⟨last, hlast, -, rfl⟩⟩ := commit_cases h
    · exact Or.inl ⟨c, hc, le_rfl⟩
    · rcases checkpoint_cases hc with hold | ⟨rfl, rfl⟩
      · exact Or.inl ⟨c, hold, le_rfl⟩
      · obtain ⟨y, hy, rfl⟩ := List.mem_map.mp (List.mem_of_getLast? hlast)
        obtain ⟨x, hx, hxy, -⟩ := hd.of_right hy
        exact Or.inr ⟨rfl, x, hx, le_of_eq hxy.symm⟩

/-! ## The tables -/

/-- A positioned event of a committed page. -/
def Committed (m : EventModel E) (l : List (String × List (StreamId × String))) (x : StreamId × E) : Prop :=
  ∃ d ∈ l, ∃ y ∈ d.2, y.1 = x.1 ∧ m.modelValidateJson y.2 = .ok x.2

/-- The checkpoints after the commits `l` of pages in order. -/
structure Reached (m : EventModel E) (l : List (String × List (StreamId × String)))
    (checkpoints : AList fun _ : String => Pointer) : Prop where
  le : ∀ d ∈ l, ∀ x ∈ d.2, ∃ p ∈ checkpoints.lookup d.1, x.1 ≤ p.position
  decoded : ∀ d ∈ l, ∃ events, Decodes m d.2 events ∧ (events.map Prod.fst).Pairwise (· < ·)

theorem Reached.empty_page {l : List (String × List (StreamId × String))} {t : AList fun _ : String => Pointer}
    (h : Reached m l t) (n : String) : Reached m ((n, []) :: l) t := by
  constructor
  · simpa using h.le
  · intro d hd
    rcases List.mem_cons.mp hd with rfl | hd
    · exact ⟨[], List.Forall₂.nil, List.Pairwise.nil⟩
    · exact h.decoded d hd

theorem Reached.commit {l : List (String × List (StreamId × String))} {t : AList fun _ : String => Pointer} {n : String}
    {batch : List (StreamId × String)} {events : List (StreamId × E)} {last : StreamId} (h : Reached m l t)
    (hd : Decodes m batch events) (hs : (events.map Prod.fst).Pairwise (· < ·))
    (hlast : last ∈ (events.map Prod.fst).getLast?) :
    Reached m ((n, batch) :: l) (upsert olderPointer t n (pointerTo last)) := by
  constructor
  · intro d hdl x hx
    rcases List.mem_cons.mp hdl with rfl | hdl
    · obtain ⟨p, hp, hle⟩ := checkpoint_reached t n last
      obtain ⟨e, he, -⟩ := hd.of_left hx
      exact ⟨p, hp, (le_getLast hs hlast x.1 (List.mem_map.mpr ⟨_, he, rfl⟩)).trans hle⟩
    · obtain ⟨p, hp, hle⟩ := h.le d hdl x hx
      obtain ⟨p', hp', hle'⟩ := le_lookup_upsert pointer_guard n (pointerTo last) hp
      exact ⟨p', hp', hle.trans hle'⟩
  · intro d hdl
    rcases List.mem_cons.mp hdl with rfl | hdl
    · exact ⟨events, hd, hs⟩
    · exact h.decoded d hdl

/-- A page that was committed does not move its checkpoint. -/
theorem Reached.upsert_eq {l : List (String × List (StreamId × String))} {t : AList fun _ : String => Pointer}
    (h : Reached m l t) {d : String × List (StreamId × String)} (hdl : d ∈ l) {events : List (StreamId × E)}
    (hd : Decodes m d.2 events) {last : StreamId} (hlast : last ∈ (events.map Prod.fst).getLast?) :
    upsert olderPointer t d.1 (pointerTo last) = t := by
  obtain ⟨y, hy, rfl⟩ := List.mem_map.mp (List.mem_of_getLast? hlast)
  obtain ⟨x, hx, hxy, -⟩ := hd.of_right hy
  obtain ⟨p, hp, hle⟩ := h.le d hdl x hx
  exact upsert_of_rejected hp (decide_eq_false (not_lt.mpr (hxy ▸ hle)))

/-- The tables after the commits `l`. -/
structure ProjectionInv (m : EventModel E) (l : List (String × List (StreamId × String))) (db : SignalDb) : Prop where
  revisions : ∀ id r, db.revisions.lookup id = some r →
    ∃ x, Committed m l x ∧ id = x.1.text ∧ r = (valuesOf m x).revision
  stored : ∀ x, Committed m l x → (db.revisions.lookup x.1.text).isSome
  current : Tracks Pointer.position db.current {row | ∃ x, Committed m l x ∧ row = (identityOf m x, pointerTo x.1)}
  canonical : ∀ n p, db.checkpoints.lookup n = some p → p = pointerTo p.position
  pages : Reached m l db.checkpoints

/-- One position of the stream holds one event. -/
theorem Committed.unique {entries : List (StreamId × String)} (hs : entries.Pairwise fun x y => x.1 < y.1)
    {l : List (String × List (StreamId × String))} (hl : ∀ d ∈ l, ∀ x ∈ d.2, x ∈ entries) {x x' : StreamId × E}
    (h : Committed m l x) (h' : Committed m l x') (heq : x.1 = x'.1) : x = x' := by
  obtain ⟨d, hd, y, hy, hyx, hv⟩ := h
  obtain ⟨d', hd', y', hy', hyx', hv'⟩ := h'
  have hnodup : (entries.map Prod.fst).Nodup := by
    rw [List.Nodup, List.pairwise_map]
    exact hs.imp ne_of_lt
  obtain rfl : y = y' := List.inj_on_of_nodup_map hnodup (hl d hd y hy) (hl d' hd' y' hy')
    (hyx.trans (heq.trans hyx'.symm))
  rw [hv] at hv'
  exact Prod.ext heq (Except.ok.inj hv')

theorem committed_cons {n : String} {batch : List (StreamId × String)} {l : List (String × List (StreamId × String))}
    {events : List (StreamId × E)} (hd : Decodes m batch events) {x : StreamId × E} :
    Committed m ((n, batch) :: l) x ↔ Committed m l x ∨ x ∈ events := by
  constructor
  · rintro ⟨d, hdl, y, hy, hyx, hv⟩
    rcases List.mem_cons.mp hdl with rfl | hdl
    · obtain ⟨e, he, hv'⟩ := hd.of_left hy
      rw [hv] at hv'
      right
      rwa [hyx, ← Except.ok.inj hv'] at he
    · exact Or.inl ⟨d, hdl, y, hy, hyx, hv⟩
  · rintro (⟨d, hdl, h⟩ | hx)
    · exact ⟨d, List.mem_cons_of_mem _ hdl, h⟩
    · obtain ⟨y, hy, h⟩ := hd.of_right hx
      exact ⟨_, List.mem_cons_self, y, hy, h⟩

theorem ProjectionInv.empty : ProjectionInv m [] .empty := by
  refine ⟨?_, ?_, ?_, ?_, ?_⟩
  · intro id r h
    simp [SignalDb.empty] at h
  · rintro x ⟨d, hd, -⟩
    cases hd
  · have hset : {row | ∃ x, Committed m [] x ∧ row = (identityOf m x, pointerTo x.1)} = ∅ := by
      ext row
      simp [Committed]
    rw [hset]
    exact tracks_empty
  · intro n p h
    simp [SignalDb.empty] at h
  · exact ⟨fun d hd => (by cases hd), fun d hd => (by cases hd)⟩

/-- One commit. -/
theorem ProjectionInv.commit {l : List (String × List (StreamId × String))} {n : String}
    {batch : List (StreamId × String)} {db db' : SignalDb}
    (hc : (projectionStore m).commit n batch db db') (h : ProjectionInv m l db) :
    ProjectionInv m ((n, batch) :: l) db' := by
  obtain ⟨events, hd, ⟨rfl, rfl⟩ | ⟨last, hlast, hs, rfl⟩⟩ := commit_cases hc
  · have hcom : ∀ x, Committed m ((n, batch) :: l) x ↔ Committed m l x := fun x => by
      rw [committed_cons hd]
      simp
    cases hd
    refine ⟨?_, ?_, ?_, h.canonical, h.pages.empty_page n⟩
    · simpa only [hcom] using h.revisions
    · simpa only [hcom] using h.stored
    · simpa only [hcom] using h.current
  · refine ⟨?_, ?_, ?_, ?_, h.pages.commit hd hs hlast⟩
    · intro id r hr
      rcases mem_of_lookup_upsertAll _ hr with hr | hr
      · obtain ⟨x, hx, hrest⟩ := h.revisions id r hr
        exact ⟨x, (committed_cons hd).mpr (Or.inl hx), hrest⟩
      · rw [List.map_map] at hr
        obtain ⟨x, hx, hrow⟩ := List.mem_map.mp hr
        obtain ⟨rfl, rfl⟩ := Prod.mk.inj hrow
        exact ⟨x, (committed_cons hd).mpr (Or.inr hx), rfl, rfl⟩
    · intro x hx
      refine exists_lookup_upsertAll (((committed_cons hd).mp hx).imp (h.stored x) fun hx => ?_)
      simp only [List.map_map]
      exact List.mem_map.mpr ⟨x, hx, rfl⟩
    · have hnew := h.current.upsertAll pointer_guard
        ((events.map (valuesOf m)).map fun v => ((v.source, v.eventId), v.pointer))
      have hset : {row | ∃ x, Committed m l x ∧ row = (identityOf m x, pointerTo x.1)} ∪
          {row | row ∈ (events.map (valuesOf m)).map fun v => ((v.source, v.eventId), v.pointer)} =
          {row | ∃ x, Committed m ((n, batch) :: l) x ∧ row = (identityOf m x, pointerTo x.1)} := by
        ext row
        simp only [Set.mem_union, Set.mem_ofPred_eq, List.map_map, List.mem_map, Function.comp_apply,
          committed_cons hd]
        constructor
        · rintro (⟨x, hx, rfl⟩ | ⟨x, hx, rfl⟩)
          · exact ⟨x, Or.inl hx, rfl⟩
          · exact ⟨x, Or.inr hx, rfl⟩
        · rintro ⟨x, hx | hx, rfl⟩
          · exact Or.inl ⟨x, hx, rfl⟩
          · exact Or.inr ⟨x, hx, rfl⟩
      rwa [hset] at hnew
    · intro n' p hp
      rcases mem_of_lookup_upsertAll [(n, pointerTo last)] hp with hold | hnew
      · exact h.canonical n' p hold
      · obtain ⟨-, rfl⟩ := Prod.mk.inj (List.mem_singleton.mp hnew)
        rfl

/-- Committing a committed page again changes nothing. -/
theorem ProjectionInv.recommit {l : List (String × List (StreamId × String))} {db : SignalDb}
    (h : ProjectionInv m l db) {d : String × List (StreamId × String)} (hdl : d ∈ l) (db' : SignalDb) :
    (projectionStore m).commit d.1 d.2 db db' ↔ db' = db := by
  obtain ⟨events, hd, hs⟩ := h.pages.decoded d hdl
  have hcom : ∀ x ∈ events, Committed m l x := fun x hx => by
    obtain ⟨y, hy, hyx⟩ := hd.of_right hx
    exact ⟨d, hdl, y, hy, hyx⟩
  have hsame : ∀ last ∈ (events.map Prod.fst).getLast?, projected m d.1 events last db = db := by
    intro last hlast
    have hrev : upsertAll (fun _ _ => false) db.revisions
        ((events.map (valuesOf m)).map fun v => (v.streamId, v.revision)) = db.revisions := by
      refine upsertAll_of_rejected fun row hrow => ?_
      rw [List.map_map] at hrow
      obtain ⟨x, hx, rfl⟩ := List.mem_map.mp hrow
      obtain ⟨r, hr⟩ := Option.isSome_iff_exists.mp (h.stored x (hcom x hx))
      exact ⟨r, hr, rfl⟩
    have hcur : upsertAll olderPointer db.current
        ((events.map (valuesOf m)).map fun v => ((v.source, v.eventId), v.pointer)) = db.current := by
      refine upsertAll_of_rejected fun row hrow => ?_
      rw [List.map_map] at hrow
      obtain ⟨x, hx, rfl⟩ := List.mem_map.mp hrow
      obtain ⟨p, hp, hle⟩ := (h.current (identityOf m x)).2 (pointerTo x.1) ⟨x, hcom x hx, rfl⟩
      exact ⟨p, hp, decide_eq_false (not_lt.mpr hle)⟩
    rw [projected, projectTx, hrev, hcur, h.pages.upsert_eq hdl hd hlast]
  constructor
  · intro hc
    obtain ⟨events', hd', ⟨-, rfl⟩ | ⟨last, hlast, -, rfl⟩⟩ := commit_cases hc
    · rfl
    · obtain rfl := hd'.unique hd
      exact hsame last hlast
  · rintro rfl
    refine ⟨_, decodeMessages_ok.mpr ⟨events, hd, rfl⟩, project_ok.mpr ?_⟩
    cases hlast : (events.map Prod.fst).getLast? with
    | none => exact Or.inl ⟨by simpa using hlast, rfl⟩
    | some last => exact Or.inr ⟨last, rfl, hs, (hsame last hlast).symm⟩

/-! ## The fold -/

/-- **Projection.** For any projectors on one stream, in every committed state:
checkpoints never go back; every message at or below a checkpoint is stored as
its revision; no position has two revisions; the current pointer of an identity
names its revision of the greatest position; and projecting a committed page
again changes nothing. -/
theorem projection_fold {W : Type} [DecidableEq W] (m : EventModel E) (name : W → String)
    (s : Consumer.System StreamId String String SignalDb W)
    (h : Consumer.Reachable (projectionStore m) name .empty s) :
    (∀ s', Relation.ReflTransGen (Consumer.Step (projectionStore m) name) s s' → ∀ n,
      ∀ p ∈ s.db.checkpoints.lookup n, ∃ p' ∈ s'.db.checkpoints.lookup n, p.position ≤ p'.position) ∧
    (∀ n, ∀ p ∈ s.db.checkpoints.lookup n, ∀ x ∈ s.entries, x.1 ≤ p.position →
      ∃ e, m.modelValidateJson x.2 = .ok e ∧
        s.db.revisions.lookup x.1.text = some ⟨x.1, m.source e, m.eventId e, m.modelDumpJson e⟩) ∧
    (∀ id id' r r', s.db.revisions.lookup id = some r → s.db.revisions.lookup id' = some r' →
      r.position = r'.position → id = id') ∧
    (∀ k, (∀ p ∈ s.db.current.lookup k, ∃ r ∈ s.db.revisions.lookup p.streamId,
        (r.source, r.eventId) = k ∧ r.position = p.position ∧
        IsGreatest {q | ∃ id, ∃ r ∈ s.db.revisions.lookup id, (r.source, r.eventId) = k ∧ r.position = q} p.position) ∧
      (s.db.current.lookup k = none → ∀ id, ∀ r ∈ s.db.revisions.lookup id, (r.source, r.eventId) ≠ k)) ∧
    ∀ d ∈ s.committed, ∀ db', (projectionStore m).commit d.1 d.2 s.db db' ↔ db' = s.db := by
  have h0 : ∀ n, (projectionStore m).checkpoint .empty n = none := fun n => by
    simp [projectionStore, SignalDb.empty]
  have hinv := Consumer.inv_of_reachable projection_lawful h0 h
  have hdb : ProjectionInv m s.committed s.db :=
    Consumer.db_inv projection_lawful h0 ProjectionInv.empty (fun _ _ hc h => h.commit hc) h
  have hsub : ∀ d ∈ s.committed, ∀ x ∈ d.2, x ∈ s.entries := fun d hd x hx =>
    (hinv.delivered d (hinv.committed d hd)).1 x hx
  -- the revision of a committed event is that event's
  have hrev : ∀ x, Committed m s.committed x → s.db.revisions.lookup x.1.text = some (valuesOf m x).revision := by
    intro x hx
    obtain ⟨r, hr⟩ := Option.isSome_iff_exists.mp (hdb.stored x hx)
    obtain ⟨x', hx', hid, rfl⟩ := hdb.revisions _ r hr
    rw [hr, Committed.unique hinv.sorted hsub hx hx' (StreamId.text_injective hid)]
  refine ⟨?_, ?_, ?_, ?_, fun d hd db' => hdb.recommit hd db'⟩
  · intro s' hs' n p hp
    obtain ⟨c', hc', hle⟩ := Consumer.checkpoint_run projection_lawful hinv hs' n p.position
      (Option.map_eq_some_iff.mpr ⟨p, hp, rfl⟩)
    obtain ⟨p', hp', rfl⟩ := Option.map_eq_some_iff.mp hc'
    exact ⟨p', hp', hle⟩
  · intro n p hp x hx hle
    have hst : IsStored s.db x := hinv.covered n x hx ⟨p.position, Option.map_eq_some_iff.mpr ⟨p, hp, rfl⟩, hle⟩
    obtain ⟨r, hr⟩ := Option.isSome_iff_exists.mp hst
    obtain ⟨y, hy, hid, rfl⟩ := hdb.revisions _ r hr
    obtain ⟨d, hd, z, hz, hzy, hv⟩ := hy
    have hpos : z.1 = x.1 := hzy.trans (StreamId.text_injective hid).symm
    have hnodup : (s.entries.map Prod.fst).Nodup := by
      rw [List.Nodup, List.pairwise_map]
      exact hinv.sorted.imp ne_of_lt
    obtain rfl := List.inj_on_of_nodup_map hnodup (hsub d hd z hz) hx hpos
    exact ⟨y.2, hv, by rw [hr, hpos.symm.trans hzy]; rfl⟩
  · intro id id' r r' hr hr' hpos
    obtain ⟨x, -, rfl, rfl⟩ := hdb.revisions id r hr
    obtain ⟨x', -, rfl, rfl⟩ := hdb.revisions id' r' hr'
    exact congrArg StreamId.text hpos
  · intro k
    have hset : {q | ∃ id, ∃ r ∈ s.db.revisions.lookup id, (r.source, r.eventId) = k ∧ r.position = q} =
        {q | ∃ p, (k, p) ∈ {row | ∃ x, Committed m s.committed x ∧ row = (identityOf m x, pointerTo x.1)} ∧
          Pointer.position p = q} := by
      ext q
      constructor
      · rintro ⟨id, r, hr, rfl, rfl⟩
        obtain ⟨x, hx, -, rfl⟩ := hdb.revisions id r hr
        exact ⟨pointerTo x.1, ⟨x, hx, rfl⟩, rfl⟩
      · rintro ⟨p, ⟨x, hx, hrow⟩, rfl⟩
        obtain ⟨rfl, rfl⟩ := Prod.mk.inj hrow
        exact ⟨_, _, hrev x hx, rfl, rfl⟩
    refine ⟨fun p hp => ?_, fun hnone id r hr heq => ?_⟩
    · obtain ⟨x, hx, hrow⟩ := (hdb.current k).1 p hp
      obtain ⟨rfl, rfl⟩ := Prod.mk.inj hrow
      refine ⟨_, hrev x hx, rfl, rfl, ?_⟩
      rw [hset]
      exact hdb.current.isGreatest hp
    · obtain ⟨x, hx, -, rfl⟩ := hdb.revisions id r hr
      obtain ⟨p, hp, -⟩ := (hdb.current k).2 (pointerTo x.1) ⟨x, hx, by rw [← heq]; rfl⟩
      rw [hnone] at hp
      cases hp

/-! ## A late projector -/

namespace Quake

abbrev projector : String := "current-signals-v1"

def firstAt : StreamId × Quake := (⟨1784116800000, 0⟩, first)

def correctedAt : StreamId × Quake := (⟨1784116860000, 0⟩, corrected)

/-- Another worker commits both messages before the first one commits its older
page, which is then delivered once more. -/
theorem late_worker {D : Type} (st : Consumer.Store StreamId String String D) (name : String) (db : D)
    (h0 : st.checkpoint db name = none)
    (hcommit : ∀ events : List (StreamId × Quake), (∀ x ∈ events, Readable model x.2) →
      (events.map Prod.fst).Pairwise (· < ·) → ∀ db, ∃ db', st.commit name (events.map (entryOf model)) db db') :
    ∃ s : Consumer.System StreamId String String D Bool, Consumer.Reachable st (fun _ => name) db s ∧
      s.committed.length = 3 := by
  have hread : ∀ x ∈ [firstAt, correctedAt], Readable model x.2 := by
    simp only [List.forall_mem_cons, List.not_mem_nil, false_implies, implies_true, and_true]
    exact ⟨readable first List.mem_cons_self, readable corrected (List.mem_cons_of_mem _ List.mem_cons_self)⟩
  have hold : ∀ x ∈ [firstAt], Readable model x.2 := fun x hx =>
    hread x (List.mem_singleton.mp hx ▸ List.mem_cons_self)
  have hpage : ∀ events : List (StreamId × Quake), events.length ≤ 500 →
      Consumer.page (events.map (entryOf model)) (st.checkpoint db name) 500 = events.map (entryOf model) := by
    intro events hlen
    rw [h0, Consumer.page]
    simp [hlen]
  have hlater : ∀ y ∈ [entryOf model firstAt], y.1 < (entryOf model correctedAt).1 := by decide
  obtain ⟨db₁, hdb₁⟩ := hcommit _ hread (by decide) db
  obtain ⟨db₂, hdb₂⟩ := hcommit _ hold (by decide) db₁
  obtain ⟨db₃, hdb₃⟩ := hcommit _ hold (by decide) db₂
  rw [← hpage _ (by simp)] at hdb₁ hdb₂ hdb₃
  have h : Consumer.Reachable st (fun _ : Bool => name) db _ := Relation.ReflTransGen.refl
  have h := h.tail (Consumer.Step.append (entryOf model firstAt) (by simp [Consumer.System.init]))
  have h := h.tail (Consumer.Step.start true rfl)
  have h := h.tail (Consumer.Step.fetch true 500 rfl)
  have h := h.tail (Consumer.Step.append (entryOf model correctedAt) hlater)
  have h := h.tail (Consumer.Step.start false rfl)
  have h := h.tail (Consumer.Step.fetch false 500 rfl)
  have h := h.tail (Consumer.Step.commit false rfl hdb₁)
  have h := h.tail (Consumer.Step.commit true rfl hdb₂)
  have h := h.tail (Consumer.Step.redeliver (List.mem_cons_of_mem _ List.mem_cons_self) hdb₃)
  exact ⟨_, h, rfl⟩

end Quake

theorem projection_fold_late : ∃ s : Consumer.System StreamId String String SignalDb Bool, s.committed.length = 3 ∧
    ∀ d ∈ s.committed, ∀ db', (projectionStore Quake.model).commit d.1 d.2 s.db db' ↔ db' = s.db := by
  obtain ⟨s, hs, hc⟩ := Quake.late_worker (projectionStore Quake.model) Quake.projector .empty
    (by simp [projectionStore, SignalDb.empty]) fun events hr hs => exists_commit hr hs Quake.projector
  exact ⟨s, hc, (projection_fold Quake.model _ s hs).2.2.2.2⟩

end AtlasPulse
