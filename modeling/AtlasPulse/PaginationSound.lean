import AtlasPulse.Pagination
import AtlasPulse.ProjectionSound
import AtlasPulse.StoreSound

/-!
# Soundness of the paged reads

Each endpoint pages over a table in the strict order of stream positions, so
that following its cursors reads the table. The signals and the transitions
are read newest first, which is the reversed order of the positions.
-/

namespace AtlasPulse

open Keyset PyTime

/-! ## Rows and positions -/

theorem perm_sorted_eq {ι α : Type} [LinearOrder ι] {key : α → ι} {l l' : List α} (h : l.Perm l')
    (hs : l.Pairwise fun a b => key a < key b) (hs' : l'.Pairwise fun a b => key a < key b) : l = l' :=
  h.eq_of_pairwise (fun _ _ _ _ h h' => absurd h (lt_asymm h')) hs hs'

/-! ## Current signals -/

section
variable {E G : Type} {m : EventModel E}

/-- Rows come newest first. -/
def signalKey (row : SignalRow G) : StreamIdᵒᵈ := OrderDual.toDual row.pointer.position

def writtenKey (position : StreamIdᵒᵈ) : String := (OrderDual.ofDual position).text

/-- What the projector keeps of the joined rows. -/
structure SignalsKept (rows : List (SignalRow G)) : Prop where
  positions : (rows.map fun row => row.pointer.position).Nodup
  canonical : ∀ row ∈ rows, row.pointer.streamId = row.pointer.position.text

theorem signalRows_kept {W : Type} [DecidableEq W] {name : W → String} {s : Consumer.System StreamId String String SignalDb W}
    (h : Consumer.Reachable (projectionStore m) name .empty s) (columns : String → SignalColumns G) :
    SignalsKept (signalRows columns s.db) ∧ ((∀ x ∈ s.entries, ∀ e, m.modelValidateJson x.2 = .ok e → Readable m e) →
      ∀ row ∈ signalRows columns s.db, ∃ event, m.modelValidateJson row.eventJson = .ok event) := by
  have h0 : ∀ n, (projectionStore m).checkpoint .empty n = none := fun n => by
    simp [projectionStore, SignalDb.empty]
  have hinv := Consumer.inv_of_reachable projection_lawful h0 h
  have hdb : ProjectionInv m s.committed s.db :=
    Consumer.db_inv projection_lawful h0 ProjectionInv.empty (fun _ _ hc h => h.commit hc) h
  have hsub : ∀ d ∈ s.committed, ∀ x ∈ d.2, x ∈ s.entries := fun d hd x hx =>
    (hinv.delivered d (hinv.committed d hd)).1 x hx
  have hentry : ∀ entry ∈ s.db.current.entries, ∃ x, Committed m s.committed x ∧ entry.1 = identityOf m x ∧
      entry.2 = pointerTo x.1 := by
    intro entry he
    obtain ⟨x, hx, hrow⟩ := (hdb.current entry.1).1 entry.2 (AList.mem_lookup_iff.mpr he)
    exact ⟨x, hx, Prod.mk.inj hrow⟩
  refine ⟨⟨?_, ?_⟩, ?_⟩
  · rw [List.Nodup, List.pairwise_map, signalRows, List.pairwise_filterMap]
    refine (List.nodupKeys_iff_pairwise.mp s.db.current.nodupKeys).imp_of_mem fun {a b} ha hb hne row hrow row' hrow' heq => ?_
    obtain ⟨r, -, rfl⟩ := Option.map_eq_some_iff.mp hrow
    obtain ⟨r', -, rfl⟩ := Option.map_eq_some_iff.mp hrow'
    obtain ⟨x, hx, hkx, hpx⟩ := hentry a ha
    obtain ⟨y, hy, hky, hpy⟩ := hentry b hb
    dsimp only at heq
    rw [hpx, hpy] at heq
    obtain rfl := Committed.unique hinv.sorted hsub hx hy heq
    exact hne (hkx.trans hky.symm)
  · intro row hrow
    obtain ⟨entry, he, hsome⟩ := List.mem_filterMap.mp hrow
    obtain ⟨r, -, rfl⟩ := Option.map_eq_some_iff.mp hsome
    obtain ⟨x, -, -, hp⟩ := hentry entry he
    dsimp only
    rw [hp]
  · intro hread row hrow
    obtain ⟨entry, -, hsome⟩ := List.mem_filterMap.mp hrow
    obtain ⟨r, hr, rfl⟩ := Option.map_eq_some_iff.mp hsome
    obtain ⟨x, ⟨d, hd, y, hy, -, hv⟩, -, rfl⟩ := hdb.revisions _ r hr
    exact ⟨x.2, hread y (hsub d hd y hy) x.2 hv⟩

theorem newestFirst_sorted {rows : List (SignalRow G)} (hn : (rows.map fun row => row.pointer.position).Nodup) :
    (newestFirst rows).Pairwise fun a b => signalKey a < signalKey b := by
  have hperm : (newestFirst rows).Perm rows := List.perm_insertionSort _ _
  have hnodup : ((newestFirst rows).map fun row => row.pointer.position).Nodup := (hperm.map _).nodup_iff.mpr hn
  rw [List.Nodup, List.pairwise_map] at hnodup
  have hle : (newestFirst rows).Pairwise fun a b => b.pointer.position ≤ a.pointer.position :=
    have : Std.Total fun a b : SignalRow G => b.pointer.position ≤ a.pointer.position := ⟨fun _ _ => le_total _ _⟩
    have : IsTrans (SignalRow G) fun a b => b.pointer.position ≤ a.pointer.position := ⟨fun _ _ _ hab hbc => le_trans hbc hab⟩
    List.pairwise_insertionSort _ rows
  refine (hle.and hnodup).imp fun {a b} hab => ?_
  exact lt_of_le_of_ne hab.1 fun heq => hab.2 (OrderDual.toDual_inj.mp heq)

theorem signalMessage_ids {rows : List (SignalRow G)} {messages : List (StreamMessage E)}
    (h : rows.mapM (signalMessage m) = .ok messages) :
    messages.map StreamMessage.streamId = rows.map fun row => row.pointer.streamId := by
  rw [mapM_ok] at h
  induction h with
  | nil => rfl
  | cons hx _ ih =>
    obtain ⟨event, -, rfl⟩ := map_ok.mp hx
    rw [List.map_cons, List.map_cons, ih]

variable {columns : String → SignalColumns G} {db : SignalDb}

/-- A query is a page of the matching rows, newest first. -/
theorem queryCurrent_eq (hk : SignalsKept (signalRows columns db)) (intersects : G → GeoBounds → Bool) (now : Datetime)
    (query : SignalQuery) (limit : Nat) (after : Option StreamIdᵒᵈ) :
    queryCurrent m intersects columns now db { query with limit, after := after.map writtenKey } =
      ((page signalKey (newestFirst ((signalRows columns db).filter (matchesSignal intersects now query))) limit
          after).items.mapM (signalMessage m)).map fun items =>
        ⟨items, (page signalKey (newestFirst ((signalRows columns db).filter (matchesSignal intersects now query))) limit
            after).nextCursor.map writtenKey,
          (page signalKey (newestFirst ((signalRows columns db).filter (matchesSignal intersects now query))) limit
            after).hasMore⟩ := by
  have hnodup : ∀ p : SignalRow G → Bool, (((signalRows columns db).filter p).map fun row => row.pointer.position).Nodup :=
    fun p => hk.positions.sublist (List.filter_sublist.map _)
  have hcursor : parseCursor (after.map writtenKey) = .ok (after.map OrderDual.ofDual) := by
    cases after with
    | none => rfl
    | some c =>
      simp only [parseCursor, Option.map_some, writtenKey, parseStreamId_text]
      rfl
  have hrows : newestFirst ((signalRows columns db).filter fun row =>
        matchesSignal intersects now query row && (after.map OrderDual.ofDual).all fun c => row.pointer.position < c) =
      behind signalKey (newestFirst ((signalRows columns db).filter (matchesSignal intersects now query))) after := by
    refine perm_sorted_eq ?_ (newestFirst_sorted (hnodup _)) ((newestFirst_sorted (hnodup _)).filter _)
    refine (List.perm_insertionSort _ _).trans ?_
    refine List.Perm.trans (.of_eq ?_) ((List.perm_insertionSort _ _).filter _).symm
    rw [List.filter_filter]
    refine List.filter_congr fun row _ => ?_
    rw [Bool.and_comm, Option.all_map]
    rfl
  unfold queryCurrent
  dsimp only
  rw [hcursor]
  simp only [bind, Except.bind]
  rw [show matchesSignal intersects now { query with limit, after := after.map writtenKey } =
    matchesSignal intersects now query from rfl, hrows]
  cases hmessages : ((List.take limit (List.take (limit + 1)
      (behind signalKey (newestFirst ((signalRows columns db).filter (matchesSignal intersects now query))) after))).mapM
        (signalMessage m)) with
  | error e => simp only [page, probe, hmessages]; rfl
  | ok messages =>
    simp only [page, probe, hmessages, Except.map]
    congr 2
    have hids := signalMessage_ids hmessages
    rw [← List.getLast?_map, hids, List.getLast?_map, Option.map_map]
    refine Option.map_congr fun row hrow => ?_
    refine hk.canonical row ?_
    have hmem := List.mem_of_getLast? hrow
    have hmem := (List.mem_filter.mp (List.mem_of_mem_take (List.mem_of_mem_take hmem))).1
    exact (List.mem_filter.mp ((List.perm_insertionSort _ _).mem_iff.mp hmem)).1

end

/-! ## Transitions -/

def transitionPosition (t : SourcePollTransition) : StreamId := (StreamId.parse? t.streamId).getD ⟨0, 0⟩

def transitionKey (t : SourcePollTransition) : StreamIdᵒᵈ := OrderDual.toDual (transitionPosition t)

/-- Transitions under the ids of their positions, newest first. -/
structure History (transitions : List SourcePollTransition) : Prop where
  named : ∀ t ∈ transitions, t.streamId = (transitionPosition t).text
  sorted : transitions.Pairwise fun a b => transitionKey a < transitionKey b

/-- The store loads the pages of a history. -/
def Loads (load : Option String → Nat → Except PollError (List SourcePollTransition))
    (transitions : List SourcePollTransition) : Prop :=
  ∀ (before : Option StreamIdᵒᵈ) (limit : Nat), 1 ≤ limit →
    load (before.map writtenKey) limit = .ok ((behind transitionKey transitions before).take limit)

theorem matchesStreamId_written (i : StreamId) : matchesStreamId i.text = true := by
  have hd : ∀ n, ∀ c ∈ Digits.decimal n, c.isDigit = true := fun _ _ => Digits.isDigit_of_mem_decimal
  have hspan : i.text.toList.span Char.isDigit = (Digits.decimal i.ms, '-' :: Digits.decimal i.seq) := by
    rw [StreamId.text, String.toList_ofList, List.span_eq_takeWhile_dropWhile, List.takeWhile_append_of_pos (hd i.ms),
      List.dropWhile_append_of_pos (hd i.ms)]
    simp
  rw [matchesStreamId, hspan]
  simp [Digits.decimal_ne_nil, List.all_eq_true.mpr (hd i.seq)]

theorem cursorPosition_written (before : Option StreamIdᵒᵈ) :
    cursorPosition (before.map writtenKey) = .ok (before.map OrderDual.ofDual) := by
  cases before with
  | none => rfl
  | some c =>
    simp only [cursorPosition, Option.map_some, writtenKey, streamPosition, StreamId.parse_text]
    rfl

/-- A page of a history passes the response model. -/
theorem sourcePollHistory_page {load : Option String → Nat → Except PollError (List SourcePollTransition)}
    {transitions : List SourcePollTransition} (hl : Loads load transitions) (ht : History transitions) {clock : Datetime}
    (hclock : clock.isUtc) {limit : Nat} (hlimit : 1 ≤ limit ∧ limit ≤ 100) (before : Option StreamIdᵒᵈ) :
    (sourcePollHistory load clock (before.map writtenKey) limit).map SourcePollHistoryResponse.page =
      .ok ⟨(page transitionKey transitions limit before).items,
        (page transitionKey transitions limit before).nextCursor.map writtenKey,
        (page transitionKey transitions limit before).hasMore⟩ := by
  have hbefore : (before.map writtenKey).all matchesStreamId = true := by
    cases before with
    | none => rfl
    | some c => exact matchesStreamId_written _
  set items := (page transitionKey transitions limit before).items with hitems
  have hmem : ∀ t ∈ items, t ∈ transitions := fun t h => (mem_page h).1
  have hcursor : items.getLast?.map (·.streamId) =
      (page transitionKey transitions limit before).nextCursor.map writtenKey := by
    rw [page_nextCursor, Option.map_map]
    exact Option.map_congr fun t h => ht.named t (hmem t (List.mem_of_getLast? h))
  have hpositions : items.mapM (fun t => parseStreamId t.streamId) = .ok (items.map transitionPosition) := by
    rw [mapM_ok]
    refine List.forall₂_map_right_iff.mpr (List.forall₂_same.mpr fun t h => ?_)
    rw [ht.named t (hmem t h), parseStreamId_text]
  have hsorted : (items.map transitionPosition).Pairwise fun a b => b < a :=
    List.pairwise_map.mpr (page_pairwise ht.sorted)
  have hvalid : SourcePollHistoryResponse.validate ⟨clock, items.length, items, items.getLast?.map (·.streamId),
      (page transitionKey transitions limit before).hasMore⟩ = .ok () := by
    unfold SourcePollHistoryResponse.validate
    simp only [bind_ok, exists_unit, check_eq_ok, checkUtc_ok, decide_eq_true_eq, Option.mem_some_iff, forall_eq',
      Bool.and_eq_true]
    refine ⟨?_, ?_, hclock, trivial, trivial, ?_, _, hpositions, ?_, ?_⟩
    · rw [hitems]
      simp only [page, probe, List.length_take]
      omega
    · rw [hcursor]
      cases (page transitionKey transitions limit before).nextCursor with
      | none => rfl
      | some c => exact matchesStreamId_written _
    · cases hm : (page transitionKey transitions limit before).hasMore with
      | false => rfl
      | true =>
        obtain ⟨t, hlast, -⟩ := exists_last hlimit.1 hm
        have hne : items ≠ [] := List.ne_nil_of_mem (List.mem_of_getLast? hlast)
        simp [hne]
    · rw [List.Nodup.dedup (hsorted.imp fun h => ne_of_gt h)]
    · exact (List.Pairwise.insertionSort_eq (hsorted.imp fun h => le_of_lt h)).symm
  unfold sourcePollHistory checkLimit
  simp only [hbefore, hlimit.1, hlimit.2, check, decide_true, if_true, bind, Except.bind]
  rw [hl before (limit + 1) (by omega)]
  dsimp only
  split
  · rw [← hcursor]
    rfl
  · rename_i e hrejected
    cases hvalid.symm.trans hrejected

/-! ### In memory -/

theorem takeVisible_eq (before : Option StreamIdᵒᵈ) : ∀ (limit : Nat) {transitions : List SourcePollTransition},
    (∀ t ∈ transitions, t.streamId = (transitionPosition t).text) →
    InMemorySourcePollStore.takeVisible (before.map OrderDual.ofDual) limit transitions =
      .ok ((behind transitionKey transitions before).take limit)
  | 0, _, _ => by rw [InMemorySourcePollStore.takeVisible, List.take_zero]
  | limit + 1, [], _ => rfl
  | limit + 1, t :: transitions, hn => by
    obtain ⟨ht, hn⟩ := List.forall_mem_cons.mp hn
    have hvisible : InMemorySourcePollStore.isVisible (before.map OrderDual.ofDual) t =
        .ok (before.all fun c => decide (c < transitionKey t)) := by
      cases before with
      | none => rfl
      | some c =>
        simp only [InMemorySourcePollStore.isVisible, Option.map_some, streamPosition]
        rw [ht, StreamId.parse_text]
        rfl
    unfold InMemorySourcePollStore.takeVisible behind
    rw [hvisible, List.filter_cons]
    simp only [bind, Except.bind]
    by_cases hv : (before.all fun c => decide (c < transitionKey t)) = true
    · rw [if_pos hv, if_pos hv, takeVisible_eq before limit hn]
      rfl
    · rw [if_neg hv, if_neg hv, takeVisible_eq before (limit + 1) hn]
      rfl

/-- The history of the in-memory store is numbered in order. -/
structure Numbered (s : InMemorySourcePollStore) (ids : List StreamId) : Prop where
  written : s.history.map (·.streamId) = ids.map StreamId.text
  sorted : ids.Pairwise (· < ·)
  bounded : ∀ i ∈ ids, i ≤ ⟨0, s.historySequence⟩

theorem Numbered.history {s : InMemorySourcePollStore} {ids : List StreamId} (h : Numbered s ids) : History s.history.reverse := by
  have hpositions : s.history.map transitionPosition = ids := by
    have hparse := congrArg (List.map fun id => (StreamId.parse? id).getD ⟨0, 0⟩) h.written
    have hid : (fun id => (StreamId.parse? id).getD ⟨0, 0⟩) ∘ StreamId.text = id := by
      funext i
      rw [Function.comp_apply, StreamId.parse_text]
      rfl
    rw [List.map_map, List.map_map, hid, List.map_id] at hparse
    exact hparse
  constructor
  · intro t ht
    have hmem : t.streamId ∈ ids.map StreamId.text := h.written ▸ List.mem_map_of_mem (List.mem_reverse.mp ht)
    obtain ⟨i, -, hi⟩ := List.mem_map.mp hmem
    rw [transitionPosition, ← hi, StreamId.parse_text]
    rfl
  · rw [List.pairwise_reverse]
    have hp := h.sorted
    rw [← hpositions, List.pairwise_map] at hp
    exact hp

theorem SourcePollTransition.make_data {d : TransitionData} {t : SourcePollTransition} (h : SourcePollTransition.make d = .ok t) :
    t.toTransitionData = d := by
  cases hv : d.validate with
  | ok u =>
    rw [SourcePollTransition.make_of_valid hv] at h
    rw [← Except.ok.inj h]
  | error e =>
    rw [SourcePollTransition.make, construct_of_invalid hv] at h
    cases h

theorem appendTransition_numbered {s : InMemorySourcePollStore} {ids : List StreamId} (h : Numbered s ids)
    (k : SourcePollTransitionKind) (attempt : SourcePollAttempt) : ∃ ids, Numbered (s.appendTransition k attempt).2 ids := by
  have hnext : (⟨0, s.historySequence⟩ : StreamId) < ⟨0, s.historySequence + 1⟩ :=
    StreamId.lt_iff.mpr (Or.inr ⟨rfl, Nat.lt_succ_self _⟩)
  unfold InMemorySourcePollStore.appendTransition
  dsimp only
  split
  · rename_i t ht
    have hid : t.streamId = StreamId.text ⟨0, s.historySequence + 1⟩ := by
      rw [SourcePollTransition.make_data ht]
    refine ⟨ids ++ [⟨0, s.historySequence + 1⟩], ?_, ?_, ?_⟩
    · simp only [List.map_append, h.written, List.map_cons, List.map_nil, hid]
    · refine List.pairwise_append.mpr ⟨h.sorted, List.pairwise_singleton _ _, fun i hi j hj => ?_⟩
      rw [List.mem_singleton.mp hj]
      exact (h.bounded i hi).trans_lt hnext
    · intro i hi
      rcases List.mem_append.mp hi with hi | hi
      · exact (h.bounded i hi).trans hnext.le
      · exact (List.mem_singleton.mp hi).le
  · exact ⟨ids, h.written, h.sorted, fun i hi => (h.bounded i hi).trans hnext.le⟩

theorem put_numbered {s : InMemorySourcePollStore} {ids : List StreamId} (h : Numbered s ids) (state : StateData)
    (k : SourcePollTransitionKind) : ∃ ids, Numbered (s.put state k).2 ids := by
  unfold InMemorySourcePollStore.put
  split
  · rename_i st hst
    exact appendTransition_numbered (s := { s with states := s.states.insert state.source st }) ⟨h.written, h.sorted, h.bounded⟩ k _
  · exact ⟨ids, h⟩

theorem call_numbered {s : InMemorySourcePollStore} (x : Tick × PollCall) (h : ∃ ids, Numbered s ids) :
    ∃ ids, Numbered (s.step x).2 ids := by
  obtain ⟨ids, h⟩ := h
  obtain ⟨t, call⟩ := x
  cases call with
  | recordStarted attempt policy =>
    show ∃ ids, Numbered (s.recordStarted attempt policy).2 ids
    unfold InMemorySourcePollStore.recordStarted
    dsimp only
    split_ifs
    · exact ⟨ids, h⟩
    · exact ⟨ids, h⟩
    · exact put_numbered h _ _
  | recordCompleted attempt =>
    show ∃ ids, Numbered (s.recordCompleted attempt).2 ids
    unfold InMemorySourcePollStore.recordCompleted
    split
    · exact ⟨ids, h⟩
    · split
      · exact ⟨ids, h⟩
      · split
        · exact ⟨ids, h⟩
        · exact put_numbered h _ _

theorem memory_history (calls : List (Tick × PollCall)) :
    History (Machine.run InMemorySourcePollStore.step .empty calls).history.reverse ∧
      Loads (Machine.run InMemorySourcePollStore.step .empty calls).loadRecentTransitions
        (Machine.run InMemorySourcePollStore.step .empty calls).history.reverse := by
  have hempty : ∃ ids, Numbered .empty ids := ⟨[], rfl, List.Pairwise.nil, fun i hi => by cases hi⟩
  have hall : ∀ x ∈ calls, True := fun _ _ => trivial
  obtain ⟨ids, h⟩ := Machine.run_inv (P := fun _ => True) (I := fun s => ∃ ids, Numbered s ids)
    (fun s x _ h => call_numbered x h) hempty hall
  refine ⟨h.history, fun before limit hlimit => ?_⟩
  unfold InMemorySourcePollStore.loadRecentTransitions
  rw [if_neg (by omega), cursorPosition_written]
  exact takeVisible_eq before limit h.history.named

/-! ### Valkey -/

theorem exists_left {α β : Type} {R : α → β → Prop} {l : List α} {l' : List β} (h : List.Forall₂ R l l') {b : β} (hb : b ∈ l') :
    ∃ a ∈ l, R a b := by
  induction h with
  | nil => cases hb
  | @cons a b' l l' hab _ ih =>
    rcases List.mem_cons.mp hb with rfl | hb
    · exact ⟨a, List.mem_cons_self, hab⟩
    · obtain ⟨x, hx, hxb⟩ := ih hb
      exact ⟨x, List.mem_cons_of_mem _ hx, hxb⟩

/-- The entries of the history stream are transitions under their ids. -/
def TransitionsKept (c : PollCodec) (db : PollDb) : Prop :=
  ∀ entry ∈ db.history.entries, ∃ t, ValkeySourcePollStore.decodeTransition c entry = .ok t ∧ t.streamId = entry.1.text

theorem decodeTransition_written {c : PollCodec} (id : StreamId) {attempt : SourcePollAttempt} {k : SourcePollTransitionKind}
    (hc : c.validateAttempt (c.dumpAttempt attempt) = .ok attempt) (hk : attempt.outcome = expectedOutcome k) :
    ∃ t, ValkeySourcePollStore.decodeTransition c
        (id, [("source", attempt.source.text), ("transition", k.text), ("attempt", c.dumpAttempt attempt)]) = .ok t ∧
      t.streamId = id.text := by
  have hvalid : TransitionData.validate ⟨id.text, attempt.source, k, attempt⟩ = .ok () := by
    simp only [TransitionData.validate, bind_unit_ok, check_eq_ok, matchesStreamId_written, hk, decide_true, and_self]
  refine ⟨⟨_, hvalid⟩, ?_, rfl⟩
  have hsource : SourceName.all.find? (fun s => s.text = attempt.source.text) = some attempt.source := by
    cases attempt.source <;> decide
  have htransition : SourcePollTransitionKind.all.find? (fun k' => k'.text = k.text) = some k := by
    cases k <;> decide
  simp [ValkeySourcePollStore.decodeTransition, List.lookup, hc, hsource, htransition,
    SourcePollTransition.make_of_valid hvalid]

theorem transitionsKept_xadd {c : PollCodec} {db : PollDb} (h : TransitionsKept c db) (t : Tick)
    {fields : List (String × String)}
    (hf : ∀ id, ∃ t, ValkeySourcePollStore.decodeTransition c (id, fields) = .ok t ∧ t.streamId = id.text)
    {db' : PollDb} (hdb : db'.history = (db.history.xadd t fields).2) : TransitionsKept c db' := by
  intro entry hentry
  rw [hdb] at hentry
  rcases List.mem_append.mp (List.mem_of_mem_drop hentry) with hentry | hentry
  · exact h entry hentry
  · rw [List.mem_singleton.mp hentry]
    exact hf _

theorem settle_snd (refused : PollError) (r : ScriptResult) : (ValkeySourcePollStore.settle refused r).2 = r.2 := by
  unfold ValkeySourcePollStore.settle
  split
  · rfl
  · split <;> rfl

theorem call_kept {c : PollCodec} {db : PollDb} (x : Tick × PollCall) (hx : c.RoundTrips x.2) (h : TransitionsKept c db) :
    TransitionsKept c (ValkeySourcePollStore.step c db x).2 := by
  obtain ⟨t, call⟩ := x
  cases call with
  | recordStarted attempt policy =>
    show TransitionsKept c (ValkeySourcePollStore.recordStarted c db t attempt policy).2
    unfold ValkeySourcePollStore.recordStarted
    split
    · exact h
    · rename_i hstart
      rw [not_or, not_not] at hstart
      rw [settle_snd]
      unfold recordStartScript
      dsimp only
      split
      · exact h
      · exact transitionsKept_xadd h t (fun id => @decodeTransition_written c id attempt .started hx.1 hstart.1) rfl
  | recordCompleted attempt =>
    show TransitionsKept c (ValkeySourcePollStore.recordCompleted c db t attempt).2
    unfold ValkeySourcePollStore.recordCompleted
    split
    · exact h
    · rename_i hdone
      rw [not_or] at hdone
      obtain ⟨k, hk, htext⟩ : ∃ k, attempt.outcome = expectedOutcome k ∧ attempt.outcome.text = k.text := by
        cases hout : attempt.outcome with
        | inProgress => exact absurd hout hdone.1
        | succeeded => exact ⟨.succeeded, rfl, rfl⟩
        | failed => exact ⟨.failed, rfl, rfl⟩
      rw [settle_snd]
      unfold recordCompletionScript
      dsimp only
      split
      · exact h
      · split
        · exact h
        · refine transitionsKept_xadd h t (fun id => ?_) rfl
          rw [htext]
          exact decodeTransition_written id hx hk

theorem valkey_history {c : PollCodec} {calls : List (Tick × PollCall)} (hc : ∀ x ∈ calls, c.RoundTrips x.2) :
    ∃ transitions, (Machine.run (ValkeySourcePollStore.step c) .empty calls).history.entries.reverse.mapM
        (ValkeySourcePollStore.decodeTransition c) = .ok transitions ∧ History transitions ∧
      Loads (ValkeySourcePollStore.loadRecentTransitions c (Machine.run (ValkeySourcePollStore.step c) .empty calls))
        transitions := by
  have hkept : TransitionsKept c (Machine.run (ValkeySourcePollStore.step c) .empty calls) :=
    Machine.run_inv (P := fun x : Tick × PollCall => c.RoundTrips x.2) (fun db x hx h => call_kept x hx h)
      (fun e he => by cases he) hc
  generalize Machine.run (ValkeySourcePollStore.step c) .empty calls = db at hkept
  have hdecode : ∀ l : List (StreamId × List (String × String)), (∀ entry ∈ l, entry ∈ db.history.entries) →
      ∃ transitions, List.Forall₂ (fun entry t => ValkeySourcePollStore.decodeTransition c entry = .ok t ∧
        t.streamId = entry.1.text) l transitions := by
    intro l
    induction l with
    | nil => exact fun _ => ⟨[], .nil⟩
    | cons entry l ih =>
      intro hl
      obtain ⟨t, ht⟩ := hkept entry (hl entry List.mem_cons_self)
      obtain ⟨ts, hts⟩ := ih fun e he => hl e (List.mem_cons_of_mem _ he)
      exact ⟨t :: ts, .cons ht hts⟩
  obtain ⟨transitions, hall⟩ := hdecode _ fun entry h => List.mem_reverse.mp h
  have hposition : ∀ (entry : StreamId × List (String × String)) t, t.streamId = entry.1.text → transitionPosition t = entry.1 := by
    intro entry t h
    rw [transitionPosition, h, StreamId.parse_text]
    rfl
  have hpositions : transitions.map transitionPosition = db.history.entries.reverse.map Prod.fst := by
    generalize db.history.entries.reverse = l at hall
    induction hall with
    | nil => rfl
    | cons h _ ih => rw [List.map_cons, List.map_cons, ih, hposition _ _ h.2]
  have hnamed : ∀ t ∈ transitions, t.streamId = (transitionPosition t).text := by
    intro t ht
    obtain ⟨entry, -, h⟩ := exists_left hall ht
    rw [hposition _ _ h.2, h.2]
  have hsorted : transitions.Pairwise fun a b => transitionKey a < transitionKey b := by
    have hp : (db.history.entries.reverse.map Prod.fst).Pairwise fun a b => b < a :=
      List.pairwise_map.mpr (List.pairwise_reverse.mpr db.history.sorted)
    rw [← hpositions, List.pairwise_map] at hp
    exact hp
  refine ⟨transitions, mapM_ok.mpr (hall.imp fun _ _ h => h.1), ⟨hnamed, hsorted⟩, fun before limit hlimit => ?_⟩
  unfold ValkeySourcePollStore.loadRecentTransitions
  rw [if_neg (by omega), cursorPosition_written]
  refine mapM_ok.mpr (List.Forall₂.imp (fun _ _ h => h.1) (List.forall₂_take limit (List.rel_filter (fun entry t h => ?_) hall)))
  dsimp only
  rw [Option.all_map, transitionKey, hposition _ _ h.2]
  rfl

/-! ## Replay -/

section
variable {E : Type} {m : EventModel E}

open ValkeyEventBus

/-- The replay of a bus pages over its positioned events. -/
structure Replays (replay : Option String → Nat → Except String (List (StreamMessage E))) (events : List (StreamId × E)) :
    Prop where
  sorted : events.Pairwise fun a b => a.1 < b.1
  page : ∀ (after : Option StreamId) (limit : Nat),
    replay (after.map StreamId.text) limit = .ok (((behind Prod.fst events after).take limit).map message)

theorem mapM_message (events : List (StreamId × E)) :
    events.mapM (fun x => (.ok (message x) : Except String (StreamMessage E))) = .ok (events.map message) :=
  mapM_ok.mpr (List.forall₂_map_right_iff.mpr (List.forall₂_same.mpr fun _ _ => rfl))

theorem replayEvents_page {replay : Option String → Nat → Except String (List (StreamMessage E))}
    {events : List (StreamId × E)} (hr : Replays replay events) {limit : Nat} (hlimit : 1 ≤ limit ∧ limit ≤ 500)
    (after : Option StreamId) :
    (replayEvents replay (after.map StreamId.text) limit).map ReplayResponse.page =
      ((page Prod.fst events limit after).items.mapM fun x => Except.ok (message x)).map fun items =>
        ⟨items, (page Prod.fst events limit after).nextCursor.map StreamId.text, (page Prod.fst events limit after).hasMore⟩ := by
  rw [mapM_message]
  unfold replayEvents checkLimit
  simp only [hlimit.1, hlimit.2, check, decide_true, if_true, bind, Except.bind, hr.page after (limit + 1)]
  simp only [Except.map, ReplayResponse.page, page, probe, List.length_map, ← List.map_take, List.getLast?_map,
    Option.map_map]
  rfl

/-- The pages of a replay, one bus and limit for each. -/
def replayPages (requests : List ((Option String → Nat → Except String (List (StreamMessage E))) × Nat)) :
    Except String (List (StreamMessage E) × Bool) :=
  follow (requests.map fun r after => (replayEvents r.1 after r.2).map ReplayResponse.page) none

theorem replayPages_eq {requests : List ((Option String → Nat → Except String (List (StreamMessage E))) × Nat)}
    {tables : List (List (StreamId × E) × Nat)}
    (h : List.Forall₂ (fun r t => Replays r.1 t.1 ∧ r.2 = t.2 ∧ 1 ≤ r.2 ∧ r.2 ≤ 500) requests tables) :
    replayPages requests = .ok ((read Prod.fst tables none).1.map message, (read Prod.fst tables none).2) := by
  have hcalls : List.Forall₂ (fun call t => ∀ after : Option StreamId, call (after.map StreamId.text) =
      ((page Prod.fst t.1 t.2 after).items.mapM fun x => Except.ok (message x)).map fun items =>
        ⟨items, (page Prod.fst t.1 t.2 after).nextCursor.map StreamId.text, (page Prod.fst t.1 t.2 after).hasMore⟩)
      (requests.map fun r after => (replayEvents r.1 after r.2).map ReplayResponse.page) tables := by
    refine List.forall₂_map_left_iff.mpr (h.imp fun r t ht after => ?_)
    rw [← ht.2.1]
    exact replayEvents_page ht.1 ht.2.2 after
  have hfollow := follow_eq (fun x => .ok (message x)) StreamId.text hcalls none
  rw [mapM_message] at hfollow
  exact hfollow

/-! ### Valkey -/

theorem replays_valkey {db : BusDb} {events : List (StreamId × E)} (h : Decodes m db.stream.entries events) :
    Replays (ValkeyEventBus.replay m db) events := by
  have hids : db.stream.entries.map Prod.fst = events.map Prod.fst := by
    generalize db.stream.entries = l at h
    induction h with
    | nil => rfl
    | cons hx _ ih => rw [List.map_cons, List.map_cons, hx.1, ih]
  constructor
  · have hs : (db.stream.entries.map Prod.fst).Pairwise (· < ·) := List.pairwise_map.mpr db.stream.sorted
    rw [hids, List.pairwise_map] at hs
    exact hs
  · intro after limit
    rw [replay_eq_page]
    refine decodeMessages_ok.mpr ⟨_, List.forall₂_take limit (List.rel_filter (fun x y hxy => ?_) h), rfl⟩
    dsimp only
    rw [hxy.1]

/-- A publication of an event that can be read back. -/
def Publishes (m : EventModel E) (ttl : Nat) (db db' : BusDb) : Prop := ∃ t e, Readable m e ∧ db' = (runCommand m ttl t e db).2

theorem Publishes.cases {ttl : Nat} {db db' : BusDb} (h : Publishes m ttl db db') :
    db'.stream = db.stream ∨ ∃ t e, Readable m e ∧ db'.stream = (db.stream.xadd t (m.modelDumpJson e)).2 := by
  obtain ⟨t, e, he, rfl⟩ := h
  unfold runCommand publishOnceScript
  cases db.keys.get t.now (dedupeKey m e) with
  | some existing => exact Or.inl rfl
  | none => exact Or.inr ⟨t, e, he, rfl⟩

/-- The entries of a content that is published to can be read. -/
theorem exists_decodes {ttl : Nat} {db : BusDb} (h : Relation.ReflTransGen (Publishes m ttl) .empty db) :
    ∃ events, Decodes m db.stream.entries events := by
  have hread : ∀ entry ∈ db.stream.entries, ∃ e, m.modelValidateJson entry.2 = .ok e := by
    induction h with
    | refl => exact fun entry he => by cases he
    | @tail db db' _ hstep ih =>
      intro entry hentry
      rcases hstep.cases with heq | ⟨t, e, he, heq⟩
      · exact ih entry (heq ▸ hentry)
      · rw [heq] at hentry
        rcases List.mem_append.mp (List.mem_of_mem_drop hentry) with hentry | hentry
        · exact ih entry hentry
        · rw [List.mem_singleton.mp hentry]
          exact ⟨e, he⟩
  revert hread
  generalize db.stream.entries = l
  intro hread
  induction l with
  | nil => exact ⟨[], .nil⟩
  | cons entry l ih =>
    obtain ⟨e, he⟩ := hread entry List.mem_cons_self
    obtain ⟨events, hevents⟩ := ih fun x hx => hread x (List.mem_cons_of_mem _ hx)
    exact ⟨(entry.1, e) :: events, .cons ⟨rfl, he⟩ hevents⟩

/-- Publication adds entries behind those that there are. -/
theorem entries_of_published {ttl : Nat} {db db' : BusDb} (h : Relation.ReflTransGen (Publishes m ttl) db db') :
    db.stream.lastId ≤ db'.stream.lastId ∧
      ∀ entry ∈ db'.stream.entries, entry.1 ≤ db.stream.lastId → entry ∈ db.stream.entries := by
  induction h with
  | refl => exact ⟨le_rfl, fun _ h _ => h⟩
  | @tail a b _ hstep ih =>
    rcases hstep.cases with heq | ⟨t, e, -, heq⟩
    · rw [heq]
      exact ih
    · rw [heq]
      have hlt : a.stream.lastId < a.stream.lastId.next t.now := StreamId.lt_next _ _
      refine ⟨ih.1.trans hlt.le, fun entry hentry hle => ?_⟩
      rcases List.mem_append.mp (List.mem_of_mem_drop hentry) with hentry | hentry
      · exact ih.2 entry hentry hle
      · rw [List.mem_singleton.mp hentry] at hle
        exact absurd hle (not_le.mpr (ih.1.trans_lt hlt))

/-! ### In memory -/

theorem replays_memory {bus : InMemoryEventBus E} {events : List (StreamId × E)} (h : MemoryHolds m bus events) :
    Replays bus.replay events := by
  have hs : events.Pairwise fun a b => a.1 < b.1 := by
    have hp : (events.map Prod.fst).Pairwise (· < ·) := by
      rw [h.ids, List.pairwise_map]
      refine List.pairwise_lt_range.imp fun {a b} hlt => ?_
      exact StreamId.lt_iff.mpr (Or.inr ⟨rfl, Nat.succ_lt_succ hlt⟩)
    exact List.pairwise_map.mp hp
  refine ⟨hs, fun after limit => ?_⟩
  cases after with
  | none =>
    simp only [InMemoryEventBus.replay, Option.map_none, h.messages, List.map_take, behind, Option.all_none, List.filter_true]
  | some c =>
    have hfind : (events.map message).findIdx (fun x => (StreamId.parse? x.streamId).any (c < ·)) =
        events.findIdx fun x => decide (c < x.1) := by
      rw [List.findIdx_map]
      congr 1
      funext x
      simp only [Function.comp_apply, StreamId.parse_text, Option.any_some]
    simp only [InMemoryEventBus.replay, Option.map_some, parseStreamId_text, bind, Except.bind, h.messages, hfind]
    rw [← List.map_drop, ← List.map_take, behind_eq_drop c hs]

end

/-! ## Pages in a row -/

section
variable {E G : Type} (m : EventModel E)

/-- The pages of the current signals, one clock reading and limit for each. -/
def signalPages (intersects : G → GeoBounds → Bool) (columns : String → SignalColumns G) (db : SignalDb) (query : SignalQuery)
    (requests : List (Datetime × Nat)) : Except String (List (StreamMessage E) × Bool) :=
  follow (requests.map fun r after => queryCurrent m intersects columns r.1 db { query with limit := r.2, after }) none

/-- The pages of the transitions, one clock reading and limit for each. -/
def historyPages (load : Option String → Nat → Except PollError (List SourcePollTransition)) (requests : List (Datetime × Nat)) :
    Except String (List SourcePollTransition × Bool) :=
  follow (requests.map fun r before => (sourcePollHistory load r.1 before r.2).map SourcePollHistoryResponse.page) none

variable {m}

theorem signalPages_eq {columns : String → SignalColumns G} {db : SignalDb} (hk : SignalsKept (signalRows columns db))
    (intersects : G → GeoBounds → Bool) (query : SignalQuery) (requests : List (Datetime × Nat)) :
    signalPages m intersects columns db query requests =
      ((read signalKey (requests.map fun r =>
        (newestFirst ((signalRows columns db).filter (matchesSignal intersects r.1 query)), r.2)) none).1.mapM
          (signalMessage m)).map fun items => (items, (read signalKey (requests.map fun r =>
        (newestFirst ((signalRows columns db).filter (matchesSignal intersects r.1 query)), r.2)) none).2) := by
  refine follow_eq (signalMessage m) writtenKey ?_ none
  refine List.forall₂_map_left_iff.mpr (List.forall₂_map_right_iff.mpr (List.forall₂_same.mpr fun r _ after => ?_))
  exact queryCurrent_eq hk intersects r.1 query r.2 after

/-- Pages of the current signals: each row that matches throughout is read
once, newest first. -/
theorem signalPages_spec {columns : String → SignalColumns G} {db : SignalDb} (hk : SignalsKept (signalRows columns db))
    (hread : ∀ row ∈ signalRows columns db, ∃ event, m.modelValidateJson row.eventJson = .ok event)
    (intersects : G → GeoBounds → Bool) (query : SignalQuery) {requests : List (Datetime × Nat)}
    (hl : ∀ r ∈ requests, 1 ≤ r.2) (hlen : (signalRows columns db).length < requests.length) :
    ∃ (rows : List (SignalRow G)) (items : List (StreamMessage E)),
      signalPages m intersects columns db query requests = .ok (items, true) ∧
      rows.mapM (signalMessage m) = .ok items ∧
      (rows.Pairwise fun a b => b.pointer.position < a.pointer.position) ∧
      (∀ row ∈ rows, row ∈ signalRows columns db ∧ ∃ r ∈ requests, matchesSignal intersects r.1 query row = true) ∧
      ∀ row ∈ signalRows columns db, (∀ r ∈ requests, matchesSignal intersects r.1 query row = true) → row ∈ rows := by
  rw [signalPages_eq hk]
  set tables := requests.map fun r =>
    (newestFirst ((signalRows columns db).filter (matchesSignal intersects r.1 query)), r.2) with htables
  have hmem : ∀ (r : Datetime × Nat) row, row ∈ newestFirst ((signalRows columns db).filter (matchesSignal intersects r.1 query)) ↔
      row ∈ signalRows columns db ∧ matchesSignal intersects r.1 query row = true := fun r row => by
    rw [newestFirst, (List.perm_insertionSort _ _).mem_iff, List.mem_filter]
  have ho : Ordered signalKey tables := by
    intro t ht
    obtain ⟨r, hr, rfl⟩ := List.mem_map.mp ht
    exact ⟨newestFirst_sorted (hk.positions.sublist (List.filter_sublist.map _)), hl r hr⟩
  have hends : (read signalKey tables none).2 = true := by
    refine read_ends ho (signalRows columns db) (fun t ht row hrow => ?_) (by rwa [htables, List.length_map])
    obtain ⟨r, -, rfl⟩ := List.mem_map.mp ht
    exact ((hmem r row).mp hrow).1
  obtain ⟨hsorted, hrows⟩ := read_sorted ho none
  have hfrom : ∀ row ∈ (read signalKey tables none).1,
      row ∈ signalRows columns db ∧ ∃ r ∈ requests, matchesSignal intersects r.1 query row = true := by
    intro row hrow
    obtain ⟨⟨t, ht, hin⟩, -⟩ := hrows row hrow
    obtain ⟨r, hr, rfl⟩ := List.mem_map.mp ht
    exact ⟨((hmem r row).mp hin).1, r, hr, ((hmem r row).mp hin).2⟩
  obtain ⟨items, hitems⟩ := exists_mapM (f := signalMessage m) fun row hrow => by
    obtain ⟨event, he⟩ := hread row (hfrom row hrow).1
    exact ⟨_, map_ok.mpr ⟨event, he, rfl⟩⟩
  refine ⟨_, items, by rw [hitems, hends]; rfl, hitems, hsorted, hfrom, fun row hrow hall => ?_⟩
  refine mem_read ho (signalRows columns db) (fun t ht b hb _ => ?_) (fun t ht => ?_) (fun c hc => by cases hc) (Or.inl hends)
  · obtain ⟨r, -, rfl⟩ := List.mem_map.mp ht
    exact ((hmem r b).mp hb).1
  · obtain ⟨r, hr, rfl⟩ := List.mem_map.mp ht
    exact (hmem r row).mpr ⟨hrow, hall r hr⟩

/-- Pages of a history: its transitions, newest first. -/
theorem historyPages_eq {load : Option String → Nat → Except PollError (List SourcePollTransition)}
    {transitions : List SourcePollTransition} (hload : Loads load transitions) (ht : History transitions)
    {requests : List (Datetime × Nat)} (hr : ∀ r ∈ requests, r.1.isUtc = true ∧ 1 ≤ r.2 ∧ r.2 ≤ 100)
    (hlen : transitions.length < requests.length) : historyPages load requests = .ok (transitions, true) := by
  have hok : ∀ l : List SourcePollTransition, l.mapM (fun t => (.ok t : Except String SourcePollTransition)) = .ok l := fun l =>
    mapM_ok.mpr (List.forall₂_same.mpr fun _ _ => rfl)
  have hcalls : List.Forall₂ (fun call t => ∀ before : Option StreamIdᵒᵈ, call (before.map writtenKey) =
      ((page transitionKey t.1 t.2 before).items.mapM fun t => Except.ok t).map fun items =>
        ⟨items, (page transitionKey t.1 t.2 before).nextCursor.map writtenKey, (page transitionKey t.1 t.2 before).hasMore⟩)
      (requests.map fun r before => (sourcePollHistory load r.1 before r.2).map SourcePollHistoryResponse.page)
      (requests.map fun r => (transitions, r.2)) := by
    refine List.forall₂_map_left_iff.mpr (List.forall₂_map_right_iff.mpr (List.forall₂_same.mpr fun r h before => ?_))
    rw [hok]
    exact sourcePollHistory_page hload ht (hr r h).1 (hr r h).2 before
  have hsame : ∀ t ∈ requests.map fun r => (transitions, r.2), t.1 = transitions ∧ 1 ≤ t.2 := by
    intro t h
    obtain ⟨r, hmem, rfl⟩ := List.mem_map.mp h
    exact ⟨rfl, (hr r hmem).2.1⟩
  have hfollow := follow_eq (fun t => .ok t) writtenKey hcalls none
  rw [hok, read_eq ht.sorted hsame (by rwa [List.length_map])] at hfollow
  exact hfollow

open ValkeyEventBus

/-- Pages of a replay over contents that keep what they had in order: what
stays is read once, oldest first. -/
theorem replayPages_spec {events : List (StreamId × E)} {requests : List ((Option String → Nat →
      Except String (List (StreamMessage E))) × Nat)}
    (hr : ∀ r ∈ requests, (∃ l, Replays r.1 l ∧ ∀ x ∈ events, ∀ y ∈ l, y.1 ≤ x.1 → y ∈ events) ∧ 1 ≤ r.2 ∧ r.2 ≤ 500) :
    ∃ (items : List (StreamId × E)) (ended : Bool), replayPages requests = .ok (items.map message, ended) ∧
      (items.Pairwise fun a b => a.1 < b.1) ∧
      ∀ x ∈ events, (∀ r ∈ requests, ∀ l, Replays r.1 l → x ∈ l) →
        ended = true ∨ events.length ≤ requests.length ∧ requests ≠ [] → x ∈ items := by
  have htables : ∃ tables : List (List (StreamId × E) × Nat),
      List.Forall₂ (fun r t => (Replays r.1 t.1 ∧ r.2 = t.2 ∧ 1 ≤ r.2 ∧ r.2 ≤ 500) ∧
        ∀ x ∈ events, ∀ y ∈ t.1, y.1 ≤ x.1 → y ∈ events) requests tables := by
    induction requests with
    | nil => exact ⟨[], .nil⟩
    | cons r requests ih =>
      obtain ⟨⟨⟨l, hl, hkeep⟩, hlimit⟩, hr⟩ := List.forall_mem_cons.mp hr
      obtain ⟨tables, ht⟩ := ih hr
      exact ⟨(l, r.2) :: tables, .cons ⟨⟨hl, rfl, hlimit⟩, hkeep⟩ ht⟩
  obtain ⟨tables, ht⟩ := htables
  have ho : Ordered Prod.fst tables := by
    intro t h
    obtain ⟨r, -, hrt, -⟩ := exists_left ht h
    exact ⟨hrt.1.sorted, hrt.2.1 ▸ hrt.2.2.1⟩
  refine ⟨_, _, replayPages_eq (ht.imp fun _ _ h => h.1), (read_sorted ho none).1, fun x hx hall hend => ?_⟩
  refine mem_read ho events (fun t h y hy hle => ?_) (fun t h => ?_) (fun c hc => by cases hc) ?_
  · obtain ⟨r, -, -, hkeep⟩ := exists_left ht h
    exact hkeep x hx y hy hle
  · obtain ⟨r, hmem, hrt, -⟩ := exists_left ht h
    exact hall r hmem t.1 hrt.1
  · refine hend.imp id fun h => ⟨?_, fun hnil => ?_⟩
    · rw [← ht.length_eq]
      exact (List.length_filter_le _ _).trans h.1
    · rw [hnil] at ht
      exact h.2 (List.forall₂_nil_right_iff.mp ht)

/-- Pages of one content. -/
theorem replayPages_fixed {events : List (StreamId × E)} {replay : Option String → Nat → Except String (List (StreamMessage E))}
    (he : Replays replay events) {limits : List Nat} (hl : ∀ n ∈ limits, 1 ≤ n ∧ n ≤ 500) (hlen : events.length < limits.length) :
    replayPages (limits.map fun n => (replay, n)) = .ok (events.map message, true) := by
  have ht : List.Forall₂ (fun r t => Replays r.1 t.1 ∧ r.2 = t.2 ∧ 1 ≤ r.2 ∧ r.2 ≤ 500)
      (limits.map fun n => (replay, n)) (limits.map fun n => (events, n)) :=
    List.forall₂_map_left_iff.mpr (List.forall₂_map_right_iff.mpr (List.forall₂_same.mpr fun n h => ⟨he, rfl, hl n h⟩))
  have hsame : ∀ t ∈ limits.map fun n => (events, n), t.1 = events ∧ 1 ≤ t.2 := by
    intro t h
    obtain ⟨n, hn, rfl⟩ := List.mem_map.mp h
    exact ⟨rfl, (hl n hn).1⟩
  rw [replayPages_eq ht, read_eq he.sorted hsame (by rwa [List.length_map])]

theorem Replays.unique {replay : Option String → Nat → Except String (List (StreamMessage E))} {l l' : List (StreamId × E)}
    (h : Replays replay l) (h' : Replays replay l') : l = l' := by
  have hpage := (h.page none (l.length + l'.length)).symm.trans (h'.page none (l.length + l'.length))
  have hall : ∀ l : List (StreamId × E), behind Prod.fst l none = l := fun l => List.filter_eq_self.mpr fun _ _ => rfl
  rw [hall, hall, List.take_of_length_le (Nat.le_add_right _ _), List.take_of_length_le (Nat.le_add_left _ _)] at hpage
  refine List.map_injective_iff.mpr (fun x y hxy => ?_) (Except.ok.inj hpage)
  obtain ⟨hid, hevent⟩ := StreamMessage.mk.inj hxy
  exact Prod.ext (StreamId.text_injective hid) hevent

theorem valkey_kept {ttl : Nat} {start db : BusDb} {events l : List (StreamId × E)} (he : Decodes m start.stream.entries events)
    (h : Relation.ReflTransGen (Publishes m ttl) start db) (hl : Decodes m db.stream.entries l) :
    ∀ x ∈ events, ∀ y ∈ l, y.1 ≤ x.1 → y ∈ events := by
  intro x hx y hy hle
  obtain ⟨a, ha, hax, -⟩ := he.of_right hx
  obtain ⟨b, hb, hby, hv⟩ := hl.of_right hy
  have hbound : b.1 ≤ start.stream.lastId := by
    rw [hby]
    exact hle.trans (hax ▸ start.stream.bounded a ha)
  obtain ⟨e, hmem, hv'⟩ := he.of_left ((entries_of_published h).2 b hb hbound)
  rw [hv] at hv'
  rw [hby, ← Except.ok.inj hv'] at hmem
  exact hmem

/-- A step of the in-memory bus. -/
def PublishesInMemory (m : EventModel E) (bus bus' : InMemoryEventBus E) : Prop := ∃ e, bus' = (bus.publish m e).2

theorem memory_kept {start bus : InMemoryEventBus E} {events : List (StreamId × E)} (he : MemoryHolds m start events)
    (h : Relation.ReflTransGen (PublishesInMemory m) start bus) : ∃ l, MemoryHolds m bus l ∧ events <+: l := by
  induction h with
  | refl => exact ⟨events, he, List.prefix_rfl⟩
  | @tail a b _ hstep ih =>
    obtain ⟨l, hl, hpre⟩ := ih
    obtain ⟨e, rfl⟩ := hstep
    refine ⟨_, (hl.publish e).2.2, hpre.trans ?_⟩
    cases hf : Once.find (eventFingerprint m) l (eventFingerprint m e) with
    | some i => rw [Once.record_of_find hf]
    | none =>
      rw [Once.record_of_none hf]
      exact List.prefix_append _ _

theorem exists_memoryHolds {bus : InMemoryEventBus E} (h : Relation.ReflTransGen (PublishesInMemory m) .empty bus) :
    ∃ l, MemoryHolds m bus l :=
  (memory_kept MemoryHolds.empty h).imp fun _ h => h.1

end

/-! ## Pagination -/

/-- **Pagination.** Following the cursors as long as there is more reads every
matching item once, in order, in at most one page more than there are items:
the current signals that match at the time of every page, the transitions of
both stores, and the messages of both buses. While messages are appended, a
replay reads what stays in the stream once; the in-memory bus keeps all. -/
theorem pages_exact {E G : Type} (m : EventModel E) (c : PollCodec) (ttl : Nat) :
    (∀ (W : Type) [DecidableEq W] (name : W → String) (s : Consumer.System StreamId String String SignalDb W),
      Consumer.Reachable (projectionStore m) name .empty s →
      (∀ x ∈ s.entries, ∀ e, m.modelValidateJson x.2 = .ok e → Readable m e) →
      ∀ (columns : String → SignalColumns G) (intersects : G → GeoBounds → Bool) (query : SignalQuery)
        (requests : List (Datetime × Nat)), (∀ r ∈ requests, 1 ≤ r.2) → (signalRows columns s.db).length < requests.length →
      ∃ (rows : List (SignalRow G)) (items : List (StreamMessage E)),
        signalPages m intersects columns s.db query requests = .ok (items, true) ∧
        rows.mapM (signalMessage m) = .ok items ∧
        (rows.Pairwise fun a b => b.pointer.position < a.pointer.position) ∧
        (∀ row ∈ rows, row ∈ signalRows columns s.db ∧ ∃ r ∈ requests, matchesSignal intersects r.1 query row = true) ∧
        ∀ row ∈ signalRows columns s.db, (∀ r ∈ requests, matchesSignal intersects r.1 query row = true) → row ∈ rows) ∧
    (∀ (calls : List (Tick × PollCall)) (requests : List (Datetime × Nat)),
      (∀ r ∈ requests, r.1.isUtc = true ∧ 1 ≤ r.2 ∧ r.2 ≤ 100) →
      ((Machine.run InMemorySourcePollStore.step .empty calls).history.length < requests.length →
        historyPages (Machine.run InMemorySourcePollStore.step .empty calls).loadRecentTransitions requests =
          .ok ((Machine.run InMemorySourcePollStore.step .empty calls).history.reverse, true)) ∧
      ((∀ x ∈ calls, c.RoundTrips x.2) →
        (Machine.run (ValkeySourcePollStore.step c) .empty calls).history.entries.length < requests.length →
        ∃ transitions, (Machine.run (ValkeySourcePollStore.step c) .empty calls).history.entries.reverse.mapM
            (ValkeySourcePollStore.decodeTransition c) = .ok transitions ∧
          historyPages (ValkeySourcePollStore.loadRecentTransitions c
            (Machine.run (ValkeySourcePollStore.step c) .empty calls)) requests = .ok (transitions, true))) ∧
    (∀ start : BusDb, Relation.ReflTransGen (Publishes m ttl) .empty start →
      ∃ events, Decodes m start.stream.entries events ∧
        (∀ limits : List Nat, (∀ n ∈ limits, 1 ≤ n ∧ n ≤ 500) → events.length < limits.length →
          replayPages (limits.map fun n => (ValkeyEventBus.replay m start, n)) = .ok (events.map message, true)) ∧
        ∀ requests : List (BusDb × Nat),
          (∀ r ∈ requests, Relation.ReflTransGen (Publishes m ttl) start r.1 ∧ 1 ≤ r.2 ∧ r.2 ≤ 500) →
          ∃ (items : List (StreamId × E)) (ended : Bool),
            replayPages (requests.map fun r => (ValkeyEventBus.replay m r.1, r.2)) = .ok (items.map message, ended) ∧
            (items.Pairwise fun a b => a.1 < b.1) ∧
            ∀ x ∈ events, (∀ r ∈ requests, x.1 ∈ r.1.stream.entries.map Prod.fst) →
              ended = true ∨ events.length ≤ requests.length ∧ requests ≠ [] → x ∈ items) ∧
    (∀ start : InMemoryEventBus E, Relation.ReflTransGen (PublishesInMemory m) .empty start →
      ∃ events : List (StreamId × E), start.messages = events.map message ∧
        (∀ limits : List Nat, (∀ n ∈ limits, 1 ≤ n ∧ n ≤ 500) → events.length < limits.length →
          replayPages (limits.map fun n => (start.replay, n)) = .ok (events.map message, true)) ∧
        ∀ requests : List (InMemoryEventBus E × Nat),
          (∀ r ∈ requests, Relation.ReflTransGen (PublishesInMemory m) start r.1 ∧ 1 ≤ r.2 ∧ r.2 ≤ 500) →
          ∃ (items : List (StreamId × E)) (ended : Bool),
            replayPages (requests.map fun r => (r.1.replay, r.2)) = .ok (items.map message, ended) ∧
            (items.Pairwise fun a b => a.1 < b.1) ∧
            ∀ x ∈ events, ended = true ∨ events.length ≤ requests.length ∧ requests ≠ [] → x ∈ items) := by
  refine ⟨?_, ?_, ?_, ?_⟩
  · intro W _ name s hs hread columns intersects query requests hl hlen
    obtain ⟨hk, hrows⟩ := signalRows_kept hs columns
    exact signalPages_spec hk (hrows hread) intersects query hl hlen
  · intro calls requests hr
    refine ⟨fun hlen => ?_, fun hc hlen => ?_⟩
    · obtain ⟨ht, hload⟩ := memory_history calls
      exact historyPages_eq hload ht hr (by rwa [List.length_reverse])
    · obtain ⟨transitions, hdecode, ht, hload⟩ := valkey_history hc
      refine ⟨transitions, hdecode, historyPages_eq hload ht hr ?_⟩
      rw [← (mapM_ok.mp hdecode).length_eq, List.length_reverse]
      exact hlen
  · intro start hstart
    obtain ⟨events, he⟩ := exists_decodes hstart
    refine ⟨events, he, fun limits hl hlen => replayPages_fixed (replays_valkey he) hl hlen, fun requests hr => ?_⟩
    have hpages := @replayPages_spec E events (requests.map fun r => (ValkeyEventBus.replay m r.1, r.2))
      (List.forall_mem_map.mpr fun r hmem => by
        obtain ⟨l, hl⟩ := exists_decodes (hstart.trans (hr r hmem).1)
        exact ⟨⟨l, replays_valkey hl, valkey_kept he (hr r hmem).1 hl⟩, (hr r hmem).2⟩)
    obtain ⟨items, ended, hok, hs, hall⟩ := hpages
    refine ⟨items, ended, hok, hs, fun x hx hstays hend => hall x hx (List.forall_mem_map.mpr fun r hmem l hl => ?_)
      (by simpa using hend)⟩
    obtain ⟨l', hl'⟩ := exists_decodes (hstart.trans (hr r hmem).1)
    rw [hl.unique (replays_valkey hl')]
    obtain ⟨entry, hentry, hid⟩ := List.mem_map.mp (hstays r hmem)
    obtain ⟨e, hin, hv⟩ := hl'.of_left hentry
    have hkept := valkey_kept he (hr r hmem).1 hl' x hx _ hin hid.le
    rw [hid] at hkept hin
    have hnodup : (events.map Prod.fst).Nodup :=
      List.pairwise_map.mpr ((replays_valkey he).sorted.imp fun h => ne_of_lt h)
    rwa [List.inj_on_of_nodup_map hnodup hx hkept rfl]
  · intro start hstart
    obtain ⟨events, he⟩ := exists_memoryHolds hstart
    refine ⟨events, he.messages, fun limits hl hlen => replayPages_fixed (replays_memory he) hl hlen, fun requests hr => ?_⟩
    have hpages := @replayPages_spec E events (requests.map fun r => (r.1.replay, r.2))
      (List.forall_mem_map.mpr fun r hmem => by
        obtain ⟨l, hl, hpre⟩ := memory_kept he (hr r hmem).1
        refine ⟨⟨l, replays_memory hl, fun x hx y hy hle => ?_⟩, (hr r hmem).2⟩
        obtain ⟨rest, rfl⟩ := hpre
        rcases List.mem_append.mp hy with hy | hy
        · exact hy
        · exact absurd ((List.pairwise_append.mp (replays_memory hl).sorted).2.2 x hx y hy) (not_lt.mpr hle))
    obtain ⟨items, ended, hok, hs, hall⟩ := hpages
    refine ⟨items, ended, hok, hs, fun x hx hend => hall x hx (List.forall_mem_map.mpr fun r hmem l hl => ?_)
      (by simpa using hend)⟩
    obtain ⟨l', hl', hpre⟩ := memory_kept he (hr r hmem).1
    rw [hl.unique (replays_memory hl')]
    exact hpre.subset hx

/-! ## A trimmed stream -/

namespace TrimmedStream

open ValkeyEventBus

/-- Events that are numbers, written in decimal. -/
def numbers : EventModel Nat where
  eventId n := String.ofList (Digits.decimal n)
  source _ := "usgs"
  modelDump n := .int n
  modelDumpJson n := String.ofList (Digits.decimal n)
  modelValidateJson text :=
    match Digits.parse? text.toList with
    | some n => .ok n
    | none => .error "Invalid JSON"
  sha256 text := if text = "101" then "16dc368a89b428b2485484313ba67a3912ca03f2b2b42429174a4f8b3dc84e44" else ""

theorem readable (n : Nat) : Readable numbers n := by
  simp [Readable, numbers]

def held : List (StreamId × Nat) := (List.range 101).map fun n => (⟨1000 + n, 0⟩, n)

theorem held_sorted : held.Pairwise fun a b => a.1 < b.1 := by
  refine List.pairwise_map.mpr (List.pairwise_lt_range.imp fun {a b} hlt => StreamId.lt_iff.mpr (Or.inl ?_))
  exact Nat.add_lt_add_left hlt 1000

theorem held_bounded : ∀ x ∈ held, x.1 ≤ ⟨1100, 0⟩ := by decide

/-- One entry more than the configured 100, since whole nodes of two entries
are trimmed; the fingerprints have expired. -/
def start : BusDb where
  keys := ∅
  stream :=
    { entries := held.map (entryOf numbers)
      lastId := ⟨1100, 0⟩
      sorted := List.pairwise_map.mpr held_sorted
      bounded := by
        intro entry h
        obtain ⟨x, hx, rfl⟩ := List.mem_map.mp h
        exact held_bounded x hx }

/-- The event 101 is published, and the oldest node of the stream goes. -/
def published : BusDb := (runCommand numbers 604800 ⟨2000, 2⟩ 101 start).2

def kept : List (StreamId × Nat) := (held ++ [((⟨2000, 0⟩ : StreamId), 101)]).drop 2

theorem replays_start : Replays (ValkeyEventBus.replay numbers start) held :=
  @replays_valkey Nat numbers start held (decodes_entryOf fun _ _ => readable _)

theorem replays_published : Replays (ValkeyEventBus.replay numbers published) kept := by
  have hentries : published.stream.entries = kept.map (entryOf numbers) := by
    rw [kept, List.map_drop, List.map_append]
    rfl
  refine @replays_valkey Nat numbers published kept ?_
  rw [hentries]
  exact decodes_entryOf fun _ _ => readable _

end TrimmedStream

open TrimmedStream in
/-- The event 1 was in the stream at the start; it goes with an append before
the second page, and is not read. -/
theorem replay_misses_trimmed_message :
    Publishes numbers 604800 start published ∧ Replays (ValkeyEventBus.replay numbers start) held ∧
      (⟨1001, 0⟩, 1) ∈ held ∧ ∃ items : List (StreamId × Nat),
        replayPages [(ValkeyEventBus.replay numbers start, 1), (ValkeyEventBus.replay numbers published, 500)] =
          .ok (items.map message, true) ∧ (⟨1001, 0⟩, 1) ∉ items := by
  have hread : read Prod.fst [(held, 1), (kept, 500)] none = (held.take 1 ++ kept, true) := by decide
  have hpages := @replayPages_eq Nat [(ValkeyEventBus.replay numbers start, 1), (ValkeyEventBus.replay numbers published, 500)]
    [(held, 1), (kept, 500)] (.cons ⟨replays_start, rfl, by decide, by decide⟩
      (.cons ⟨replays_published, rfl, by decide, by decide⟩ .nil))
  rw [hread] at hpages
  exact ⟨⟨_, _, readable 101, rfl⟩, replays_start, by decide, _, hpages, by decide⟩

/-! ## Pages of small contents -/

namespace SmallContents

def everything : SignalQuery where
  limit := 100
  after := none
  source := none
  minSeverity := none
  occurredAfter := none
  occurredBefore := none
  bounds := none
  includeAreaOnly := false
  activeOnly := true

def columns : SignalColumns Unit := ⟨TwoWorkers.noon, none, none, some (), none⟩

def oneEach (n : Nat) : List (Datetime × Nat) := List.replicate n (TwoWorkers.noon, 1)

def bus : BusDb := (ValkeyEventBus.runCommand Quake.model Quake.week (Quake.tick 0) Quake.first .empty).2

def memoryBus : InMemoryEventBus Quake := (InMemoryEventBus.empty.publish Quake.model Quake.first).2

theorem quake_readable {text : String} {q : Quake} (h : Quake.model.modelValidateJson text = .ok q) : Readable Quake.model q := by
  have hfind : [Quake.first, Quake.corrected, Quake.other].find? (fun q => q.dumpJson = text) = some q := by
    simp only [Quake.model] at h
    split at h
    · rename_i q' heq
      rw [heq, Except.ok.inj h]
    · cases h
  exact Quake.readable q (List.mem_of_find?_eq_some hfind)

end SmallContents

open SmallContents in
theorem pages_exact_small :
    (∃ s : Consumer.System StreamId String String SignalDb Bool, s.committed.length = 3 ∧ ∃ items,
      signalPages Quake.model (fun (_ : Unit) _ => true) (fun _ => columns) s.db everything
        (oneEach ((signalRows (fun _ => columns) s.db).length + 1)) = .ok (items, true)) ∧
    historyPages (Machine.run InMemorySourcePollStore.step .empty TwoWorkers.calls).loadRecentTransitions (oneEach 5) =
      .ok ((Machine.run InMemorySourcePollStore.step .empty TwoWorkers.calls).history.reverse, true) ∧
    (∃ transitions, historyPages (ValkeySourcePollStore.loadRecentTransitions TwoWorkers.codec
      (Machine.run (ValkeySourcePollStore.step TwoWorkers.codec) .empty TwoWorkers.calls)) (oneEach 5) = .ok (transitions, true)) ∧
    (∃ events : List (StreamId × Quake), replayPages [(ValkeyEventBus.replay Quake.model bus, 1), (ValkeyEventBus.replay Quake.model bus, 1)] =
      .ok (events.map message, true)) ∧
    ∃ events : List (StreamId × Quake), replayPages [(memoryBus.replay, 1), (memoryBus.replay, 1)] = .ok (events.map message, true) := by
  obtain ⟨hsignals, hhistory, hvalkey, hmemory⟩ := @pages_exact Quake Unit Quake.model TwoWorkers.codec Quake.week
  have hone : ∀ n ∈ [1, 1], 1 ≤ n ∧ n ≤ 500 := by decide
  have hutc : ∀ r ∈ oneEach 5, r.1.isUtc = true ∧ 1 ≤ r.2 ∧ r.2 ≤ 100 := by decide
  refine ⟨?_, ?_, ?_, ?_, ?_⟩
  · obtain ⟨s, hs, hc⟩ := Quake.late_worker (projectionStore Quake.model) Quake.projector .empty
      (by simp [projectionStore, SignalDb.empty]) fun events hr hs => exists_commit hr hs Quake.projector
    obtain ⟨-, items, hitems, -⟩ := hsignals Bool _ s hs (fun _ _ _ h => quake_readable h) (fun _ => columns)
      (fun _ _ => true) everything (oneEach ((signalRows (fun _ => columns) s.db).length + 1))
      (fun r hr => by rw [List.eq_of_mem_replicate hr]) (by rw [oneEach, List.length_replicate]; exact Nat.lt_succ_self _)
    exact ⟨s, hc, items, hitems⟩
  · exact (hhistory TwoWorkers.calls (oneEach 5) hutc).1 (by decide)
  · obtain ⟨transitions, -, h⟩ := (hhistory TwoWorkers.calls (oneEach 5) hutc).2 TwoWorkers.roundTrips (by decide)
    exact ⟨transitions, h⟩
  · obtain ⟨events, he, hfixed, -⟩ := hvalkey bus
      (.single ⟨_, _, Quake.readable _ List.mem_cons_self, rfl⟩)
    refine ⟨events, hfixed [1, 1] hone ?_⟩
    rw [← he.length_eq]
    decide
  · obtain ⟨events, he, hfixed, -⟩ := hmemory memoryBus (.single ⟨_, rfl⟩)
    refine ⟨events, hfixed [1, 1] hone ?_⟩
    rw [← @List.length_map _ _ events message, ← he]
    decide

end AtlasPulse
