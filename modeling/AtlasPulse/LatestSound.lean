import AtlasPulse.ProjectionSound

/-!
# Which content is current

Publication keeps the first position of each content, projection the last
position of each identity. Put together, the current signal of an identity is
the content that was new last, which is the one published last unless the
provider returns to an earlier content.
-/

namespace AtlasPulse

open ValkeyEventBus Newest

variable {E : Type} {m : EventModel E}

/-- The dump of an event has its identity. -/
structure DumpsIdentity (m : EventModel E) : Prop where
  source : ∀ e, PyJson.member "source" (m.modelDump e) = some (.str (m.source e))
  eventId : ∀ e, PyJson.member "event_id" (m.modelDump e) = some (.str (m.eventId e))

/-- Different contents among these events have different fingerprints. -/
def CollisionFree (m : EventModel E) (events : List E) : Prop :=
  ∀ a ∈ events, ∀ b ∈ events, eventFingerprint m a = eventFingerprint m b → canonicalContent m a = canonicalContent m b

/-- The contents published for an identity, in order. -/
def contents (m : EventModel E) (events : List E) (source eventId : String) : List String :=
  (events.filter fun e => (m.source e, m.eventId e) = (source, eventId)).map (canonicalContent m)

theorem DumpsIdentity.identity_eq (h : DumpsIdentity m) {a b : E} (heq : canonicalContent m a = canonicalContent m b) :
    (m.source a, m.eventId a) = (m.source b, m.eventId b) := by
  have hs := PyJson.member_of_dumps_eq heq "source"
  have hi := PyJson.member_of_dumps_eq heq "event_id"
  rw [h.source, h.source] at hs
  rw [h.eventId, h.eventId] at hi
  simp only [Option.map_some, PyJson.sortKeys, Option.some.injEq, PyJson.Json.str.injEq] at hs hi
  rw [hs, hi]

/-! ## The log of a sequential run -/

/-- A log of these events has each content of each identity once, in the order
of its first publication. -/
structure LogOf (m : EventModel E) (events : List E) (l : List (StreamId × E)) : Prop where
  mem : ∀ x ∈ l, x.2 ∈ events
  distinct : ∀ source eventId, contents m (l.map Prod.snd) source eventId = (contents m events source eventId).eraseDups

theorem LogOf.record (hid : DumpsIdentity m) {events : List E} {e : E} (hc : CollisionFree m (events ++ [e]))
    {l : List (StreamId × E)} (h : LogOf m events l) (i : StreamId) :
    LogOf m (events ++ [e]) (Once.record (eventFingerprint m) l i e) := by
  have hsnoc : ∀ (es : List E) s d, contents m (es ++ [e]) s d = contents m es s d ++
      if (m.source e, m.eventId e) = (s, d) then [canonicalContent m e] else [] := by
    intro es s d
    rw [contents, List.filter_append, List.map_append]
    congr 1
    split <;> simp_all
  -- a content is in the log of its identity if its fingerprint is
  have hin : ∀ s d, (m.source e, m.eventId e) = (s, d) →
      (canonicalContent m e ∈ contents m events s d ↔
        (Once.find (eventFingerprint m) l (eventFingerprint m e)).isSome) := by
    intro s d hsd
    rw [Once.find_isSome, ← List.mem_eraseDups, ← h.distinct, contents, Once.keys]
    constructor
    · intro hmem
      obtain ⟨a, ha, hca⟩ := List.mem_map.mp hmem
      obtain ⟨x, hx, rfl⟩ := List.mem_map.mp (List.mem_filter.mp ha).1
      exact List.mem_map.mpr ⟨x, hx, by rw [eventFingerprint, hca, eventFingerprint]⟩
    · intro hmem
      obtain ⟨x, hx, hf⟩ := List.mem_map.mp hmem
      have hcx := hc x.2 (List.mem_append_left _ (h.mem x hx)) e (by simp) hf
      refine List.mem_map.mpr ⟨x.2, List.mem_filter.mpr ⟨List.mem_map_of_mem hx, ?_⟩, hcx⟩
      rw [hid.identity_eq hcx, hsd]
      simp
  refine ⟨fun x hx => ?_, fun s d => ?_⟩
  · rcases Once.mem_record hx with hx | rfl
    · exact List.mem_append_left _ (h.mem x hx)
    · simp
  · rw [hsnoc]
    cases hfind : Once.find (eventFingerprint m) l (eventFingerprint m e) with
    | some j =>
      rw [Once.record_of_find hfind, h.distinct]
      split
      · rename_i hsd
        rw [Once.eraseDups_snoc, if_pos ((hin s d hsd).mpr (by rw [hfind]; rfl))]
      · rw [List.append_nil]
    | none =>
      rw [Once.record_of_none hfind, List.map_append, List.map_singleton, hsnoc, h.distinct]
      split
      · rename_i hsd
        rw [Once.eraseDups_snoc, if_neg fun hmem => by simpa [hfind] using (hin s d hsd).mp hmem]
      · rw [List.append_nil, List.append_nil]

theorem LogOf.runGroup (hid : DumpsIdentity m) {ttl : Nat} (commands : List (Tick × E))
    (hr : RetainedRun m ttl commands .empty) (hc : CollisionFree m (commands.map Prod.snd)) :
    ∃ l, Holds m (runGroup m ttl commands .empty).2 l ∧ LogOf m (commands.map Prod.snd) l := by
  induction commands using List.reverseRecOn with
  | nil => exact ⟨[], Holds.empty m, by simp, fun _ _ => rfl⟩
  | append_singleton commands c ih =>
    rw [retainedRun_append] at hr
    rw [List.map_append, List.map_singleton] at hc ⊢
    obtain ⟨l, hl, hlog⟩ := ih hr.1 fun a ha b hb => hc a (List.mem_append_left _ ha) b (List.mem_append_left _ hb)
    rw [runGroup_append]
    exact ⟨_, (runCommand_spec ttl hl hr.2.1).2.2, hlog.record hid hc _⟩

/-- The database after `publish_many` calls. -/
theorem valkeyRun_eq (ttl : Nat) (calls : List (List (Tick × E))) :
    (valkeyRun m ttl calls).2 = (runGroup m ttl calls.flatten .empty).2 := by
  have key : ∀ (calls : List (List (Tick × E))) (db : BusDb),
      Machine.run (fun db commands => ValkeyEventBus.publishMany m ttl commands db) db calls =
        (runGroup m ttl calls.flatten db).2 := by
    intro calls
    induction calls with
    | nil => intro db; rfl
    | cons commands calls ih =>
      intro db
      rw [List.flatten_cons, runGroup_append, Machine.run, ih, publishMany_eq]
  exact key calls .empty

/-! ## The projector's cycles -/

/-- The projector has committed the first `n` events of the stream. -/
structure Caught (m : EventModel E) (projectionName : String) (events : List (StreamId × E)) (n : Nat) (db : SignalDb) :
    Prop where
  inv : ∃ l, ProjectionInv m l db ∧ ∀ x, Committed m l x ↔ x ∈ events.take n
  checkpoint : db.checkpoints.lookup projectionName = (events.take n).getLast?.map fun x => pointerTo x.1

variable {bus : BusDb} {events : List (StreamId × E)}

/-- One cycle, behind the first `n` events. -/
theorem Caught.cycle (hbus : bus.stream.entries = events.map (entryOf m)) (hread : ∀ x ∈ events, Readable m x.2)
    {projectionName : String} {n : Nat} {db : SignalDb} (h : Caught m projectionName events n db) (batchSize : Nat) :
    ∃ cycle db', projectOnce m bus projectionName batchSize db = .ok (cycle, db') ∧
      Caught m projectionName events (n + batchSize) db' := by
  have hs : (events.map Prod.fst).Pairwise (· < ·) := by
    have := bus.stream.sorted
    rw [hbus, List.pairwise_map] at this
    exact List.pairwise_map.mpr this
  have htake : events.take (n + batchSize) = events.take n ++ (events.drop n).take batchSize := List.take_add
  obtain ⟨l, hl, hcom⟩ := h.inv
  -- the page that `replay` returns
  have hpage : ValkeyEventBus.replay m bus ((db.checkpoints.lookup projectionName).map Pointer.streamId) batchSize =
      .ok (((events.drop n).take batchSize).map message) := by
    have hafter : (db.checkpoints.lookup projectionName).map Pointer.streamId =
        (((events.map (entryOf m)).take n).getLast?.map Prod.fst).map StreamId.text := by
      rw [h.checkpoint, ← List.map_take, List.getLast?_map]
      simp [Function.comp_def, entryOf]
    rw [hafter, replay_eq_page, hbus, Consumer.page_take (by simpa [List.pairwise_map, entryOf] using hs), ← List.map_drop,
      ← List.map_take]
    exact decodeMessages_ok.mpr ⟨_, decodes_entryOf fun x hx => hread x (List.mem_of_mem_drop (List.mem_of_mem_take hx)),
      rfl⟩
  cases hlast : ((events.drop n).take batchSize).getLast? with
  | none =>
    have hnil := List.getLast?_eq_none_iff.mp hlast
    rw [hnil] at hpage
    rw [hnil, List.append_nil] at htake
    refine ⟨_, db, by rw [projectOnce, hpage]; rfl, ⟨l, hl, ?_⟩, ?_⟩
    · rwa [htake]
    · rw [htake, h.checkpoint]
  | some z =>
    have hread' : ∀ x ∈ (events.drop n).take batchSize, Readable m x.2 := fun x hx =>
      hread x (List.mem_of_mem_drop (List.mem_of_mem_take hx))
    have hproject : project m projectionName (((events.drop n).take batchSize).map message) db =
        .ok (projected m projectionName ((events.drop n).take batchSize) z.1 db) := by
      refine project_ok.mpr (Or.inr ⟨z.1, by rw [List.getLast?_map, hlast]; rfl, ?_, rfl⟩)
      exact hs.sublist (((List.take_sublist _ _).trans (List.drop_sublist _ _)).map _)
    have hcommit : (projectionStore m).commit projectionName (((events.drop n).take batchSize).map (entryOf m)) db
        (projected m projectionName ((events.drop n).take batchSize) z.1 db) :=
      ⟨_, decodeMessages_ok.mpr ⟨_, decodes_entryOf hread', rfl⟩, hproject⟩
    have hcycle : ∃ cycle, projectOnce m bus projectionName batchSize db =
        .ok (cycle, projected m projectionName ((events.drop n).take batchSize) z.1 db) := by
      rw [projectOnce, hpage]
      simp only [bind, Except.bind, List.getLast?_map, hlast, Option.map_some, hproject]
      exact ⟨_, rfl⟩
    obtain ⟨cycle, hcycle⟩ := hcycle
    refine ⟨cycle, _, hcycle, ⟨_, hl.commit hcommit, fun x => ?_⟩, ?_⟩
    · rw [committed_cons (decodes_entryOf hread'), hcom, htake, List.mem_append]
    · rw [htake, List.getLast?_append, hlast]
      show (upsert olderPointer db.checkpoints projectionName (pointerTo z.1)).lookup projectionName = some (pointerTo z.1)
      cases hprev : (events.take n).getLast? with
      | none => exact lookup_upsert_none (by rw [h.checkpoint, hprev]; rfl)
      | some y =>
        rw [lookup_upsert_some (by rw [h.checkpoint, hprev]; rfl), if_pos]
        have hsplit := List.pairwise_map.mp hs
        rw [← List.take_append_drop n events, List.pairwise_append] at hsplit
        exact decide_eq_true (hsplit.2.2 y (List.mem_of_getLast? hprev) z
          (List.mem_of_mem_take (List.mem_of_getLast? hlast)))

theorem Caught.cycles (hbus : bus.stream.entries = events.map (entryOf m))
    (hread : ∀ x ∈ events, Readable m x.2) {projectionName : String} (batchSize : Nat) :
    ∀ (cycles : Nat) {n : Nat} {db : SignalDb}, Caught m projectionName events n db →
      Caught m projectionName events (n + cycles * batchSize)
        (projectCycles m bus projectionName batchSize cycles db)
  | 0, n, db, h => by
    rw [Nat.zero_mul]
    exact h
  | cycles + 1, n, db, h => by
    obtain ⟨cycle, db', hok, h'⟩ := h.cycle hbus hread batchSize
    rw [projectCycles, hok, Nat.succ_mul, Nat.add_comm _ batchSize, ← Nat.add_assoc]
    exact Caught.cycles hbus hread batchSize cycles h'

/-- Behind the whole stream, the current signal of an identity is its last event. -/
theorem Caught.current (hs : (events.map Prod.fst).Pairwise (· < ·)) (hread : ∀ x ∈ events, Readable m x.2)
    {projectionName : String} {n : Nat} {db : SignalDb} (h : Caught m projectionName events n db)
    (hn : events.length ≤ n) (source eventId : String) :
    currentSignal m db source eventId =
      ((events.map Prod.snd).filter fun e => (m.source e, m.eventId e) = (source, eventId)).getLast? := by
  obtain ⟨l, hl, hcom⟩ := h.inv
  rw [List.take_of_length_le hn] at hcom
  have hnodup : (events.map Prod.fst).Nodup := hs.imp ne_of_lt
  rw [List.filter_map, List.getLast?_map]
  cases hlast : (events.filter ((fun e => decide ((m.source e, m.eventId e) = (source, eventId))) ∘ Prod.snd)).getLast? with
  | none =>
    have hnone : db.current.lookup (source, eventId) = none := by
      rw [Option.eq_none_iff_forall_ne_some]
      intro p hp
      obtain ⟨x, hx, hrow⟩ := (hl.current (source, eventId)).1 p hp
      have hnil := List.getLast?_eq_none_iff.mp hlast
      rw [List.filter_eq_nil_iff] at hnil
      exact hnil x ((hcom x).mp hx) (decide_eq_true (Prod.mk.inj hrow).1.symm)
    rw [currentSignal, hnone]
    rfl
  | some x =>
    obtain ⟨hx, hid⟩ := List.mem_filter.mp (List.mem_of_getLast? hlast)
    have hid : identityOf m x = (source, eventId) := of_decide_eq_true hid
    obtain ⟨p, hp, hle⟩ := (hl.current (source, eventId)).2 (pointerTo x.1) ⟨x, (hcom x).mpr hx, by rw [hid]⟩
    obtain ⟨y, hy, hrow⟩ := (hl.current (source, eventId)).1 p hp
    obtain ⟨hyid, rfl⟩ := Prod.mk.inj hrow
    have hy' := (hcom y).mp hy
    -- nothing of the identity lies behind `x`
    have hyx : y.1 ≤ x.1 := by
      have hmem : y ∈ events.filter ((fun e => decide ((m.source e, m.eventId e) = (source, eventId))) ∘ Prod.snd) :=
        List.mem_filter.mpr ⟨hy', decide_eq_true hyid.symm⟩
      exact le_getLast (hs.sublist (List.filter_sublist.map Prod.fst)) (by rw [List.getLast?_map, hlast]; rfl) _
        (List.mem_map_of_mem hmem)
    obtain rfl : y = x := List.inj_on_of_nodup_map hnodup hy' hx (le_antisymm hyx hle)
    obtain ⟨r, hr⟩ := Option.isSome_iff_exists.mp (hl.stored y hy)
    obtain ⟨x', hx', htext, rfl⟩ := hl.revisions _ r hr
    obtain rfl : y = x' := List.inj_on_of_nodup_map hnodup hy' ((hcom x').mp hx') (StreamId.text_injective htext)
    rw [currentSignal, Option.mem_def.mp hp]
    show (do let revision ← db.revisions.lookup y.1.text; (m.modelValidateJson revision.eventJson).toOption) = _
    rw [hr]
    show (m.modelValidateJson (m.modelDumpJson y.2)).toOption = _
    rw [hread y hx]
    rfl

/-! ## Latest content -/

/-- The current content of an identity is the one that was new last. -/
theorem current_content (hid : DumpsIdentity m) {ttl : Nat} {calls : List (List (Tick × E))}
    (hr : RetainedRun m ttl calls.flatten .empty) (hread : ∀ c ∈ calls.flatten, Readable m c.2)
    (hc : CollisionFree m (calls.flatten.map Prod.snd)) {projectionName : String} {batchSize cycles : Nat}
    (hall : (valkeyRun m ttl calls).2.stream.entries.length ≤ cycles * batchSize) (source eventId : String) :
    (currentSignal m (projectCycles m (valkeyRun m ttl calls).2 projectionName batchSize cycles .empty) source
        eventId).map (canonicalContent m) =
      (contents m (calls.flatten.map Prod.snd) source eventId).eraseDups.getLast? := by
  rw [valkeyRun_eq] at hall ⊢
  obtain ⟨l, hl, hlog⟩ := LogOf.runGroup hid calls.flatten hr hc
  have hread' : ∀ x ∈ l, Readable m x.2 := by
    intro x hx
    obtain ⟨c, hc, hce⟩ := List.mem_map.mp (hlog.mem x hx)
    exact hce ▸ hread c hc
  have hs : (l.map Prod.fst).Pairwise (· < ·) := by
    have := (runGroup m ttl calls.flatten .empty).2.stream.sorted
    rw [hl.entries, List.pairwise_map] at this
    exact List.pairwise_map.mpr this
  have h0 : Caught m projectionName l 0 .empty :=
    ⟨⟨[], ProjectionInv.empty, by simp [Committed]⟩, by simp [SignalDb.empty]⟩
  have hdone := h0.cycles hl.entries hread' batchSize cycles
  rw [hl.entries, List.length_map] at hall
  rw [hdone.current hs hread' (by omega), ← List.getLast?_map, ← hlog.distinct]
  rfl

/-- **Latest content.** After any `publish_many` calls and the projection of the
whole stream, every identity shows the content that was published last exactly
when no provider has returned to an earlier content after a new one. -/
theorem latest_content_iff (m : EventModel E) (ttl : Nat) (calls : List (List (Tick × E))) (hid : DumpsIdentity m)
    (hr : RetainedRun m ttl calls.flatten .empty) (hread : ∀ c ∈ calls.flatten, Readable m c.2)
    (hc : CollisionFree m (calls.flatten.map Prod.snd)) (projectionName : String) (batchSize cycles : Nat)
    (hall : (valkeyRun m ttl calls).2.stream.entries.length ≤ cycles * batchSize) :
    (∀ source eventId,
      (currentSignal m (projectCycles m (valkeyRun m ttl calls).2 projectionName batchSize cycles .empty) source
          eventId).map (canonicalContent m) =
        (contents m (calls.flatten.map Prod.snd) source eventId).getLast?) ↔
      ∀ source eventId, ¬ Once.Returns (contents m (calls.flatten.map Prod.snd) source eventId) := by
  refine forall_congr' fun source => forall_congr' fun eventId => ?_
  rw [current_content hid hr hread hc hall]
  exact Once.getLast_eraseDups_iff _

/-! ## A withdrawn correction -/

namespace Quake

/-- The correction is withdrawn: the first report comes again. -/
def withdrawn : List (List (Tick × Quake)) := [[(tick 0, first)], [(tick 60, corrected)], [(tick 120, first)]]

theorem dumpsIdentity : DumpsIdentity model :=
  ⟨fun q => by simp [model, dump, PyJson.member], fun q => by simp [model, dump, PyJson.member]⟩

theorem collisionFree : CollisionFree model [first, corrected, other] := by
  have hnodup : ([first, corrected, other].map (eventFingerprint model)).Nodup := by decide +kernel
  intro a ha b hb heq
  rw [List.inj_on_of_nodup_map hnodup ha hb heq]

end Quake

theorem withdrawn_correction_stays :
    RetainedRun Quake.model Quake.week Quake.withdrawn.flatten .empty ∧
    (currentSignal Quake.model (projectCycles Quake.model (valkeyRun Quake.model Quake.week Quake.withdrawn).2
        Quake.projector 500 1 .empty) "usgs" "us7000abcd").map (canonicalContent Quake.model) =
      some (canonicalContent Quake.model Quake.corrected) ∧
    (contents Quake.model (Quake.withdrawn.flatten.map Prod.snd) "usgs" "us7000abcd").getLast? =
      some (canonicalContent Quake.model Quake.first) ∧
    canonicalContent Quake.model Quake.corrected ≠ canonicalContent Quake.model Quake.first := by
  decide +kernel

theorem latest_content_iff_quakes :
    (∀ source eventId,
      (currentSignal Quake.model (projectCycles Quake.model (valkeyRun Quake.model Quake.week Quake.calls).2
          Quake.projector 500 1 .empty) source eventId).map (canonicalContent Quake.model) =
        (contents Quake.model (Quake.calls.flatten.map Prod.snd) source eventId).getLast?) ↔
      ∀ source eventId, ¬ Once.Returns (contents Quake.model (Quake.calls.flatten.map Prod.snd) source eventId) := by
  have hmem : ∀ c ∈ Quake.calls.flatten, c.2 ∈ [Quake.first, Quake.corrected, Quake.other] := by decide
  have hmem' : ∀ q ∈ Quake.calls.flatten.map Prod.snd, q ∈ [Quake.first, Quake.corrected, Quake.other] :=
    List.forall_mem_map.mpr hmem
  exact latest_content_iff Quake.model Quake.week Quake.calls Quake.dumpsIdentity (by decide +kernel)
    (fun c hc => Quake.readable c.2 (hmem c hc)) (fun q hq r hr => Quake.collisionFree q (hmem' q hq) r (hmem' r hr))
    Quake.projector 500 1 (by decide +kernel)

end AtlasPulse
