import AtlasPulse.EventBus
import AtlasPulse.Lib.Machine
import AtlasPulse.Lib.Once

/-!
# Soundness of publication

Both buses are first-write-wins logs of event fingerprints (`Holds`,
`MemoryHolds`). Whatever publishers interleave, fail or retry, each fingerprint
is in the stream once and every outcome names its entry; run one after the
other, the buses agree up to the names of stream ids.
-/

namespace AtlasPulse

open ValkeyEventBus PyJson

section bus
variable {E : Type} (m : EventModel E)

/-! ## The log behind a database -/

/-- The database holds the log: the stream has its values, and each dedupe key
the id under which its fingerprint was first written. -/
structure Holds (db : BusDb) (l : List (StreamId × E)) : Prop where
  entries : db.stream.entries = l.map fun x => (x.1, m.modelDumpJson x.2)
  keys : ∀ e, (db.keys.lookup (dedupeKey m e)).map Expiring.value =
    (Once.find (eventFingerprint m) l (eventFingerprint m e)).map StreamId.text

/-- The tick keeps within the limits of the claim: nothing is trimmed, and the
dedupe key of the event, if it was set, has not expired. -/
def Retained (db : BusDb) (t : Tick) (e : E) : Prop :=
  t.evicted = 0 ∧ ∀ v ∈ db.keys.lookup (dedupeKey m e), t.now ≤ v.expiresAt

instance (db : BusDb) (t : Tick) (e : E) : Decidable (Retained m db t e) := by
  unfold Retained
  cases db.keys.lookup (dedupeKey m e) with
  | none => exact decidable_of_iff (t.evicted = 0) (by simp)
  | some v => exact decidable_of_iff (t.evicted = 0 ∧ t.now ≤ v.expiresAt) (by simp)

theorem dedupeKey_inj {a b : E} : dedupeKey m a = dedupeKey m b ↔ eventFingerprint m a = eventFingerprint m b := by
  unfold dedupeKey
  constructor
  · intro h
    have h' := congrArg String.toList h
    rw [String.toList_append, String.toList_append] at h'
    exact String.toList_inj.mp (List.append_cancel_left h')
  · intro h
    rw [h]

theorem Holds.empty : Holds m .empty ([] : List (StreamId × E)) :=
  ⟨rfl, fun _ => by simp [BusDb.empty, Once.find]⟩

/-- The log after a command: the id that the stream would issue, under the
first-write rule. -/
abbrev logAfter (db : BusDb) (t : Tick) (e : E) (l : List (StreamId × E)) : List (StreamId × E) :=
  Once.record (eventFingerprint m) l (db.stream.lastId.next t.now) e

variable {m} {ttl : Nat} {db : BusDb} {l : List (StreamId × E)} {t : Tick} {e : E}

theorem runCommand_known (h : Holds m db l) (hr : Retained m db t e) {i : StreamId}
    (hi : Once.find (eventFingerprint m) l (eventFingerprint m e) = some i) :
    runCommand m ttl t e db = (⟨i.text, true⟩, db) := by
  have hk := h.keys e
  rw [hi] at hk
  obtain ⟨v, hv, hval⟩ := Option.map_eq_some_iff.mp hk
  have hget : db.keys.get t.now (dedupeKey m e) = some i.text := by
    rw [Keyspace.get, hv]
    simp only [hr.2 v hv, if_true]
    rw [hval]
  rw [runCommand, publishOnceScript, hget]
  rfl

theorem runCommand_new (h : Holds m db l)
    (hi : Once.find (eventFingerprint m) l (eventFingerprint m e) = none) :
    runCommand m ttl t e db = (⟨(db.stream.lastId.next t.now).text, false⟩,
      ⟨db.keys.setEx t.now (dedupeKey m e) (db.stream.lastId.next t.now).text ttl,
        (db.stream.xadd t (m.modelDumpJson e)).2⟩) := by
  have hk := h.keys e
  rw [hi] at hk
  have hget : db.keys.get t.now (dedupeKey m e) = none := by
    rw [Keyspace.get, Option.map_eq_none_iff.mp hk]
  rw [runCommand, publishOnceScript, hget]
  rfl

/-- **One command.** It answers with the id of its fingerprint, and the database
holds the log after it. -/
theorem runCommand_spec (ttl : Nat) (h : Holds m db l) (hr : Retained m db t e) :
    (runCommand m ttl t e db).1.deduplicated = (Once.find (eventFingerprint m) l (eventFingerprint m e)).isSome ∧
    (∃ i, Once.find (eventFingerprint m) (logAfter m db t e l) (eventFingerprint m e) = some i ∧
      (runCommand m ttl t e db).1.streamId = i.text) ∧
    Holds m (runCommand m ttl t e db).2 (logAfter m db t e l) := by
  cases hi : Once.find (eventFingerprint m) l (eventFingerprint m e) with
  | some i =>
    rw [runCommand_known h hr hi, logAfter, Once.record_of_find hi, hi]
    exact ⟨rfl, ⟨i, rfl, rfl⟩, h⟩
  | none =>
    rw [runCommand_new h hi, logAfter]
    refine ⟨rfl, ⟨_, Once.find_record_self _ _ _, by rw [hi]; rfl⟩, ?_, ?_⟩
    · rw [Once.record_of_none hi]
      show (db.stream.xadd t (m.modelDumpJson e)).2.entries = _
      rw [Stream.xadd_entries _ hr.1, h.entries]
      simp
    · intro e'
      show ((db.keys.setEx _ _ _ _).lookup _).map _ = _
      rw [Once.record_of_none hi, Once.find_snoc, Keyspace.setEx]
      by_cases hf : eventFingerprint m e = eventFingerprint m e'
      · have hkey : dedupeKey m e' = dedupeKey m e := (dedupeKey_inj m).mpr hf.symm
        rw [hkey, AList.lookup_insert, ← hf, hi]
        simp
      · have hkey : dedupeKey m e' ≠ dedupeKey m e := fun h => hf ((dedupeKey_inj m).mp h).symm
        rw [AList.lookup_insert_ne hkey, h.keys e', if_neg hf, Option.or_none]

/-- The stream reads back as the log. -/
theorem Holds.decode (h : Holds m db l) (hround : ∀ x ∈ l, m.modelValidateJson (m.modelDumpJson x.2) = .ok x.2) :
    decodeMessages m db.stream.entries = .ok (l.map fun x => ⟨x.1.text, x.2⟩) := by
  rw [h.entries, decodeMessages]
  clear h
  induction l with
  | nil => rfl
  | cons x l ih =>
    rw [List.map_cons, List.mapM_cons, hround x List.mem_cons_self, ih fun y hy => hround y (List.mem_cons_of_mem _ hy)]
    rfl

/-! ## Publishers -/

/-- Any number of publishers on one bus. The commands of a failed pipeline are
orphans: the server may still run each of them, or never. What ran and what
returned is kept as a record of the run. -/
structure Publishers (W E : Type) where
  db : BusDb
  calls : W → Option (Call E)
  orphans : List E
  ran : List E
  returned : List (List E × List PublishResult)

def Publishers.init (W E : Type) : Publishers W E := ⟨.empty, fun _ => none, [], [], []⟩

section system
variable {W : Type} [DecidableEq W]

/-- One step of one publisher, of the server, or of a failing connection. -/
inductive PublishStep (m : EventModel E) (ttl : Nat) : Publishers W E → Publishers W E → Prop
  | begin {s} (w : W) (events : List E) (idle : s.calls w = none) :
      PublishStep m ttl s { s with calls := Function.update s.calls w (some (Call.begin events)) }
  | exec {s} (w : W) (t : Tick) {c : Call E} {e : E} {queued : List E} (running : s.calls w = some c)
      (next : c.queued = e :: queued) (retained : Retained m s.db t e) :
      PublishStep m ttl s
        { s with
          db := (runCommand m ttl t e s.db).2
          calls := Function.update s.calls w
            (some ⟨c.events, c.outcomes, c.replies ++ [(runCommand m ttl t e s.db).1], queued⟩)
          ran := s.ran ++ [e] }
  | execute {s} (w : W) {c c' : Call E} (running : s.calls w = some c) (next : c.execute = some c') :
      PublishStep m ttl s { s with calls := Function.update s.calls w (some c') }
  | finish {s} (w : W) {c : Call E} {outcomes : List PublishResult} (running : s.calls w = some c)
      (last : c.returned = some outcomes) :
      PublishStep m ttl s
        { s with calls := Function.update s.calls w none, returned := s.returned ++ [(c.events, outcomes)] }
  | fail {s} (w : W) {c : Call E} (running : s.calls w = some c) :
      PublishStep m ttl s { s with calls := Function.update s.calls w none, orphans := s.orphans ++ c.queued }
  | orphan {s} (t : Tick) {before after : List E} {e : E} (pending : s.orphans = before ++ e :: after)
      (retained : Retained m s.db t e) :
      PublishStep m ttl s
        { s with db := (runCommand m ttl t e s.db).2, orphans := before ++ after, ran := s.ran ++ [e] }
  | lost {s} {before after : List E} {e : E} (pending : s.orphans = before ++ e :: after) :
      PublishStep m ttl s { s with orphans := before ++ after }

/-- The states of any interleaving. -/
def PublishReachable (m : EventModel E) (ttl : Nat) (s : Publishers W E) : Prop :=
  Relation.ReflTransGen (PublishStep m ttl) (.init W E) s

variable (m)

/-- The outcomes name, event by event, the entry of the event's fingerprint. -/
def Reported (l : List (StreamId × E)) (events : List E) (outcomes : List PublishResult) : Prop :=
  List.Forall₂ (fun e r => ∃ i, Once.find (eventFingerprint m) l (eventFingerprint m e) = some i ∧ r.streamId = i.text)
    events outcomes

/-- A running call: finished groups are reported, and so is the part of the
group in flight that the server has run. -/
structure CallInv (l : List (StreamId × E)) (c : Call E) : Prop where
  bound : c.outcomes.length ≤ c.events.length
  finished : Reported m l (c.events.take c.outcomes.length) c.outcomes
  inFlight : ∃ replied, group c.events c.outcomes.length = replied ++ c.queued ∧ Reported m l replied c.replies

structure BusInv (s : Publishers W E) (l : List (StreamId × E)) : Prop where
  holds : Holds m s.db l
  nodup : (Once.keys (eventFingerprint m) l).Nodup
  logged : ∀ x ∈ l, x.2 ∈ s.ran
  covered : ∀ e ∈ s.ran, eventFingerprint m e ∈ Once.keys (eventFingerprint m) l
  calls : ∀ w c, s.calls w = some c → CallInv m l c
  returned : ∀ r ∈ s.returned, Reported m l r.1 r.2

variable {m}

theorem Reported.mono {l : List (StreamId × E)} {events : List E} {outcomes : List PublishResult}
    (h : Reported m l events outcomes) (i : StreamId) (a : E) :
    Reported m (Once.record (eventFingerprint m) l i a) events outcomes :=
  List.Forall₂.imp (fun _ _ ⟨j, hj, hr⟩ => ⟨j, Once.find_record hj i a, hr⟩) h

theorem CallInv.mono {l : List (StreamId × E)} {c : Call E} (h : CallInv m l c) (i : StreamId) (a : E) :
    CallInv m (Once.record (eventFingerprint m) l i a) c := by
  obtain ⟨replied, hg, hr⟩ := h.inFlight
  exact ⟨h.bound, h.finished.mono i a, replied, hg, hr.mono i a⟩

theorem CallInv.begin (l : List (StreamId × E)) (events : List E) : CallInv m l (Call.begin events) :=
  ⟨Nat.zero_le _, by simp [Call.begin, Reported], [], rfl, List.Forall₂.nil⟩

/-- The reply of the command at the head of the queue. -/
theorem CallInv.exec {l : List (StreamId × E)} {c : Call E} (h : CallInv m l c) (i : StreamId) {e : E}
    {queued : List E} (hq : c.queued = e :: queued) {r : PublishResult}
    (hr : ∃ j, Once.find (eventFingerprint m) (Once.record (eventFingerprint m) l i e) (eventFingerprint m e) = some j ∧
      r.streamId = j.text) :
    CallInv m (Once.record (eventFingerprint m) l i e) ⟨c.events, c.outcomes, c.replies ++ [r], queued⟩ := by
  obtain ⟨replied, hg, hrep⟩ := h.inFlight
  refine ⟨h.bound, h.finished.mono i e, replied ++ [e], by rw [hg, hq]; simp, ?_⟩
  exact List.rel_append (hrep.mono i e) (List.Forall₂.cons hr List.Forall₂.nil)

/-- A finished group joins the outcomes, and the next one starts. -/
theorem CallInv.execute {l : List (StreamId × E)} {c c' : Call E} (h : CallInv m l c) (hc : c.execute = some c') :
    CallInv m l c' ∧ c'.events = c.events := by
  unfold Call.execute at hc
  split at hc
  · rename_i hcond
    obtain rfl := Option.some.inj hc
    obtain ⟨replied, hg, hrep⟩ := h.inFlight
    rw [hcond.1, List.append_nil] at hg
    have hlen : c.replies.length = (group c.events c.outcomes.length).length := by
      rw [hg]
      exact hrep.length_eq.symm
    have hgroup : (group c.events c.outcomes.length).length ≤ c.events.length - c.outcomes.length := by
      simp [group]
    have htake : c.events.take (c.outcomes ++ c.replies).length =
        c.events.take c.outcomes.length ++ group c.events c.outcomes.length := by
      have hprefix : group c.events c.outcomes.length =
          (c.events.drop c.outcomes.length).take (group c.events c.outcomes.length).length := by
        simp [group]
      rw [List.length_append, hlen, List.take_add, ← hprefix]
    refine ⟨⟨?_, ?_, [], rfl, List.Forall₂.nil⟩, rfl⟩
    · have := h.bound
      simp only [List.length_append]
      omega
    · show Reported m l (c.events.take (c.outcomes ++ c.replies).length) _
      rw [htake, hg]
      exact List.rel_append h.finished hrep
  · cases hc

theorem CallInv.returned {l : List (StreamId × E)} {c : Call E} (h : CallInv m l c) {outcomes : List PublishResult}
    (hc : c.returned = some outcomes) : Reported m l c.events outcomes := by
  unfold Call.returned at hc
  split at hc
  · rename_i hlen
    obtain rfl := Option.some.inj hc
    have := h.finished
    rwa [List.take_of_length_le hlen] at this
  · cases hc

omit [DecidableEq W] in
theorem BusInv.init : BusInv m (.init W E) [] :=
  ⟨Holds.empty m, List.nodup_nil, by simp, by simp [Publishers.init], by simp [Publishers.init],
    by simp [Publishers.init]⟩

omit [DecidableEq W] in
/-- The server runs one command of an event, wherever it comes from. -/
theorem BusInv.ran {ttl : Nat} {s : Publishers W E} {l : List (StreamId × E)} (h : BusInv m s l) {t : Tick} {e : E}
    (hr : Retained m s.db t e) {calls : W → Option (Call E)} {orphans : List E}
    (hcalls : ∀ w c, calls w = some c → CallInv m (logAfter m s.db t e l) c) :
    BusInv m { s with db := (runCommand m ttl t e s.db).2, calls := calls, orphans := orphans, ran := s.ran ++ [e] }
      (logAfter m s.db t e l) := by
  obtain ⟨-, -, hh⟩ := runCommand_spec ttl h.holds hr
  refine ⟨hh, Once.nodup_record h.nodup _ _, ?_, ?_, hcalls, fun r hr => (h.returned r hr).mono _ _⟩
  · intro x hx
    rcases Once.mem_record hx with hx | rfl
    · exact List.mem_append_left _ (h.logged x hx)
    · exact List.mem_append_right _ (List.mem_singleton.mpr rfl)
  · intro e' he'
    rw [Once.mem_keys_record]
    rcases List.mem_append.mp he' with he' | he'
    · exact Or.inl (h.covered e' he')
    · rw [List.mem_singleton.mp he']
      exact Or.inr rfl

/-- One step of the system extends the log at most by the command it runs. -/
theorem BusInv.step {ttl : Nat} {s s' : Publishers W E} {l : List (StreamId × E)} (h : BusInv m s l)
    (hs : PublishStep m ttl s s') : ∃ l', BusInv m s' l' := by
  cases hs with
  | begin w events idle =>
    refine ⟨l, h.holds, h.nodup, h.logged, h.covered, ?_, h.returned⟩
    intro w' c hc
    by_cases hw : w' = w
    · subst hw
      obtain rfl := Option.some.inj ((Function.update_self w' _ s.calls).symm.trans hc)
      exact CallInv.begin l events
    · exact h.calls w' c ((Function.update_of_ne hw _ s.calls).symm.trans hc)
  | exec w t running next retained =>
    refine ⟨_, h.ran retained ?_⟩
    obtain ⟨-, hr, -⟩ := runCommand_spec ttl h.holds retained
    intro w' c' hc'
    by_cases hw : w' = w
    · subst hw
      obtain rfl := Option.some.inj ((Function.update_self w' _ s.calls).symm.trans hc')
      exact (h.calls w' _ running).exec _ next hr
    · exact (h.calls w' c' ((Function.update_of_ne hw _ s.calls).symm.trans hc')).mono _ _
  | execute w running next =>
    refine ⟨l, h.holds, h.nodup, h.logged, h.covered, ?_, h.returned⟩
    intro w' c' hc'
    by_cases hw : w' = w
    · subst hw
      obtain rfl := Option.some.inj ((Function.update_self w' _ s.calls).symm.trans hc')
      exact ((h.calls w' _ running).execute next).1
    · exact h.calls w' c' ((Function.update_of_ne hw _ s.calls).symm.trans hc')
  | finish w running last =>
    refine ⟨l, h.holds, h.nodup, h.logged, h.covered, ?_, ?_⟩
    · intro w' c' hc'
      by_cases hw : w' = w
      · subst hw
        cases (Function.update_self w' _ s.calls).symm.trans hc'
      · exact h.calls w' c' ((Function.update_of_ne hw _ s.calls).symm.trans hc')
    · intro r hr
      rcases List.mem_append.mp hr with hr | hr
      · exact h.returned r hr
      · rw [List.mem_singleton.mp hr]
        exact (h.calls w _ running).returned last
  | fail w running =>
    refine ⟨l, h.holds, h.nodup, h.logged, h.covered, ?_, h.returned⟩
    intro w' c' hc'
    by_cases hw : w' = w
    · subst hw
      cases (Function.update_self w' _ s.calls).symm.trans hc'
    · exact h.calls w' c' ((Function.update_of_ne hw _ s.calls).symm.trans hc')
  | orphan t pending retained =>
    exact ⟨_, h.ran retained fun w c hc => (h.calls w c hc).mono _ _⟩
  | lost pending => exact ⟨l, h.holds, h.nodup, h.logged, h.covered, h.calls, h.returned⟩

theorem busInv_of_reachable {ttl : Nat} {s : Publishers W E} (h : PublishReachable m ttl s) : ∃ l, BusInv m s l := by
  induction h with
  | refl => exact ⟨[], BusInv.init⟩
  | tail _ hs ih =>
    obtain ⟨l, hl⟩ := ih
    exact hl.step hs

end system

/-! ## Sequential runs -/

section sequential
variable (m) (ttl : Nat)

/-- Every command of an uninterrupted run keeps within the limits. -/
def RetainedRun : List (Tick × E) → BusDb → Prop
  | [], _ => True
  | (t, e) :: commands, db => Retained m db t e ∧ RetainedRun commands (runCommand m ttl t e db).2

instance decidableRetainedRun : (commands : List (Tick × E)) → (db : BusDb) → Decidable (RetainedRun m ttl commands db)
  | [], _ => .isTrue trivial
  | (t, e) :: commands, db =>
    have := decidableRetainedRun commands (runCommand m ttl t e db).2
    inferInstanceAs (Decidable (Retained m db t e ∧ _))

variable {m ttl}

theorem runGroup_append (a b : List (Tick × E)) (db : BusDb) :
    runGroup m ttl (a ++ b) db = ((runGroup m ttl a db).1 ++ (runGroup m ttl b (runGroup m ttl a db).2).1,
      (runGroup m ttl b (runGroup m ttl a db).2).2) := by
  induction a generalizing db with
  | nil => rfl
  | cons c a ih => simp [runGroup, ih]

theorem retainedRun_append {a b : List (Tick × E)} {db : BusDb} :
    RetainedRun m ttl (a ++ b) db ↔ RetainedRun m ttl a db ∧ RetainedRun m ttl b (runGroup m ttl a db).2 := by
  induction a generalizing db with
  | nil => simp [RetainedRun, runGroup]
  | cons c a ih => simp [RetainedRun, runGroup, ih, and_assoc]

/-- The groups of a tuple are the tuple: grouping does not change a run. -/
theorem publishMany_eq (commands : List (Tick × E)) (db : BusDb) :
    ValkeyEventBus.publishMany m ttl commands db = runGroup m ttl commands db := by
  have key : ∀ n start outcomes db, (List.range' start n publishPipelineSize).foldl (fun x start =>
        (x.1 ++ (runGroup m ttl (group commands start) x.2).1, (runGroup m ttl (group commands start) x.2).2))
        (outcomes, db) =
      (outcomes ++ (runGroup m ttl ((commands.drop start).take (publishPipelineSize * n)) db).1,
        (runGroup m ttl ((commands.drop start).take (publishPipelineSize * n)) db).2) := by
    intro n
    induction n with
    | zero => intro start outcomes db; simp [runGroup]
    | succ n ih =>
      intro start outcomes db
      have hsplit : (commands.drop start).take (publishPipelineSize * (n + 1)) =
          group commands start ++ (commands.drop (start + publishPipelineSize)).take (publishPipelineSize * n) := by
        rw [group, show publishPipelineSize * (n + 1) = publishPipelineSize + publishPipelineSize * n by ring,
          List.take_add, List.drop_drop]
      rw [List.range'_succ, List.foldl_cons, ih, hsplit, runGroup_append, List.append_assoc]
  have hall : commands.length ≤
      publishPipelineSize * ((commands.length + publishPipelineSize - 1) / publishPipelineSize) := by
    have := Nat.div_add_mod (commands.length + publishPipelineSize - 1) publishPipelineSize
    have := Nat.mod_lt (commands.length + publishPipelineSize - 1) (show 0 < publishPipelineSize by decide)
    have : publishPipelineSize = 500 := rfl
    omega
  rw [ValkeyEventBus.publishMany]
  refine (key _ 0 [] db).trans ?_
  rw [List.drop_zero, List.take_of_length_le hall, List.nil_append]

/-- The in-memory bus holds the log, under the ids `0-1`, `0-2` and so on. -/
structure MemoryHolds (m : EventModel E) (bus : InMemoryEventBus E) (l : List (StreamId × E)) : Prop where
  messages : bus.messages = l.map fun x => ⟨x.1.text, x.2⟩
  ids : l.map Prod.fst = (List.range l.length).map fun n => ⟨0, n + 1⟩
  dedupe : ∀ f, bus.dedupe.lookup f = (Once.find (eventFingerprint m) l f).map StreamId.text

theorem MemoryHolds.empty : MemoryHolds m .empty ([] : List (StreamId × E)) :=
  ⟨rfl, rfl, fun _ => by simp [InMemoryEventBus.empty, Once.find]⟩

theorem MemoryHolds.publish {bus : InMemoryEventBus E} {l : List (StreamId × E)} (h : MemoryHolds m bus l) (e : E) :
    (bus.publish m e).1.deduplicated = (Once.find (eventFingerprint m) l (eventFingerprint m e)).isSome ∧
    (∃ i, Once.find (eventFingerprint m) (Once.record (eventFingerprint m) l ⟨0, l.length + 1⟩ e)
      (eventFingerprint m e) = some i ∧ (bus.publish m e).1.streamId = i.text) ∧
    MemoryHolds m (bus.publish m e).2 (Once.record (eventFingerprint m) l ⟨0, l.length + 1⟩ e) := by
  have hlen : bus.messages.length = l.length := by rw [h.messages, List.length_map]
  cases hi : Once.find (eventFingerprint m) l (eventFingerprint m e) with
  | some i =>
    have hd : bus.dedupe.lookup (eventFingerprint m e) = some i.text := by rw [h.dedupe, hi]; rfl
    rw [Once.record_of_find hi, InMemoryEventBus.publish, hd]
    exact ⟨rfl, ⟨i, hi, rfl⟩, h⟩
  | none =>
    have hd : bus.dedupe.lookup (eventFingerprint m e) = none := by rw [h.dedupe, hi]; rfl
    rw [InMemoryEventBus.publish, hd]
    refine ⟨rfl, ⟨⟨0, l.length + 1⟩, by rw [Once.find_record_self, hi]; rfl, by rw [← hlen]⟩, ?_⟩
    rw [Once.record_of_none hi]
    refine ⟨by simp [h.messages], by simp [h.ids, List.range_succ], ?_⟩
    intro f
    show (bus.dedupe.insert _ _).lookup f = _
    rw [Once.find_snoc]
    by_cases hf : eventFingerprint m e = f
    · subst hf
      rw [AList.lookup_insert, hi, hlen]
      simp
    · rw [AList.lookup_insert_ne (Ne.symm hf), h.dedupe, if_neg hf, Option.or_none]

/-- The two buses hold one log, under two ids for each entry. -/
structure Agree (m : EventModel E) (db : BusDb) (bus : InMemoryEventBus E) (z : List ((StreamId × StreamId) × E)) :
    Prop where
  valkey : Holds m db (z.map fun x => (x.1.1, x.2))
  memory : MemoryHolds m bus (z.map fun x => (x.1.2, x.2))

/-- The outcomes are alike, up to the two ids of an entry. -/
def Alike (z : List ((StreamId × StreamId) × E)) (r r' : PublishResult) : Prop :=
  r.deduplicated = r'.deduplicated ∧ ∃ p ∈ z.map Prod.fst, r.streamId = p.1.text ∧ r'.streamId = p.2.text

theorem Alike.mono {z z' : List ((StreamId × StreamId) × E)} (hz : z <+: z') {r r' : PublishResult}
    (h : Alike z r r') : Alike z' r r' := by
  obtain ⟨hd, p, hp, hr⟩ := h
  obtain ⟨x, hx, rfl⟩ := List.mem_map.mp hp
  exact ⟨hd, x.1, List.mem_map.mpr ⟨x, hz.subset hx, rfl⟩, hr⟩

theorem Agree.publish (ttl : Nat) {db : BusDb} {bus : InMemoryEventBus E} {z : List ((StreamId × StreamId) × E)}
    (h : Agree m db bus z) {t : Tick} {e : E} (hr : Retained m db t e) :
    ∃ z', z <+: z' ∧ (∀ x ∈ z', x ∈ z ∨ x.2 = e) ∧ Agree m (runCommand m ttl t e db).2 (bus.publish m e).2 z' ∧
      Alike z' (runCommand m ttl t e db).1 (bus.publish m e).1 := by
  obtain ⟨hd, ⟨i, hi, hs⟩, hv⟩ := runCommand_spec ttl h.valkey hr
  obtain ⟨hd', ⟨i', hi', hs'⟩, hm⟩ := h.memory.publish e
  have hmap := Once.record_map (eventFingerprint m) Prod.fst z
    (db.stream.lastId.next t.now, ⟨0, z.length + 1⟩) e
  have hmap' := Once.record_map (eventFingerprint m) Prod.snd z
    (db.stream.lastId.next t.now, ⟨0, z.length + 1⟩) e
  rw [logAfter, ← hmap] at hv hi
  rw [List.length_map, ← hmap'] at hm hi'
  refine ⟨_, ?_, ?_, ⟨hv, hm⟩, ?_⟩
  · unfold Once.record
    split
    · exact List.prefix_rfl
    · exact List.prefix_append _ _
  · intro x hx
    exact (Once.mem_record hx).imp_right fun h => by rw [h]
  · rw [Once.find_map] at hi hi' hd hd'
    refine ⟨by rw [hd, hd', Option.isSome_map, Option.isSome_map], ?_⟩
    obtain ⟨p, hp, rfl⟩ := Option.map_eq_some_iff.mp hi
    obtain ⟨p', hp', rfl⟩ := Option.map_eq_some_iff.mp hi'
    obtain rfl : p = p' := Option.some.inj (hp.symm.trans hp')
    obtain ⟨a, ha, -⟩ := Once.mem_of_find hp
    exact ⟨p, List.mem_map.mpr ⟨_, ha, rfl⟩, hs, hs'⟩

theorem Agree.runGroup : ∀ (commands : List (Tick × E)) {db : BusDb} {bus : InMemoryEventBus E}
    {z : List ((StreamId × StreamId) × E)}, Agree m db bus z → RetainedRun m ttl commands db →
    ∃ z', z <+: z' ∧ (∀ x ∈ z', x ∈ z ∨ x.2 ∈ commands.map Prod.snd) ∧
      Agree m (ValkeyEventBus.runGroup m ttl commands db).2 (bus.publishMany m (commands.map Prod.snd)).2 z' ∧
      List.Forall₂ (Alike z') (ValkeyEventBus.runGroup m ttl commands db).1
        (bus.publishMany m (commands.map Prod.snd)).1
  | [], _, _, z, h, _ => ⟨z, List.prefix_rfl, fun _ => Or.inl, h, List.Forall₂.nil⟩
  | (t, e) :: commands, db, bus, z, h, hr => by
    obtain ⟨z₁, hz₁, hmem₁, h₁, ha⟩ := h.publish ttl hr.1
    obtain ⟨z₂, hz₂, hmem₂, h₂, has⟩ := Agree.runGroup commands h₁ hr.2
    refine ⟨z₂, hz₁.trans hz₂, ?_, h₂, List.Forall₂.cons (ha.mono hz₂) has⟩
    intro x hx
    rcases hmem₂ x hx with hx | hx
    · rcases hmem₁ x hx with hx | rfl
      · exact Or.inl hx
      · exact Or.inr List.mem_cons_self
    · exact Or.inr (List.mem_cons_of_mem _ hx)

/-- A sequential run of the Valkey bus: one `publish_many` after the other. -/
def valkeyRun (m : EventModel E) (ttl : Nat) (calls : List (List (Tick × E))) : List (List PublishResult) × BusDb :=
  (Machine.answers (fun db commands => ValkeyEventBus.publishMany m ttl commands db) .empty calls,
    Machine.run (fun db commands => ValkeyEventBus.publishMany m ttl commands db) .empty calls)

def memoryRun (m : EventModel E) (calls : List (List E)) : List (List PublishResult) × InMemoryEventBus E :=
  (Machine.answers (fun bus events => InMemoryEventBus.publishMany m bus events) .empty calls,
    Machine.run (fun bus events => InMemoryEventBus.publishMany m bus events) .empty calls)

theorem Agree.calls (calls : List (List (Tick × E))) (hr : RetainedRun m ttl calls.flatten .empty) :
    ∃ z, (∀ x ∈ z, x.2 ∈ calls.flatten.map Prod.snd) ∧
      Agree m (valkeyRun m ttl calls).2 (memoryRun m (calls.map (List.map Prod.snd))).2 z ∧
      List.Forall₂ (List.Forall₂ (Alike z)) (valkeyRun m ttl calls).1
        (memoryRun m (calls.map (List.map Prod.snd))).1 := by
  have key : ∀ (calls : List (List (Tick × E))) (db : BusDb) (bus : InMemoryEventBus E)
      (z : List ((StreamId × StreamId) × E)), Agree m db bus z → RetainedRun m ttl calls.flatten db →
      ∃ z', z <+: z' ∧ (∀ x ∈ z', x ∈ z ∨ x.2 ∈ calls.flatten.map Prod.snd) ∧
        Agree m (Machine.run (fun db commands => ValkeyEventBus.publishMany m ttl commands db) db calls)
          (Machine.run (fun bus events => InMemoryEventBus.publishMany m bus events) bus
            (calls.map (List.map Prod.snd))) z' ∧
        List.Forall₂ (List.Forall₂ (Alike z'))
          (Machine.answers (fun db commands => ValkeyEventBus.publishMany m ttl commands db) db calls)
          (Machine.answers (fun bus events => InMemoryEventBus.publishMany m bus events) bus
            (calls.map (List.map Prod.snd))) := by
    intro calls
    induction calls with
    | nil => intro db bus z h _; exact ⟨z, List.prefix_rfl, fun _ => Or.inl, h, List.Forall₂.nil⟩
    | cons commands calls ih =>
      intro db bus z h hr
      rw [List.flatten_cons, retainedRun_append] at hr
      obtain ⟨z₁, hz₁, hmem₁, h₁, ha⟩ := Agree.runGroup commands h hr.1
      rw [← publishMany_eq] at h₁ ha hr
      obtain ⟨z₂, hz₂, hmem₂, h₂, has⟩ := ih _ _ z₁ h₁ hr.2
      refine ⟨z₂, hz₁.trans hz₂, ?_, h₂, List.Forall₂.cons (ha.imp fun _ _ h => h.mono hz₂) has⟩
      intro x hx
      rw [List.flatten_cons, List.map_append, List.mem_append]
      rcases hmem₂ x hx with hx | hx
      · exact (hmem₁ x hx).imp_right Or.inl
      · exact Or.inr (Or.inr hx)
  obtain ⟨z, -, hmem, h⟩ := key calls .empty .empty [] ⟨Holds.empty m, MemoryHolds.empty⟩ hr
  exact ⟨z, fun x hx => (hmem x hx).resolve_left (by simp), h⟩

/-- The Valkey id of an entry, by its in-memory id. -/
def renameId (z : List ((StreamId × StreamId) × E)) (id : String) : String :=
  ((z.find? fun x => x.1.2.text = id).map fun x => x.1.1.text).getD id

theorem Agree.nodup {db : BusDb} {bus : InMemoryEventBus E} {z : List ((StreamId × StreamId) × E)}
    (h : Agree m db bus z) : (z.map fun x => x.1.1).Nodup ∧ (z.map fun x => x.1.2).Nodup := by
  constructor
  · have hs := db.stream.sorted
    rw [h.valkey.entries, List.map_map, List.pairwise_map] at hs
    rw [List.Nodup, List.pairwise_map]
    exact hs.imp fun h => ne_of_lt h
  · have hids := h.memory.ids
    rw [List.map_map] at hids
    have hnodup : ((List.range (z.map fun x => (x.1.2, x.2)).length).map fun n => (⟨0, n + 1⟩ : StreamId)).Nodup :=
      List.nodup_range.map fun a b hab => by simpa using hab
    rw [← hids] at hnodup
    exact hnodup

theorem Agree.renameId_eq {db : BusDb} {bus : InMemoryEventBus E} {z : List ((StreamId × StreamId) × E)}
    (h : Agree m db bus z) {x : (StreamId × StreamId) × E} (hx : x ∈ z) : renameId z x.1.2.text = x.1.1.text := by
  have hfind : z.find? (fun y => y.1.2.text = x.1.2.text) = some x := by
    obtain ⟨y, hy⟩ : ∃ y, z.find? (fun y => y.1.2.text = x.1.2.text) = some y := by
      rw [← Option.isSome_iff_exists, List.find?_isSome]
      exact ⟨x, hx, by simp⟩
    have hyx : y.1.2 = x.1.2 := StreamId.text_injective (by simpa using List.find?_some hy)
    rw [hy, List.inj_on_of_nodup_map h.nodup.2 (List.mem_of_find?_eq_some hy) hx hyx]
  rw [renameId, hfind]
  rfl

/-- Memory and Valkey, seen through the renaming. -/
theorem Agree.renamed {db : BusDb} {bus : InMemoryEventBus E} {z : List ((StreamId × StreamId) × E)}
    (h : Agree m db bus z) :
    Set.InjOn (renameId z) {id | ∃ msg ∈ bus.messages, msg.streamId = id} ∧
      (z.map fun x => (⟨x.1.1.text, x.2⟩ : StreamMessage E)) =
        bus.messages.map fun msg => ⟨renameId z msg.streamId, msg.event⟩ := by
  rw [h.memory.messages]
  constructor
  · rintro id ⟨msg, hmsg, rfl⟩ id' ⟨msg', hmsg', rfl⟩ heq
    simp only [List.map_map, List.mem_map, Function.comp_apply] at hmsg hmsg'
    obtain ⟨x, hx, rfl⟩ := hmsg
    obtain ⟨y, hy, rfl⟩ := hmsg'
    simp only [h.renameId_eq hx, h.renameId_eq hy] at heq ⊢
    rw [List.inj_on_of_nodup_map h.nodup.1 hx hy (StreamId.text_injective heq)]
  · simp only [List.map_map]
    refine List.map_congr_left fun x hx => ?_
    simp only [Function.comp_apply, h.renameId_eq hx]

theorem Agree.renamed_outcomes {db : BusDb} {bus : InMemoryEventBus E} {z : List ((StreamId × StreamId) × E)}
    (h : Agree m db bus z) {rs rs' : List PublishResult} (hrs : List.Forall₂ (Alike z) rs rs') :
    rs = rs'.map fun r => ⟨renameId z r.streamId, r.deduplicated⟩ := by
  induction hrs with
  | nil => rfl
  | cons ha _ ih =>
    obtain ⟨hd, p, hp, hs, hs'⟩ := ha
    obtain ⟨x, hx, rfl⟩ := List.mem_map.mp hp
    rw [List.map_cons, ← ih, hs', h.renameId_eq hx, ← hs, ← hd]

theorem Agree.renamed_calls {db : BusDb} {bus : InMemoryEventBus E} {z : List ((StreamId × StreamId) × E)}
    (h : Agree m db bus z) {rs rs' : List (List PublishResult)} (hrs : List.Forall₂ (List.Forall₂ (Alike z)) rs rs') :
    rs = rs'.map (List.map fun r => ⟨renameId z r.streamId, r.deduplicated⟩) := by
  induction hrs with
  | nil => rfl
  | cons ha _ ih => rw [List.map_cons, ← ih, ← h.renamed_outcomes ha]

end sequential

/-! ## Exactly once -/

/-- The event survives its JSON dump and validation. -/
def Readable (m : EventModel E) (e : E) : Prop := m.modelValidateJson (m.modelDumpJson e) = .ok e

/-- **Exactly-once publication.** In every state of any publishers the stream
has each fingerprint whose script ran exactly once; a further publish of such an
event answers with the id of its message and changes nothing; and every call
that returned has one outcome for each event, in order, that names the event's
message. A sequential run has the messages and flags of the in-memory bus, up to
a renaming of stream ids. -/
theorem publish_exactly_once {W : Type} [DecidableEq W] (m : EventModel E) (ttl : Nat) :
    (∀ s : Publishers W E, PublishReachable m ttl s → (∀ e ∈ s.ran, Readable m e) →
      ∃ messages, decodeMessages m s.db.stream.entries = .ok messages ∧
        (messages.map fun msg => eventFingerprint m msg.event).Nodup ∧
        (∀ f, f ∈ messages.map (fun msg => eventFingerprint m msg.event) ↔ f ∈ s.ran.map (eventFingerprint m)) ∧
        (∀ e t, eventFingerprint m e ∈ s.ran.map (eventFingerprint m) → Retained m s.db t e →
          ∃ msg ∈ messages, eventFingerprint m msg.event = eventFingerprint m e ∧
            runCommand m ttl t e s.db = (⟨msg.streamId, true⟩, s.db)) ∧
        ∀ r ∈ s.returned, List.Forall₂ (fun e outcome => ∃ msg ∈ messages,
          eventFingerprint m msg.event = eventFingerprint m e ∧ outcome.streamId = msg.streamId) r.1 r.2) ∧
    ∀ calls : List (List (Tick × E)), RetainedRun m ttl calls.flatten .empty →
      (∀ c ∈ calls.flatten, Readable m c.2) →
      ∃ f : String → String,
        Set.InjOn f {id | ∃ msg ∈ (memoryRun m (calls.map (List.map Prod.snd))).2.messages, msg.streamId = id} ∧
        decodeMessages m (valkeyRun m ttl calls).2.stream.entries =
          .ok ((memoryRun m (calls.map (List.map Prod.snd))).2.messages.map fun msg =>
            ⟨f msg.streamId, msg.event⟩) ∧
        (valkeyRun m ttl calls).1 = (memoryRun m (calls.map (List.map Prod.snd))).1.map
          (List.map fun r => ⟨f r.streamId, r.deduplicated⟩) := by
  constructor
  · intro s hs hread
    obtain ⟨l, h⟩ := busInv_of_reachable hs
    have hfound : ∀ {f i}, Once.find (eventFingerprint m) l f = some i →
        ∃ msg ∈ l.map (fun x => (⟨x.1.text, x.2⟩ : StreamMessage E)),
          eventFingerprint m msg.event = f ∧ i.text = msg.streamId := by
      intro f i hi
      obtain ⟨a, ha, hf⟩ := Once.mem_of_find hi
      exact ⟨_, List.mem_map.mpr ⟨_, ha, rfl⟩, hf, rfl⟩
    have hkeys : (l.map fun x => (⟨x.1.text, x.2⟩ : StreamMessage E)).map (fun msg => eventFingerprint m msg.event) =
        Once.keys (eventFingerprint m) l := by simp [Once.keys]
    have hmem : ∀ f, f ∈ Once.keys (eventFingerprint m) l ↔ f ∈ s.ran.map (eventFingerprint m) := by
      intro f
      constructor
      · intro hf
        obtain ⟨x, hx, rfl⟩ := List.mem_map.mp hf
        exact List.mem_map_of_mem (h.logged x hx)
      · intro hf
        obtain ⟨e, he, rfl⟩ := List.mem_map.mp hf
        exact h.covered e he
    refine ⟨_, h.holds.decode fun x hx => hread _ (h.logged x hx), by rw [hkeys]; exact h.nodup,
      by rw [hkeys]; exact hmem, ?_, ?_⟩
    · intro e t he hr
      obtain ⟨i, hi⟩ := Option.isSome_iff_exists.mp (Once.find_isSome.mpr ((hmem _).mpr he))
      obtain ⟨msg, hmsg, hf, hid⟩ := hfound hi
      exact ⟨msg, hmsg, hf, by rw [runCommand_known h.holds hr hi, hid]⟩
    · intro r hr
      refine (h.returned r hr).imp ?_
      rintro e outcome ⟨i, hi, hout⟩
      obtain ⟨msg, hmsg, hf, hid⟩ := hfound hi
      exact ⟨msg, hmsg, hf, hout.trans hid⟩
  · intro calls hr hread
    obtain ⟨z, hmem, h, hout⟩ := Agree.calls calls hr
    obtain ⟨hinj, hmessages⟩ := h.renamed
    refine ⟨renameId z, hinj, ?_, ?_⟩
    · rw [h.valkey.decode, ← hmessages]
      · simp
      · intro x hx
        obtain ⟨y, hy, rfl⟩ := List.mem_map.mp hx
        obtain ⟨c, hc, hce⟩ := List.mem_map.mp (hmem y hy)
        exact hce ▸ hread c hc
    · exact h.renamed_calls hout

end bus

/-! ## Two publishers of one earthquake -/

/-- An earthquake event, up to the fields that do not vary here. -/
structure Quake where
  eventId : String
  title : String
  deriving DecidableEq

namespace Quake

def first : Quake := ⟨"us7000abcd", "M 4.1"⟩

/-- A correction of the first report. -/
def corrected : Quake := ⟨"us7000abcd", "M 4.3"⟩

def other : Quake := ⟨"us7000wxyz", "M 5.0"⟩

def dump (q : Quake) (ingestedAt : List (String × Json)) : Json :=
  .obj ([("event_id", .str q.eventId), ("event_type", .str "seismic.earthquake"), ("source", .str "usgs"),
    ("occurred_at", .str "2024-07-10T00:00:00Z")] ++ ingestedAt ++
    [("location", .null), ("payload", .obj [("title", .str q.title)])])

def dumpJson (q : Quake) : String :=
  String.ofList (write false (q.dump [("ingested_at", .str "2024-07-10T00:01:00Z")]))

/-- SHA-256 of the canonical contents of the three events. -/
def digest (content : String) : String :=
  if content = dumps true (first.dump []) then "f76ee5d5160b686c8d4b04a29f8e8cc514e6a64a9a79ae124f206a0f300e13c5"
  else if content = dumps true (corrected.dump []) then "49e2348b7084914e47283f3ffe1fb31a74a2671dbcbab1a1e4da86930a7812f9"
  else if content = dumps true (other.dump []) then "47b7045051ef6e6ff5a5046f94ac1c78c4c5ddbf04cecac33518785a37dcd609"
  else ""

def model : EventModel Quake where
  eventId := eventId
  source _ := "usgs"
  modelDump q := q.dump []
  modelDumpJson := dumpJson
  modelValidateJson text :=
    match [first, corrected, other].find? fun q => q.dumpJson = text with
    | some q => .ok q
    | none => .error "Invalid JSON"
  sha256 := digest

theorem readable : ∀ q ∈ [first, corrected, other], Readable model q := by
  simp only [List.forall_mem_cons, List.not_mem_nil, false_implies, implies_true, and_true, Readable]
  decide +kernel

/-- A week of retention. -/
def week : Nat := 604800

def tick (seconds : Nat) : Tick := ⟨1784116800000 + 1000 * seconds, 0⟩

/-- Two sequential calls, the second with a repeated event. -/
def calls : List (List (Tick × Quake)) := [[(tick 0, first), (tick 0, other)], [(tick 60, first), (tick 60, corrected)]]

/-- The first publisher's pipeline fails behind the command of its first event,
which the second publisher then sends again. -/
theorem contended : ∃ s : Publishers Bool Quake, PublishReachable model week s ∧ s.ran = [first, first] := by
  have h : PublishReachable model week (Publishers.init Bool Quake) := Relation.ReflTransGen.refl
  have h := h.tail (PublishStep.begin true [first, other] rfl)
  have h := h.tail (PublishStep.exec true (tick 0) (c := Call.begin [first, other]) (e := first)
    rfl rfl (by decide +kernel))
  have h := h.tail (PublishStep.fail true rfl)
  have h := h.tail (PublishStep.begin false [first] rfl)
  have h := h.tail (PublishStep.exec false (tick 1) (c := Call.begin [first]) (e := first)
    rfl rfl (by decide +kernel))
  exact ⟨_, h, rfl⟩

end Quake

theorem publish_exactly_once_quakes :
    (∃ s : Publishers Bool Quake, PublishReachable Quake.model Quake.week s ∧ s.ran = [Quake.first, Quake.first] ∧
      ∃ messages, decodeMessages Quake.model s.db.stream.entries = .ok messages ∧
        (messages.map fun msg => eventFingerprint Quake.model msg.event).Nodup) ∧
    ∃ f : String → String, (valkeyRun Quake.model Quake.week Quake.calls).1 =
      (memoryRun Quake.model (Quake.calls.map (List.map Prod.snd))).1.map
        (List.map fun r => ⟨f r.streamId, r.deduplicated⟩) := by
  have hread := Quake.readable
  constructor
  · obtain ⟨s, hs, hran⟩ := Quake.contended
    obtain ⟨messages, hm, hn, -⟩ := (publish_exactly_once Quake.model Quake.week).1 s hs fun e he =>
      hread e (by rw [hran] at he; simp at he; simp [he])
    exact ⟨s, hs, hran, messages, hm, hn⟩
  · obtain ⟨f, -, -, h⟩ := (publish_exactly_once (W := Bool) Quake.model Quake.week).2 Quake.calls (by decide +kernel)
      (by
        intro c hc
        refine hread c.2 ?_
        simp only [Quake.calls, List.flatten_cons, List.flatten_nil, List.append_nil, List.cons_append,
          List.nil_append, List.mem_cons, List.not_mem_nil, or_false] at hc
        rcases hc with rfl | rfl | rfl | rfl <;> simp)
    exact ⟨f, h⟩

end AtlasPulse
