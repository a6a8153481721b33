import AtlasPulse.Lib.Machine
import AtlasPulse.RateLimit

/-!
# Rate limits over whole runs

The script keeps one counter for each client key. A window begins with the
call that creates its counter and ends when a later call creates a new one,
which cannot happen before the full window has passed.
-/

namespace AtlasPulse

/-! ## One run of the script -/

/-- What the script makes of a live counter: its next value and expiry. -/
def nextCounter (now window : Nat) : Option Counter → Nat × Nat
  | none => (1, now + window)
  | some r => (r.value + 1, match r.expiresAt with
    | some e => if e = now then now + window else e
    | none => now + window)

section script
variable {db : Counters} {now window : Nat} {key : String}

theorem live_eq_some {r : Counter} :
    db.live now key = some r ↔ db.lookup key = some r ∧ ∀ e ∈ r.expiresAt, now ≤ e := by
  rw [Counters.live, Option.filter_eq_some_iff, Option.all_eq_true]
  simp only [decide_eq_true_eq]
  exact Iff.rfl

theorem live_insert {r : Counter} (h : ∀ e ∈ r.expiresAt, now ≤ e) :
    Counters.live (db.insert key r) now key = some r :=
  live_eq_some.mpr ⟨AList.lookup_insert _, h⟩

theorem pexpire_insert {r : Counter} (h : ∀ e ∈ r.expiresAt, now ≤ e) :
    Counters.pexpire (db.insert key r) now key window =
      (db.insert key r).insert key { r with expiresAt := some (now + window) } := by
  rw [Counters.pexpire, live_insert h]

theorem pttl_insert {r : Counter} {e : Nat} (he : r.expiresAt = some e) (h : now ≤ e) :
    Counters.pttl (db.insert key r) now key = e - now := by
  have hlive : Counters.live (db.insert key r) now key = some r := live_insert (by simp [he, h])
  rw [Counters.pttl, hlive]
  simp [he]

/-- The counters but one stay. -/
theorem lookup_insert_insert {r s : Counter} {other : String} (h : other ≠ key) :
    AList.lookup other ((db.insert key r).insert key s) = db.lookup other := by
  rw [AList.lookup_insert_ne h, AList.lookup_insert_ne h]

variable (now key) in
theorem consumeBudgetScript_eq (hw : 1 ≤ window) (hpos : ∀ r, db.live now key = some r → 1 ≤ r.value) :
    (consumeBudgetScript now key window db).1 =
        ((nextCounter now window (db.live now key)).1, ((nextCounter now window (db.live now key)).2 : Int) - now) ∧
      (consumeBudgetScript now key window db).2.lookup key =
        some ⟨(nextCounter now window (db.live now key)).1, some (nextCounter now window (db.live now key)).2⟩ ∧
      ∀ other, other ≠ key → (consumeBudgetScript now key window db).2.lookup other = db.lookup other := by
  have harmed : ¬ ((now + window : Nat) : Int) - now < 1 := by omega
  cases hlive : db.live now key with
  | none =>
    have hnew : Counters.pexpire (db.insert key ⟨1, none⟩) now key window =
        (db.insert key ⟨1, none⟩).insert key ⟨1, some (now + window)⟩ := pexpire_insert (by simp)
    have hleft : Counters.pttl ((db.insert key ⟨1, none⟩).insert key ⟨1, some (now + window)⟩) now key =
        (now + window : Nat) - now := pttl_insert rfl (Nat.le_add_right _ _)
    simp only [consumeBudgetScript, Counters.incr, hlive, if_true, hnew, hleft, harmed, if_false, nextCounter]
    exact ⟨trivial, AList.lookup_insert _, fun other h => lookup_insert_insert h⟩
  | some r =>
    have hone : ¬ r.value + 1 = 1 := by have := hpos r hlive; omega
    have hle := (live_eq_some.mp hlive).2
    have hrearm : Counters.pexpire (db.insert key { r with value := r.value + 1 }) now key window =
        (db.insert key { r with value := r.value + 1 }).insert key ⟨r.value + 1, some (now + window)⟩ :=
      pexpire_insert hle
    cases he : r.expiresAt with
    | none =>
      have hleft : Counters.pttl (db.insert key { r with value := r.value + 1 }) now key = -1 := by
        rw [Counters.pttl, live_insert (by simpa using hle)]
        simp [he]
      rw [he] at hrearm hleft
      simp only [consumeBudgetScript, Counters.incr, hlive, hone, if_false, he, hleft, hrearm, nextCounter]
      rw [if_pos (by decide)]
      exact ⟨by simp, AList.lookup_insert _, fun other h => lookup_insert_insert h⟩
    | some e =>
      have hnow : now ≤ e := hle e he
      have hleft : Counters.pttl (db.insert key { r with value := r.value + 1 }) now key = e - now :=
        pttl_insert he hnow
      rw [he] at hrearm hleft
      simp only [consumeBudgetScript, Counters.incr, hlive, hone, if_false, he, hleft, hrearm, nextCounter]
      by_cases hend : e = now
      · rw [if_pos (by omega), if_pos hend]
        exact ⟨by simp, AList.lookup_insert _, fun other h => lookup_insert_insert h⟩
      · rw [if_neg (by omega), if_neg hend]
        exact ⟨rfl, AList.lookup_insert _, fun other h => AList.lookup_insert_ne h⟩

theorem now_lt_nextCounter (hw : 1 ≤ window) : now < (nextCounter now window (db.live now key)).2 := by
  cases hlive : db.live now key with
  | none => simp only [nextCounter]; omega
  | some r =>
    cases he : r.expiresAt with
    | none => simp only [nextCounter, he]; omega
    | some e =>
      have := (live_eq_some.mp hlive).2 e he
      simp only [nextCounter, he]
      split <;> omega

theorem one_le_nextCounter : 1 ≤ (nextCounter now window (db.live now key)).1 := by
  cases db.live now key <;> simp [nextCounter]

end script

/-! ## One call -/

structure ConsumeCall where
  now : Nat
  clientKey : String
  fault : Option ConnectionFault

def consumeStep (policy : RateLimitPolicy) (db : Counters) (call : ConsumeCall) : Option RateLimitDecision × Counters :=
  consume policy call.now call.fault call.clientKey db

/-- The answer's budget for a key was granted. -/
def allowedOn (key : String) (x : ConsumeCall × Option RateLimitDecision) : Bool :=
  x.1.clientKey = key && x.2.any (·.allowed)

/-- The call runs the script under its client key. -/
def Reaches (key : String) (call : ConsumeCall) : Prop := call.clientKey = key ∧ call.fault ≠ some .unsent

instance (key : String) : DecidablePred (Reaches key) := fun _ => inferInstanceAs (Decidable (_ ∧ _))

/-- The call begins a window of its client key. -/
def Opens (policy : RateLimitPolicy) (db : Counters) (call : ConsumeCall) : Prop :=
  call.fault ≠ some .unsent ∧ ∃ k, budgetKey call.clientKey policy = .ok k ∧ db.live call.now k = none

/-- The counters that the script leaves. -/
def Armed (db : Counters) : Prop := ∀ k r, db.lookup k = some r → 1 ≤ r.value ∧ r.expiresAt.isSome

theorem budgetKey_inj {policy : RateLimitPolicy} {a b k : String} (ha : budgetKey a policy = .ok k)
    (hb : budgetKey b policy = .ok k) : a = b := by
  unfold budgetKey at ha hb
  split at ha
  · cases ha
  split at hb
  · cases hb
  have h := (Except.ok.inj ha).trans (Except.ok.inj hb).symm
  have h := String.toList_inj.mpr h
  simp only [String.toList_append, List.append_assoc, List.append_cancel_left_eq, List.append_cancel_right_eq] at h
  exact String.toList_inj.mp h

section policy
variable (policy : ValidPolicy)

/-- `ARGV[1]` of the script. -/
def windowMs : Nat := (policy.val.windowSeconds * 1000).toNat

def requestLimit : Nat := policy.val.requests.toNat

theorem policy_bounds : 1 ≤ policy.val.requests ∧ 1 ≤ policy.val.windowSeconds := by
  have h := policy.2
  simp only [RateLimitPolicy.validate, bind_ok, exists_unit, check_eq_ok, decide_eq_true_eq] at h
  exact h.2

theorem one_le_windowMs : 1 ≤ windowMs policy := by
  have := (policy_bounds policy).2
  unfold windowMs
  omega

/-- `_decision` for what the script reports. -/
def budgetDecision (count : Nat) (left : Int) : RateLimitDecision where
  policy := policy.val.name
  allowed := (count : Int) ≤ policy.val.requests
  limit := policy.val.requests
  remaining := max (policy.val.requests - count) 0
  resetAfterSeconds := max 1 ((left + 999) / 1000)

variable {policy}

theorem allowed_iff {count : Nat} {left : Int} :
    (budgetDecision policy count left).allowed = true ↔ count ≤ requestLimit policy := by
  have := (policy_bounds policy).1
  simp only [budgetDecision, requestLimit, decide_eq_true_eq]
  omega

variable {db : Counters} {call : ConsumeCall} {key k : String}

/-- A call that does not run the script, or runs it for another client. -/
theorem step_elsewhere (hk : budgetKey key policy.val = .ok k) (hdb : Armed db) (h : ¬ Reaches key call) :
    (consumeStep policy.val db call).2.lookup k = db.lookup k ∧
      allowedOn key (call, (consumeStep policy.val db call).1) = false := by
  unfold consumeStep consume
  cases hcall : budgetKey call.clientKey policy.val with
  | error e => simp [allowedOn]
  | ok k' =>
    by_cases hfault : call.fault = some .unsent
    · simp [hfault, allowedOn]
    have hkey : call.clientKey ≠ key := fun heq => h ⟨heq, hfault⟩
    have hne : k ≠ k' := fun heq => hkey (budgetKey_inj hcall (heq ▸ hk))
    have hsame := (consumeBudgetScript_eq call.now k' (one_le_windowMs policy)
      fun r hr => (hdb k' r (live_eq_some.mp hr).1).1).2.2 k hne
    match hf : call.fault with
    | none => exact ⟨hsame, by simp [allowedOn, hkey]⟩
    | some .lost => exact ⟨hsame, by simp [allowedOn]⟩
    | some .unsent => exact absurd hf hfault

/-- A call that runs the script. -/
theorem step_reached (hk : budgetKey key policy.val = .ok k) (hdb : Armed db) (h : Reaches key call) :
    let next := nextCounter call.now (windowMs policy) (db.live call.now k)
    (consumeStep policy.val db call).2.lookup k = some ⟨next.1, some next.2⟩ ∧
      (consumeStep policy.val db call).1 =
        if call.fault = none then some (budgetDecision policy next.1 (next.2 - call.now)) else none := by
  intro next
  obtain ⟨hreply, hself, -⟩ := consumeBudgetScript_eq call.now k (one_le_windowMs policy)
    fun r hr => (hdb k r (live_eq_some.mp hr).1).1
  obtain ⟨rfl, hfault⟩ := h
  unfold consumeStep consume
  rw [hk]
  match hf : call.fault with
  | none =>
    have hlt : call.now < next.2 := now_lt_nextCounter (one_le_windowMs policy)
    have hpos : ¬ (next.1 < 1 ∨ (next.2 : Int) - call.now < 1) := by
      have : 1 ≤ next.1 := one_le_nextCounter
      omega
    have hdecision : rateLimitDecision (next.1, (next.2 : Int) - call.now) policy.val =
        .ok (budgetDecision policy next.1 (next.2 - call.now)) := if_neg hpos
    refine ⟨hself, ?_⟩
    show (rateLimitDecision (consumeBudgetScript call.now k (windowMs policy) db).1 policy.val).toOption = _
    rw [hreply, hdecision]
    rfl
  | some .lost => exact ⟨hself, rfl⟩
  | some .unsent => exact absurd hf hfault

/-- A call inside a window. -/
theorem step_within (hk : budgetKey key policy.val = .ok k) (hdb : Armed db) {v e : Nat}
    (hat : db.lookup k = some ⟨v, some e⟩) (hopen : call.clientKey = key → ¬ Opens policy.val db call)
    (h : Reaches key call) : call.now ≤ e ∧ ∃ e', e ≤ e' ∧
      (consumeStep policy.val db call).2.lookup k = some ⟨v + 1, some e'⟩ ∧
      (consumeStep policy.val db call).1 =
        if call.fault = none then some (budgetDecision policy (v + 1) (e' - call.now)) else none := by
  obtain ⟨hnext, hanswer⟩ := step_reached hk hdb h
  cases hlive : db.live call.now k with
  | none => exact absurd ⟨h.2, k, h.1 ▸ hk, hlive⟩ (hopen h.1)
  | some r =>
    obtain ⟨hr, hle⟩ := live_eq_some.mp hlive
    obtain rfl := Option.some.inj (hr.symm.trans hat)
    rw [hlive] at hnext hanswer
    have hnow : call.now ≤ e := hle e rfl
    refine ⟨hnow, _, ?_, hnext, hanswer⟩
    simp only [nextCounter]
    split <;> omega

theorem allowedOn_within {v e : Nat} (hk : budgetKey key policy.val = .ok k) (hdb : Armed db)
    (hat : db.lookup k = some ⟨v, some e⟩) (hopen : call.clientKey = key → ¬ Opens policy.val db call)
    (h : Reaches key call) :
    allowedOn key (call, (consumeStep policy.val db call).1) = true ↔
      call.fault = none ∧ v + 1 ≤ requestLimit policy := by
  obtain ⟨-, e', -, -, hanswer⟩ := step_within hk hdb hat hopen h
  rw [allowedOn, hanswer]
  by_cases hf : call.fault = none
  · simp [hf, h.1, allowed_iff]
  · simp [hf]

/-! ## Invariants of runs -/

variable (policy) in
theorem consumeStep_db (db : Counters) (call : ConsumeCall) :
    (consumeStep policy.val db call).2 = db ∨
      ∃ k, (consumeStep policy.val db call).2 = (consumeBudgetScript call.now k (windowMs policy) db).2 := by
  unfold consumeStep consume
  cases budgetKey call.clientKey policy.val with
  | error e => exact Or.inl rfl
  | ok k =>
    match call.fault with
    | none => exact Or.inr ⟨k, rfl⟩
    | some .lost => exact Or.inr ⟨k, rfl⟩
    | some .unsent => exact Or.inl rfl

variable (policy) in
theorem Armed.step (hdb : Armed db) (call : ConsumeCall) : Armed (consumeStep policy.val db call).2 := by
  rcases consumeStep_db policy db call with h | ⟨k, h⟩
  · rw [h]
    exact hdb
  · obtain ⟨-, hself, hother⟩ := consumeBudgetScript_eq call.now k (one_le_windowMs policy)
      fun r hr => (hdb k r (live_eq_some.mp hr).1).1
    rw [h]
    intro k' r hr
    by_cases hk : k' = k
    · rw [hk, hself] at hr
      obtain rfl := Option.some.inj hr
      exact ⟨one_le_nextCounter, rfl⟩
    · rw [hother k' hk] at hr
      exact hdb k' r hr

variable (policy) in
theorem Armed.run (calls : List ConsumeCall) {db : Counters} (hdb : Armed db) :
    Armed (Machine.run (consumeStep policy.val) db calls) :=
  Machine.run_inv (P := fun _ => True) (fun _ c _ h => h.step policy c) hdb fun _ _ => trivial

/-- No counter outlives a full window from now. -/
def Bounded (policy : ValidPolicy) (now : Nat) (db : Counters) : Prop :=
  ∀ k r, db.lookup k = some r → ∀ e ∈ r.expiresAt, e ≤ now + windowMs policy

theorem nextCounter_le (hb : Bounded policy call.now db) :
    (nextCounter call.now (windowMs policy) (db.live call.now k)).2 ≤ call.now + windowMs policy := by
  cases hlive : db.live call.now k with
  | none => exact Nat.le_refl _
  | some r =>
    cases he : r.expiresAt with
    | none => simp only [nextCounter, he]; exact Nat.le_refl _
    | some e =>
      have := hb k r (live_eq_some.mp hlive).1 e he
      simp only [nextCounter, he]
      split <;> omega

theorem Bounded.step (hdb : Armed db) (hb : Bounded policy call.now db) :
    Bounded policy call.now (consumeStep policy.val db call).2 := by
  rcases consumeStep_db policy db call with h | ⟨k, h⟩
  · rw [h]
    exact hb
  · obtain ⟨-, hself, hother⟩ := consumeBudgetScript_eq call.now k (one_le_windowMs policy)
      fun r hr => (hdb k r (live_eq_some.mp hr).1).1
    rw [h]
    intro k' r hr e he
    by_cases hk : k' = k
    · rw [hk, hself] at hr
      obtain rfl := Option.some.inj hr
      obtain rfl := Option.some.inj he
      exact nextCounter_le hb
    · rw [hother k' hk] at hr
      exact hb k' r hr e he

theorem Bounded.later {now now' : Nat} (h : now ≤ now') (hb : Bounded policy now db) : Bounded policy now' db :=
  fun k r hr e he => (hb k r hr e he).trans (by omega)

/-- The reset time of a decision is within the window. -/
theorem reset_within (hdb : Armed db) (hb : Bounded policy call.now db) {d : RateLimitDecision}
    (h : (consumeStep policy.val db call).1 = some d) :
    1 ≤ d.resetAfterSeconds ∧ d.resetAfterSeconds ≤ policy.val.windowSeconds := by
  cases hkey : budgetKey call.clientKey policy.val with
  | error e => simp [consumeStep, consume, hkey] at h
  | ok k =>
    by_cases hr : Reaches call.clientKey call
    · obtain ⟨-, hanswer⟩ := step_reached hkey hdb hr
      rw [h] at hanswer
      split at hanswer
      · obtain rfl := Option.some.inj hanswer
        have hle := nextCounter_le (k := k) hb
        have hone := (policy_bounds policy).2
        simp only [budgetDecision]
        unfold windowMs at hle ⊢
        omega
      · cases hanswer
    · have hf : call.fault = some .unsent := not_not.mp fun hf => hr ⟨rfl, hf⟩
      simp [consumeStep, consume, hkey, hf] at h

/-! ## Windows -/

/-- None of the calls begins a new window of the client. -/
def SameWindow (policy : ValidPolicy) (key : String) (db : Counters) (calls : List ConsumeCall) : Prop :=
  ∀ before call after, calls = before ++ call :: after → call.clientKey = key →
    ¬ Opens policy.val (Machine.run (consumeStep policy.val) db before) call

theorem sameWindow_cons {calls : List ConsumeCall} : SameWindow policy key db (call :: calls) ↔
    (call.clientKey = key → ¬ Opens policy.val db call) ∧
      SameWindow policy key (consumeStep policy.val db call).2 calls := by
  constructor
  · intro h
    exact ⟨h [] call calls rfl, fun before c after heq => h (call :: before) c after (by rw [heq]; rfl)⟩
  · intro ⟨hfirst, hrest⟩ before c after heq
    cases before with
    | nil =>
      obtain ⟨rfl, -⟩ := List.cons.inj heq
      exact hfirst
    | cons b before =>
      obtain ⟨rfl, htail⟩ := List.cons.inj heq
      exact hrest before c after htail

/-- The calls of one window count up from the calls before them. -/
theorem window_value (hk : budgetKey key policy.val = .ok k) {calls : List ConsumeCall} :
    ∀ {db : Counters}, Armed db → ∀ {v e : Nat}, db.lookup k = some ⟨v, some e⟩ → SameWindow policy key db calls →
      ∃ e', (Machine.run (consumeStep policy.val) db calls).lookup k =
        some ⟨v + calls.countP (Reaches key ·), some e'⟩ := by
  induction calls with
  | nil => exact fun _ _ e hat _ => ⟨e, hat⟩
  | cons c calls ih =>
    intro db hdb v e hat hsame
    obtain ⟨hopen, hrest⟩ := sameWindow_cons.mp hsame
    by_cases hr : Reaches key c
    · obtain ⟨-, e', -, hat', -⟩ := step_within hk hdb hat hopen hr
      obtain ⟨e'', h⟩ := ih (hdb.step policy c) hat' hrest
      refine ⟨e'', ?_⟩
      rw [List.countP_cons_of_pos (by simpa using hr), Machine.run, h]
      simp only [Option.some.injEq, Counter.mk.injEq, and_true]
      omega
    · have hat' := (step_elsewhere hk hdb hr).1.trans hat
      obtain ⟨e'', h⟩ := ih (hdb.step policy c) hat' hrest
      exact ⟨e'', by rw [List.countP_cons_of_neg (by simpa using hr), Machine.run, h]⟩

/-- In one window at most the remaining budget is granted. -/
theorem window_allowed (hk : budgetKey key policy.val = .ok k) {calls : List ConsumeCall} :
    ∀ {db : Counters}, Armed db → ∀ {v e : Nat}, db.lookup k = some ⟨v, some e⟩ → SameWindow policy key db calls →
      (Machine.log (consumeStep policy.val) db calls).countP (allowedOn key) ≤ requestLimit policy - v := by
  induction calls with
  | nil => intro db hdb v e hat _; simp
  | cons c calls ih =>
    intro db hdb v e hat hsame
    obtain ⟨hopen, hrest⟩ := sameWindow_cons.mp hsame
    rw [Machine.log]
    by_cases hr : Reaches key c
    · obtain ⟨-, e', -, hat', -⟩ := step_within hk hdb hat hopen hr
      have hrest' := ih (hdb.step policy c) hat' hrest
      have hone := allowedOn_within hk hdb hat hopen hr
      by_cases ha : allowedOn key (c, (consumeStep policy.val db c).1) = true
      · have := (hone.mp ha).2
        rw [List.countP_cons_of_pos ha]
        omega
      · rw [List.countP_cons_of_neg ha]
        omega
    · obtain ⟨hsamekey, hnot⟩ := step_elsewhere hk hdb hr
      rw [List.countP_cons_of_neg (by simp [hnot])]
      exact ih (hdb.step policy c) (hsamekey.trans hat) hrest

/-- Without lost replies the granted requests of a window are its first ones. -/
theorem window_allowed_eq (hk : budgetKey key policy.val = .ok k) {calls : List ConsumeCall}
    (hlost : ∀ c ∈ calls, c.clientKey = key → c.fault ≠ some .lost) :
    ∀ {db : Counters}, Armed db → ∀ {v e : Nat}, db.lookup k = some ⟨v, some e⟩ → SameWindow policy key db calls →
      (Machine.log (consumeStep policy.val) db calls).countP (allowedOn key) + min v (requestLimit policy) =
        min (v + calls.countP (Reaches key ·)) (requestLimit policy) := by
  induction calls with
  | nil => intro db hdb v e hat _; simp
  | cons c calls ih =>
    intro db hdb v e hat hsame
    obtain ⟨hopen, hrest⟩ := sameWindow_cons.mp hsame
    have hlater : ∀ c' ∈ calls, c'.clientKey = key → c'.fault ≠ some .lost :=
      fun c' hc' => hlost c' (List.mem_cons_of_mem _ hc')
    rw [Machine.log]
    by_cases hr : Reaches key c
    · obtain ⟨-, e', -, hat', -⟩ := step_within hk hdb hat hopen hr
      have hrest' := ih hlater (hdb.step policy c) hat' hrest
      have hone := allowedOn_within hk hdb hat hopen hr
      have hnone : c.fault = none := by
        cases hf : c.fault with
        | none => rfl
        | some fault =>
          cases fault with
          | lost => exact absurd hf (hlost c List.mem_cons_self hr.1)
          | unsent => exact absurd hf hr.2
      have hcount : (c :: calls).countP (Reaches key ·) = calls.countP (Reaches key ·) + 1 :=
        List.countP_cons_of_pos (by simpa using hr)
      rw [hcount]
      by_cases ha : allowedOn key (c, (consumeStep policy.val db c).1) = true
      · have := (hone.mp ha).2
        rw [List.countP_cons_of_pos ha]
        omega
      · have : ¬ v + 1 ≤ requestLimit policy := fun h => ha (hone.mpr ⟨hnone, h⟩)
        rw [List.countP_cons_of_neg ha]
        omega
    · obtain ⟨hsamekey, hnot⟩ := step_elsewhere hk hdb hr
      have hcount : (c :: calls).countP (Reaches key ·) = calls.countP (Reaches key ·) :=
        List.countP_cons_of_neg (by simpa using hr)
      rw [List.countP_cons_of_neg (by simp [hnot]), hcount]
      exact ih hlater (hdb.step policy c) (hsamekey.trans hat) hrest

/-- Until the expiry no new window begins. -/
theorem sameWindow_of_le (hk : budgetKey key policy.val = .ok k) {calls : List ConsumeCall} {last : Nat}
    (hlast : ∀ c ∈ calls, c.now ≤ last) :
    ∀ {db : Counters}, Armed db → ∀ {v e : Nat}, db.lookup k = some ⟨v, some e⟩ → last ≤ e →
      SameWindow policy key db calls := by
  induction calls with
  | nil => intro db _ v e _ _ before call after heq; simp at heq
  | cons c calls ih =>
    intro db hdb v e hat hle
    have hnow : c.now ≤ last := hlast c List.mem_cons_self
    have hopen : c.clientKey = key → ¬ Opens policy.val db c := by
      rintro rfl ⟨-, k', hk', hlive⟩
      obtain rfl := Except.ok.inj (hk'.symm.trans hk)
      have : db.live c.now k' = some ⟨v, some e⟩ :=
        live_eq_some.mpr ⟨hat, fun e' he' => by obtain rfl := Option.some.inj he'; omega⟩
      rw [hlive] at this
      cases this
    have hlater : ∀ c' ∈ calls, c'.now ≤ last := fun c' hc' => hlast c' (List.mem_cons_of_mem _ hc')
    refine sameWindow_cons.mpr ⟨hopen, ?_⟩
    by_cases hr : Reaches key c
    · obtain ⟨-, e', he', hat', -⟩ := step_within hk hdb hat hopen hr
      exact ih hlater (hdb.step policy c) hat' (hle.trans he')
    · exact ih hlater (hdb.step policy c) ((step_elsewhere hk hdb hr).1.trans hat) hle

theorem sameWindow_append {l m : List ConsumeCall} : SameWindow policy key db (l ++ m) ↔
    SameWindow policy key db l ∧ SameWindow policy key (Machine.run (consumeStep policy.val) db l) m := by
  induction l generalizing db with
  | nil =>
    refine ⟨fun h => ⟨fun before c after heq => by simp at heq, h⟩, fun h => h.2⟩
  | cons c l ih => rw [List.cons_append, sameWindow_cons, sameWindow_cons, ih, and_assoc, Machine.run]

/-- The call that begins a window. -/
theorem step_opens (hdb : Armed db) (hopens : Opens policy.val db call) : ∃ k,
    budgetKey call.clientKey policy.val = .ok k ∧
    (consumeStep policy.val db call).2.lookup k = some ⟨1, some (call.now + windowMs policy)⟩ ∧
    (consumeStep policy.val db call).1 =
      if call.fault = none then some (budgetDecision policy 1 (windowMs policy)) else none := by
  obtain ⟨hfault, k, hk, hlive⟩ := hopens
  obtain ⟨hself, hanswer⟩ := step_reached hk hdb ⟨rfl, hfault⟩
  rw [hlive] at hself hanswer
  refine ⟨k, hk, hself, ?_⟩
  rw [hanswer]
  simp [nextCounter]

theorem one_le_requestLimit (policy : ValidPolicy) : 1 ≤ requestLimit policy := by
  have := (policy_bounds policy).1
  unfold requestLimit
  omega

theorem opening_allowed (hdb : Armed db) (hopens : Opens policy.val db call) :
    allowedOn call.clientKey (call, (consumeStep policy.val db call).1) = true ↔ call.fault = none := by
  obtain ⟨k, hk, -, hanswer⟩ := step_opens hdb hopens
  rw [allowedOn, hanswer]
  by_cases hf : call.fault = none
  · simp [hf, allowed_iff, one_le_requestLimit policy]
  · simp [hf]

/-- A window grants at most the limit. -/
theorem opened_allowed (hdb : Armed db) (hopens : Opens policy.val db call) {window : List ConsumeCall}
    (hsame : SameWindow policy call.clientKey (consumeStep policy.val db call).2 window) :
    (Machine.log (consumeStep policy.val) db (call :: window)).countP (allowedOn call.clientKey) ≤
      requestLimit policy := by
  obtain ⟨k, hk, hat, -⟩ := step_opens hdb hopens
  have hrest := window_allowed hk (hdb.step policy call) hat hsame
  have hone := one_le_requestLimit policy
  rw [Machine.log, List.countP_cons]
  split <;> omega

/-- Two windows meet an interval of one window's length. -/
theorem interval_allowed (hk : budgetKey key policy.val = .ok k) {calls : List ConsumeCall} {a : Nat}
    (hin : ∀ c ∈ calls, a ≤ c.now ∧ c.now ≤ a + windowMs policy) : ∀ {db : Counters}, Armed db →
      (Machine.log (consumeStep policy.val) db calls).countP (allowedOn key) ≤
        (requestLimit policy - ((db.lookup k).map (·.value)).getD 0) + requestLimit policy := by
  induction calls with
  | nil => intro db _; simp
  | cons c calls ih =>
    intro db hdb
    have hlater : ∀ c' ∈ calls, a ≤ c'.now ∧ c'.now ≤ a + windowMs policy :=
      fun c' hc' => hin c' (List.mem_cons_of_mem _ hc')
    have hrest := ih hlater (hdb.step policy c)
    by_cases hr : Reaches key c
    · by_cases hopens : Opens policy.val db c
      · -- the rest of the interval lies in the window that begins here
        obtain ⟨k', hk', hat, -⟩ := step_opens hdb hopens
        have hlast : ∀ c' ∈ calls, c'.now ≤ a + windowMs policy := fun c' hc' => (hlater c' hc').2
        have hsame := sameWindow_of_le hk' hlast (hdb.step policy c) hat
          (by have := (hin c List.mem_cons_self).1; omega)
        have := opened_allowed hdb hopens hsame
        rw [hr.1] at this
        omega
      · rw [Machine.log]
        cases hlook : db.lookup k with
        | none =>
          have hlive : db.live c.now k = none := by simp [Counters.live, hlook]
          exact absurd ⟨hr.2, k, hr.1 ▸ hk, hlive⟩ hopens
        | some r =>
          obtain ⟨v, expiry⟩ := r
          obtain ⟨e, he⟩ := Option.isSome_iff_exists.mp (hdb k _ hlook).2
          obtain rfl : expiry = some e := he
          obtain ⟨-, e', -, hat', -⟩ := step_within hk hdb hlook (fun _ => hopens) hr
          have hone := allowedOn_within hk hdb hlook (fun _ => hopens) hr
          rw [hat'] at hrest
          simp only [Option.map_some, Option.getD_some] at hrest ⊢
          by_cases ha : allowedOn key (c, (consumeStep policy.val db c).1) = true
          · have := (hone.mp ha).2
            rw [List.countP_cons_of_pos ha]
            omega
          · rw [List.countP_cons_of_neg ha]
            omega
    · obtain ⟨hsamekey, hnot⟩ := step_elsewhere hk hdb hr
      rw [Machine.log, List.countP_cons_of_neg (by simp [hnot])]
      rwa [hsamekey] at hrest

/-! ## The windows of a run -/

variable (policy) in
/-- The calls, after those before, begin a window of the client and stay in it. -/
def IsWindow (key : String) (before window : List ConsumeCall) : Prop :=
  ∃ call later, window = call :: later ∧ call.clientKey = key ∧
    Opens policy.val (Machine.run (consumeStep policy.val) ∅ before) call ∧
    SameWindow policy key (Machine.run (consumeStep policy.val) ∅ (before ++ [call])) later

theorem armed_run (policy : ValidPolicy) (calls : List ConsumeCall) :
    Armed (Machine.run (consumeStep policy.val) ∅ calls) :=
  Armed.run policy calls fun k r h => by simp [AList.lookup_empty] at h

theorem lookup_run_of_not_reaches (hk : budgetKey key policy.val = .ok k) {calls : List ConsumeCall}
    (h : ∀ c ∈ calls, ¬ Reaches key c) : (Machine.run (consumeStep policy.val) ∅ calls).lookup k = none := by
  induction calls using List.reverseRecOn with
  | nil => exact AList.lookup_empty k
  | append_singleton calls c ih =>
    rw [Machine.run_snoc, (step_elsewhere hk (armed_run policy calls) (h c (by simp))).1]
    exact ih fun c' hc' => h c' (List.mem_append_left _ hc')

/-- Once the client has reached the store, a run ends in one of its windows. -/
theorem exists_window (hk : budgetKey key policy.val = .ok k) {calls : List ConsumeCall}
    (h : ∃ c ∈ calls, Reaches key c) : ∃ before window, calls = before ++ window ∧ IsWindow policy key before window := by
  induction calls using List.reverseRecOn with
  | nil => simp at h
  | append_singleton calls c ih =>
    by_cases hopens : c.clientKey = key ∧ Opens policy.val (Machine.run (consumeStep policy.val) ∅ calls) c
    · have hnil : SameWindow policy key (Machine.run (consumeStep policy.val) ∅ (calls ++ [c])) [] :=
        fun before call after heq => by simp at heq
      exact ⟨calls, [c], rfl, c, [], rfl, hopens.1, hopens.2, hnil⟩
    · by_cases hearlier : ∃ c' ∈ calls, Reaches key c'
      · obtain ⟨before, window, hcalls, call, later, rfl, hkey, hfirst, hsame⟩ := ih hearlier
        refine ⟨before, call :: later ++ [c], by rw [hcalls, List.append_assoc], call, later ++ [c], rfl, hkey, hfirst, ?_⟩
        refine sameWindow_append.mpr ⟨hsame, sameWindow_cons.mpr ⟨fun hc ho => hopens ⟨hc, ?_⟩, fun b c' a heq => by simp at heq⟩⟩
        rw [← Machine.run_append] at ho
        rwa [hcalls, List.append_cons before call later]
      · -- the first call of the client begins a window
        obtain ⟨c', hc', hr⟩ := h
        obtain hc' | rfl := (List.mem_append.mp hc').imp_right List.mem_singleton.mp
        · exact absurd ⟨c', hc', hr⟩ hearlier
        have hlook := lookup_run_of_not_reaches hk fun c hc hr => hearlier ⟨c, hc, hr⟩
        refine absurd ⟨hr.1, hr.2, k, hr.1 ▸ hk, ?_⟩ hopens
        rw [Counters.live, hlook]
        rfl

/-- A window lasts at least the policy's window. -/
theorem isWindow_lasts {before window : List ConsumeCall} (h : IsWindow policy key before window) {first next : ConsumeCall}
    (hfirst : window.head? = some first) (hclock : ∀ c ∈ window, c.now ≤ next.now) (hkey : next.clientKey = key)
    (hopens : Opens policy.val (Machine.run (consumeStep policy.val) ∅ (before ++ window)) next) :
    first.now + windowMs policy < next.now := by
  obtain ⟨call, later, rfl, rfl, hcall, -⟩ := h
  obtain rfl := Option.some.inj hfirst
  by_contra hle
  obtain ⟨k, hk, hat, -⟩ := step_opens (armed_run policy before) hcall
  have hlast : ∀ c ∈ later ++ [next], c.now ≤ next.now := by
    intro c hc
    rcases List.mem_append.mp hc with hc | hc
    · exact hclock c (List.mem_cons_of_mem _ hc)
    · rw [List.mem_singleton.mp hc]
  have hsame := sameWindow_of_le hk hlast ((armed_run policy before).step policy call) hat (Nat.not_lt.mp hle)
  refine hsame later next [] rfl hkey ?_
  rwa [Machine.run_append] at hopens

theorem budgetKey_of_answer {d : RateLimitDecision} (h : (consumeStep policy.val db call).1 = some d) :
    (∃ k, budgetKey call.clientKey policy.val = .ok k) ∧ call.fault = none := by
  unfold consumeStep consume at h
  cases hk : budgetKey call.clientKey policy.val with
  | error e => simp [hk] at h
  | ok k =>
    refine ⟨⟨k, rfl⟩, ?_⟩
    match hf : call.fault with
    | none => rfl
    | some .lost => simp [hk, hf] at h
    | some .unsent => simp [hk, hf] at h

/-- The budget left after an answer in a window. -/
theorem window_remaining {before window : List ConsumeCall} (h : IsWindow policy key before window)
    {served rest : List (ConsumeCall × Option RateLimitDecision)} {c : ConsumeCall} {d : RateLimitDecision}
    (hlog : Machine.log (consumeStep policy.val) (Machine.run (consumeStep policy.val) ∅ before) window =
      served ++ (c, some d) :: rest) (hc : c.clientKey = key) :
    d.remaining = max (policy.val.requests - (served.map Prod.fst ++ [c]).countP (Reaches key ·)) 0 := by
  obtain ⟨call, later, rfl, hcall, hopens, hsame⟩ := h
  have hdb := armed_run policy before
  obtain ⟨hcalls, hanswer, -⟩ := Machine.log_eq_append_cons hlog
  obtain ⟨⟨k, hk⟩, hfault⟩ := budgetKey_of_answer hanswer.symm
  dsimp only at hfault hk hanswer hcalls
  have hreach : Reaches key c := ⟨hc, by simp [hfault]⟩
  obtain ⟨k', hk', hat, hfirst⟩ := step_opens hdb hopens
  obtain rfl : k' = k := Except.ok.inj (hk'.symm.trans (by rw [hcall, ← hc, hk]))
  rw [hc] at hk
  cases served with
  | nil =>
    obtain ⟨rfl, -⟩ := List.cons.inj hcalls
    rw [List.map_nil, Machine.run_nil, hfirst, if_pos hfault] at hanswer
    rw [Option.some.inj hanswer, List.map_nil, List.nil_append, List.countP_cons_of_pos (by simpa using hreach)]
    rfl
  | cons x served =>
    obtain ⟨rfl, rfl⟩ := List.cons.inj hcalls
    rw [Machine.run_snoc] at hsame
    obtain ⟨hserved, hrest⟩ := sameWindow_append.mp hsame
    have hdb' := hdb.step policy x.1
    obtain ⟨e, hvalue⟩ := window_value hk hdb' hat hserved
    obtain ⟨-, e', -, -, hdecision⟩ :=
      step_within hk (hdb'.run policy (served.map Prod.fst)) hvalue (sameWindow_cons.mp hrest).1 hreach
    rw [List.map_cons, Machine.run, hdecision, if_pos hfault] at hanswer
    have hcount : ((x :: served).map Prod.fst ++ [c]).countP (Reaches key ·) =
        1 + (served.map Prod.fst).countP (Reaches key ·) + 1 := by
      rw [List.map_cons, List.cons_append, List.countP_cons_of_pos (by simpa using ⟨hcall, hopens.1⟩),
        List.countP_append, List.countP_cons_of_pos (by simpa using hreach), List.countP_nil]
      omega
    rw [Option.some.inj hanswer, hcount]
    rfl

/-- Without lost replies the granted requests of a window are its first ones. -/
theorem window_granted {before window : List ConsumeCall} (h : IsWindow policy key before window)
    (hlost : ∀ c ∈ window, c.clientKey = key → c.fault ≠ some .lost) :
    (Machine.log (consumeStep policy.val) (Machine.run (consumeStep policy.val) ∅ before) window).countP (allowedOn key) =
      min (window.countP (Reaches key ·)) (requestLimit policy) := by
  obtain ⟨call, later, rfl, rfl, hopens, hsame⟩ := h
  have hdb := armed_run policy before
  obtain ⟨k, hk, hat, -⟩ := step_opens hdb hopens
  rw [Machine.run_snoc] at hsame
  have hlater := window_allowed_eq hk (fun c hc => hlost c (List.mem_cons_of_mem _ hc)) (hdb.step policy call) hat hsame
  have hnone : call.fault = none := by
    match hf : call.fault with
    | none => rfl
    | some .lost => exact absurd hf (hlost call List.mem_cons_self rfl)
    | some .unsent => exact absurd hf hopens.1
  have hreach : Reaches call.clientKey call := ⟨rfl, hopens.1⟩
  have hone := one_le_requestLimit policy
  rw [Machine.log, List.countP_cons_of_pos ((opening_allowed hdb hopens).mpr hnone),
    List.countP_cons_of_pos (by simpa using hreach)]
  omega

/-- An initial part of a window is one. -/
theorem isWindow_of_append {before window after : List ConsumeCall} (h : IsWindow policy key before (window ++ after))
    (hne : window ≠ []) : IsWindow policy key before window := by
  obtain ⟨call, later, heq, hkey, hopens, hsame⟩ := h
  cases window with
  | nil => exact absurd rfl hne
  | cons c window =>
    obtain ⟨rfl, rfl⟩ := List.cons.inj heq
    exact ⟨c, window, rfl, hkey, hopens, (sameWindow_append.mp hsame).1⟩

end policy

/-- A sorted list meets an interval in one part. -/
theorem exists_interval {α : Type*} (f : α → ℕ) (a b : ℕ) {l : List α} (h : (l.map f).Pairwise (· ≤ ·)) :
    ∃ earlier within later, l = earlier ++ within ++ later ∧ (∀ x ∈ earlier, f x < a) ∧
      (∀ x ∈ within, a ≤ f x ∧ f x ≤ b) ∧ ∀ x ∈ later, f x < a ∨ b < f x := by
  induction l with
  | nil => exact ⟨[], [], [], rfl, by simp, by simp, by simp⟩
  | cons x l ih =>
    obtain ⟨hx, hl⟩ := List.pairwise_cons.mp h
    obtain ⟨earlier, within, later, rfl, he, hw, hlate⟩ := ih hl
    have hle : ∀ y ∈ earlier ++ within ++ later, f x ≤ f y := fun y hy => hx _ (List.mem_map_of_mem hy)
    by_cases ha : f x < a
    · exact ⟨x :: earlier, within, later, rfl, List.forall_mem_cons.mpr ⟨ha, he⟩, hw, hlate⟩
    by_cases hb : f x ≤ b
    · cases earlier with
      | nil => exact ⟨[], x :: within, later, rfl, by simp, List.forall_mem_cons.mpr ⟨⟨Nat.not_lt.mp ha, hb⟩, hw⟩, hlate⟩
      | cons y earlier =>
        have := hle y (by simp)
        have := he y List.mem_cons_self
        omega
    · refine ⟨[], [], x :: (earlier ++ within ++ later), rfl, by simp, by simp, List.forall_mem_cons.mpr ⟨Or.inr (Nat.not_le.mp hb), ?_⟩⟩
      intro y hy
      have := hle y hy
      omega

/-- **Any interval.** -/
theorem any_interval_allowed (policy : ValidPolicy) {calls : List ConsumeCall}
    (hclock : (calls.map (·.now)).Pairwise (· ≤ ·)) (key : String) (a : Nat) :
    ((Machine.log (consumeStep policy.val) ∅ calls).filter fun x =>
      a ≤ x.1.now && x.1.now ≤ a + windowMs policy).countP (allowedOn key) ≤ 2 * requestLimit policy := by
  obtain ⟨earlier, within, later, rfl, he, hw, hl⟩ := exists_interval ConsumeCall.now a (a + windowMs policy) hclock
  have hnone : ∀ (db : Counters) (l : List ConsumeCall), (∀ c ∈ l, c.now < a ∨ a + windowMs policy < c.now) →
      ((Machine.log (consumeStep policy.val) db l).filter fun x =>
        a ≤ x.1.now && x.1.now ≤ a + windowMs policy) = [] := by
    intro db l hout
    refine List.filter_eq_nil_iff.mpr fun x hx => ?_
    have := hout x.1 (Machine.mem_of_mem_log _ hx)
    simp only [Bool.and_eq_true, decide_eq_true_eq]
    omega
  rw [Machine.log_append, Machine.log_append, List.filter_append, List.filter_append,
    hnone _ earlier fun c hc => Or.inl (he c hc), hnone _ later hl, List.nil_append, List.append_nil]
  refine (List.filter_sublist.countP_le).trans ?_
  cases hk : budgetKey key policy.val with
  | error e =>
    have hzero : (Machine.log (consumeStep policy.val) (Machine.run (consumeStep policy.val) ∅ earlier) within).countP
        (allowedOn key) = 0 := by
      refine List.countP_eq_zero.mpr fun x hx hallowed => ?_
      obtain ⟨served, rest, hlog⟩ := List.append_of_mem hx
      obtain ⟨-, hanswer, -⟩ := Machine.log_eq_append_cons hlog
      rw [allowedOn, Bool.and_eq_true, decide_eq_true_eq] at hallowed
      obtain ⟨d, hd, -⟩ := (Option.any_eq_true _ _).mp hallowed.2
      obtain ⟨⟨k, hk'⟩, -⟩ := budgetKey_of_answer (hanswer.symm.trans hd)
      rw [hallowed.1, hk] at hk'
      cases hk'
    omega
  | ok k =>
    have := interval_allowed hk hw (armed_run policy earlier)
    omega

theorem remaining_nonneg {policy : ValidPolicy} {db : Counters} {call : ConsumeCall} (hdb : Armed db)
    {d : RateLimitDecision} (h : (consumeStep policy.val db call).1 = some d) : 0 ≤ d.remaining := by
  obtain ⟨⟨k, hk⟩, hfault⟩ := budgetKey_of_answer h
  obtain ⟨-, hanswer⟩ := step_reached hk hdb ⟨rfl, by simp [hfault]⟩
  rw [hanswer, if_pos hfault] at h
  rw [← Option.some.inj h]
  exact le_max_right _ _

theorem answers_within {policy : ValidPolicy} {calls : List ConsumeCall} (hclock : (calls.map (·.now)).Pairwise (· ≤ ·)) :
    ∀ {db : Counters}, Armed db → (∀ c ∈ calls, Bounded policy c.now db) →
      ∀ x ∈ Machine.log (consumeStep policy.val) db calls, ∀ d, x.2 = some d →
        0 ≤ d.remaining ∧ 1 ≤ d.resetAfterSeconds ∧ d.resetAfterSeconds ≤ policy.val.windowSeconds := by
  induction calls with
  | nil => exact fun _ _ x hx => absurd hx List.not_mem_nil
  | cons c calls ih =>
    intro db hdb hb x hx d hd
    obtain ⟨hle, hclock⟩ := List.pairwise_cons.mp hclock
    have hnow := hb c List.mem_cons_self
    rcases List.mem_cons.mp hx with rfl | hx
    · exact ⟨remaining_nonneg hdb hd, reset_within hdb hnow hd⟩
    · refine ih hclock (hdb.step policy c) (fun c' hc' => ?_) x hx d hd
      exact (hnow.step hdb).later (hle _ (List.mem_map_of_mem hc'))

/-! ## The middleware -/

/-- A request after its awaits; between two of them the store may change. -/
def Dispatch.after (r : Dispatch) (awaits : List (Nat × Option ConnectionFault × Counters)) : Dispatch :=
  awaits.foldl (fun r x => (r.step x.1 x.2.1 x.2.2).1) r

/-- What a request has been granted so far, of all its policies. -/
def Dispatch.Granted (policies : List ValidPolicy) (r : Dispatch) : Prop :=
  match r.outcome with
  | none => (∀ d ∈ r.decisions, d.allowed = true) ∧
      r.decisions.map (·.policy) ++ r.policies.map (·.val.name) = policies.map (·.val.name)
  | some (.handled _) => (∀ d ∈ r.decisions, d.allowed = true) ∧
      r.decisions.map (·.policy) = policies.map (·.val.name)
  | some _ => True

theorem consume_policy {policy : RateLimitPolicy} {now : Nat} {fault : Option ConnectionFault} {clientKey : String}
    {db : Counters} {d : RateLimitDecision} (h : (consume policy now fault clientKey db).1 = some d) :
    d.policy = policy.name := by
  have hdecision : ∀ result, (rateLimitDecision result policy).toOption = some d → d.policy = policy.name := by
    intro result hd
    unfold rateLimitDecision at hd
    split at hd
    rename_i count left
    by_cases hbad : count < 1 ∨ left < 1
    · rw [if_pos hbad] at hd
      cases hd
    · rw [if_neg hbad] at hd
      rw [← Option.some.inj hd]
  unfold consume at h
  split at h
  · cases h
  · cases h
  · cases h
  · exact hdecision _ h

/-- The await of a policy. -/
theorem Dispatch.step_policy (clientKey : String) (policy : ValidPolicy) (left : List ValidPolicy)
    (decisions : List RateLimitDecision) (now : Nat) (fault : Option ConnectionFault) (db : Counters) :
    let r : Dispatch := ⟨clientKey, policy :: left, decisions, none⟩
    (r.step now fault db).2 = (consume policy.val now fault clientKey db).2 ∧
      (((consume policy.val now fault clientKey db).1 = none ∧
          (r.step now fault db).1 = { r with outcome := some .unavailable }) ∨
        ∃ d, (consume policy.val now fault clientKey db).1 = some d ∧ ((d.allowed = true ∧ (r.step now fault db).1 = ⟨clientKey, left, decisions ++ [d], none⟩) ∨
          (d.allowed = false ∧
            (r.step now fault db).1 = { r with decisions := decisions ++ [d], outcome := some (.limited d) }))) := by
  intro r
  unfold Dispatch.step
  rcases hconsume : consume policy.val now fault clientKey db with ⟨_ | d, db'⟩
  · simp only [r, hconsume]
    exact ⟨trivial, Or.inl ⟨trivial, trivial⟩⟩
  · simp only [r, hconsume]
    cases hallowed : d.allowed with
    | true => exact ⟨rfl, Or.inr ⟨d, rfl, Or.inl ⟨hallowed, rfl⟩⟩⟩
    | false => exact ⟨rfl, Or.inr ⟨d, rfl, Or.inr ⟨hallowed, rfl⟩⟩⟩

theorem Dispatch.Granted.step {policies : List ValidPolicy} {r : Dispatch} (h : r.Granted policies) (now : Nat)
    (fault : Option ConnectionFault) (db : Counters) : (r.step now fault db).1.Granted policies := by
  obtain ⟨clientKey, left, decisions, outcome⟩ := r
  cases outcome with
  | some o => exact h
  | none =>
    obtain ⟨hallowed, hnames⟩ := h
    cases left with
    | nil => exact ⟨hallowed, (List.append_nil _).symm.trans hnames⟩
    | cons policy left =>
      obtain ⟨-, ⟨-, hnext⟩ | ⟨d, hd, ⟨hyes, hnext⟩ | ⟨-, hnext⟩⟩⟩ :=
        step_policy clientKey policy left decisions now fault db
      · rw [hnext]
        exact trivial
      · rw [hnext]
        refine ⟨List.forall_mem_append.mpr ⟨hallowed, by simpa using hyes⟩, ?_⟩
        rw [List.map_append, List.append_assoc, List.map_singleton, consume_policy hd]
        exact hnames
      · rw [hnext]
        exact trivial

theorem Dispatch.Granted.after {policies : List ValidPolicy} (awaits : List (Nat × Option ConnectionFault × Counters))
    {r : Dispatch} (h : r.Granted policies) : (r.after awaits).Granted policies := by
  induction awaits generalizing r with
  | nil => exact h
  | cons x awaits ih => exact ih (h.step x.1 x.2.1 x.2.2)

theorem granted_request (config : ApiRateLimitConfig) (path clientKey : String) :
    (config.request path clientKey).Granted (config.policiesForPath path) :=
  ⟨fun _ hd => by simp [ApiRateLimitConfig.request] at hd, rfl⟩

theorem clientKey_step (r : Dispatch) (now : Nat) (fault : Option ConnectionFault) (db : Counters) :
    (r.step now fault db).1.clientKey = r.clientKey := by
  unfold Dispatch.step
  split
  · rfl
  · rfl
  · split
    · rfl
    · split <;> rfl

theorem clientKey_after (awaits : List (Nat × Option ConnectionFault × Counters)) (r : Dispatch) :
    (r.after awaits).clientKey = r.clientKey := by
  induction awaits generalizing r with
  | nil => rfl
  | cons x awaits ih => exact (ih _).trans (clientKey_step r x.1 x.2.1 x.2.2)

/-- After a refusal a request consumes nothing and stays refused. -/
def Dispatch.Refused (r : Dispatch) : Prop :=
  (∃ d ∈ r.decisions, d.allowed = false) → ∃ d, r.outcome = some (.limited d)

theorem Dispatch.Refused.step {r : Dispatch} (h : r.Refused) (now : Nat) (fault : Option ConnectionFault) (db : Counters) :
    (r.step now fault db).1.Refused := by
  obtain ⟨clientKey, left, decisions, outcome⟩ := r
  cases outcome with
  | some o => exact h
  | none =>
    have hallowed : ¬ ∃ d ∈ decisions, d.allowed = false := fun hd => by
      obtain ⟨d, hd⟩ := h hd
      cases hd
    cases left with
    | nil => exact fun hd => absurd hd hallowed
    | cons policy left =>
      obtain ⟨-, ⟨-, hnext⟩ | ⟨d, -, ⟨hyes, hnext⟩ | ⟨-, hnext⟩⟩⟩ :=
        step_policy clientKey policy left decisions now fault db
      · rw [hnext]
        exact fun hd => absurd hd hallowed
      · rw [hnext]
        intro ⟨d', hd', hno⟩
        rcases List.mem_append.mp hd' with hd' | hd'
        · exact absurd ⟨d', hd', hno⟩ hallowed
        · rw [List.mem_singleton.mp hd', hyes] at hno
          cases hno
      · rw [hnext]
        exact fun _ => ⟨d, rfl⟩

theorem Dispatch.Refused.after (awaits : List (Nat × Option ConnectionFault × Counters)) {r : Dispatch} (h : r.Refused) :
    (r.after awaits).Refused := by
  induction awaits generalizing r with
  | nil => exact h
  | cons x awaits ih => exact ih (h.step x.1 x.2.1 x.2.2)

theorem Dispatch.step_of_outcome {r : Dispatch} {o : Outcome} (h : r.outcome = some o) (now : Nat)
    (fault : Option ConnectionFault) (db : Counters) : r.step now fault db = (r, db) := by
  unfold Dispatch.step
  rw [h]

/-- The script writes its own key. -/
theorem consumeBudgetScript_lookup {now window : Nat} {key other : String} {db : Counters} (h : other ≠ key) :
    (consumeBudgetScript now key window db).2.lookup other = db.lookup other := by
  have hexpire : ∀ db : Counters, (db.pexpire now key window).lookup other = db.lookup other := by
    intro db
    unfold Counters.pexpire
    split
    · exact AList.lookup_insert_ne h
    · rfl
  have hincr : (db.incr now key).2.lookup other = db.lookup other := by
    unfold Counters.incr
    split <;> exact AList.lookup_insert_ne h
  unfold consumeBudgetScript
  simp only
  split <;> split <;> simp only [hexpire, hincr]

theorem consume_lookup {policy : RateLimitPolicy} {now : Nat} {fault : Option ConnectionFault} {clientKey other : String}
    {db : Counters} (h : ∀ k, budgetKey clientKey policy = .ok k → other ≠ k) :
    (consume policy now fault clientKey db).2.lookup other = db.lookup other := by
  unfold consume
  split
  · rfl
  · rfl
  · rename_i key hk
    exact consumeBudgetScript_lookup (h key hk)
  · rename_i key hk
    exact consumeBudgetScript_lookup (h key hk)

theorem budgetKey_ne {p q : RateLimitPolicy} (h : p.name ≠ q.name) {clientKey k k' : String}
    (hp : budgetKey clientKey p = .ok k) (hq : budgetKey clientKey q = .ok k') : k ≠ k' := by
  unfold budgetKey at hp hq
  split at hp
  · cases hp
  rename_i hkey
  rw [if_neg hkey] at hq
  rintro rfl
  have heq := (Except.ok.inj hp).trans (Except.ok.inj hq).symm
  exact h (by simpa [String.append_right_inj] using heq)

/-- Only a request that passed the general budget spends the expensive one. -/
theorem expensive_spent {config : ApiRateLimitConfig} {path : String} {r : Dispatch}
    (h : r.Granted (config.policiesForPath path)) {now : Nat} {fault : Option ConnectionFault} {db : Counters} {k : String}
    (hk : budgetKey r.clientKey config.expensivePolicy.val = .ok k)
    (hspent : (r.step now fault db).2.lookup k ≠ db.lookup k) :
    ∃ d ∈ r.decisions, d.policy = config.generalPolicy.val.name ∧ d.allowed = true := by
  obtain ⟨clientKey, left, decisions, outcome⟩ := r
  cases outcome with
  | some o => exact absurd rfl hspent
  | none =>
    obtain ⟨hallowed, hnames⟩ := h
    cases left with
    | nil => exact absurd rfl hspent
    | cons policy left =>
      rw [(Dispatch.step_policy clientKey policy left decisions now fault db).1] at hspent
      have hname : policy.val.name = config.expensivePolicy.val.name := by
        by_contra hne
        exact hspent (consume_lookup fun k' hk' => budgetKey_ne (fun heq => hne heq.symm) hk hk')
      have hpolicies : (config.policiesForPath path).map (·.val.name) <+:
          [config.generalPolicy.val.name, config.expensivePolicy.val.name] := by
        unfold ApiRateLimitConfig.policiesForPath
        split
        · exact List.nil_prefix
        · split
          · exact List.prefix_refl _
          · exact ⟨[config.expensivePolicy.val.name], rfl⟩
      obtain ⟨rest, hrest⟩ := hpolicies
      rw [← hnames] at hrest
      cases decisions with
      | nil =>
        have := (List.cons.inj hrest).1
        exact absurd (this.symm.trans hname) config.distinct
      | cons d decisions =>
        exact ⟨d, List.mem_cons_self, (List.cons.inj hrest).1, hallowed d List.mem_cons_self⟩

/-! ## The limiter is safe -/

/-- **Safety.** In every run of calls at nondecreasing server times, a window
of a client grants at most the limit and lasts at least the policy's window;
each answer of the client lies in a window and shows what is left of it; any
interval of the policy's length grants at most twice the limit; and every answer
shows a budget that is not negative and a reset time within the policy's window.
Whatever other requests do between its awaits, a request is handled only after
all its policies granted it, and the expensive budget is spent only after the
general one was granted. -/
theorem rate_limit_safe (policy : ValidPolicy) (calls : List ConsumeCall)
    (hclock : (calls.map (·.now)).Pairwise (· ≤ ·)) (key : String) :
    (∀ before window after, calls = before ++ window ++ after → IsWindow policy key before window →
      let answers := Machine.log (consumeStep policy.val) (Machine.run (consumeStep policy.val) ∅ before) window
      (answers.countP (allowedOn key) : Int) ≤ policy.val.requests ∧
      (∀ first next, window.head? = some first → after.head? = some next → next.clientKey = key →
        Opens policy.val (Machine.run (consumeStep policy.val) ∅ (before ++ window)) next →
        first.now + windowMs policy < next.now) ∧
      ∀ served c d rest, answers = served ++ (c, some d) :: rest → c.clientKey = key →
        d.remaining = max (policy.val.requests - (served.map Prod.fst ++ [c]).countP (Reaches key ·)) 0 ∧
        ((∀ x ∈ window, x.clientKey = key → x.fault ≠ some .lost) →
          d.remaining = policy.val.requests - (served ++ [(c, some d)]).countP (allowedOn key))) ∧
    (∀ before c after, calls = before ++ c :: after → c.clientKey = key →
      (consumeStep policy.val (Machine.run (consumeStep policy.val) ∅ before) c).1.isSome →
      ∃ earlier window, before ++ [c] = earlier ++ window ∧ IsWindow policy key earlier window) ∧
    (∀ a, (((Machine.log (consumeStep policy.val) ∅ calls).filter fun x =>
      a ≤ x.1.now && x.1.now ≤ a + windowMs policy).countP (allowedOn key) : Int) ≤ 2 * policy.val.requests) ∧
    (∀ x ∈ Machine.log (consumeStep policy.val) ∅ calls, ∀ d, x.2 = some d →
      0 ≤ d.remaining ∧ 1 ≤ d.resetAfterSeconds ∧ d.resetAfterSeconds ≤ policy.val.windowSeconds) ∧
    ∀ (config : ApiRateLimitConfig) path clientKey awaits,
      let r := (config.request path clientKey).after awaits
      (∀ effective, r.outcome = some (.handled effective) → (∀ d ∈ r.decisions, d.allowed = true) ∧
        r.decisions.map (·.policy) = (config.policiesForPath path).map (·.val.name)) ∧
      ((∃ d ∈ r.decisions, d.allowed = false) → ∀ now fault db, r.step now fault db = (r, db)) ∧
      ∀ now fault db k, budgetKey clientKey config.expensivePolicy.val = .ok k →
        (r.step now fault db).2.lookup k ≠ db.lookup k →
        ∃ d ∈ r.decisions, d.policy = config.generalPolicy.val.name ∧ d.allowed = true := by
  have hlimit : (requestLimit policy : Int) = policy.val.requests := by
    have := (policy_bounds policy).1
    unfold requestLimit
    omega
  refine ⟨?window, ?covered, ?interval, ?answers, ?middleware⟩
  case window =>
    intro before window after hcalls hwindow answers
    refine ⟨?_, ?_, ?_⟩
    · obtain ⟨call, later, rfl, rfl, hopens, hsame⟩ := hwindow
      rw [Machine.run_snoc] at hsame
      have := opened_allowed (armed_run policy before) hopens hsame
      simp only [answers]
      omega
    · intro first next hfirst hnext hkey hopens
      refine isWindow_lasts hwindow hfirst (fun c hc => ?_) hkey hopens
      obtain ⟨rest, rfl⟩ := List.head?_eq_some_iff.mp hnext
      rw [hcalls, List.map_append] at hclock
      refine (List.pairwise_append.mp hclock).2.2 _ ?_ _ List.mem_cons_self
      exact List.mem_map_of_mem (List.mem_append_right before hc)
    · intro served c d rest hlog hc
      have hremaining := window_remaining hwindow hlog hc
      refine ⟨hremaining, fun hlost => ?_⟩
      obtain ⟨hsplit, hanswer, hserved⟩ := Machine.log_eq_append_cons hlog
      have hwindow' : IsWindow policy key before (served.map Prod.fst ++ [c]) := by
        rw [hsplit, List.append_cons] at hwindow
        exact isWindow_of_append hwindow (by simp)
      have hgranted := window_granted hwindow' fun x hx => hlost x (by
        rw [hsplit, List.append_cons]
        exact List.mem_append_left _ hx)
      rw [Machine.log_snoc, ← hserved, ← hanswer] at hgranted
      rw [hremaining, hgranted]
      omega
  case covered =>
    intro before c after hcalls hc hanswer
    obtain ⟨d, hd⟩ := Option.isSome_iff_exists.mp hanswer
    obtain ⟨⟨k, hk⟩, hfault⟩ := budgetKey_of_answer hd
    exact exists_window (hc ▸ hk) ⟨c, by simp, hc, by simp [hfault]⟩
  case interval =>
    intro a
    have := any_interval_allowed policy hclock key a
    omega
  case answers =>
    exact answers_within hclock (armed_run policy []) fun c _ k r hr => by simp [AList.lookup_empty] at hr
  case middleware =>
    intro config path clientKey awaits r
    have hgranted : r.Granted (config.policiesForPath path) := (granted_request config path clientKey).after awaits
    refine ⟨?_, ?_, ?_⟩
    · intro effective houtcome
      unfold Dispatch.Granted at hgranted
      rwa [houtcome] at hgranted
    · intro hdenied now fault db
      have hrefused : r.Refused := Dispatch.Refused.after awaits fun ⟨d, hd, _⟩ => by
        simp [ApiRateLimitConfig.request] at hd
      obtain ⟨d, houtcome⟩ := hrefused hdenied
      exact Dispatch.step_of_outcome houtcome now fault db
    · intro now fault db k hk hspent
      have hkey : r.clientKey = clientKey := clientKey_after awaits (config.request path clientKey)
      exact expensive_spent hgranted (hkey ▸ hk) hspent

namespace TwoSeconds

def policy : ValidPolicy := ⟨⟨"api", 1, 2⟩, by decide⟩

def client : String := "0000000000000000000000000000000000000000000000000000000000000000"

def calls : List ConsumeCall :=
  [⟨0, client, none⟩, ⟨1999, client, none⟩, ⟨2000, client, some .lost⟩, ⟨4001, client, none⟩]

end TwoSeconds

theorem rate_limit_safe_two_seconds :
    (((Machine.log (consumeStep TwoSeconds.policy.val) ∅ TwoSeconds.calls).filter fun x =>
      1999 ≤ x.1.now && x.1.now ≤ 1999 + windowMs TwoSeconds.policy).countP (allowedOn TwoSeconds.client) : Int) ≤
      2 * TwoSeconds.policy.val.requests :=
  (rate_limit_safe TwoSeconds.policy TwoSeconds.calls (by decide) TwoSeconds.client).2.2.1 1999

end AtlasPulse
