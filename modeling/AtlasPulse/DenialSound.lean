import AtlasPulse.RateLimitSound

/-!
# Denials

A client that stays within the budget in every window is not denied, as long as
none of its calls lands on the millisecond in which its counter expires. There
the counter is live, so it is counted on, and what is left of its time is none,
so it is armed again: the calls of the old window count in a new one.
-/

namespace AtlasPulse

/-- The calls under a key from one time on, for one window. -/
def callsIn (policy : ValidPolicy) (key : String) (calls : List ConsumeCall) (a : Nat) : Nat :=
  calls.countP fun c => c.clientKey = key && a ≤ c.now && c.now < a + windowMs policy

/-- The call finds its counter in the last millisecond of its life. -/
def LandsOnExpiry (policy : ValidPolicy) (db : Counters) (call : ConsumeCall) : Prop :=
  ∃ k r, budgetKey call.clientKey policy.val = .ok k ∧ db.lookup k = some r ∧ r.expiresAt = some call.now

/-- A counter counts calls of the window that ends when it expires. -/
def CountsWindow (policy : ValidPolicy) (key k : String) (calls : List ConsumeCall) (db : Counters) : Prop :=
  ∀ v e, db.lookup k = some ⟨v, some e⟩ →
    ∃ a, (∃ c ∈ calls, c.now = a) ∧ e = a + windowMs policy ∧ v ≤ callsIn policy key calls a

section
variable {policy : ValidPolicy} {key k : String} {calls : List ConsumeCall} {db : Counters} {call : ConsumeCall}

theorem callsIn_snoc (a : Nat) : callsIn policy key (calls ++ [call]) a = callsIn policy key calls a +
    if call.clientKey = key && a ≤ call.now && call.now < a + windowMs policy then 1 else 0 := by
  rw [callsIn, List.countP_append, List.countP_singleton]
  rfl

theorem answer_unsent (db : Counters) (h : call.fault = some .unsent) : (consumeStep policy.val db call).1 = none := by
  unfold consumeStep consume
  rw [h]
  cases budgetKey call.clientKey policy.val <;> rfl

/-- One call that does not land on the expiry counts itself in its window, and
it is denied only if the window has more calls than the budget. -/
theorem CountsWindow.step (hk : budgetKey key policy.val = .ok k) (hdb : Armed db)
    (hclock : ∀ c ∈ calls, c.now ≤ call.now) (hcounts : CountsWindow policy key k calls db)
    (hlands : call.clientKey = key → ¬ LandsOnExpiry policy db call) :
    CountsWindow policy key k (calls ++ [call]) (consumeStep policy.val db call).2 ∧
      (call.clientKey = key → ∀ d ∈ (consumeStep policy.val db call).1,
        (∀ a, callsIn policy key (calls ++ [call]) a ≤ requestLimit policy) → d.allowed = true) := by
  by_cases hreaches : Reaches key call
  · obtain ⟨hnext, hanswer⟩ := step_reached hk hdb hreaches
    have hcall := hreaches.1
    -- the window of the next counter, and the calls that it counts
    obtain ⟨a, hopened, hend, hcount⟩ : ∃ a, (∃ c ∈ calls ++ [call], c.now = a) ∧
        (nextCounter call.now (windowMs policy) (db.live call.now k)).2 = a + windowMs policy ∧
        (nextCounter call.now (windowMs policy) (db.live call.now k)).1 ≤ callsIn policy key (calls ++ [call]) a := by
      cases hlive : db.live call.now k with
      | none =>
        refine ⟨call.now, ⟨call, List.mem_append_right _ List.mem_cons_self, rfl⟩, rfl, ?_⟩
        rw [callsIn_snoc, if_pos (by have := one_le_windowMs policy; simp [hcall]; omega)]
        exact Nat.le_add_left 1 _
      | some r =>
        obtain ⟨hlookup, hle⟩ := live_eq_some.mp hlive
        obtain ⟨e, he⟩ := Option.isSome_iff_exists.mp (hdb k r hlookup).2
        have hbefore : call.now < e := lt_of_le_of_ne (hle e he) fun hsame =>
          hlands hcall ⟨k, r, hcall ▸ hk, hlookup, hsame ▸ he⟩
        obtain ⟨a, ⟨c, hc, hca⟩, rfl, hv⟩ := hcounts r.value e (by rw [hlookup, ← he])
        refine ⟨a, ⟨c, List.mem_append_left _ hc, hca⟩, by simp only [nextCounter, he, if_neg hbefore.ne'], ?_⟩
        have hafter : a ≤ call.now := hca ▸ hclock c hc
        rw [callsIn_snoc, if_pos (by simp [hcall, hafter, hbefore])]
        exact Nat.succ_le_succ hv
    constructor
    · intro v e hat
      obtain ⟨rfl, rfl⟩ : (nextCounter call.now (windowMs policy) (db.live call.now k)).1 = v ∧
          (nextCounter call.now (windowMs policy) (db.live call.now k)).2 = e := by
        simpa using hnext.symm.trans hat
      exact ⟨a, hopened, hend, hcount⟩
    · intro _ d hd hlimit
      rw [hanswer] at hd
      split at hd
      · obtain rfl := Option.some.inj hd
        exact allowed_iff.mpr (hcount.trans (hlimit a))
      · cases hd
  · obtain ⟨hsame, hnot⟩ := step_elsewhere hk hdb hreaches
    constructor
    · intro v e hat
      rw [hsame] at hat
      obtain ⟨a, ⟨c, hc, hca⟩, hend, hcount⟩ := hcounts v e hat
      exact ⟨a, ⟨c, List.mem_append_left _ hc, hca⟩, hend, hcount.trans (by rw [callsIn_snoc]; exact Nat.le_add_right _ _)⟩
    · intro hcall d hd
      have hunsent : call.fault = some .unsent := by
        by_contra hsent
        exact hreaches ⟨hcall, hsent⟩
      rw [answer_unsent db hunsent] at hd
      cases hd

end

/-- **No false denial.** A client that makes at most the budget's calls in every
half-open window is not denied in a run in which none of its calls lands on the
millisecond of its counter's expiry. -/
theorem never_denied_within_budget (policy : ValidPolicy) (calls : List ConsumeCall)
    (hclock : (calls.map (·.now)).Pairwise (· ≤ ·)) (key : String)
    (hbudget : ∀ a, (callsIn policy key calls a : Int) ≤ policy.val.requests)
    (hlands : ∀ before call, before ++ [call] <+: calls → call.clientKey = key →
      ¬ LandsOnExpiry policy (Machine.run (consumeStep policy.val) ∅ before) call) :
    ∀ x ∈ Machine.log (consumeStep policy.val) ∅ calls, x.1.clientKey = key → ∀ d ∈ x.2, d.allowed = true := by
  cases hk : budgetKey key policy.val with
  | error e =>
    rintro x hx rfl d hd
    obtain ⟨served, rest, hlog⟩ := List.append_of_mem hx
    obtain ⟨-, hanswer, -⟩ := Machine.log_eq_append_cons hlog
    obtain ⟨⟨k, hsome⟩, -⟩ := budgetKey_of_answer (hanswer.symm.trans hd)
    cases hk.symm.trans hsome
  | ok k =>
    have hlimit : ∀ a, callsIn policy key calls a ≤ requestLimit policy := fun a => by
      have := hbudget a
      unfold requestLimit
      omega
    -- induction on the calls served so far, with what the counter of the key counts
    suffices h : ∀ served, served <+: calls →
        CountsWindow policy key k served (Machine.run (consumeStep policy.val) ∅ served) ∧
          ∀ x ∈ Machine.log (consumeStep policy.val) ∅ served, x.1.clientKey = key → ∀ d ∈ x.2, d.allowed = true from
      (h calls List.prefix_rfl).2
    intro served hserved
    induction served using List.reverseRecOn with
    | nil =>
      refine ⟨fun v e hat => ?_, fun x hx => absurd hx List.not_mem_nil⟩
      cases (AList.lookup_empty k).symm.trans hat
    | append_singleton before call ih =>
      obtain ⟨hcounts, hallowed⟩ := ih ((List.prefix_append before [call]).trans hserved)
      have hbefore : ∀ c ∈ before, c.now ≤ call.now := by
        have hpairwise := (List.pairwise_map.mp hclock).sublist hserved.sublist
        exact fun c hc => (List.pairwise_append.mp hpairwise).2.2 c hc call List.mem_cons_self
      obtain ⟨hnext, hanswer⟩ := CountsWindow.step hk (armed_run policy before) hbefore hcounts
        (fun hcall => hlands before call hserved hcall)
      rw [Machine.run_snoc, Machine.log_snoc]
      refine ⟨hnext, fun x hx hkey d hd => ?_⟩
      obtain hx | hx := List.mem_append.mp hx
      · exact hallowed x hx hkey d hd
      · obtain rfl := List.mem_singleton.mp hx
        refine hanswer hkey d hd fun a => ?_
        exact (List.Sublist.countP_le hserved.sublist).trans (hlimit a)

namespace OneSecond

def policy : ValidPolicy := ⟨⟨"api", 1, 1⟩, by decide⟩

def client : String := "0000000000000000000000000000000000000000000000000000000000000000"

/-- One call in a second, and one after it has ended. -/
def apart : List ConsumeCall := [⟨0, client, none⟩, ⟨1001, client, none⟩]

/-- One call in a second, and one in the millisecond that ends it. -/
def onExpiry : List ConsumeCall := [⟨0, client, none⟩, ⟨1000, client, none⟩]

theorem callsIn_pair {n : Nat} (hn : 1000 ≤ n) (a : Nat) :
    callsIn policy client [⟨0, client, none⟩, ⟨n, client, none⟩] a ≤ 1 := by
  have hw : windowMs policy = 1000 := by decide
  rw [callsIn, List.countP_cons, List.countP_singleton, hw]
  simp only [decide_true, Bool.true_and, Bool.and_eq_true, decide_eq_true_eq]
  split <;> split <;> omega

end OneSecond

open OneSecond in
theorem never_denied_within_budget_apart : (apart.map (·.now)).Pairwise (· ≤ ·) ∧
    ∀ x ∈ Machine.log (consumeStep policy.val) ∅ apart, x.1.clientKey = client → ∀ d ∈ x.2, d.allowed = true := by
  refine ⟨by decide, ?_⟩
  refine never_denied_within_budget policy apart (by decide) client
    (fun a => Int.ofNat_le.mpr (callsIn_pair (by decide) a)) ?_
  rintro before call ⟨rest, hrest⟩ hcall ⟨k, r, hk, hat, he⟩
  match before, hrest with
  | [], _ => cases (AList.lookup_empty k).symm.trans hat
  | [first], hrest =>
    obtain ⟨rfl, hsecond⟩ := List.cons.inj hrest
    obtain ⟨rfl, -⟩ := List.cons.inj hsecond
    have hkey : budgetKey client policy.val = .ok ("\x7batlas-rate:" ++ client ++ "\x7d:api") := by decide
    obtain rfl := Except.ok.inj (hkey.symm.trans hk)
    have hexpiry : ((Machine.run (consumeStep policy.val) ∅ [⟨0, client, none⟩]).lookup
        ("\x7batlas-rate:" ++ client ++ "\x7d:api")).map (·.expiresAt) = some (some 1000) := by decide
    rw [hat, Option.map_some, he] at hexpiry
    cases hexpiry
  | first :: second :: others, hrest =>
    have hlength := congrArg List.length hrest
    simp [apart] at hlength

open OneSecond in
/-- A call on the millisecond of expiry is denied, though it is the only one of
its window. -/
theorem denied_on_expiry :
    (onExpiry.map (·.now)).Pairwise (· ≤ ·) ∧ (∀ a, (callsIn policy client onExpiry a : Int) ≤ policy.val.requests) ∧
      ∃ x ∈ Machine.log (consumeStep policy.val) ∅ onExpiry, x.1.clientKey = client ∧
        ∃ d ∈ x.2, d.allowed = false := by
  refine ⟨by decide, fun a => Int.ofNat_le.mpr (callsIn_pair (by decide) a), ?_⟩
  have hany : ((Machine.log (consumeStep policy.val) ∅ onExpiry).any fun x =>
      x.1.clientKey = client && x.2.any fun d => !d.allowed) = true := by decide
  obtain ⟨x, hx, hdenied⟩ := List.any_eq_true.mp hany
  obtain ⟨hclient, hdenied⟩ := Bool.and_eq_true_iff.mp hdenied
  obtain ⟨d, hd, hnot⟩ := Option.any_eq_true _ _ |>.mp hdenied
  exact ⟨x, hx, of_decide_eq_true hclient, d, hd, Bool.not_eq_true' _ |>.mp hnot⟩

end AtlasPulse
