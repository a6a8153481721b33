import AtlasPulse.Lib.Digits

/-!
# Valkey data types

The server side of the adapters: stream ids and streams with automatic ids
(`XADD key * ...`), hashes, and string keys that expire. Scripts run one at a
time, so a script is a function of the database.
-/

namespace AtlasPulse

/-! ## Stream ids -/

/-- A stream id, `ms-seq`. -/
structure StreamId where
  ms : Nat
  seq : Nat
  deriving DecidableEq, Repr

def StreamId.position (i : StreamId) : Nat ×ₗ Nat := toLex (i.ms, i.seq)

theorem StreamId.position_injective : Function.Injective StreamId.position := by
  rintro ⟨a, b⟩ ⟨c, d⟩ h
  simpa [StreamId.position] using h

/-- Stream ids compare as pairs of numbers. -/
instance : LinearOrder StreamId := LinearOrder.lift' StreamId.position StreamId.position_injective

theorem StreamId.lt_iff {a b : StreamId} : a < b ↔ a.ms < b.ms ∨ a.ms = b.ms ∧ a.seq < b.seq :=
  Prod.Lex.toLex_lt_toLex

def StreamId.text (i : StreamId) : String := String.ofList (Digits.decimal i.ms ++ '-' :: Digits.decimal i.seq)

/-- The two numbers of an id text, as `ms-seq`. -/
def StreamId.parse? (id : String) : Option StreamId :=
  match id.toList.span (· ≠ '-') with
  | (ms, _ :: seq) =>
    match Digits.parse? ms, Digits.parse? seq with
    | some ms, some seq => some ⟨ms, seq⟩
    | _, _ => none
  | (_, []) => none

theorem StreamId.span_text (i : StreamId) :
    i.text.toList.span (· ≠ '-') = (Digits.decimal i.ms, '-' :: Digits.decimal i.seq) := by
  have hd : ∀ c ∈ Digits.decimal i.ms, decide (c ≠ '-') = true := by
    intro c hc
    have := Digits.isDigit_of_mem_decimal hc
    refine decide_eq_true ?_
    rintro rfl
    exact absurd this (by decide)
  rw [StreamId.text, String.toList_ofList, List.span_eq_takeWhile_dropWhile, List.takeWhile_append_of_pos hd,
    List.dropWhile_append_of_pos hd]
  simp

@[simp] theorem StreamId.parse_text (i : StreamId) : StreamId.parse? i.text = some i := by
  rw [StreamId.parse?, i.span_text]
  simp

theorem StreamId.text_injective : Function.Injective StreamId.text := by
  intro a b h
  simpa using congrArg StreamId.parse? h

/-- `XADD` with `*`: the server clock, or the last id's successor when the
clock has not passed it. -/
def StreamId.next (last : StreamId) (now : Nat) : StreamId :=
  if last.ms < now then ⟨now, 0⟩ else ⟨last.ms, last.seq + 1⟩

theorem StreamId.lt_next (last : StreamId) (now : Nat) : last < last.next now := by
  rw [StreamId.lt_iff, StreamId.next]
  split
  · exact Or.inl ‹_›
  · exact Or.inr ⟨rfl, Nat.lt_succ_self _⟩

/-! ## Streams -/

/-- What the server brings to one command: its clock, and how many of the
oldest entries an approximate `MAXLEN ~` evicts. -/
structure Tick where
  now : Nat
  evicted : Nat
  deriving DecidableEq

/-- A stream: its entries, oldest first, and the last id it ever issued. -/
structure Stream (α : Type) where
  entries : List (StreamId × α)
  lastId : StreamId
  sorted : entries.Pairwise fun a b => a.1 < b.1
  bounded : ∀ e ∈ entries, e.1 ≤ lastId

namespace Stream

variable {α : Type}

def empty : Stream α := ⟨[], ⟨0, 0⟩, List.Pairwise.nil, by simp⟩

theorem pairwise_snoc (s : Stream α) (now : Nat) (a : α) :
    (s.entries ++ [(s.lastId.next now, a)]).Pairwise fun x y => x.1 < y.1 := by
  rw [List.pairwise_append]
  refine ⟨s.sorted, List.pairwise_singleton _ _, ?_⟩
  intro x hx y hy
  rw [List.mem_singleton] at hy
  subst hy
  exact lt_of_le_of_lt (s.bounded x hx) (StreamId.lt_next _ _)

/-- `XADD key MAXLEN ~ n * ...`: append under the next id, then trim. -/
def xadd (s : Stream α) (t : Tick) (a : α) : StreamId × Stream α :=
  (s.lastId.next t.now,
    { entries := (s.entries ++ [(s.lastId.next t.now, a)]).drop t.evicted
      lastId := s.lastId.next t.now
      sorted := (s.pairwise_snoc t.now a).sublist (List.drop_sublist _ _)
      bounded := by
        intro e he
        rcases List.mem_append.mp (List.mem_of_mem_drop he) with h | h
        · exact le_trans (s.bounded e h) (le_of_lt (StreamId.lt_next _ _))
        · rw [List.mem_singleton] at h
          rw [h] })

@[simp] theorem xadd_fst (s : Stream α) (t : Tick) (a : α) : (s.xadd t a).1 = s.lastId.next t.now := rfl

@[simp] theorem xadd_lastId (s : Stream α) (t : Tick) (a : α) : (s.xadd t a).2.lastId = s.lastId.next t.now := rfl

theorem xadd_entries (s : Stream α) {t : Tick} (ht : t.evicted = 0) (a : α) :
    (s.xadd t a).2.entries = s.entries ++ [(s.lastId.next t.now, a)] := by
  simp [xadd, ht]

end Stream

/-! ## Hashes -/

/-- A hash: field names with their values. -/
abbrev Hash := AList fun _ : String => String

namespace Hash

/-- `HSET` of several fields. -/
def hset (h : Hash) (fields : List (String × String)) : Hash :=
  fields.foldl (fun h f => h.insert f.1 f.2) h

def hget (h : Hash) (field : String) : Option String := h.lookup field

@[simp] theorem hget_empty (field : String) : hget ∅ field = none := AList.lookup_empty _

@[simp] theorem hset_nil (h : Hash) : h.hset [] = h := rfl

theorem hget_hset (h : Hash) (fields : List (String × String)) (field : String) :
    (h.hset fields).hget field =
      ((fields.reverse.find? fun f => f.1 = field).map Prod.snd).or (h.hget field) := by
  induction fields generalizing h with
  | nil => simp
  | cons f fields ih =>
    have hstep : h.hset (f :: fields) = Hash.hset (h.insert f.1 f.2) fields := rfl
    rw [hstep, ih, List.reverse_cons, List.find?_append]
    have hins : Hash.hget (h.insert f.1 f.2) field = if f.1 = field then some f.2 else h.hget field := by
      unfold hget
      split
      · rename_i he
        rw [← he, AList.lookup_insert]
      · rename_i he
        exact AList.lookup_insert_ne (Ne.symm he)
    rw [hins]
    cases fields.reverse.find? (fun f => f.1 = field) with
    | some g => rfl
    | none =>
      by_cases hf : f.1 = field
      · simp [hf]
      · simp [hf]

end Hash

/-! ## String keys -/

/-- A string value with the clock reading after which it has expired. -/
structure Expiring where
  value : String
  expiresAt : Nat
  deriving DecidableEq

abbrev Keyspace := AList fun _ : String => Expiring

namespace Keyspace

/-- `GET`: an expired key is absent. -/
def get (k : Keyspace) (now : Nat) (key : String) : Option String :=
  match k.lookup key with
  | some v => if now ≤ v.expiresAt then some v.value else none
  | none => none

/-- `SET key value EX seconds`. -/
def setEx (k : Keyspace) (now : Nat) (key value : String) (seconds : Nat) : Keyspace :=
  k.insert key ⟨value, now + 1000 * seconds⟩

end Keyspace

/-! ## Counters -/

/-- A counter; a key without an expiry stays. -/
structure Counter where
  value : Nat
  expiresAt : Option Nat
  deriving DecidableEq

abbrev Counters := AList fun _ : String => Counter

namespace Counters

/-- The counter under a key; an expired key is absent. -/
def live (c : Counters) (now : Nat) (key : String) : Option Counter :=
  (c.lookup key).filter fun r => r.expiresAt.all fun e => now ≤ e

/-- `INCR`. -/
def incr (c : Counters) (now : Nat) (key : String) : Nat × Counters :=
  match c.live now key with
  | some r => (r.value + 1, c.insert key { r with value := r.value + 1 })
  | none => (1, c.insert key ⟨1, none⟩)

/-- `PEXPIRE`. -/
def pexpire (c : Counters) (now : Nat) (key : String) (milliseconds : Nat) : Counters :=
  match c.live now key with
  | some r => c.insert key { r with expiresAt := some (now + milliseconds) }
  | none => c

/-- `PTTL`: -2 for an absent key, -1 for one without an expiry. -/
def pttl (c : Counters) (now : Nat) (key : String) : Int :=
  match c.live now key with
  | some r => (r.expiresAt.map fun e => (e : Int) - now).getD (-1)
  | none => -2

end Counters

end AtlasPulse
