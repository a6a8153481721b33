import Mathlib

/-!
# Newest-wins tables

A keyed table under guarded upserts: a new row replaces the stored one when the
guard says so. A guard that replaces exactly what is older keeps, for each key,
a row of the greatest position among all rows ever offered (`Tracks`), in
whatever order they came.
-/

namespace Newest

variable {κ β ι : Type*} [DecidableEq κ]

/-- `INSERT ... ON CONFLICT (key) DO UPDATE ... WHERE replace old new`. -/
def upsert (replace : β → β → Bool) (t : AList fun _ : κ => β) (k : κ) (b : β) : AList fun _ : κ => β :=
  match t.lookup k with
  | none => t.insert k b
  | some old => if replace old b then t.insert k b else t

/-- The upserts of one statement, in the order of its rows. -/
def upsertAll (replace : β → β → Bool) (t : AList fun _ : κ => β) (rows : List (κ × β)) : AList fun _ : κ => β :=
  rows.foldl (fun t row => upsert replace t row.1 row.2) t

/-- The guard replaces every older row and no newer one. -/
structure Guard [LinearOrder ι] (replace : β → β → Bool) (pos : β → ι) : Prop where
  le : ∀ {a b}, replace a b → pos a ≤ pos b
  lt : ∀ {a b}, pos a < pos b → replace a b

/-- Every stored row was offered, and none that was offered is newer. -/
def Tracks [LinearOrder ι] (pos : β → ι) (t : AList fun _ : κ => β) (offered : Set (κ × β)) : Prop :=
  ∀ k, (∀ b ∈ t.lookup k, (k, b) ∈ offered) ∧ ∀ b, (k, b) ∈ offered → ∃ b' ∈ t.lookup k, pos b ≤ pos b'

section upsert
variable {replace : β → β → Bool} {t : AList fun _ : κ => β} {k : κ} {b : β}

theorem lookup_upsert_ne {k' : κ} (h : k' ≠ k) : (upsert replace t k b).lookup k' = t.lookup k' := by
  unfold upsert
  split
  · exact AList.lookup_insert_ne h
  · split
    · exact AList.lookup_insert_ne h
    · rfl

theorem lookup_upsert_none (h : t.lookup k = none) : (upsert replace t k b).lookup k = some b := by
  rw [upsert, h, AList.lookup_insert]

theorem lookup_upsert_some {old : β} (h : t.lookup k = some old) :
    (upsert replace t k b).lookup k = some (if replace old b then b else old) := by
  rw [upsert, h]
  dsimp only
  split
  · rw [AList.lookup_insert]
  · exact h

/-- A row that the guard rejects changes nothing. -/
theorem upsert_of_rejected {old : β} (h : t.lookup k = some old) (hr : replace old b = false) :
    upsert replace t k b = t := by
  rw [upsert, h]
  simp [hr]

theorem upsertAll_of_rejected {rows : List (κ × β)}
    (h : ∀ row ∈ rows, ∃ old ∈ t.lookup row.1, replace old row.2 = false) : upsertAll replace t rows = t := by
  induction rows with
  | nil => rfl
  | cons row rows ih =>
    obtain ⟨old, hold, hr⟩ := h row List.mem_cons_self
    show upsertAll replace (upsert replace t row.1 row.2) rows = t
    rw [upsert_of_rejected hold hr]
    exact ih fun row' h' => h row' (List.mem_cons_of_mem _ h')

/-- After an upsert its key has a row, and so has every key that had one. -/
theorem exists_lookup_upsertAll {rows : List (κ × β)} (h : (t.lookup k).isSome ∨ k ∈ rows.map Prod.fst) :
    ((upsertAll replace t rows).lookup k).isSome := by
  induction rows generalizing t with
  | nil => simpa [upsertAll] using h
  | cons row rows ih =>
    refine ih ?_
    by_cases hk : k = row.1
    · subst hk
      left
      cases hl : t.lookup row.1 with
      | none => rw [lookup_upsert_none hl]; rfl
      | some old => rw [lookup_upsert_some hl]; rfl
    · rw [lookup_upsert_ne hk]
      simpa [hk] using h

/-- Rows of a key that the guard rejects leave its row. -/
theorem lookup_upsertAll_of_rejected {rows : List (κ × β)} (h : t.lookup k = some b)
    (hr : ∀ b', (k, b') ∈ rows → replace b b' = false) : (upsertAll replace t rows).lookup k = some b := by
  induction rows generalizing t with
  | nil => exact h
  | cons row rows ih =>
    refine ih ?_ fun b' hb' => hr b' (List.mem_cons_of_mem _ hb')
    by_cases hk : k = row.1
    · subst hk
      dsimp only
      rw [upsert_of_rejected h (hr row.2 List.mem_cons_self), h]
    · rw [lookup_upsert_ne hk, h]

/-- Every stored row was there before, or was offered. -/
theorem mem_of_lookup_upsertAll (rows : List (κ × β)) {t : AList fun _ : κ => β}
    (h : (upsertAll replace t rows).lookup k = some b) :
    t.lookup k = some b ∨ (k, b) ∈ rows := by
  induction rows generalizing t with
  | nil => exact Or.inl h
  | cons row rows ih =>
    rcases ih h with h | h
    · by_cases hk : k = row.1
      · subst hk
        cases hl : t.lookup row.1 with
        | none =>
          rw [lookup_upsert_none hl] at h
          exact Or.inr (by rw [← Option.some.inj h]; exact List.mem_cons_self)
        | some old =>
          rw [lookup_upsert_some hl] at h
          split at h
          · exact Or.inr (by rw [← Option.some.inj h]; exact List.mem_cons_self)
          · exact Or.inl h
      · rw [lookup_upsert_ne hk] at h
        exact Or.inl h
    · exact Or.inr (List.mem_cons_of_mem _ h)

end upsert

section tracks
variable [LinearOrder ι] {replace : β → β → Bool} {pos : β → ι} {t : AList fun _ : κ => β} {offered : Set (κ × β)}

theorem tracks_empty : Tracks pos (∅ : AList fun _ : κ => β) ∅ :=
  fun _ => ⟨fun b h => by simp at h, fun _ h => absurd h (Set.notMem_empty _)⟩

/-- One upsert, of an older or a newer row. -/
theorem Tracks.upsert (hg : Guard replace pos) (h : Tracks pos t offered) (k : κ) (b : β) :
    Tracks pos (upsert replace t k b) (insert (k, b) offered) := by
  intro k'
  by_cases hk : k' = k
  · subst hk
    cases hl : t.lookup k' with
    | none =>
      rw [lookup_upsert_none hl]
      refine ⟨fun b' hb' => ?_, fun b' hb' => ?_⟩
      · rw [← Option.some.inj hb']
        exact Set.mem_insert _ _
      · rcases Set.mem_insert_iff.mp hb' with hb' | hb'
        · exact ⟨b, rfl, le_of_eq (by rw [(Prod.mk.inj hb').2])⟩
        · obtain ⟨b'', hb'', -⟩ := (h k').2 b' hb'
          rw [hl] at hb''
          cases hb''
    | some old =>
      rw [lookup_upsert_some hl]
      refine ⟨fun b' hb' => ?_, fun b' hb' => ?_⟩
      · rw [← Option.some.inj hb']
        split
        · exact Set.mem_insert _ _
        · exact Set.mem_insert_of_mem _ ((h k').1 old hl)
      · refine ⟨_, rfl, ?_⟩
        have hle : pos b' ≤ pos b ∨ pos b' ≤ pos old := by
          rcases Set.mem_insert_iff.mp hb' with hb' | hb'
          · exact Or.inl (le_of_eq (by rw [(Prod.mk.inj hb').2]))
          · obtain ⟨b'', hb'', hle⟩ := (h k').2 b' hb'
            rw [hl] at hb''
            exact Or.inr (Option.some.inj hb'' ▸ hle)
        split
        · rename_i hr
          exact hle.elim id fun h => h.trans (hg.le hr)
        · rename_i hr
          have hold : pos b ≤ pos old := not_lt.mp fun h => hr (hg.lt h)
          exact hle.elim (fun h => h.trans hold) id
  · rw [lookup_upsert_ne hk]
    refine ⟨fun b' hb' => Set.mem_insert_of_mem _ ((h k').1 b' hb'), fun b' hb' => ?_⟩
    rcases Set.mem_insert_iff.mp hb' with hb' | hb'
    · exact absurd (Prod.mk.inj hb').1 hk
    · exact (h k').2 b' hb'

theorem Tracks.upsertAll (hg : Guard replace pos) (rows : List (κ × β)) {t : AList fun _ : κ => β}
    {offered : Set (κ × β)} (h : Tracks pos t offered) :
    Tracks pos (upsertAll replace t rows) (offered ∪ {row | row ∈ rows}) := by
  induction rows generalizing t offered with
  | nil => simpa [Newest.upsertAll] using h
  | cons row rows ih =>
    have := ih (h.upsert hg row.1 row.2)
    have hset : insert (row.1, row.2) offered ∪ {r | r ∈ rows} = offered ∪ {r | r ∈ row :: rows} := by
      ext r
      simp only [Set.mem_union, Set.mem_insert_iff, Set.mem_ofPred_eq, List.mem_cons]
      tauto
    rwa [hset] at this

/-- **Greatest position.** The row of a key is a newest one. -/
theorem Tracks.isGreatest (h : Tracks pos t offered) {k : κ} {b : β} (hb : t.lookup k = some b) :
    IsGreatest {p | ∃ b', (k, b') ∈ offered ∧ pos b' = p} (pos b) := by
  refine ⟨⟨b, (h k).1 b hb, rfl⟩, ?_⟩
  rintro p ⟨b', hb', rfl⟩
  obtain ⟨b'', hb'', hle⟩ := (h k).2 b' hb'
  rw [hb] at hb''
  exact Option.some.inj hb'' ▸ hle

/-- Positions never go back. -/
theorem le_lookup_upsert (hg : Guard replace pos) {k : κ} (k' : κ) (b : β) {old : β} (h : t.lookup k = some old) :
    ∃ new ∈ (upsert replace t k' b).lookup k, pos old ≤ pos new := by
  by_cases hk : k = k'
  · subst hk
    refine ⟨_, lookup_upsert_some h, ?_⟩
    split
    · rename_i hr
      exact hg.le hr
    · exact le_rfl
  · exact ⟨old, by rw [lookup_upsert_ne hk, h]; rfl, le_rfl⟩

theorem le_lookup_upsertAll (hg : Guard replace pos) {k : κ} {old : β} (rows : List (κ × β))
    {t : AList fun _ : κ => β} (h : t.lookup k = some old) :
    ∃ new ∈ (upsertAll replace t rows).lookup k, pos old ≤ pos new := by
  induction rows generalizing t old with
  | nil => exact ⟨old, h, le_rfl⟩
  | cons row rows ih =>
    obtain ⟨mid, hmid, hle⟩ := le_lookup_upsert hg row.1 row.2 h
    obtain ⟨new, hnew, hle'⟩ := ih hmid
    exact ⟨new, hnew, hle.trans hle'⟩

/-- An offered row leaves one at its position or a later one. -/
theorem le_lookup_of_offered (hg : Guard replace pos) {k : κ} {b : β} (rows : List (κ × β))
    {t : AList fun _ : κ => β} (h : (k, b) ∈ rows) : ∃ new ∈ (upsertAll replace t rows).lookup k, pos b ≤ pos new := by
  induction rows generalizing t with
  | nil => simp at h
  | cons row rows ih =>
    rcases List.mem_cons.mp h with rfl | h
    · have hmid : ∃ mid ∈ (Newest.upsert replace t k b).lookup k, pos b ≤ pos mid := by
        cases hl : t.lookup k with
        | none => exact ⟨b, lookup_upsert_none hl, le_rfl⟩
        | some old =>
          refine ⟨_, lookup_upsert_some hl, ?_⟩
          split
          · exact le_rfl
          · rename_i hr
            exact not_lt.mp fun h => hr (hg.lt h)
      obtain ⟨mid, hmid, hle⟩ := hmid
      obtain ⟨new, hnew, hle'⟩ := le_lookup_upsertAll hg rows hmid
      exact ⟨new, hnew, hle.trans hle'⟩
    · exact ih h

end tracks

end Newest
