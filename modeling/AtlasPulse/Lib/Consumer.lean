import Mathlib

/-!
# Checkpointed consumers

Workers that read a page behind a durable checkpoint of an append-only stream
and commit its effect together with the new checkpoint. A worker may stop
anywhere, and any page that was ever read may be committed again, however late.
What the commit of a page guarantees for its entries then holds for every entry
at or below the checkpoint.
-/

namespace Consumer

variable {ι α ν D W : Type*} [LinearOrder ι]

/-- The page of at most `limit` entries behind a checkpoint. -/
def page (entries : List (ι × α)) (after : Option ι) (limit : Nat) : List (ι × α) :=
  (entries.filter fun x => after.all (· < x.1)).take limit

inductive Worker (ι α : Type*)
  | idle
  | started (after : Option ι)
  | fetched (batch : List (ι × α))

/-- A stream, the consumers' database and the workers; every page that was read
and every commit are kept as a record of the run. -/
structure System (ι α ν D W : Type*) where
  entries : List (ι × α)
  db : D
  workers : W → Worker ι α
  delivered : List (ν × List (ι × α))
  committed : List (ν × List (ι × α))

/-- The database of the consumers: checkpoints by consumer name, and the commits
that succeed. -/
structure Store (ι α ν D : Type*) where
  checkpoint : D → ν → Option ι
  commit : ν → List (ι × α) → D → D → Prop

def System.init (entries : List (ι × α)) (db : D) : System ι α ν D W := ⟨entries, db, fun _ => .idle, [], []⟩

section system
variable [DecidableEq W] (st : Store ι α ν D) (name : W → ν)

inductive Step : System ι α ν D W → System ι α ν D W → Prop
  | append {s} (x : ι × α) (later : ∀ y ∈ s.entries, y.1 < x.1) : Step s { s with entries := s.entries ++ [x] }
  | start {s} (w : W) (idle : s.workers w = .idle) :
      Step s { s with workers := Function.update s.workers w (.started (st.checkpoint s.db (name w))) }
  | fetch {s} (w : W) (limit : Nat) {after : Option ι} (running : s.workers w = .started after) :
      Step s
        { s with
          workers := Function.update s.workers w (.fetched (page s.entries after limit))
          delivered := (name w, page s.entries after limit) :: s.delivered }
  | commit {s} (w : W) {batch : List (ι × α)} {db : D} (running : s.workers w = .fetched batch)
      (done : st.commit (name w) batch s.db db) :
      Step s
        { s with
          db := db
          workers := Function.update s.workers w .idle
          committed := (name w, batch) :: s.committed }
  | crash {s} (w : W) : Step s { s with workers := Function.update s.workers w .idle }
  | redeliver {s} {n : ν} {batch : List (ι × α)} {db : D} (old : (n, batch) ∈ s.delivered)
      (done : st.commit n batch s.db db) : Step s { s with db := db, committed := (n, batch) :: s.committed }

/-- The states of any run from a stream in order and an empty database. -/
def Reachable (db : D) (s : System ι α ν D W) : Prop := Relation.ReflTransGen (Step st name) (.init [] db) s

/-- What a commit does to the checkpoints, and to what is present. -/
structure Lawful (Present : D → ι × α → Prop) : Prop where
  present : ∀ {n batch db db'}, st.commit n batch db db' → ∀ x ∈ batch, Present db' x
  keeps : ∀ {n batch db db'}, st.commit n batch db db' → ∀ x, Present db x → Present db' x
  le_checkpoint : ∀ {n batch db db'}, st.commit n batch db db' →
    ∀ n', ∀ c ∈ st.checkpoint db n', ∃ c' ∈ st.checkpoint db' n', c ≤ c'
  checkpoint_le : ∀ {n batch db db'}, st.commit n batch db db' → ∀ n', ∀ c' ∈ st.checkpoint db' n',
    (∃ c ∈ st.checkpoint db n', c' ≤ c) ∨ n' = n ∧ ∃ x ∈ batch, c' ≤ x.1

/-- A page that was read behind a checkpoint which the consumer has reached: no
entry between them is missing. -/
def Contiguous (entries : List (ι × α)) (reached : Option ι) (batch : List (ι × α)) : Prop :=
  (∀ x ∈ batch, x ∈ entries) ∧ ∃ after : Option ι, (∀ c ∈ after, ∃ c' ∈ reached, c ≤ c') ∧
    ∀ x ∈ entries, (∀ c ∈ after, c < x.1) → (∃ y ∈ batch, x.1 ≤ y.1) → x ∈ batch

structure Inv (Present : D → ι × α → Prop) (s : System ι α ν D W) : Prop where
  sorted : s.entries.Pairwise fun x y => x.1 < y.1
  started : ∀ w after, s.workers w = .started after → ∀ c ∈ after, ∃ c' ∈ st.checkpoint s.db (name w), c ≤ c'
  fetched : ∀ w batch, s.workers w = .fetched batch → (name w, batch) ∈ s.delivered
  delivered : ∀ d ∈ s.delivered, Contiguous s.entries (st.checkpoint s.db d.1) d.2
  committed : ∀ d ∈ s.committed, d ∈ s.delivered
  bounded : ∀ n, ∀ c ∈ st.checkpoint s.db n, ∃ y ∈ s.entries, c ≤ y.1
  covered : ∀ n, ∀ x ∈ s.entries, (∃ c ∈ st.checkpoint s.db n, x.1 ≤ c) → Present s.db x

variable {st name} {Present : D → ι × α → Prop}

theorem contiguous_page {entries : List (ι × α)} (hs : entries.Pairwise fun x y => x.1 < y.1) {after reached : Option ι}
    (ha : ∀ c ∈ after, ∃ c' ∈ reached, c ≤ c') (limit : Nat) : Contiguous entries reached (page entries after limit) := by
  refine ⟨fun x hx => (List.mem_filter.mp (List.mem_of_mem_take hx)).1, after, ha, ?_⟩
  rintro x hx hc ⟨y, hy, hxy⟩
  have hfilter : x ∈ entries.filter fun x => after.all (· < x.1) := by
    refine List.mem_filter.mpr ⟨hx, ?_⟩
    rw [Option.all_eq_true]
    exact fun c h => decide_eq_true (hc c h)
  -- an entry of the sorted rest that is not in the page lies behind the whole page
  rw [page] at hy ⊢
  rw [← List.take_append_drop limit (entries.filter _), List.mem_append] at hfilter
  rcases hfilter with h | h
  · exact h
  · have hsplit := (hs.filter fun x => after.all (· < x.1))
    rw [← List.take_append_drop limit (entries.filter _), List.pairwise_append] at hsplit
    exact absurd (hsplit.2.2 y hy x h) (not_lt.mpr hxy)

/-- The page behind the first `n` entries. -/
theorem page_take {entries : List (ι × α)} (hs : entries.Pairwise fun x y => x.1 < y.1) (n limit : Nat) :
    page entries ((entries.take n).getLast?.map Prod.fst) limit = (entries.drop n).take limit := by
  have hsplit := hs
  rw [← List.take_append_drop n entries, List.pairwise_append] at hsplit
  rw [page]
  congr 1
  cases hlast : (entries.take n).getLast? with
  | none =>
    have hnil := List.getLast?_eq_none_iff.mp hlast
    conv_lhs => rw [← List.take_append_drop n entries, hnil]
    simp
  | some z =>
    obtain ⟨front, hfront⟩ := List.getLast?_eq_some_iff.mp hlast
    have hz : ∀ x ∈ entries.take n, x.1 ≤ z.1 := by
      rw [hfront]
      intro x hx
      rcases List.mem_append.mp hx with hx | hx
      · have hpair := hsplit.1
        rw [hfront] at hpair
        exact le_of_lt ((List.pairwise_append.mp hpair).2.2 x hx z (List.mem_singleton_self _))
      · rw [List.mem_singleton.mp hx]
    conv_lhs => rw [← List.take_append_drop n entries]
    rw [List.filter_append, List.filter_eq_nil_iff.mpr, List.filter_eq_self.mpr, List.nil_append]
    · intro x hx
      simpa using hsplit.2.2 z (List.mem_of_getLast? hlast) x hx
    · intro x hx
      simpa using hz x hx

theorem Contiguous.mono {entries : List (ι × α)} {reached reached' : Option ι} {batch : List (ι × α)}
    (h : Contiguous entries reached batch) (hr : ∀ c ∈ reached, ∃ c' ∈ reached', c ≤ c') :
    Contiguous entries reached' batch := by
  obtain ⟨hsub, after, ha, hfull⟩ := h
  refine ⟨hsub, after, ?_, hfull⟩
  intro c hc
  obtain ⟨c', hc', hle⟩ := ha c hc
  obtain ⟨c'', hc'', hle'⟩ := hr c' hc'
  exact ⟨c'', hc'', hle.trans hle'⟩

/-- Later entries leave a page contiguous. -/
theorem Contiguous.append {entries : List (ι × α)} {reached : Option ι} {batch : List (ι × α)} {x : ι × α}
    (h : Contiguous entries reached batch) (hx : ∀ y ∈ entries, y.1 < x.1) :
    Contiguous (entries ++ [x]) reached batch := by
  obtain ⟨hsub, after, ha, hfull⟩ := h
  refine ⟨fun y hy => List.mem_append_left _ (hsub y hy), after, ha, ?_⟩
  rintro y hy hc ⟨z, hz, hyz⟩
  rcases List.mem_append.mp hy with hy | hy
  · exact hfull y hy hc ⟨z, hz, hyz⟩
  · obtain rfl := List.mem_singleton.mp hy
    exact absurd (hx z (hsub z hz)) (not_lt.mpr hyz)

omit [DecidableEq W] in
theorem inv_init {db : D} (h0 : ∀ n, st.checkpoint db n = none) : Inv st name Present (.init [] db : System ι α ν D W) :=
  { sorted := List.Pairwise.nil
    started := fun _ _ h => by cases h
    fetched := fun _ _ h => by cases h
    delivered := fun _ h => by cases h
    committed := fun _ h => by cases h
    bounded := fun n c hc => by
      have hc' : c ∈ st.checkpoint db n := hc
      rw [h0 n] at hc'
      cases hc'
    covered := fun _ _ h => by cases h }

omit [DecidableEq W] in
/-- A commit of a contiguous page, by whomever. -/
theorem Inv.commit (hl : Lawful st Present) {s : System ι α ν D W} (h : Inv st name Present s) {n : ν}
    {batch : List (ι × α)} {db : D} (hd : (n, batch) ∈ s.delivered) (hc : st.commit n batch s.db db)
    {workers : W → Worker ι α} (hw : ∀ w, workers w = s.workers w ∨ workers w = .idle) :
    Inv st name Present { s with db := db, workers := workers, committed := (n, batch) :: s.committed } := by
  obtain ⟨hsub, after, ha, hfull⟩ := h.delivered _ hd
  have hmono := hl.le_checkpoint hc
  refine
    { sorted := h.sorted
      started := ?_
      fetched := ?_
      delivered := fun d hd => (h.delivered d hd).mono (hmono d.1)
      committed := ?_
      bounded := ?_
      covered := ?_ }
  · intro w after' hstart c hc
    rcases hw w with hw | hw
    · obtain ⟨c', hc', hle⟩ := h.started w after' (hw.symm.trans hstart) c hc
      obtain ⟨c'', hc'', hle'⟩ := hmono _ c' hc'
      exact ⟨c'', hc'', hle.trans hle'⟩
    · cases hw.symm.trans hstart
  · intro w batch' hf
    rcases hw w with hw | hw
    · exact h.fetched w batch' (hw.symm.trans hf)
    · cases hw.symm.trans hf
  · intro d hd'
    rcases List.mem_cons.mp hd' with rfl | hd'
    · exact hd
    · exact h.committed d hd'
  · intro n' c' hc'
    rcases hl.checkpoint_le hc n' c' hc' with ⟨c, hcc, hle⟩ | ⟨-, y, hy, hle⟩
    · obtain ⟨y, hy, hle'⟩ := h.bounded n' c hcc
      exact ⟨y, hy, hle.trans hle'⟩
    · exact ⟨y, hsub y hy, hle⟩
  · -- an entry at or below the new checkpoint was covered before, or lies in the page
    rintro n' x hx ⟨c', hc', hle⟩
    rcases hl.checkpoint_le hc n' c' hc' with ⟨c, hcc, hle'⟩ | ⟨rfl, y, hy, hle'⟩
    · exact hl.keeps hc x (h.covered n' x hx ⟨c, hcc, hle.trans hle'⟩)
    · by_cases hafter : ∀ c ∈ after, c < x.1
      · exact hl.present hc x (hfull x hx hafter ⟨y, hy, hle.trans hle'⟩)
      · push Not at hafter
        obtain ⟨c, hca, hxc⟩ := hafter
        obtain ⟨c'', hc'', hle''⟩ := ha c hca
        exact hl.keeps hc x (h.covered n' x hx ⟨c'', hc'', hxc.trans hle''⟩)

theorem Inv.step (hl : Lawful st Present) {s s' : System ι α ν D W} (h : Inv st name Present s)
    (hs : Step st name s s') : Inv st name Present s' := by
  have hkeep : ∀ {w w' : W} {x y : Worker ι α}, Function.update s.workers w x w' = y →
      w' = w ∧ x = y ∨ s.workers w' = y := by
    intro w w' x y hu
    by_cases hw : w' = w
    · subst hw
      rw [Function.update_self] at hu
      exact Or.inl ⟨rfl, hu⟩
    · rw [Function.update_of_ne hw] at hu
      exact Or.inr hu
  cases hs with
  | append x later =>
    refine
      { h with
        sorted := ?_
        delivered := fun d hd => (h.delivered d hd).append later
        bounded := ?_
        covered := ?_ }
    · rw [List.pairwise_append]
      refine ⟨h.sorted, List.pairwise_singleton _ _, ?_⟩
      intro y hy z hz
      rw [List.mem_singleton.mp hz]
      exact later y hy
    · intro n c hc
      obtain ⟨y, hy, hle⟩ := h.bounded n c hc
      exact ⟨y, List.mem_append_left _ hy, hle⟩
    · rintro n y hy ⟨c, hc, hle⟩
      rcases List.mem_append.mp hy with hy | hy
      · exact h.covered n y hy ⟨c, hc, hle⟩
      · obtain rfl := List.mem_singleton.mp hy
        obtain ⟨z, hz, hle'⟩ := h.bounded n c hc
        exact absurd (later z hz) (not_lt.mpr (hle.trans hle'))
  | start w idle =>
    refine { h with started := ?_, fetched := ?_ }
    · intro w' after hu c hc
      rcases hkeep hu with ⟨rfl, hx⟩ | hx
      · cases hx
        exact ⟨c, hc, le_rfl⟩
      · exact h.started w' after hx c hc
    · intro w' batch hu
      rcases hkeep hu with ⟨-, hx⟩ | hx
      · cases hx
      · exact h.fetched w' batch hx
  | fetch w limit running =>
    refine { h with started := ?_, fetched := ?_, delivered := ?_, committed := ?_ }
    · intro w' after hu c hc
      rcases hkeep hu with ⟨-, hx⟩ | hx
      · cases hx
      · exact h.started w' after hx c hc
    · intro w' batch hu
      rcases hkeep hu with ⟨rfl, hx⟩ | hx
      · cases hx
        exact List.mem_cons_self
      · exact List.mem_cons_of_mem _ (h.fetched w' batch hx)
    · intro d hd
      rcases List.mem_cons.mp hd with rfl | hd
      · exact contiguous_page h.sorted (h.started w _ running) limit
      · exact h.delivered d hd
    · exact fun d hd => List.mem_cons_of_mem _ (h.committed d hd)
  | commit w running done =>
    refine h.commit hl (h.fetched w _ running) done fun w' => ?_
    by_cases hw : w' = w
    · subst hw
      exact Or.inr (Function.update_self _ _ _)
    · exact Or.inl (Function.update_of_ne hw _ _)
  | crash w =>
    refine { h with started := ?_, fetched := ?_ }
    · intro w' after hu c hc
      rcases hkeep hu with ⟨-, hx⟩ | hx
      · cases hx
      · exact h.started w' after hx c hc
    · intro w' batch hu
      rcases hkeep hu with ⟨-, hx⟩ | hx
      · cases hx
      · exact h.fetched w' batch hx
  | redeliver old done => exact h.commit hl old done fun w' => Or.inl rfl

theorem inv_of_reachable (hl : Lawful st Present) {db : D} (h0 : ∀ n, st.checkpoint db n = none)
    {s : System ι α ν D W} (h : Reachable st name db s) : Inv st name Present s := by
  induction h with
  | refl => exact inv_init h0
  | tail _ hs ih => exact ih.step hl hs

/-- The database changes by commits of delivered pages only. -/
theorem db_step {s s' : System ι α ν D W} (h : Inv st name Present s) (hs : Step st name s s') :
    s'.db = s.db ∧ s'.committed = s.committed ∨
      ∃ n batch, (n, batch) ∈ s.delivered ∧ st.commit n batch s.db s'.db ∧
        s'.committed = (n, batch) :: s.committed := by
  cases hs with
  | commit w running done => exact Or.inr ⟨_, _, h.fetched w _ running, done, rfl⟩
  | redeliver old done => exact Or.inr ⟨_, _, old, done, rfl⟩
  | append => exact Or.inl ⟨rfl, rfl⟩
  | start => exact Or.inl ⟨rfl, rfl⟩
  | fetch => exact Or.inl ⟨rfl, rfl⟩
  | crash => exact Or.inl ⟨rfl, rfl⟩

theorem checkpoint_step (hl : Lawful st Present) {s s' : System ι α ν D W} (h : Inv st name Present s)
    (hs : Step st name s s') (n : ν) : ∀ c ∈ st.checkpoint s.db n, ∃ c' ∈ st.checkpoint s'.db n, c ≤ c' := by
  rcases db_step h hs with ⟨hdb, -⟩ | ⟨n', batch, -, hc, -⟩
  · intro c hc
    rw [hdb]
    exact ⟨c, hc, le_rfl⟩
  · exact hl.le_checkpoint hc n

/-- **Monotone checkpoints.** Along a run no checkpoint goes back. -/
theorem checkpoint_run (hl : Lawful st Present) {s s' : System ι α ν D W} (h : Inv st name Present s)
    (hs : Relation.ReflTransGen (Step st name) s s') (n : ν) :
    ∀ c ∈ st.checkpoint s.db n, ∃ c' ∈ st.checkpoint s'.db n, c ≤ c' := by
  have key : Inv st name Present s' ∧ ∀ c ∈ st.checkpoint s.db n, ∃ c' ∈ st.checkpoint s'.db n, c ≤ c' := by
    induction hs with
    | refl => exact ⟨h, fun c hc => ⟨c, hc, le_rfl⟩⟩
    | tail _ hs ih =>
      refine ⟨ih.1.step hl hs, fun c hc => ?_⟩
      obtain ⟨c', hc', hle⟩ := ih.2 c hc
      obtain ⟨c'', hc'', hle'⟩ := checkpoint_step hl ih.1 hs n c' hc'
      exact ⟨c'', hc'', hle.trans hle'⟩
  exact key.2

/-- What every commit of stream entries preserves holds in every state, with
the record of the commits. -/
theorem db_inv {I : List (ν × List (ι × α)) → D → Prop} (hl : Lawful st Present) {db : D}
    (h0 : ∀ n, st.checkpoint db n = none) (hI : I [] db)
    (hstep : ∀ {entries : List (ι × α)} {l n batch db db'}, entries.Pairwise (fun x y => x.1 < y.1) →
      (∀ d ∈ (n, batch) :: l, ∀ x ∈ d.2, x ∈ entries) → st.commit n batch db db' → I l db → I ((n, batch) :: l) db')
    {s : System ι α ν D W} (h : Reachable st name db s) : I s.committed s.db := by
  induction h with
  | refl => exact hI
  | @tail s₁ s₂ hr hs ih =>
    have hi := inv_of_reachable hl h0 hr
    rcases db_step hi hs with ⟨hdb, hcom⟩ | ⟨n, batch, hd, hc, hcom⟩
    · rw [hdb, hcom]
      exact ih
    · rw [hcom]
      refine hstep hi.sorted ?_ hc ih
      intro d hd' x hx
      rcases List.mem_cons.mp hd' with rfl | hd'
      · exact (hi.delivered _ hd).1 x hx
      · exact (hi.delivered _ (hi.committed d hd')).1 x hx

end system

end Consumer
