import Mathlib

/-!
# Keyset pagination

Pages behind an exclusive cursor, with one row more than asked for as the
probe for a next page, and a client that follows the cursors. The table may
change between the pages: nothing is read twice, and what stays in the table
is not missed.
-/

namespace Keyset

universe u v

/-- A page, the cursor behind it, and whether another page is there. -/
structure Page (κ α : Type*) where
  items : List α
  nextCursor : Option κ
  hasMore : Bool

/-- The page of a limit, of the `limit + 1` rows that were fetched for it. -/
def probe {κ α : Type*} (cursor : α → κ) (limit : Nat) (fetched : List α) : Page κ α :=
  let visible := fetched.take limit
  ⟨visible, visible.getLast?.map cursor, limit < fetched.length⟩

/-- The items of the calls in turn, as long as there is more, and whether the
last page was reached. -/
def follow {ε : Type v} {κ α : Type u} : List (Option κ → Except ε (Page κ α)) → Option κ → Except ε (List α × Bool)
  | [], _ => .ok ([], false)
  | call :: calls, after => do
    let page ← call after
    if page.hasMore then do
      let (items, ended) ← follow calls page.nextCursor
      .ok (page.items ++ items, ended)
    else .ok (page.items, true)

section
variable {ι α : Type*} [LinearOrder ι] (key : α → ι)

/-- The rows behind an exclusive cursor. -/
def behind (rows : List α) (after : Option ι) : List α := rows.filter fun a => after.all (· < key a)

def page (rows : List α) (limit : Nat) (after : Option ι) : Page ι α :=
  probe key limit ((behind key rows after).take (limit + 1))

/-- The same client on tables of rows: one table and limit for each page. -/
def read : List (List α × Nat) → Option ι → List α × Bool
  | [], _ => ([], false)
  | (rows, limit) :: requests, after =>
    let p := page key rows limit after
    if p.hasMore then
      let rest := read requests p.nextCursor
      (p.items ++ rest.1, rest.2)
    else (p.items, true)

/-! ## One page -/

variable {key} {rows : List α} {limit : Nat} {after : Option ι}

theorem mem_behind {a : α} : a ∈ behind key rows after ↔ a ∈ rows ∧ ∀ c ∈ after, c < key a := by
  simp [behind, Option.all_eq_true]

/-- Behind a cursor are the rows from the first one on that passes it. -/
theorem behind_eq_drop (c : ι) : ∀ {rows : List α}, (rows.Pairwise fun a b => key a < key b) →
    behind key rows (some c) = rows.drop (rows.findIdx fun a => decide (c < key a))
  | [], _ => rfl
  | a :: rows, hs => by
    obtain ⟨ha, hs⟩ := List.pairwise_cons.mp hs
    rw [List.findIdx_cons]
    by_cases hc : c < key a
    · have hall : behind key (a :: rows) (some c) = a :: rows := by
        refine List.filter_eq_self.mpr fun b hb => ?_
        rcases List.mem_cons.mp hb with rfl | hb
        · exact decide_eq_true hc
        · exact decide_eq_true (hc.trans (ha b hb))
      rw [hall, decide_eq_true hc]
      rfl
    · have hrest : behind key (a :: rows) (some c) = behind key rows (some c) :=
        List.filter_cons_of_neg fun h => hc (of_decide_eq_true h)
      rw [hrest, behind_eq_drop c hs, decide_eq_false hc]
      rfl

/-- The rows behind the cursor are the page and what comes behind it. -/
theorem page_split (key : α → ι) (rows : List α) (limit : Nat) (after : Option ι) :
    behind key rows after = (page key rows limit after).items ++ (behind key rows after).drop limit := by
  simp only [page, probe, List.take_take, Nat.min_eq_left (Nat.le_succ limit), List.take_append_drop]

theorem page_hasMore : (page key rows limit after).hasMore = true ↔ limit < (behind key rows after).length := by
  simp only [page, probe, decide_eq_true_eq, List.length_take]
  omega

theorem page_nextCursor (key : α → ι) (rows : List α) (limit : Nat) (after : Option ι) :
    (page key rows limit after).nextCursor = (page key rows limit after).items.getLast?.map key := rfl

/-- What is behind the cursor and not in a page comes behind the whole page,
and the page has more. -/
theorem page_cases (hs : rows.Pairwise fun a b => key a < key b) {a : α} (ha : a ∈ behind key rows after) :
    a ∈ (page key rows limit after).items ∨
      (page key rows limit after).hasMore = true ∧ ∀ c ∈ (page key rows limit after).nextCursor, c < key a := by
  have hsplit := page_split key rows limit after
  rw [hsplit, List.mem_append] at ha
  rcases ha with ha | ha
  · exact Or.inl ha
  · right
    constructor
    · rw [page_hasMore]
      by_contra hle
      rw [List.drop_eq_nil_of_le (not_lt.mp hle)] at ha
      cases ha
    · intro c hc
      rw [page_nextCursor] at hc
      obtain ⟨b, hb, rfl⟩ := Option.map_eq_some_iff.mp hc
      have hp : (behind key rows after).Pairwise fun a b => key a < key b := hs.filter _
      rw [hsplit, List.pairwise_append] at hp
      exact hp.2.2 b (List.mem_of_getLast? hb) a ha

theorem mem_page {a : α} (ha : a ∈ (page key rows limit after).items) : a ∈ rows ∧ ∀ c ∈ after, c < key a := by
  rw [← mem_behind, page_split key rows limit after]
  exact List.mem_append_left _ ha

theorem page_pairwise (hs : rows.Pairwise fun a b => key a < key b) :
    (page key rows limit after).items.Pairwise fun a b => key a < key b := by
  have hp : (behind key rows after).Pairwise fun a b => key a < key b := hs.filter _
  rw [page_split key rows limit after, List.pairwise_append] at hp
  exact hp.1

/-- A page before another one has a last item. -/
theorem exists_last (hl : 1 ≤ limit) (hm : (page key rows limit after).hasMore = true) :
    ∃ a, (page key rows limit after).items.getLast? = some a ∧ (page key rows limit after).nextCursor = some (key a) := by
  rw [page_hasMore] at hm
  have hne : (page key rows limit after).items ≠ [] := by
    intro hnil
    have hlen := congrArg List.length hnil
    simp only [page, probe, List.take_take, Nat.min_eq_left (Nat.le_succ limit), List.length_take, List.length_nil] at hlen
    omega
  refine ⟨_, List.getLast?_eq_some_getLast hne, ?_⟩
  rw [page_nextCursor, List.getLast?_eq_some_getLast hne]
  rfl

theorem le_last (hs : rows.Pairwise fun a b => key a < key b) {a b : α}
    (hb : (page key rows limit after).items.getLast? = some b) (ha : a ∈ (page key rows limit after).items) :
    key a ≤ key b := by
  obtain ⟨front, hfront⟩ := List.getLast?_eq_some_iff.mp hb
  have hp := @page_pairwise _ _ _ _ _ limit after hs
  rw [hfront, List.pairwise_append] at hp
  rw [hfront] at ha
  rcases List.mem_append.mp ha with ha | ha
  · exact le_of_lt (hp.2.2 a ha b (List.mem_singleton_self b))
  · rw [List.mem_singleton.mp ha]

/-! ## Pages in a row -/

theorem read_cons (requests : List (List α × Nat)) (hm : (page key rows limit after).hasMore = true) :
    read key ((rows, limit) :: requests) after =
      ((page key rows limit after).items ++ (read key requests (page key rows limit after).nextCursor).1,
        (read key requests (page key rows limit after).nextCursor).2) := by
  rw [read]
  exact if_pos hm

theorem read_last (requests : List (List α × Nat)) (hm : ¬ (page key rows limit after).hasMore = true) :
    read key ((rows, limit) :: requests) after = ((page key rows limit after).items, true) := by
  rw [read]
  exact if_neg hm

/-- Tables in the order of the keys, and limits that are positive. -/
def Ordered (key : α → ι) (requests : List (List α × Nat)) : Prop :=
  ∀ r ∈ requests, (r.1.Pairwise fun a b => key a < key b) ∧ 1 ≤ r.2

theorem read_sorted : ∀ {requests : List (List α × Nat)}, Ordered key requests → ∀ after : Option ι,
    ((read key requests after).1.Pairwise fun a b => key a < key b) ∧
      ∀ a ∈ (read key requests after).1, (∃ r ∈ requests, a ∈ r.1) ∧ ∀ c ∈ after, c < key a
  | [], _, _ => ⟨List.Pairwise.nil, fun _ h => absurd h List.not_mem_nil⟩
  | (rows, limit) :: requests, ho, after => by
    obtain ⟨⟨hs, hl⟩, ho⟩ := List.forall_mem_cons.mp ho
    by_cases hm : (page key rows limit after).hasMore = true
    · rw [read_cons requests hm]
      obtain ⟨b, hb, hcursor⟩ := exists_last hl hm
      obtain ⟨hp, hmem⟩ := read_sorted ho (page key rows limit after).nextCursor
      have hlater : ∀ a ∈ (page key rows limit after).items,
          ∀ a' ∈ (read key requests (page key rows limit after).nextCursor).1, key a < key a' := fun a ha a' ha' =>
        (le_last hs hb ha).trans_lt ((hmem a' ha').2 _ hcursor)
      refine ⟨List.pairwise_append.mpr ⟨page_pairwise hs, hp, hlater⟩, fun a ha => ?_⟩
      rcases List.mem_append.mp ha with ha | ha
      · exact ⟨⟨_, List.mem_cons_self, (mem_page ha).1⟩, (mem_page ha).2⟩
      · obtain ⟨⟨r, hr, har⟩, -⟩ := hmem a ha
        refine ⟨⟨r, List.mem_cons_of_mem _ hr, har⟩, fun c hc => ?_⟩
        exact ((mem_page (List.mem_of_getLast? hb)).2 c hc).trans (hlater b (List.mem_of_getLast? hb) a ha)
    · rw [read_last requests hm]
      exact ⟨page_pairwise hs, fun a ha => ⟨⟨_, List.mem_cons_self, (mem_page ha).1⟩, (mem_page ha).2⟩⟩

/-- What is in every table is read, once the last page is reached or there
were as many pages as there are rows up to it. -/
theorem mem_read {a : α} : ∀ {requests : List (List α × Nat)}, Ordered key requests → ∀ {after : Option ι} (upTo : List α),
    (∀ r ∈ requests, ∀ b ∈ r.1, key b ≤ key a → b ∈ upTo) → (∀ r ∈ requests, a ∈ r.1) → (∀ c ∈ after, c < key a) →
    (read key requests after).2 = true ∨ (behind key upTo after).length ≤ requests.length ∧ requests ≠ [] →
    a ∈ (read key requests after).1
  | [], _, _, _, _, _, _, hend => by
    rcases hend with hend | ⟨-, hne⟩
    · cases hend
    · exact absurd rfl hne
  | (rows, limit) :: requests, ho, after, upTo, hup, hall, hc, hend => by
    obtain ⟨⟨hs, hl⟩, ho'⟩ := List.forall_mem_cons.mp ho
    have ha : a ∈ behind key rows after := mem_behind.mpr ⟨hall _ List.mem_cons_self, hc⟩
    rcases @page_cases _ _ _ _ _ limit _ hs _ ha with hpage | ⟨hm, hlater⟩
    · by_cases hm : (page key rows limit after).hasMore = true
      · rw [read_cons requests hm]
        exact List.mem_append_left _ hpage
      · rwa [read_last requests hm]
    · rw [read_cons requests hm] at hend ⊢
      obtain ⟨b, hb, hcursor⟩ := exists_last hl hm
      obtain ⟨hbrows, hbafter⟩ := mem_page (List.mem_of_getLast? hb)
      have hba : key b < key a := hlater _ hcursor
      -- the last item of the page is one row less to go through
      have hfewer : (behind key upTo (some (key b))).length < (behind key upTo after).length := by
        have hsub : (behind key upTo (some (key b))).Sublist (behind key upTo after) := by
          refine List.monotone_filter_right upTo fun d hd => ?_
          simp only [Option.all_some, decide_eq_true_eq] at hd
          exact Option.all_eq_true _ _ |>.mpr fun c hc => decide_eq_true ((hbafter c hc).trans hd)
        refine lt_of_le_of_ne hsub.length_le fun heq => ?_
        have hmem : b ∈ behind key upTo after :=
          mem_behind.mpr ⟨hup _ List.mem_cons_self b hbrows hba.le, hbafter⟩
        rw [← hsub.eq_of_length heq] at hmem
        exact lt_irrefl _ ((mem_behind.mp hmem).2 _ rfl)
      refine List.mem_append_right _ (mem_read ho' upTo (fun r hr => hup r (List.mem_cons_of_mem _ hr))
        (fun r hr => hall r (List.mem_cons_of_mem _ hr)) hlater ?_)
      rw [hcursor]
      rcases hend with hend | ⟨hlen, -⟩
      · rw [hcursor] at hend
        exact Or.inl hend
      · right
        rw [List.length_cons] at hlen
        refine ⟨by omega, ?_⟩
        rintro rfl
        have hmem : a ∈ behind key upTo (some (key b)) :=
          mem_behind.mpr ⟨hup _ List.mem_cons_self a (hall _ List.mem_cons_self) le_rfl, hcursor ▸ hlater⟩
        rw [List.length_nil] at hlen
        have := List.length_pos_of_mem hmem
        omega

/-- Every page before the last one reads something. -/
theorem length_le_read : ∀ {requests : List (List α × Nat)}, Ordered key requests → ∀ {after : Option ι},
    (read key requests after).2 = false → requests.length ≤ (read key requests after).1.length
  | [], _, _, _ => Nat.zero_le _
  | (rows, limit) :: requests, ho, after, hend => by
    obtain ⟨⟨hs, hl⟩, ho'⟩ := List.forall_mem_cons.mp ho
    have hl : 1 ≤ limit := hl
    by_cases hm : (page key rows limit after).hasMore = true
    · rw [read_cons requests hm] at hend ⊢
      obtain ⟨b, hb, -⟩ := exists_last hl hm
      have hpos := List.length_pos_of_mem (List.mem_of_getLast? hb)
      have hrest := length_le_read ho' hend
      simp only [List.length_append, List.length_cons]
      omega
    · rw [read_last requests hm] at hend
      cases hend

/-- More pages than rows reach the last one. -/
theorem read_ends {requests : List (List α × Nat)} (ho : Ordered key requests) (all : List α)
    (hall : ∀ r ∈ requests, ∀ a ∈ r.1, a ∈ all) (hlen : all.length < requests.length) : (read key requests none).2 = true := by
  by_contra hend
  have hle := length_le_read ho (Bool.eq_false_iff.mpr hend)
  obtain ⟨hsorted, hmem⟩ := read_sorted ho none
  have hsub : ∀ a ∈ (read key requests none).1, a ∈ all := by
    intro a ha
    obtain ⟨⟨r, hr, har⟩, -⟩ := hmem a ha
    exact hall r hr a har
  have := (List.subperm_of_subset (hsorted.imp fun hlt heq => ne_of_lt hlt (congrArg key heq)) hsub).length_le
  omega

/-- One table: its rows are read in order, each once, in at most one page for
each row. -/
theorem read_eq {rows : List α} (hs : rows.Pairwise fun a b => key a < key b) {requests : List (List α × Nat)}
    (hr : ∀ r ∈ requests, r.1 = rows ∧ 1 ≤ r.2) (hlen : rows.length < requests.length) :
    read key requests none = (rows, true) := by
  have ho : Ordered key requests := fun r h => ⟨(hr r h).1 ▸ hs, (hr r h).2⟩
  have hended := read_ends ho rows (fun r h a ha => (hr r h).1 ▸ ha) hlen
  obtain ⟨hsorted, hmem⟩ := read_sorted ho none
  have hiff : ∀ a, a ∈ (read key requests none).1 ↔ a ∈ rows := by
    refine fun a => ⟨fun ha => ?_, fun ha => ?_⟩
    · obtain ⟨⟨r, h, har⟩, -⟩ := hmem a ha
      exact (hr r h).1 ▸ har
    · exact mem_read ho rows (fun r h b hb _ => (hr r h).1 ▸ hb) (fun r h => (hr r h).1.symm ▸ ha) (fun c hc => by cases hc)
        (Or.inl hended)
  have hnodup : ∀ {l : List α}, (l.Pairwise fun a b => key a < key b) → l.Nodup := fun h =>
    List.Pairwise.imp (fun hlt heq => ne_of_lt hlt (congrArg key heq)) h
  have hperm := (List.perm_ext_iff_of_nodup (hnodup hsorted) (hnodup hs)).mpr hiff
  exact Prod.ext (hperm.eq_of_pairwise (fun a b _ _ h h' => absurd h (lt_asymm h')) hsorted hs) hended

/-- Calls that return the pages of tables, with the items shown and the keys
written in some way, return together what is read of the tables. -/
theorem follow_eq {ε : Type v} {κ β : Type u} (shown : α → Except ε β) (text : ι → κ) :
    ∀ {calls : List (Option κ → Except ε (Page κ β))} {requests : List (List α × Nat)},
    List.Forall₂ (fun call r => ∀ after : Option ι, call (after.map text) =
      ((page key r.1 r.2 after).items.mapM shown).map fun items =>
        ⟨items, (page key r.1 r.2 after).nextCursor.map text, (page key r.1 r.2 after).hasMore⟩) calls requests →
    ∀ after : Option ι, follow calls (after.map text) =
      ((read key requests after).1.mapM shown).map fun items => (items, (read key requests after).2)
  | [], _, .nil, _ => rfl
  | call :: calls, (rows, limit) :: requests, .cons hcall hcalls, after => by
    rw [follow, hcall after]
    by_cases hm : (page key rows limit after).hasMore = true
    · rw [read_cons requests hm, List.mapM_append]
      have hrest := follow_eq shown text hcalls (page key rows limit after).nextCursor
      cases hitems : (page key rows limit after).items.mapM shown with
      | error e => rfl
      | ok items =>
        simp only [hm, bind, Except.bind, Except.map, if_pos, hrest]
        cases (read key requests (page key rows limit after).nextCursor).1.mapM shown <;> rfl
    · rw [read_last requests hm]
      cases (page key rows limit after).items.mapM shown with
      | error e => rfl
      | ok items => simp only [hm, bind, Except.bind, Except.map, if_neg, Bool.false_eq_true, not_false_eq_true]

end

end Keyset
